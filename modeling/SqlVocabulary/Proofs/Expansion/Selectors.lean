import SqlVocabulary.Expansion.Selectors
import SqlVocabulary.Proofs.Expansion.Lockstep

/-!
# Expanding selectors

A selector expands to what the body of its rule does, and a list of selectors to what they expand to
one after the other, up to the first that names no rule (`result_expandSelectors_cons`). So two
grammars whose rules have bodies abreast expand every list of selectors in lockstep: they fail for
the same selector, or they differ in wording alone (`expandSelectors_lockstep`).
-/

namespace SqlVocabulary

theorem Run.result_bind {α β : Type} (r : Run α) (f : α → Run β) :
    (r >>= f).result = r.result.bind fun a => (f a).result := by
  obtain ⟨events, fetched, result⟩ := r
  cases result <;> rfl

section Selectors

variable {g : Grammar} {s : Text}

theorem expandRule_result {body : Text} (p : Policy) (hs : g.body? (.ofText s) = some body) :
    (g.expandRule s p).result = .ok (expand body g p [.ofText s]) := by
  unfold Grammar.expandRule Grammar.expandNonterminal
  rw [hs]
  rfl

theorem expandRule_unknown (p : Policy) (hs : g.body? (.ofText s) = none) :
    (g.expandRule s p).result = .error (.unknownSelector (.ofText s)) := by
  unfold Grammar.expandRule Grammar.expandNonterminal
  rw [hs]
  rfl

theorem result_expandSelectors_cons (g : Grammar) (p : Policy) (s : Text) (ss : List Text) :
    (g.expandSelectors p (s :: ss)).result =
      (g.expandRule s p).result.bind fun first =>
        (g.expandSelectors p ss).result.map (first ++ ·) := by
  have hrest : ∀ first : Expansion,
      (g.expandSelectors p ss >>= fun rest => pure (first ++ rest)).result =
        (g.expandSelectors p ss).result.map (first ++ ·) := by
    intro first
    rw [Run.result_bind]
    cases (g.expandSelectors p ss).result <;> rfl
  rw [Grammar.expandSelectors, Run.result_bind]
  exact congrArg _ (funext hrest)

theorem expandSelectors_of_forall {p : Policy} {F : Text → List Outcome} {selectors : List Text}
    (h : ∀ s ∈ selectors, ∃ e, (g.expandRule s p).result = .ok e ∧ e.outcomes = F s) :
    ∃ e, (g.expandSelectors p selectors).result = .ok e ∧ e.outcomes = selectors.flatMap F := by
  induction selectors with
  | nil => exact ⟨.empty, rfl, rfl⟩
  | cons s ss ih =>
    obtain ⟨hs, hss⟩ := List.forall_mem_cons.1 h
    obtain ⟨first, hfirst, houtcomes⟩ := hs
    obtain ⟨rest, hrest, houtcomes'⟩ := ih hss
    refine ⟨first ++ rest, ?_, ?_⟩
    · rw [result_expandSelectors_cons, hfirst, hrest]
      rfl
    · rw [Expansion.outcomes_append, houtcomes, houtcomes', List.flatMap_cons]

end Selectors

/-! ## Lockstep -/

section Lockstep

variable {g g' : Grammar} {p p' : Policy} {φ ψ : Text → Text}
  (hg : ∀ n, Option.Rel (Abreast p p' φ ψ fun _ => True) (g.body? n) (g'.body? n))

include hg

theorem expandRule_lockstep (s : Text) :
    (∃ n, (g.expandRule s p).result = .error (.unknownSelector n) ∧
        (g'.expandRule s p').result = .error (.unknownSelector n)) ∨
      ∃ e e', (g.expandRule s p).result = .ok e ∧ (g'.expandRule s p').result = .ok e' ∧
        e.outcomes.map (Outcome.reword φ) = e'.outcomes.map (Outcome.reword ψ) := by
  have hrule := hg (.ofText s)
  rcases hb : g.body? (.ofText s) with _ | body <;>
    rcases hb' : g'.body? (.ofText s) with _ | body' <;> rw [hb, hb'] at hrule
  · exact Or.inl ⟨_, expandRule_unknown p hb, expandRule_unknown p' hb'⟩
  · cases hrule
  · cases hrule
  · obtain ⟨hrule⟩ := hrule
    exact Or.inr ⟨_, _, expandRule_result p hb, expandRule_result p' hb',
      outcomes_lockstep (fun n _ => hg n) hrule _⟩

/-- **Selectors in lockstep.** They fail for the same selector in both grammars, or their outcomes
differ in wording alone. -/
theorem expandSelectors_lockstep (selectors : List Text) :
    (∃ n, (g.expandSelectors p selectors).result = .error (.unknownSelector n) ∧
        (g'.expandSelectors p' selectors).result = .error (.unknownSelector n)) ∨
      ∃ e e', (g.expandSelectors p selectors).result = .ok e ∧
        (g'.expandSelectors p' selectors).result = .ok e' ∧
        e.outcomes.map (Outcome.reword φ) = e'.outcomes.map (Outcome.reword ψ) := by
  induction selectors with
  | nil => exact Or.inr ⟨_, _, rfl, rfl, rfl⟩
  | cons s ss ih =>
    rw [result_expandSelectors_cons, result_expandSelectors_cons]
    rcases expandRule_lockstep hg s with ⟨n, hn, hn'⟩ | ⟨first, first', he, he', hfirst⟩
    · rw [hn, hn']
      exact Or.inl ⟨n, rfl, rfl⟩
    · rw [he, he']
      rcases ih with ⟨n, hn, hn'⟩ | ⟨rest, rest', he, he', hrest⟩
      · rw [hn, hn']
        exact Or.inl ⟨n, rfl, rfl⟩
      · rw [he, he']
        refine Or.inr ⟨first ++ rest, first' ++ rest', rfl, rfl, ?_⟩
        rw [Expansion.outcomes_append, Expansion.outcomes_append, List.map_append, List.map_append,
          hfirst, hrest]

end Lockstep

end SqlVocabulary
