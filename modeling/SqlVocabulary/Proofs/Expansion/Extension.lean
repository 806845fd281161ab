import Mathlib.Data.List.Flatten
import SqlVocabulary.Proofs.Expansion.Reachability

/-!
# Defining a rule that was missing

A grammar gets a definition for a rule that it refers to and does not define. The walk goes into the
new body wherever it had reported the rule as undefined, at any depth and any number of times; and
there it may meet all rules again. Yet everything else is walked as before: the path that leads to a
reference is the same, unless it leads through the new body (`kept_freeResolve`).

So, as long as the budget lasts, an expansion loses nothing by it but the reports of the missing
rule (`expandRule_extends`).
-/

namespace SqlVocabulary

/-- The grammar `g'` has a definition of `m`, which `g` has not, and else the two agree. -/
structure Grammar.Extends (g g' : Grammar) (m : Nonterminal) : Prop where
  absent : g.body? m = none
  present : (g'.body? m).isSome
  agree : ∀ n, n ≠ m → g'.body? n = g.body? n

theorem Grammar.extends_define {g : Grammar} {m : Nonterminal} (h : g.body? m = none)
    (body : Text) : g.Extends (g.define m body).1 m := by
  have hdefine : (g.define m body).1 = ⟨g.rules ++ [⟨m, body⟩], g.diagnostics⟩ := by
    simp [define, h]
  have hfind : g.rules.find? (fun r => r.name == m) = none := by simpa [body?] using h
  rw [hdefine]
  refine ⟨h, ?_, fun n hn => ?_⟩
  · simp [body?, List.find?_append, hfind]
  · simp [body?, List.find?_append, Ne.symm hn]

theorem literals_filter (m : Nonterminal) (outcomes : List Outcome) :
    (outcomes.filter (· ≠ .undefined m)).filterMap Outcome.literal? =
      outcomes.filterMap Outcome.literal? := by
  rw [List.filterMap_filter]
  refine List.filterMap_congr fun o _ => ?_
  by_cases ho : o = .undefined m
  · simp [ho, Outcome.literal?]
  · simp [ho]

/-- `Kept m e e'`: nothing of `e` is lost in `e'` but the reports that `m` is undefined, and no
fewer references are resolved. -/
structure Kept (m : Nonterminal) (e e' : Expansion) : Prop where
  outcomes : (e.outcomes.filter (· ≠ .undefined m)).Sublist e'.outcomes
  resolved : e.resolved ≤ e'.resolved

namespace Kept

variable {m : Nonterminal} {e e' f f' : Expansion}

theorem refl (m : Nonterminal) (e : Expansion) : Kept m e e := ⟨List.filter_sublist, Nat.le_refl _⟩

theorem append (h : Kept m e e') (h' : Kept m f f') : Kept m (e ++ f) (e' ++ f') := by
  constructor
  · rw [Expansion.outcomes_append, List.filter_append]
    exact h.outcomes.append h'.outcomes
  · rw [Expansion.resolved_append, Expansion.resolved_append]
    exact Nat.add_le_add h.resolved h'.resolved

/-- Whatever comes in the place of a report, nothing else is lost. -/
theorem report (m : Nonterminal) (e : Expansion) : Kept m (.ofOutcome (.undefined m)) e := by
  constructor
  · rw [Expansion.outcomes_ofOutcome, List.filter_cons_of_neg (by simp)]
    exact List.nil_sublist _
  · rw [Expansion.resolved_ofOutcome]
    exact Nat.zero_le _

theorem freeItems {follow follow' : Nonterminal → Expansion}
    (h : ∀ n, Kept m (follow n) (follow' n)) (items : List Item) :
    Kept m (freeItems follow items) (freeItems follow' items) := by
  induction items with
  | nil => exact .refl m _
  | cons i items ih =>
    refine append ?_ ih
    cases i with
    | nothing => exact .refl m _
    | yields o => exact .refl m _
    | follow n => exact h n

end Kept

section Extends

variable {g g' : Grammar} {m : Nonterminal} (h : g.Extends g' m) (p : Policy)

include h

theorem Grammar.Extends.target_eq {n : Nonterminal} (hn : n ≠ m) (path : List Nonterminal) :
    g'.target path n = g.target path n := by
  unfold Grammar.target
  rw [h.agree n hn]

theorem kept_freeResolve_absent (room : Nat) (path : List Nonterminal) :
    Kept m (freeResolve g p room path m) (freeResolve g' p room path m) := by
  cases hm : m.isPlaceholder with
  | true =>
    have hsuppressed : ∀ g : Grammar, freeResolve g p room path m = .ofOutcome (.suppressed m) :=
      fun g => freeResolve_of_target_error (target_eq_error.2 (Or.inl ⟨hm, rfl⟩))
    rw [hsuppressed, hsuppressed]
    exact .refl m _
  | false =>
    have hundefined : freeResolve g p room path m = .ofOutcome (.undefined m) :=
      freeResolve_of_target_error (target_eq_error.2 (Or.inr (Or.inl ⟨hm, h.absent, rfl⟩)))
    rw [hundefined]
    exact .report m _

/-- **References.** On the same path, a reference leads to the same and maybe more, the reports of
the missing rule apart. -/
theorem kept_freeResolve (room : Nat) (path : List Nonterminal) (n : Nonterminal) :
    Kept m (freeResolve g p room path n) (freeResolve g' p room path n) := by
  by_cases hn : n = m
  · subst hn
    exact kept_freeResolve_absent h p room path
  · have htarget := h.target_eq hn path
    rcases ht : g.target path n with o | body
    · rw [freeResolve_of_target_error ht, freeResolve_of_target_error (htarget.trans ht)]
      exact .refl m _
    · cases room with
      | zero =>
        rw [freeResolve_of_no_room ht, freeResolve_of_no_room (htarget.trans ht)]
        exact .refl m _
      | succ room =>
        rw [freeResolve_of_target ht, freeResolve_of_target (htarget.trans ht)]
        exact (Kept.refl m _).append (.freeItems (kept_freeResolve room (n :: path)) _)
termination_by room

theorem kept_freeExpand (body : Text) (path : List Nonterminal) :
    Kept m (freeExpand body g p path) (freeExpand body g' p path) :=
  .freeItems (kept_freeResolve h p _ _) _

/-- **Bodies.** If the expansion in the greater grammar is not stopped, neither is the one in the
smaller, and all of its outcomes but the reports are kept in their order. -/
theorem expand_extends (body : Text) (path : List Nonterminal)
    (hstop : ∀ n, .stopped n ∉ (expand body g' p path).outcomes) :
    ((expand body g p path).outcomes.filter (· ≠ .undefined m)).Sublist
      (expand body g' p path).outcomes := by
  have hkept := kept_freeExpand h p body path
  -- fewer references are resolved where fewer rules are defined
  have hle := Nat.le_trans hkept.resolved (resolved_freeExpand_le hstop)
  rw [expand_eq_freeExpand hstop, expand_eq_freeExpand_of_le hle]
  exact hkept.outcomes

end Extends

/-- **Monotony.** A grammar gets a definition for a rule that was missing. Unless a rule then meets
the budget, its expansion keeps all outcomes, in their order, but the reports of the missing rule;
so it keeps all literals. -/
theorem expandRule_extends {g g' : Grammar} {m : Nonterminal} (h : g.Extends g' m)
    (selector : Text) (p : Policy) (hs : g.defines selector = true) :
    ∃ e e', (g.expandRule selector p).result = .ok e ∧
      (g'.expandRule selector p).result = .ok e' ∧
      ((∀ n, .stopped n ∉ e'.outcomes) →
        (e.outcomes.filter (· ≠ .undefined m)).Sublist e'.outcomes ∧
          e.literals.Sublist e'.literals) := by
  obtain ⟨body, hs⟩ := Grammar.defines_iff.1 hs
  have hne : Nonterminal.ofText selector ≠ m := by
    intro heq
    rw [heq, h.absent] at hs
    cases hs
  have hs' : g'.body? (.ofText selector) = some body := (h.agree _ hne).trans hs
  refine ⟨_, _, expandRule_result p hs, expandRule_result p hs', fun hstop => ?_⟩
  have hsub := expand_extends h p body [.ofText selector] hstop
  refine ⟨hsub, ?_⟩
  have hliterals := hsub.filterMap Outcome.literal?
  rwa [literals_filter] at hliterals

/-- Two rules that refer to a third one, which is missing. -/
def gap : Grammar :=
  ⟨[⟨.ofText ['s'], "<t> | <u> | X".toList⟩, ⟨.ofText ['t'], "<u> | Y".toList⟩], []⟩

/-- The third rule refers back to the first, and has a word of its own. -/
def filledGap : Grammar := (gap.define (.ofText ['u']) "<s> | Z".toList).1

/-- The word comes in at both references, between the words that were there before. -/
theorem expandRule_extends_gap :
    (gap.body? (.ofText ['u']) = none ∧ gap.defines ['s'] = true) ∧
      ∃ e e', (gap.expandRule ['s'] .statements).result = .ok e ∧
        (filledGap.expandRule ['s'] .statements).result = .ok e' ∧
        e.literals = [['Y'], ['X']] ∧ e'.literals = [['Z'], ['Y'], ['Z'], ['X']] ∧
        e.literals.Sublist e'.literals := by
  have habsent : gap.body? (.ofText ['u']) = none := by decide
  refine ⟨⟨habsent, by decide⟩, ?_⟩
  obtain ⟨e, e', he, he', hsub⟩ :=
    expandRule_extends (Grammar.extends_define habsent "<s> | Z".toList) ['s'] .statements
      (by decide)
  have hs : gap.body? (.ofText ['s']) = some "<t> | <u> | X".toList := rfl
  have hs' : filledGap.body? (.ofText ['s']) = some "<t> | <u> | X".toList := rfl
  obtain rfl := Except.ok.inj ((expandRule_result .statements hs).symm.trans he)
  obtain rfl := Except.ok.inj ((expandRule_result .statements hs').symm.trans he')
  have houtcomes : (expand "<t> | <u> | X".toList filledGap .statements [.ofText ['s']]).outcomes =
      [.cycle (.ofText ['s']), .literal ['Z'], .literal ['Y'], .cycle (.ofText ['s']),
        .literal ['Z'], .literal ['X']] := by
    decide +kernel
  refine ⟨_, _, he, he', by decide +kernel, by decide +kernel, (hsub fun n hn => ?_).2⟩
  change Outcome.stopped n ∈
    (expand "<t> | <u> | X".toList filledGap .statements [.ofText ['s']]).outcomes at hn
  rw [houtcomes] at hn
  simp at hn

end SqlVocabulary
