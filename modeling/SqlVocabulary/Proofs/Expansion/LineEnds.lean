import SqlVocabulary.Proofs.Expansion.Selectors
import SqlVocabulary.Proofs.Expansion.Spacing
import SqlVocabulary.Proofs.Grammar.LineEnds

/-!
# Line ends and expansions

A document can be written with a carriage return before each line feed. Its bodies then ask for the
same rules in the same order, and for texts with the new line ends (`read_withReturns`). So all
expansions go in lockstep, and a text that is collapsed does not even have other line ends
(`ofText_withReturns`).
-/

namespace SqlVocabulary

/-! ## What is read -/

theorem apply_withReturns (layout : Layout) (t : Text) :
    layout.apply t.withReturns = (layout.apply t).withReturns := by
  cases layout with
  | kept => rfl
  | collapsed => simp [Layout.apply]

theorem readAlternative_withReturns (p : Policy) (a : Text) :
    p.readAlternative a.withReturns = (p.readAlternative a).reword Text.withReturns := by
  unfold Policy.readAlternative
  rw [Text.isEmpty_withReturns, leadingReference?_withReturns, hasReference_withReturns]
  split_ifs
  · rfl
  · split
    · rfl
    · rw [apply_withReturns]
      rfl
  · rfl
  · rfl

/-- **Reading.** With other line ends, a body asks for the same, but for the line ends in texts. -/
theorem read_withReturns (p : Policy) (body : Text) :
    p.read body.withReturns = (p.read body).map (Item.reword Text.withReturns) := by
  unfold Policy.read
  rw [leadingReference?_withReturns]
  split_ifs
  · simp [Item.reword, Outcome.reword]
  · rw [alternatives_withReturns, List.map_map, List.map_map]
    exact List.map_congr_left fun a _ => readAlternative_withReturns p a

theorem abreast_withReturns (p : Policy) (body : Text) :
    Abreast p p Text.withReturns id (fun _ => True) body body.withReturns := by
  refine ⟨?_, fun _ _ => trivial⟩
  rw [Item.reword_id, List.map_id, read_withReturns]

/-! ## Expansions -/

theorem reword_withReturns_of_collapse {t : Text} (h : t.collapse = t) :
    Outcome.reword Text.withReturns (.literal t) = .literal t := by
  rw [← h]
  exact congrArg Outcome.literal (Text.withReturns_collapse t)

theorem outcomes_of_collapsing {p : Policy} (hp : p.followLeading = true)
    (hl : p.layout = .collapsed) (g : Grammar) {selectors : List Text} {e e' : Expansion}
    (he : (g.expandSelectors p selectors).result = .ok e)
    (he' : ((g.mapBodies Text.withReturns).expandSelectors p selectors).result = .ok e') :
    e'.outcomes = e.outcomes := by
  have habreast : ∀ b : Text, Abreast p p id id (fun _ => True) b b.withReturns :=
    fun b => abreast_of_collapsed hp hl (Text.collapse_withReturns b).symm
  have hlockstep := expandSelectors_lockstep (rel_body?_mapBodies habreast g) selectors
  rw [he, he'] at hlockstep
  rcases hlockstep with ⟨n, ⟨⟩, -⟩ | ⟨_, _, ⟨⟩, ⟨⟩, houtcomes⟩
  simpa using houtcomes.symm

/-- **Line ends.** With a carriage return before each line feed, a document has the same grammar,
but for the line ends in the bodies: the same names in the same order and the same diagnostics.
Under every policy, selectors fail for the same one of them in both grammars, or they expand to the
same outcomes, but for the line ends in texts. A literal that is collapsed is the same, and so are
all outcomes under a policy that follows leading references and collapses literals. -/
theorem ofText_withReturns (document : Text) :
    Grammar.ofText document.withReturns = (Grammar.ofText document).mapBodies Text.withReturns ∧
    ∀ (p : Policy) (selectors : List Text),
      (∃ n,
        ((Grammar.ofText document).expandSelectors p selectors).result =
          .error (.unknownSelector n) ∧
        ((Grammar.ofText document.withReturns).expandSelectors p selectors).result =
          .error (.unknownSelector n)) ∨
      ∃ e e' : Expansion,
        ((Grammar.ofText document).expandSelectors p selectors).result = .ok e ∧
        ((Grammar.ofText document.withReturns).expandSelectors p selectors).result = .ok e' ∧
        e'.outcomes = e.outcomes.map (Outcome.reword Text.withReturns) ∧
        (∀ (i : Nat) (t : Text), e.outcomes[i]? = some (.literal t) → t.collapse = t →
          e'.outcomes[i]? = some (.literal t)) ∧
        (p.followLeading = true → p.layout = .collapsed → e'.outcomes = e.outcomes) := by
  refine ⟨ofText_eq_mapBodies document, fun p selectors => ?_⟩
  rw [ofText_eq_mapBodies]
  have hrel := rel_body?_mapBodies (abreast_withReturns p) (Grammar.ofText document)
  rcases expandSelectors_lockstep hrel selectors with ⟨n, hn, hn'⟩ | ⟨e, e', he, he', houtcomes⟩
  · exact Or.inl ⟨n, hn, hn'⟩
  · rw [Outcome.reword_id, List.map_id] at houtcomes
    refine Or.inr ⟨e, e', he, he', houtcomes.symm, fun i t hi ht => ?_, fun hp hl => ?_⟩
    · rw [← houtcomes, List.getElem?_map, hi, Option.map_some, reword_withReturns_of_collapse ht]
    · exact outcomes_of_collapsing hp hl (Grammar.ofText document) he he'

/-- Two rules with bodies of two lines, one of them a literal and the other one not. -/
def twoLines : Text := "<s> ::=\n  <a> | <b> | X\n    Y\n\n<a> ::=\n  P\n  Q\n".toList

/-- The body that is a literal is collapsed. The literal in the alternative keeps its line end, and
has the new one in the other document. -/
theorem ofText_withReturns_twoLines :
    ∃ e e' : Expansion,
      ((Grammar.ofText twoLines).expandSelectors .statements [['s']]).result = .ok e ∧
      ((Grammar.ofText twoLines.withReturns).expandSelectors .statements [['s']]).result = .ok e' ∧
      e.outcomes = [.literal "P Q".toList, .undefined (.ofText ['b']),
        .literal "X\n    Y".toList] ∧
      e'.outcomes = [.literal "P Q".toList, .undefined (.ofText ['b']),
        .literal "X\r\n    Y".toList] := by
  have hresult : ((Grammar.ofText twoLines).expandSelectors .statements [['s']]).result.toOption.map
      Expansion.outcomes = some [.literal "P Q".toList, .undefined (.ofText ['b']),
        .literal "X\n    Y".toList] := by
    decide +kernel
  rcases (ofText_withReturns twoLines).2 .statements [['s']] with
    ⟨n, hn, -⟩ | ⟨e, e', he, he', houtcomes, -⟩
  · rw [hn] at hresult
    cases hresult
  · rw [he] at hresult
    have hkept := Option.some.inj hresult
    refine ⟨e, e', he, he', hkept, ?_⟩
    rw [houtcomes, hkept]
    decide

end SqlVocabulary
