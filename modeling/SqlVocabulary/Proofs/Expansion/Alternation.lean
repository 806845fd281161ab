import SqlVocabulary.Proofs.Expansion.Budget
import SqlVocabulary.Proofs.Expansion.Selectors
import SqlVocabulary.Proofs.Grammar.Rendering
import SqlVocabulary.Proofs.Grammar.Spacing

/-!
# Selectors as alternatives

Some rules can be expanded in two ways: as selectors, one after the other, each with a path and a
budget of its own; or as the alternatives of one body, with one budget for all of them.

1. The alternatives of such a body are the references to the rules (`alternatives_alternation`), so
   each of them is followed, and nothing else is in the body (`read_alternation`).
2. A reference in it is followed from the empty path. What it leads to is what the rule expands to
   as a selector, as long as the budget suffices (`expandRule_of_resolved_le`).
3. A budget that suffices for all the references suffices for each (`resolved_le_concat`). So the
   two ways have the same outcomes unless the body's expansion is stopped (`expand_alternation`).
-/

namespace SqlVocabulary

/-! ## The body -/

/-- The reference to the rule with a given spelling. -/
def reference (name : Text) : Text := '<' :: (name ++ ['>'])

/-- The body whose alternatives are references to some rules. -/
def alternation (names : List Text) : Text := Text.join " | ".toList (names.map reference)

theorem trim_reference (name : Text) : (reference name).trim = reference name := by
  have hstart : (reference name).dropWhile Text.isSpace = reference name :=
    List.dropWhile_cons_of_neg (by decide)
  have hend := Text.dropEndWhile_concat_append (p := Text.isSpace) (c := '>') (e := [])
    ('<' :: name) (by decide) (by simp)
  rw [List.append_nil] at hend
  unfold Text.trim
  rw [hstart]
  exact hend

theorem alternatives_reference {name : Text} (h : Unmarked name) :
    alternatives (reference name) = [reference name] := by
  have hbar : '|' ∉ reference name := by
    intro hmem
    rcases List.mem_cons.1 hmem with heq | hmem
    · cases heq
    · rcases List.mem_append.1 hmem with hmem | hmem
      · exact h.2.2 hmem
      · cases List.mem_singleton.1 hmem
  rw [alternatives_eq, Text.pieces_of_not_p (Text.beq_eq_false_of_not_mem hbar), List.map_singleton,
    trim_reference]

theorem alternation_cons (n m : Text) (names : List Text) :
    alternation (n :: m :: names) =
      (reference n ++ [' ']) ++ '|' :: ' ' :: alternation (m :: names) := by
  have hbar : " | ".toList = [' ', '|', ' '] := rfl
  show reference n ++ " | ".toList ++ alternation (m :: names) = _
  rw [hbar]
  simp

/-- **Alternatives.** The body has one alternative for each of the rules. -/
theorem alternatives_alternation {names : List Text} (hne : names ≠ [])
    (h : ∀ n ∈ names, Unmarked n) :
    alternatives (alternation names) = names.map reference := by
  induction names with
  | nil => exact absurd rfl hne
  | cons n names ih =>
    obtain ⟨hn, hnames⟩ := List.forall_mem_cons.1 h
    cases names with
    | nil => exact alternatives_reference hn
    | cons m names =>
      rw [alternation_cons, alternatives_append, ignoresEnds_alternatives.last _ _ rfl,
        ignoresEnds_alternatives.first _ _ rfl, alternatives_reference hn, ih (by simp) hnames]
      rfl

/-- A name that can stand in a reference: there is no bracket and no bar in it, and something
besides blanks. -/
structure Referable (name : Text) : Prop where
  unmarked : Unmarked name
  named : (Nonterminal.ofText name).isEmpty = false

theorem Referable.leads {name : Text} (h : Referable name) (rest : Text) :
    leadingReference? (reference name ++ rest) = some (.ofText name) := by
  have hrest : reference name ++ rest = '<' :: (name ++ '>' :: rest) := by simp [reference]
  rw [leadingReference?_eq_some, hrest]
  exact ⟨[], name ++ '>' :: rest, rfl, by simp, name, rest, rfl, h.unmarked, rfl, h.named⟩

theorem exists_alternation_eq_append (n : Text) (names : List Text) :
    ∃ rest, alternation (n :: names) = reference n ++ rest := by
  cases names with
  | nil => exact ⟨[], (List.append_nil _).symm⟩
  | cons m names => exact ⟨_, (alternation_cons n m names).trans (List.append_assoc _ _ _)⟩

/-- **What is read.** The body asks for its references to be followed, and for nothing else. -/
theorem read_alternation {p : Policy} (hp : p.followLeading = true) {names : List Text}
    (hne : names ≠ []) (h : ∀ n ∈ names, Referable n) :
    p.read (alternation names) = names.map fun n => .follow (.ofText n) := by
  have hled : (leadingReference? (alternation names)).isSome := by
    cases names with
    | nil => exact absurd rfl hne
    | cons n names =>
      obtain ⟨rest, heq⟩ := exists_alternation_eq_append n names
      rw [heq, (h n List.mem_cons_self).leads]
      rfl
  have hfollow : ∀ n ∈ names, p.readAlternative (reference n) = .follow (.ofText n) := by
    intro n hn
    have hleads := (h n hn).leads []
    rw [List.append_nil] at hleads
    exact readAlternative_of_some hp (List.cons_ne_nil _ _) hleads
  rw [read_of_led hled, alternatives_alternation hne fun n hn => (h n hn).unmarked, List.map_map]
  exact List.map_congr_left hfollow

/-! ## The walk -/

/-- What comes of a reference that is followed from the empty path. -/
def rootWalk (g : Grammar) (p : Policy) (name : Text) : Expansion :=
  freeResolve g p maxDepth [] (.ofText name)

/-- The free walk from the body follows its references from the empty path. -/
theorem freeExpand_alternation {g : Grammar} {p : Policy} (hp : p.followLeading = true)
    {names : List Text} (hne : names ≠ []) (h : ∀ n ∈ names, Referable n) :
    freeExpand (alternation names) g p [] = .concat (names.map (rootWalk g p)) := by
  show freeItems (freeResolve g p maxDepth []) (p.read (alternation names)) = _
  rw [read_alternation hp hne h, freeItems, List.map_map]
  rfl

/-- A selector yields what the reference to its rule leads to, if the budget suffices. -/
theorem expandRule_of_resolved_le {g : Grammar} {p : Policy} {name : Text}
    (hdefined : g.defines name = true) (hopen : (Nonterminal.ofText name).isPlaceholder = false)
    (hle : (rootWalk g p name).resolved ≤ maxReferences) :
    ∃ e, (g.expandRule name p).result = .ok e ∧ e.outcomes = (rootWalk g p name).outcomes := by
  obtain ⟨body, hbody⟩ := Grammar.defines_iff.1 hdefined
  have htarget : g.target [] (.ofText name) = .ok body :=
    target_eq_ok.2 ⟨hopen, hbody, List.not_mem_nil⟩
  have hwalk : rootWalk g p name =
      .ofEvent (.expanding (.ofText name) 0) ++ freeWalk g p [.ofText name] body :=
    freeResolve_of_lt htarget (by decide)
  rw [hwalk] at hle ⊢
  rw [Expansion.resolved_append, Expansion.resolved_expanding] at hle
  -- the rule is not among the references that the selector resolves
  have hfree : (freeExpand body g p [.ofText name]).resolved ≤ maxReferences := by
    show (freeWalk g p [.ofText name] body).resolved ≤ maxReferences
    omega
  refine ⟨_, expandRule_result p hbody, ?_⟩
  rw [expand_eq_freeExpand_of_le hfree]
  rfl

theorem resolved_le_concat {es : List Expansion} {e : Expansion} (he : e ∈ es) :
    e.resolved ≤ (Expansion.concat es).resolved := by
  obtain ⟨before, after, rfl⟩ := List.append_of_mem he
  rw [Expansion.concat_append, Expansion.concat_cons, Expansion.resolved_append,
    Expansion.resolved_append]
  omega

/-! ## Selectors and alternatives -/

/-- Every rule has a name with something in it, as in the grammars that are read from documents
(`named_ofText`). -/
def Grammar.Named (g : Grammar) : Prop := ∀ r ∈ g.rules, r.name.isEmpty = false

theorem named_ofText (document : Text) : (Grammar.ofText document).Named :=
  fun _ hr => (printable_of_mem hr).named

theorem Grammar.Named.isEmpty_of_defines {g : Grammar} (hg : g.Named) {name : Text}
    (h : g.defines name = true) : (Nonterminal.ofText name).isEmpty = false := by
  obtain ⟨body, hbody⟩ := Grammar.defines_iff.1 h
  exact hg _ (Grammar.mem_rules_of_body? hbody)

/-- **Selectors and alternatives.** Rules that are expanded as the alternatives of a body have the
outcomes that they have as selectors one after the other, unless the budget of the body is spent. -/
theorem expand_alternation (g : Grammar) (hg : g.Named) (p : Policy)
    (hp : p.followLeading = true) (names : List Text) (hne : names ≠ [])
    (hdefined : ∀ n ∈ names, g.defines n = true)
    (hopen : ∀ n ∈ names, (Nonterminal.ofText n).isPlaceholder = false)
    (hfree : ∀ n ∈ names, Unmarked n)
    (hwhole : ∀ m, .stopped m ∉ (expand (alternation names) g p []).outcomes) :
    ∃ e, (g.expandSelectors p names).result = .ok e ∧
      (expand (alternation names) g p []).outcomes = e.outcomes := by
  have hreferable : ∀ n ∈ names, Referable n :=
    fun n hn => ⟨hfree n hn, hg.isEmpty_of_defines (hdefined n hn)⟩
  have hwalk := freeExpand_alternation (g := g) hp hne hreferable
  have hbudget : (Expansion.concat (names.map (rootWalk g p))).resolved ≤ maxReferences := by
    rw [← hwalk]
    exact resolved_freeExpand_le hwhole
  have hselectors : ∀ n ∈ names, ∃ e, (g.expandRule n p).result = .ok e ∧
      e.outcomes = (rootWalk g p n).outcomes :=
    fun n hn => expandRule_of_resolved_le (hdefined n hn) (hopen n hn)
      (Nat.le_trans (resolved_le_concat (List.mem_map_of_mem hn)) hbudget)
  obtain ⟨e, he, houtcomes⟩ := expandSelectors_of_forall hselectors
  refine ⟨e, he, ?_⟩
  rw [expand_eq_freeExpand hwhole, hwalk, houtcomes, Expansion.outcomes_concat, List.flatMap_map]

/-- A document with two rules that lead to each other, one of them twice. -/
def swing : Text := "<up> ::=\n  <down> | X\n\n<down> ::=\n  <up> | <up> | Y".toList

/-- The two rules, one spelled with a blank. -/
def swingRules : List Text := ["up".toList, " down".toList]

/-- What the first rule yields, and then the second. Each of them comes to the other one, and back
to itself. -/
def swingOutcomes : List Outcome :=
  [.cycle (.ofText "up".toList), .cycle (.ofText "up".toList), .literal ['Y'], .literal ['X'],
    .cycle (.ofText "down".toList), .literal ['X'], .cycle (.ofText "down".toList), .literal ['X'],
    .literal ['Y']]

/-- The selectors have the outcomes of the body. -/
theorem expand_alternation_swing :
    alternation swingRules = "<up> | < down>".toList ∧
      (∀ n ∈ swingRules, (Grammar.ofText swing).defines n = true) ∧
      (expand (alternation swingRules) (Grammar.ofText swing) .statements []).outcomes =
        swingOutcomes ∧
      ∃ e, ((Grammar.ofText swing).expandSelectors .statements swingRules).result = .ok e ∧
        e.outcomes = swingOutcomes := by
  have hdefined : ∀ n ∈ swingRules, (Grammar.ofText swing).defines n = true := by decide +kernel
  have houtcomes :
      (expand (alternation swingRules) (Grammar.ofText swing) .statements []).outcomes =
        swingOutcomes := by decide +kernel
  have hwhole : ∀ m, .stopped m ∉
      (expand (alternation swingRules) (Grammar.ofText swing) .statements []).outcomes := by
    intro m
    rw [houtcomes]
    simp [swingOutcomes]
  obtain ⟨e, he, heq⟩ := expand_alternation (Grammar.ofText swing) (named_ofText swing) .statements
    rfl swingRules (by decide) hdefined (by decide +kernel) (by unfold Unmarked; decide) hwhole
  exact ⟨by decide, hdefined, houtcomes, e, he, heq.symm.trans houtcomes⟩

end SqlVocabulary
