import SqlVocabulary.Proofs.Grammar.Lookup
import SqlVocabulary.Proofs.Text.Spacing

/-!
# A canonical form

A text spells words when it consists of them, in their order, with blanks around: any number at the
two ends, and one at least between neighbours (`Spells`). Every text spells words in one way
(`spells_iff`). Its collapsed form spells the same words, and among the texts that do, it is the
one whose blanks are single spaces between words (`SingleSpaced`).

1. A text is single-spaced if it is one word, or a word, a space and a single-spaced text
   (`SingleSpaced.cons`), so words joined by single spaces are.
2. The other way round, nothing is left to be collapsed in such a text
   (`SingleSpaced.collapse_eq`).
3. Names of rules are in this form, so a name that is written in brackets is read back
   (`Nonterminal.ofBracketed?_bracketed`).
-/

namespace SqlVocabulary

namespace Text

/-! ## The words that a text spells -/

/-- The words of a text: maximal runs of characters that are not blanks. -/
inductive Spells : List Text → Text → Prop
  | nil : Spells [] []
  | blank {ws : List Text} {c : Char} {t : Text} :
      isSpace c = true → Spells ws t → Spells ws (c :: t)
  | word {w : Text} {ws : List Text} {t : Text} :
      w ≠ [] → (∀ c ∈ w, isSpace c = false) → t.head?.all isSpace = true → Spells ws t →
        Spells (w :: ws) (w ++ t)

theorem Spells.words_eq {ws : List Text} {t : Text} (h : Spells ws t) : words t = ws := by
  induction h with
  | nil => rfl
  | blank hc _ ih => rw [words_cons_of_isSpace hc, ih]
  | @word w ws t hne hw hend _ ih =>
    cases t with
    | nil =>
      rw [List.append_nil, words_of_not_isSpace hne hw, ← ih]
      rfl
    | cons c t =>
      have hc : isSpace c = true := hend
      rw [words_append_cons hc, words_of_not_isSpace hne hw, ← ih, words_cons_of_isSpace hc]
      rfl

theorem spells_words (t : Text) : Spells (words t) t := by
  -- a word in front of a blank or at the end, unless there is nothing in front
  have hfront : ∀ w u : Text, (∀ c ∈ w, isSpace c = false) → u.head?.all isSpace = true →
      Spells (words u) u → Spells (words w ++ words u) (w ++ u) := by
    intro w u hw hend hu
    by_cases hne : w = []
    · subst hne
      exact hu
    · rw [words_of_not_isSpace hne hw]
      exact .word hne hw hend hu
  induction t using pieces_induction (p := isSpace) with
  | last w hw =>
    have hlast := hfront w [] hw rfl .nil
    rwa [List.append_nil, show words [] = [] from rfl, List.append_nil] at hlast
  | piece w c t hw hc ih =>
    have hrest : Spells (words (c :: t)) (c :: t) := by
      rw [words_cons_of_isSpace hc]
      exact .blank hc ih
    have hwhole := hfront w (c :: t) hw hc hrest
    rwa [words_cons_of_isSpace hc, ← words_append_cons hc] at hwhole

theorem spells_iff {ws : List Text} {t : Text} : Spells ws t ↔ ws = words t := by
  constructor
  · exact fun h => h.words_eq.symm
  · rintro rfl
    exact spells_words t

/-! ## Single spaces -/

/-- Each blank of a text is a space, and stands between two characters that are not blanks. -/
def SingleSpaced (t : Text) : Prop :=
  ∀ s c u, t = s ++ c :: u → isSpace c = true →
    c = ' ' ∧ (∃ d ∈ s.getLast?, isSpace d = false) ∧ ∃ d ∈ u.head?, isSpace d = false

theorem singleSpaced_of_not_isSpace {w : Text} (hw : ∀ c ∈ w, isSpace c = false) :
    SingleSpaced w := by
  rintro s c u rfl hc
  rw [hw c (by simp)] at hc
  cases hc

namespace SingleSpaced

variable {w t : Text}

theorem cons (hne : w ≠ []) (hw : ∀ c ∈ w, isSpace c = false)
    (hhead : ∃ d ∈ t.head?, isSpace d = false) (ht : SingleSpaced t) :
    SingleSpaced (w ++ ' ' :: t) := by
  have hlast : ∃ d ∈ w.getLast?, isSpace d = false :=
    ⟨w.getLast hne, List.getLast?_eq_getLast_of_ne_nil hne, hw _ (List.getLast_mem hne)⟩
  intro s c u heq hc
  rcases List.append_eq_append_iff.1 heq with ⟨a, rfl, hrest⟩ | ⟨a, rfl, hrest⟩
  · cases a with
    | nil =>
      obtain ⟨rfl, rfl⟩ := List.cons.inj hrest
      exact ⟨rfl, by rwa [List.append_nil], hhead⟩
    | cons e a =>
      obtain ⟨rfl, rfl⟩ := List.cons.inj hrest
      obtain ⟨hspace, ⟨d, hd, hword⟩, hnext⟩ := ht a c u rfl hc
      refine ⟨hspace, ⟨d, ?_, hword⟩, hnext⟩
      rw [Option.mem_def] at hd ⊢
      simp [List.getLast?_append, List.getLast?_cons, hd]
  · cases a with
    | nil =>
      obtain ⟨rfl, rfl⟩ := List.cons.inj hrest
      rw [List.append_nil] at hlast
      exact ⟨rfl, hlast, hhead⟩
    | cons e a =>
      -- the blank would be a character of the word
      obtain ⟨rfl, -⟩ := List.cons.inj hrest
      rw [hw c (by simp)] at hc
      cases hc

/-- A blank has a word in front of it, and a single-spaced text behind it that starts with one. -/
theorem of_append_cons {c : Char} (h : SingleSpaced (w ++ c :: t)) (hc : isSpace c = true) :
    c = ' ' ∧ w ≠ [] ∧ (∃ d ∈ t.head?, isSpace d = false) ∧ SingleSpaced t := by
  obtain ⟨hspace, ⟨d, hd, -⟩, e, he, hword⟩ := h w c t rfl hc
  refine ⟨hspace, ?_, ⟨e, he, hword⟩, ?_⟩
  · rintro rfl
    cases hd
  · rintro s b u rfl hb
    obtain ⟨hspace', ⟨d', hd', hword'⟩, hnext⟩ := h (w ++ c :: s) b u (by simp) hb
    refine ⟨hspace', ⟨d', ?_, hword'⟩, hnext⟩
    cases s with
    | nil =>
      obtain rfl : b = e := Option.some.inj he
      rw [hb] at hword
      cases hword
    | cons f s =>
      rw [Option.mem_def] at hd' ⊢
      rwa [List.getLast?_append_of_ne_nil _ (List.cons_ne_nil c _), List.getLast?_cons_cons] at hd'

theorem collapse_eq (h : SingleSpaced t) : collapse t = t := by
  induction t using pieces_induction (p := isSpace) with
  | last w hw => exact collapse_of_not_isSpace hw
  | piece w c t hw hc ih =>
    obtain ⟨rfl, hne, ⟨d, hd, hword⟩, ht⟩ := h.of_append_cons hc
    have hwords : words t ≠ [] := by
      intro hnone
      have hblank : ∀ c ∈ t, isSpace c = true := by
        rw [← trim_eq_nil, trim_eq_nil_iff_collapse, collapse, hnone]
        rfl
      rw [hblank d (List.mem_of_mem_head? hd)] at hword
      cases hword
    rw [collapse_append_cons hw hne hc, if_neg hwords, ih ht]

end SingleSpaced

theorem singleSpaced_join {ws : List Text} (h : ∀ w ∈ ws, w ≠ [] ∧ ∀ c ∈ w, isSpace c = false) :
    SingleSpaced (join [' '] ws) := by
  induction ws with
  | nil => exact singleSpaced_of_not_isSpace (by simp [join])
  | cons w ws ih =>
    obtain ⟨⟨hne, hw⟩, hws⟩ := List.forall_mem_cons.1 h
    cases ws with
    | nil => exact singleSpaced_of_not_isSpace hw
    | cons v vs =>
      obtain ⟨⟨hnev, hv⟩, -⟩ := List.forall_mem_cons.1 hws
      have hhead : ∃ d ∈ (join [' '] (v :: vs)).head?, isSpace d = false := by
        obtain ⟨d, v, rfl⟩ := List.exists_cons_of_ne_nil hnev
        refine ⟨d, ?_, hv d List.mem_cons_self⟩
        cases vs <;> rfl
      show SingleSpaced (w ++ [' '] ++ join [' '] (v :: vs))
      rw [List.append_assoc]
      exact .cons hne hw hhead (ih hws)

theorem singleSpaced_collapse (t : Text) : SingleSpaced (collapse t) :=
  singleSpaced_join fun _ hw => of_mem_words hw

end Text

/-! ## Names in brackets -/

theorem Nonterminal.ofBracketed?_bracketed {inner : Text} {n : Nonterminal} :
    ofBracketed? ('<' :: (inner ++ ['>'])) = some n ↔ .ofText inner = n ∧ n.isEmpty = false := by
  have hread : ofBracketed? ('<' :: (inner ++ ['>'])) =
      if (ofText inner).isEmpty then none else some (ofText inner) := by
    unfold ofBracketed?
    rw [Text.unwrap?_eq_some.2 rfl]
    rfl
  rw [hread]
  cases h : (ofText inner).isEmpty with
  | true =>
    constructor
    · intro hn
      cases hn
    · rintro ⟨rfl, hne⟩
      rw [h] at hne
      cases hne
  | false =>
    constructor
    · intro hn
      obtain rfl := Option.some.inj hn
      exact ⟨rfl, h⟩
    · rintro ⟨rfl, -⟩
      rfl

/-- **Canonical form.** Two texts have the same collapsed form if and only if they spell the same
words, and each text spells words in one way. The collapsed form of a text is collapsed itself. Its
blanks are single spaces between words, and texts that are so are collapsed already. A name that is
written in brackets is read as the name it is, unless it is empty. -/
theorem collapse_canonical :
    (∀ s t, Text.collapse s = Text.collapse t ↔ ∃ ws, Text.Spells ws s ∧ Text.Spells ws t) ∧
      (∀ t, ∃! ws, Text.Spells ws t) ∧
      (∀ t : Text, t.collapse.collapse = t.collapse) ∧
      (∀ t : Text, t.collapse.SingleSpaced ∧ (t.SingleSpaced ↔ t.collapse = t)) ∧
      ∀ n : Nonterminal, Nonterminal.ofBracketed? n.bracketed = some n ↔ n.isEmpty = false := by
  refine ⟨fun s t => ?_, fun t => ?_, Text.collapse_collapse, fun t => ⟨?_, ?_, ?_⟩, fun n => ?_⟩
  · rw [Text.collapse_eq_iff]
    simp only [Text.spells_iff, exists_eq_left]
  · simp only [Text.spells_iff]
    exact existsUnique_eq
  · exact t.singleSpaced_collapse
  · exact fun h => h.collapse_eq
  · intro h
    rw [← h]
    exact t.singleSpaced_collapse
  · have hname : Nonterminal.ofText n.name = n := Nonterminal.ofText_name n
    exact Nonterminal.ofBracketed?_bracketed.trans (and_iff_right hname)

end SqlVocabulary
