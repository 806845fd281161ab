import SqlVocabulary.Proofs.Text.Spacing

/-!
# Line ends of two kinds

A line is ended by a line feed, or by a carriage return and a line feed (`withReturns`). Both are
blanks, so a text has the same words with either end, and no line feed is left in its collapsed form
(`collapse_withReturns`, `withReturns_collapse`). Trimming a text and cutting it into pieces
commutes with the change of line ends, as long as a carriage return is taken for what a line feed is
taken for (`dropEndWhile_withReturns`, `trim_withReturns`, `pieces_withReturns`).
-/

namespace SqlVocabulary.Text

/-- A text with a carriage return before each line feed. -/
def withReturns (t : Text) : Text := t.flatMap fun c => if c = '\n' then ['\r', '\n'] else [c]

theorem withReturns_append (s t : Text) : withReturns (s ++ t) = withReturns s ++ withReturns t :=
  List.flatMap_append

@[simp] theorem withReturns_cons_newline (t : Text) :
    withReturns ('\n' :: t) = '\r' :: '\n' :: withReturns t := rfl

theorem withReturns_cons_of_ne {c : Char} (hc : c ≠ '\n') (t : Text) :
    withReturns (c :: t) = c :: withReturns t := by
  simp [withReturns, hc]

theorem withReturns_of_not_mem {w : Text} (hw : '\n' ∉ w) : withReturns w = w := by
  induction w with
  | nil => rfl
  | cons c w ih =>
    obtain ⟨hc, hw⟩ : '\n' ≠ c ∧ '\n' ∉ w := by simpa using hw
    rw [withReturns_cons_of_ne (Ne.symm hc), ih hw]

theorem withReturns_line {w : Text} (hw : '\n' ∉ w) (t : Text) :
    withReturns (w ++ '\n' :: t) = (w ++ ['\r']) ++ '\n' :: withReturns t := by
  rw [withReturns_append, withReturns_of_not_mem hw, withReturns_cons_newline, List.append_assoc]
  rfl

theorem mem_of_mem_withReturns {c : Char} {t : Text} (h : c ∈ withReturns t) :
    c = '\r' ∨ c ∈ t := by
  induction t with
  | nil => cases h
  | cons d t ih =>
    by_cases hd : d = '\n'
    · subst hd
      simp only [withReturns_cons_newline, List.mem_cons] at h ⊢
      tauto
    · rw [withReturns_cons_of_ne hd, List.mem_cons] at h
      rw [List.mem_cons]
      tauto

@[simp] theorem withReturns_eq_nil {t : Text} : withReturns t = [] ↔ t = [] := by
  cases t with
  | nil => exact iff_of_true rfl rfl
  | cons c t => by_cases hc : c = '\n' <;> simp [hc, withReturns_cons_of_ne]

@[simp] theorem isEmpty_withReturns (t : Text) : (withReturns t).isEmpty = t.isEmpty := by
  rw [Bool.eq_iff_iff, List.isEmpty_iff, List.isEmpty_iff, withReturns_eq_nil]

/-! ## Words -/

theorem words_withReturns (t : Text) : words (withReturns t) = words t := by
  induction t using line_induction with
  | last w hw => rw [withReturns_of_not_mem hw]
  | line w t hw ih =>
    rw [withReturns_line hw, words_append_cons rfl, words_append_cons rfl, words_append_cons rfl,
      ih]
    exact congrArg (· ++ words t) (List.append_nil (words w))

@[simp] theorem collapse_withReturns (t : Text) : collapse (withReturns t) = collapse t :=
  collapse_eq_iff.2 (words_withReturns t)

@[simp] theorem withReturns_collapse (t : Text) : withReturns (collapse t) = collapse t :=
  withReturns_of_not_mem (newline_not_mem_collapse t)

/-! ## Trimming and cutting -/

section Trimming

variable {p : Char → Bool} (hp : p '\n' = true) (hp' : p '\r' = true)

include hp hp'

theorem dropWhile_withReturns (t : Text) :
    (withReturns t).dropWhile p = withReturns (t.dropWhile p) := by
  induction t with
  | nil => rfl
  | cons c t ih =>
    by_cases hc : c = '\n'
    · subst hc
      rw [withReturns_cons_newline, List.dropWhile_cons_of_pos hp', List.dropWhile_cons_of_pos hp,
        List.dropWhile_cons_of_pos hp, ih]
    · rw [withReturns_cons_of_ne hc, List.dropWhile_cons, List.dropWhile_cons]
      split
      · exact ih
      · exact (withReturns_cons_of_ne hc t).symm

theorem dropEndWhile_withReturns (t : Text) :
    dropEndWhile p (withReturns t) = withReturns (dropEndWhile p t) := by
  induction t using List.reverseRecOn with
  | nil => rfl
  | append_singleton t c ih =>
    rw [withReturns_append]
    cases hc : p c with
    | true =>
      have hend : ∀ d ∈ withReturns [c], p d = true := by
        intro d hd
        rcases mem_of_mem_withReturns hd with rfl | hd
        · exact hp'
        · rwa [List.mem_singleton.1 hd]
      have hend' : ∀ d ∈ [c], p d = true := List.forall_mem_singleton.2 hc
      rw [dropEndWhile_append_of_eq_nil _ (dropEndWhile_eq_nil.2 hend),
        dropEndWhile_append_of_eq_nil _ (dropEndWhile_eq_nil.2 hend'), ih]
    | false =>
      have hne : c ≠ '\n' := by
        rintro rfl
        rw [hp] at hc
        cases hc
      have hkeep : ∀ s : Text, dropEndWhile p (s ++ [c]) = s ++ [c] :=
        fun s => List.rdropWhile_concat_neg p s c (by simp [hc])
      have hend : withReturns [c] = [c] := withReturns_cons_of_ne hne []
      rw [hend, hkeep, hkeep, withReturns_append, hend]

end Trimming

@[simp] theorem trim_withReturns (t : Text) : trim (withReturns t) = withReturns (trim t) := by
  unfold trim trimEnd
  rw [dropWhile_withReturns rfl rfl, dropEndWhile_withReturns rfl rfl]

@[simp] theorem lineContent_withReturns (t : Text) :
    lineContent (withReturns t) = withReturns (lineContent t) :=
  dropEndWhile_withReturns rfl rfl t

theorem pieces_withReturns {p : Char → Bool} (hp : p '\n' = false) (hp' : p '\r' = false)
    (t : Text) : pieces p (withReturns t) = (pieces p t).map withReturns := by
  have hfree : ∀ {w : Text}, (∀ c ∈ w, p c = false) → ∀ c ∈ withReturns w, p c = false := by
    intro w hw c hc
    rcases mem_of_mem_withReturns hc with rfl | hc
    · exact hp'
    · exact hw c hc
  induction t using pieces_induction (p := p) with
  | last w hw => rw [pieces_of_not_p hw, pieces_of_not_p (hfree hw)]; rfl
  | piece w c t hw hc ih =>
    have hne : c ≠ '\n' := by
      rintro rfl
      rw [hp] at hc
      cases hc
    rw [withReturns_append, withReturns_cons_of_ne hne, pieces_append_cons _ (hfree hw) hc,
      pieces_append_cons _ hw hc, ih]
    rfl

end SqlVocabulary.Text
