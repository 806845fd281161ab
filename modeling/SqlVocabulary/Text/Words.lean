import SqlVocabulary.Text.Basic

/-!
# Words and the collapsed form

A text is its pieces and the characters that separate them, so it can be taken apart one piece at a
time (`pieces_induction`). The words of a text come before those of what follows after a blank
(`words_append_cons`).

The words of a text are not empty and hold no blanks, and writing them with single spaces gives a
text with the same words (`words_collapse`). So collapsing twice is collapsing once, and two texts
collapse to one exactly when they have the same words (`collapse_eq_iff`).
-/

namespace SqlVocabulary.Text

theorem pieces_ne_nil (p : Char → Bool) (t : Text) : pieces p t ≠ [] := by
  cases t with
  | nil => simp [pieces]
  | cons c cs =>
    unfold pieces
    split
    · simp
    · split <;> simp

theorem not_p_of_mem_pieces {p : Char → Bool} {t w : Text} (h : w ∈ pieces p t) :
    ∀ c ∈ w, p c = false := by
  induction t generalizing w with
  | nil => simp_all [pieces]
  | cons d ds ih =>
    rw [pieces] at h
    split at h
    · rcases List.mem_cons.1 h with rfl | h
      · simp
      · exact ih h
    · rename_i hd
      split at h
      · rename_i he
        exact absurd he (pieces_ne_nil p ds)
      · rename_i v vs he
        rcases List.mem_cons.1 h with rfl | h
        · intro c hc
          rcases List.mem_cons.1 hc with rfl | hc
          · simpa using hd
          · exact ih (he ▸ List.mem_cons_self) c hc
        · exact ih (he ▸ List.mem_cons_of_mem _ h)

theorem pieces_of_not_p {p : Char → Bool} {w : Text} (h : ∀ c ∈ w, p c = false) :
    pieces p w = [w] := by
  induction w with
  | nil => rfl
  | cons c cs ih =>
    have hc : p c = false := h c List.mem_cons_self
    have := ih fun d hd => h d (List.mem_cons_of_mem _ hd)
    simp [pieces, hc, this]

theorem pieces_append {p : Char → Bool} {c : Char} (hc : p c = true) (s t : Text) :
    pieces p (s ++ c :: t) = pieces p s ++ pieces p t := by
  induction s with
  | nil => simp [pieces, hc]
  | cons d s ih =>
    rw [List.cons_append, pieces, pieces, ih]
    split
    · rfl
    · cases h : pieces p s with
      | nil => exact absurd h (pieces_ne_nil p s)
      | cons w ws => rfl

theorem pieces_append_of_not_p {p : Char → Bool} {w : Text} (h : ∀ c ∈ w, p c = false) (t : Text) :
    pieces p (w ++ t) = (pieces p t).modifyHead (w ++ ·) := by
  induction w with
  | nil => cases h : pieces p t <;> simp [h]
  | cons c w ih =>
    obtain ⟨hc, h⟩ := List.forall_mem_cons.1 h
    rw [List.cons_append, pieces, ih h, hc]
    cases hw : pieces p t with
    | nil => exact absurd hw (pieces_ne_nil p t)
    | cons v vs => rfl

theorem pieces_append_cons {p : Char → Bool} {w : Text} {c : Char} (rest : Text)
    (h : ∀ c ∈ w, p c = false) (hc : p c = true) :
    pieces p (w ++ c :: rest) = w :: pieces p rest := by
  rw [pieces_append hc, pieces_of_not_p h]
  rfl

/-- A text is a last piece, or a piece, the character that ends it, and a text. -/
@[elab_as_elim]
theorem pieces_induction {p : Char → Bool} {motive : Text → Prop} (t : Text)
    (last : ∀ w, (∀ c ∈ w, p c = false) → motive w)
    (piece : ∀ w c t, (∀ d ∈ w, p d = false) → p c = true → motive t → motive (w ++ c :: t)) :
    motive t := by
  -- the characters before `t` that are in the same piece
  suffices h : ∀ w, (∀ c ∈ w, p c = false) → motive (w ++ t) from h [] (by simp)
  induction t with
  | nil =>
    intro w hw
    rw [List.append_nil]
    exact last w hw
  | cons c t ih =>
    intro w hw
    cases hc : p c with
    | true => exact piece w c t hw hc (ih [] (by simp))
    | false =>
      have hwc : ∀ d ∈ w ++ [c], p d = false := by
        simpa [or_imp, forall_and, hc] using hw
      simpa using ih (w ++ [c]) hwc

theorem words_append_cons {c : Char} (hc : isSpace c = true) (s t : Text) :
    words (s ++ c :: t) = words s ++ words t := by
  unfold words
  rw [pieces_append hc, List.filter_append]

theorem of_mem_words {t w : Text} (h : w ∈ words t) : w ≠ [] ∧ ∀ c ∈ w, isSpace c = false := by
  rw [words, List.mem_filter] at h
  refine ⟨?_, not_p_of_mem_pieces h.1⟩
  intro hw
  simp [hw] at h

/-- Words written with single spaces between them are read back. -/
theorem words_join {ws : List Text} (h : ∀ w ∈ ws, w ≠ [] ∧ ∀ c ∈ w, isSpace c = false) :
    words (join [' '] ws) = ws := by
  induction ws with
  | nil => simp [words, join, pieces]
  | cons w ws ih =>
    obtain ⟨hne, hw⟩ := h w List.mem_cons_self
    have htail := ih fun v hv => h v (List.mem_cons_of_mem _ hv)
    have hkeep : (!w.isEmpty) = true := by simpa using hne
    cases ws with
    | nil => simp [words, join, pieces_of_not_p hw, hne]
    | cons v vs =>
      have hjoin : join [' '] (w :: v :: vs) = w ++ ' ' :: join [' '] (v :: vs) := by
        simp [join]
      rw [words] at htail ⊢
      rw [hjoin, pieces_append_cons _ hw (by decide)]
      simp only [List.filter_cons, hkeep, if_true, htail]

@[simp] theorem words_collapse (t : Text) : words (collapse t) = words t :=
  words_join fun _ hw => of_mem_words hw

@[simp] theorem collapse_collapse (t : Text) : collapse (collapse t) = collapse t := by
  rw [collapse, words_collapse, ← collapse]

/-- The collapsed form is canonical for the sequence of words. -/
theorem collapse_eq_iff {s t : Text} : collapse s = collapse t ↔ words s = words t :=
  ⟨fun h => by rw [← words_collapse s, h, words_collapse], fun h => by rw [collapse, h, ← collapse]⟩

end SqlVocabulary.Text
