import SqlVocabulary.Proofs.Text.Spacing
import SqlVocabulary.Text.Blank
import SqlVocabulary.Text.UpperCase

/-!
# Checks on the characters of a text

The two checks of cleaning come down to the characters of a text. A text is blank if each of them is
white space. It is in upper case if each of them is its own upper case (`upper_eq_self_iff`): the
mapping may take a character to several, but none to nothing, so a text that comes out as long as it
went in has not grown anywhere.

So a part of a text in upper case is in upper case (`upper_eq_self_of_infix`). And as blanks pass
both checks, a text passes just in case its collapsed form does (`isBlank_collapse`,
`isUpper_collapse`).
-/

namespace SqlVocabulary.Text

/-! ## Upper case -/

theorem length_le_length_upper (t : Text) : t.length ≤ t.upper.length := by
  induction t with
  | nil => exact Nat.le_refl 0
  | cons c t ih =>
    have hc : 0 < (upperChar c).length := List.length_pos_iff.2 (upperChar_ne_nil c)
    show t.length + 1 ≤ (upperChar c ++ upper t).length
    rw [List.length_append]
    omega

/-- A text is its own upper case if and only if each of its characters is. -/
theorem upper_eq_self_iff {t : Text} : t.upper = t ↔ ∀ c ∈ t, upperChar c = [c] := by
  induction t with
  | nil => simp [upper]
  | cons c t ih =>
    have hcons : upper (c :: t) = upperChar c ++ upper t := rfl
    rw [hcons, List.forall_mem_cons, ← ih]
    constructor
    · intro h
      -- the rest has not got shorter, so there is room for one character only
      have hone : (upperChar c).length = [c].length := by
        have hlength := congrArg List.length h
        have hrest := length_le_length_upper t
        have hc : 0 < (upperChar c).length := List.length_pos_iff.2 (upperChar_ne_nil c)
        simp only [List.length_append, List.length_cons, List.length_nil] at hlength ⊢
        omega
      exact List.append_inj h hone
    · rintro ⟨hc, ht⟩
      rw [hc, ht]
      rfl

theorem upper_eq_self_of_infix {w t : Text} (h : w <:+: t) (ht : t.upper = t) : w.upper = w := by
  rw [upper_eq_self_iff] at ht ⊢
  intro c hc
  exact ht c (h.subset hc)

/-! ## Blanks -/

theorem ignoresLayout_forall_mem {P : Char → Prop} (hP : ∀ c, isSpace c = true → P c) :
    IgnoresLayout fun t => ∀ c ∈ t, P c where
  first c t hc := by simp [hP c hc]
  last t c hc := by simp [or_imp, forall_and, hP c hc]
  run t := by
    refine propext (forall_congr' fun c => ?_)
    cases hc : isSpace c with
    | true => simp [hP c hc]
    | false => rw [mem_squeeze hc]

theorem upperChar_of_isSpace {c : Char} (h : isSpace c = true) : upperChar c = [c] := by
  simp only [isSpace, Bool.or_eq_true, beq_iff_eq] at h
  rcases h with (((rfl | rfl) | rfl) | rfl) | rfl <;> decide

@[simp] theorem isBlank_collapse (t : Text) : isBlank t.collapse = isBlank t := by
  have hlayout := ignoresLayout_forall_mem fun c => isWhite_of_isSpace
  rw [Bool.eq_iff_iff, isBlank, isBlank, List.all_eq_true, List.all_eq_true]
  exact iff_of_eq (hlayout.collapse t)

@[simp] theorem isUpper_collapse (t : Text) : isUpper t.collapse = isUpper t := by
  have hlayout := ignoresLayout_forall_mem fun c => upperChar_of_isSpace
  rw [Bool.eq_iff_iff, isUpper, isUpper, beq_iff_eq, beq_iff_eq, upper_eq_self_iff,
    upper_eq_self_iff]
  exact iff_of_eq (hlayout.collapse t)

end SqlVocabulary.Text
