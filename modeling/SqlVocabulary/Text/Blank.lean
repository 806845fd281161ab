import SqlVocabulary.Text.Basic

/-!
# Blank text

The characters with the Unicode property White_Space. It is wider than `isSpace` (no-break space,
line separator, ideographic space) and does not hold the zero-width characters. A text made of such
characters alone is blank: nothing of it can be seen.
-/

namespace SqlVocabulary.Text

/-- Unicode White_Space. -/
def isWhite (c : Char) : Bool :=
  let n := c.toNat
  (0x9 ≤ n && n ≤ 0xD) || n == 0x20 || n == 0x85 || n == 0xA0 || n == 0x1680 ||
    (0x2000 ≤ n && n ≤ 0x200A) || n == 0x2028 || n == 0x2029 || n == 0x202F || n == 0x205F ||
    n == 0x3000

/-- Whether a text holds nothing but white space. -/
def isBlank (t : Text) : Bool := t.all isWhite

theorem isWhite_of_isSpace {c : Char} (h : isSpace c = true) : isWhite c = true := by
  simp only [isSpace, Bool.or_eq_true, beq_iff_eq] at h
  rcases h with (((rfl | rfl) | rfl) | rfl) | rfl <;> decide

end SqlVocabulary.Text
