import Mathlib.Data.List.DropRight
import SqlVocabulary.Text.Lines
import SqlVocabulary.Text.Words

/-!
# Reading a text line by line

A line feed ends the line that it stands in, whatever comes after it (`lines_line`), and a text
without one is a single line (`lines_of_not_mem`). Everything about the lines of a text follows from
these two equations, by induction on the text, one line at a time (`line_induction`). In particular
the lines make up the text (`flatten_lines`), and lines that are ended are read back
(`lines_flatten_append`).
-/

namespace SqlVocabulary.Text

/-! ## Trimming at the end -/

theorem dropEndWhile_eq_nil {p : Char → Bool} {t : Text} :
    dropEndWhile p t = [] ↔ ∀ c ∈ t, p c = true :=
  List.rdropWhile_eq_nil_iff

theorem dropEndWhile_append_of_eq_nil {p : Char → Bool} {t : Text} (s : Text)
    (h : dropEndWhile p t = []) : dropEndWhile p (s ++ t) = dropEndWhile p s := by
  unfold dropEndWhile
  rw [List.reverse_append, List.dropWhile_append_of_pos]
  intro c hc
  exact dropEndWhile_eq_nil.1 h c (List.mem_reverse.1 hc)

theorem dropEndWhile_append_of_ne_nil {p : Char → Bool} {t : Text} (s : Text)
    (h : dropEndWhile p t ≠ []) : dropEndWhile p (s ++ t) = s ++ dropEndWhile p t := by
  unfold dropEndWhile at h ⊢
  rw [List.reverse_append, List.dropWhile_append, if_neg (by simpa using h), List.reverse_append,
    List.reverse_reverse]

/-! ## Lines -/

/-- A text is a last line, or a line, its line feed, and a text. -/
@[elab_as_elim]
theorem line_induction {motive : Text → Prop} (t : Text)
    (last : ∀ w, '\n' ∉ w → motive w)
    (line : ∀ w t, '\n' ∉ w → motive t → motive (w ++ '\n' :: t)) : motive t := by
  have hfree : ∀ {w : Text}, (∀ c ∈ w, (c == '\n') = false) → '\n' ∉ w := by
    intro w hw hmem
    cases hw _ hmem
  induction t using pieces_induction (p := (· == '\n')) with
  | last w hw => exact last w (hfree hw)
  | piece w c t hw hc ih =>
    obtain rfl : c = '\n' := by simpa using hc
    exact line w t (hfree hw) ih

theorem lines_of_not_mem {w : Text} (h : '\n' ∉ w) (hne : w ≠ []) : lines w = [w] := by
  induction w with
  | nil => exact absurd rfl hne
  | cons c w ih =>
    obtain ⟨hc, hw⟩ : '\n' ≠ c ∧ '\n' ∉ w := by simpa using h
    unfold lines
    rw [if_neg (Ne.symm hc)]
    cases w with
    | nil => rfl
    | cons d w => rw [ih hw (List.cons_ne_nil d w)]

theorem lines_line {w : Text} (h : '\n' ∉ w) (t : Text) :
    lines (w ++ '\n' :: t) = (w ++ ['\n']) :: lines t := by
  induction w with
  | nil => rfl
  | cons c w ih =>
    obtain ⟨hc, hw⟩ : '\n' ≠ c ∧ '\n' ∉ w := by simpa using h
    rw [List.cons_append, lines, if_neg (Ne.symm hc), ih hw]
    rfl

theorem flatten_lines (t : Text) : (lines t).flatten = t := by
  induction t using line_induction with
  | last w hw =>
    by_cases hne : w = []
    · subst hne
      rfl
    · rw [lines_of_not_mem hw hne]
      simp
  | line w t hw ih =>
    rw [lines_line hw, List.flatten_cons, ih]
    simp

/-- A line that ends with its line feed. -/
def IsEnded (line : Text) : Prop := ∃ w, line = w ++ ['\n'] ∧ '\n' ∉ w

theorem lines_flatten_append {ls : List Text} (h : ∀ l ∈ ls, IsEnded l) (t : Text) :
    lines (ls.flatten ++ t) = ls ++ lines t := by
  induction ls with
  | nil => rfl
  | cons l ls ih =>
    obtain ⟨⟨w, rfl, hw⟩, hls⟩ := List.forall_mem_cons.1 h
    rw [List.flatten_cons, List.append_assoc, List.append_assoc, List.singleton_append,
      lines_line hw, ih hls]
    rfl

/-- Only the last line of a text may lack its line feed. -/
theorem isEnded_of_lines_eq_append {t : Text} {ls ms : List Text} (h : lines t = ls ++ ms)
    (hne : ms ≠ []) : ∀ l ∈ ls, IsEnded l := by
  induction t using line_induction generalizing ls with
  | last w hw =>
    have hlen : (lines w).length ≤ 1 := by
      by_cases hw' : w = []
      · subst hw'
        exact Nat.zero_le 1
      · rw [lines_of_not_mem hw hw']
        exact Nat.le_refl 1
    have hpos := List.length_pos_iff.2 hne
    rw [h, List.length_append] at hlen
    have hnil : ls = [] := List.length_eq_zero_iff.1 (by omega)
    simp [hnil]
  | line w t hw ih =>
    rw [lines_line hw] at h
    cases ls with
    | nil => simp
    | cons l ls =>
      obtain ⟨rfl, hrest⟩ := List.cons.inj h
      exact List.forall_mem_cons.2 ⟨⟨w, rfl, hw⟩, ih hrest⟩

theorem lines_flatten_of_lines_eq_append {t : Text} {ls ms : List Text}
    (h : lines t = ls ++ ms) : lines ms.flatten = ms := by
  by_cases hne : ms = []
  · subst hne
    rfl
  · have hcut := lines_flatten_append (isEnded_of_lines_eq_append h hne) ms.flatten
    rw [← List.flatten_append, ← h, flatten_lines, h] at hcut
    exact (List.append_cancel_left hcut).symm

/-! ## The content of a line -/

theorem lineContent_eq_nil {t : Text} : lineContent t = [] ↔ ∀ c ∈ t, isLineEnd c = true :=
  dropEndWhile_eq_nil

theorem not_mem_lineContent {c : Char} {t : Text} (h : c ∉ t) : c ∉ lineContent t :=
  fun hc => h ((List.rdropWhile_prefix isLineEnd t).subset hc)

@[simp] theorem lineContent_lineContent (t : Text) : lineContent (lineContent t) = lineContent t :=
  List.rdropWhile_idempotent isLineEnd t

theorem lineContent_eq_self_iff {t : Text} :
    lineContent t = t ↔ ∀ c ∈ t.getLast?, isLineEnd c = false := by
  refine List.rdropWhile_eq_self_iff.trans ?_
  constructor
  · intro h c hc
    obtain ⟨hne, rfl⟩ := List.mem_getLast?_eq_getLast hc
    exact Bool.eq_false_iff.2 (h hne)
  · intro h hne
    exact Bool.eq_false_iff.1 (h _ (List.getLast?_eq_some_getLast hne))

theorem lineContent_append_congr {s t : Text} (h : lineContent s = lineContent t) (w : Text) :
    lineContent (w ++ s) = lineContent (w ++ t) := by
  by_cases hs : lineContent s = []
  · exact (dropEndWhile_append_of_eq_nil w hs).trans
      (dropEndWhile_append_of_eq_nil w (h.symm.trans hs)).symm
  · have ht : lineContent t ≠ [] := h ▸ hs
    exact (dropEndWhile_append_of_ne_nil w hs).trans
      ((congrArg (w ++ ·) h).trans (dropEndWhile_append_of_ne_nil w ht).symm)

theorem lineContent_concat {c : Char} (hc : isLineEnd c = true) (w : Text) :
    lineContent (w ++ [c]) = lineContent w :=
  dropEndWhile_append_of_eq_nil w (dropEndWhile_eq_nil.2 (List.forall_mem_singleton.2 hc))

@[simp] theorem lineContent_append_newline (w : Text) : lineContent (w ++ ['\n']) = lineContent w :=
  lineContent_concat rfl w

theorem lineContent_line (w t : Text) :
    lineContent (w ++ '\n' :: t) =
      if lineContent t = [] then lineContent w else w ++ '\n' :: lineContent t := by
  rw [← List.singleton_append, ← List.append_assoc]
  split
  · rename_i ht
    exact (dropEndWhile_append_of_eq_nil _ ht).trans (lineContent_append_newline w)
  · rename_i ht
    refine (dropEndWhile_append_of_ne_nil _ ht).trans ?_
    rw [List.append_assoc, List.singleton_append]
    rfl

theorem isEmptyLine_concat {c : Char} (hc : isLineEnd c = true) (w : Text) :
    isEmptyLine (w ++ [c]) = isEmptyLine w := by
  unfold isEmptyLine
  rw [lineContent_concat hc]

@[simp] theorem isEmptyLine_append_newline (w : Text) :
    isEmptyLine (w ++ ['\n']) = isEmptyLine w := isEmptyLine_concat rfl w

end SqlVocabulary.Text
