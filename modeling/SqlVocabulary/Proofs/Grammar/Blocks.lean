import SqlVocabulary.Grammar.Block
import SqlVocabulary.Proofs.Text.Lines

/-!
# Cutting a document into blocks

A document is cut line by line, and the cut of a text depends on what stands before it in one thing
alone: whether that ends with an empty line (`cutText_line`).

1. A block is unbroken: nothing in it starts a new one (`isBlock_of_mem_blocks`). An unbroken text
   is one block (`blocks_of_unbroken`).
2. Two texts with an empty line between them are cut apart, unless the second carries on with the
   first (`blocks_append`).
-/

namespace SqlVocabulary

theorem isFlush_concat {c : Char} (hc : Text.isLineEnd c = true) (w : Text) :
    isFlush (w ++ [c]) = isFlush w := by
  unfold isFlush
  rw [Text.lineContent_concat hc]

@[simp] theorem isFlush_append_newline (w : Text) : isFlush (w ++ ['\n']) = isFlush w :=
  isFlush_concat rfl w

@[simp] theorem isFlush_lineContent (w : Text) : isFlush w.lineContent = isFlush w := by
  unfold isFlush
  rw [Text.lineContent_lineContent]

/-! ## The cut of a text -/

/-- A text cut into what carries on with the block before it and the blocks that start in it. -/
def cutText (afterEmpty : Bool) (t : Text) : Text × List Text := cutLines afterEmpty t.lines

theorem cutText_of_not_mem {w : Text} (hw : '\n' ∉ w) (a : Bool) :
    cutText a w = if (a && isFlush w) = true then ([], [w]) else (w, []) := by
  by_cases hne : w = []
  · subst hne
    cases a <;> rfl
  · unfold cutText
    rw [Text.lines_of_not_mem hw hne]
    simp [cutLines]

theorem cutText_line {w : Text} (hw : '\n' ∉ w) (t : Text) (a : Bool) :
    cutText a (w ++ '\n' :: t) =
      if (a && isFlush w) = true then
        ([], (w ++ '\n' :: (cutText w.isEmptyLine t).1) :: (cutText w.isEmptyLine t).2)
      else (w ++ '\n' :: (cutText w.isEmptyLine t).1, (cutText w.isEmptyLine t).2) := by
  unfold cutText
  rw [Text.lines_line hw]
  simp [cutLines]

theorem flatten_cutText (a : Bool) (t : Text) :
    (cutText a t).1 ++ (cutText a t).2.flatten = t := by
  induction t using Text.line_induction generalizing a with
  | last w hw =>
    rw [cutText_of_not_mem hw]
    split <;> simp
  | line w t hw ih =>
    rw [cutText_line hw]
    split <;> simp [ih]

/-! ## Unbroken texts -/

/-- Nothing in a text starts a new block. -/
def Unbroken (afterEmpty : Bool) (t : Text) : Prop := (cutText afterEmpty t).2 = []

theorem unbroken_of_not_mem {w : Text} (hw : '\n' ∉ w) {a : Bool} :
    Unbroken a w ↔ (a && isFlush w) = false := by
  unfold Unbroken
  rw [cutText_of_not_mem hw]
  cases a && isFlush w <;> simp

theorem unbroken_line {w : Text} (hw : '\n' ∉ w) {t : Text} {a : Bool} :
    Unbroken a (w ++ '\n' :: t) ↔ (a && isFlush w) = false ∧ Unbroken w.isEmptyLine t := by
  unfold Unbroken
  rw [cutText_line hw]
  cases a && isFlush w <;> simp

theorem unbroken_cutText (a : Bool) (t : Text) :
    Unbroken a (cutText a t).1 ∧ ∀ b ∈ (cutText a t).2, Unbroken false b := by
  induction t using Text.line_induction generalizing a with
  | last w hw =>
    rw [cutText_of_not_mem hw]
    split
    · refine ⟨by cases a <;> rfl, ?_⟩
      intro b hb
      rw [List.mem_singleton.1 hb]
      exact (unbroken_of_not_mem hw).2 rfl
    · rename_i hflush
      exact ⟨(unbroken_of_not_mem hw).2 (by simpa using hflush), by simp⟩
  | line w t hw ih =>
    obtain ⟨hfirst, hothers⟩ := ih w.isEmptyLine
    rw [cutText_line hw]
    split
    · refine ⟨by cases a <;> rfl, ?_⟩
      intro b hb
      rcases List.mem_cons.1 hb with rfl | hb
      · exact (unbroken_line hw).2 ⟨rfl, hfirst⟩
      · exact hothers b hb
    · rename_i hflush
      exact ⟨(unbroken_line hw).2 ⟨by simpa using hflush, hfirst⟩, hothers⟩

theorem Unbroken.lineContent {a : Bool} {t : Text} (h : Unbroken a t) :
    Unbroken a t.lineContent := by
  have hone : ∀ {w : Text} {a : Bool}, '\n' ∉ w → (a && isFlush w) = false →
      Unbroken a w.lineContent := by
    intro w a hw hflush
    rw [unbroken_of_not_mem (Text.not_mem_lineContent hw), isFlush_lineContent]
    exact hflush
  induction t using Text.line_induction generalizing a with
  | last w hw => exact hone hw ((unbroken_of_not_mem hw).1 h)
  | line w t hw ih =>
    obtain ⟨hflush, ht⟩ := (unbroken_line hw).1 h
    rw [Text.lineContent_line]
    split
    · exact hone hw hflush
    · exact (unbroken_line hw).2 ⟨hflush, ih ht⟩

/-! ## Blocks -/

/-- The texts of some parts of a document, without the line ends at their ends. Parts without a text
are left out. -/
def contents (parts : List Text) : List Text :=
  (parts.map Text.lineContent).filter fun b => !b.isEmpty

theorem contents_cons (t : Text) (parts : List Text) :
    contents (t :: parts) = contents [t] ++ contents parts := by
  unfold contents
  rw [← List.singleton_append, List.map_append, List.filter_append]

theorem contents_singleton (t : Text) :
    contents [t] = if t.lineContent = [] then [] else [t.lineContent] := by
  by_cases h : t.lineContent = [] <;> simp [contents, h]

theorem contents_congr {s t : Text} (h : s.lineContent = t.lineContent) :
    contents [s] = contents [t] := by
  rw [contents_singleton, contents_singleton, h]

theorem blocks_eq (t : Text) :
    blocks t = contents ((cutText false t).1 :: (cutText false t).2) := rfl

/-- A text that is not empty, with no line end at its end, in which nothing starts a new block. -/
structure IsBlock (b : Text) : Prop where
  ne_nil : b ≠ []
  trimmed : b.lineContent = b
  unbroken : Unbroken false b

theorem isBlock_of_mem_blocks {b t : Text} (h : b ∈ blocks t) : IsBlock b := by
  rw [blocks_eq, contents, List.mem_filter, List.mem_map] at h
  obtain ⟨⟨part, hpart, rfl⟩, hne⟩ := h
  refine ⟨by simpa using hne, Text.lineContent_lineContent part, Unbroken.lineContent ?_⟩
  obtain ⟨hfirst, hothers⟩ := unbroken_cutText false t
  rcases List.mem_cons.1 hpart with rfl | hpart
  · exact hfirst
  · exact hothers part hpart

theorem blocks_of_unbroken {t : Text} (h : Unbroken false t) (hne : t.lineContent ≠ []) :
    blocks t = [t.lineContent] := by
  have hfirst : (cutText false t).1 = t := by
    have hcut := flatten_cutText false t
    rw [h, List.flatten_nil, List.append_nil] at hcut
    exact hcut
  rw [blocks_eq, hfirst, h, contents_singleton, if_neg hne]

theorem IsBlock.blocks_eq {b : Text} (h : IsBlock b) : blocks b = [b] := by
  have hcut := blocks_of_unbroken h.unbroken (by rw [h.trimmed]; exact h.ne_nil)
  rwa [h.trimmed] at hcut

/-- Where nothing of a text carries on with the block before it, its blocks are those of the text
alone. -/
theorem contents_cutText {t : Text} (h : (cutText true t).1 = []) :
    contents (cutText true t).2 = blocks t := by
  rw [blocks_eq]
  induction t using Text.line_induction with
  | last w hw =>
    rw [cutText_of_not_mem hw] at h ⊢
    rw [cutText_of_not_mem hw]
    split at h
    · rename_i hflush
      simp [hflush]
    · obtain rfl : w = [] := h
      rfl
  | line w t hw _ =>
    rw [cutText_line hw] at h ⊢
    rw [cutText_line hw]
    split at h
    · rename_i hflush
      simp [hflush]
    · simp at h

/-- **Two texts, an empty line between them.** The cut of the first one is not changed by the
second, and the second is cut on its own. -/
theorem cutText_append {t : Text} (ht : (cutText true t).1 = []) (a : Bool) (s : Text) :
    (cutText a (s ++ '\n' :: '\n' :: t)).1.lineContent = (cutText a s).1.lineContent ∧
      contents (cutText a (s ++ '\n' :: '\n' :: t)).2 = contents (cutText a s).2 ++ blocks t := by
  -- the empty line and what follows it
  have hempty : ∀ e, cutText e ('\n' :: t) = (['\n'], (cutText true t).2) := by
    intro e
    have hline := cutText_line (w := []) (by simp) t e
    rw [List.nil_append, if_neg (by cases e <;> decide)] at hline
    rw [hline, List.nil_append]
    change ('\n' :: (cutText true t).1, (cutText true t).2) = _
    rw [ht]
  have hends : ∀ w : Text, Text.lineContent (w ++ ['\n', '\n']) = w.lineContent := by
    intro w
    rw [List.append_cons, Text.lineContent_append_newline, Text.lineContent_append_newline]
  induction s using Text.line_induction generalizing a with
  | last w hw =>
    rw [cutText_line hw, hempty, cutText_of_not_mem hw]
    split
    · refine ⟨rfl, ?_⟩
      rw [contents_cons, contents_cutText ht, contents_congr (hends w)]
    · exact ⟨hends w, contents_cutText ht⟩
  | line w s hw ih =>
    obtain ⟨hfirst, hothers⟩ := ih w.isEmptyLine
    have hline :
        Text.lineContent (w ++ '\n' :: (cutText w.isEmptyLine (s ++ '\n' :: '\n' :: t)).1) =
          Text.lineContent (w ++ '\n' :: (cutText w.isEmptyLine s).1) := by
      rw [Text.lineContent_line, Text.lineContent_line, hfirst]
    rw [List.append_assoc, List.cons_append, cutText_line hw, cutText_line hw]
    split
    · refine ⟨rfl, ?_⟩
      rw [contents_cons, contents_cons _ (cutText w.isEmptyLine s).2, contents_congr hline, hothers,
        List.append_assoc]
    · exact ⟨hline, hothers⟩

theorem blocks_append {t : Text} (ht : (cutText true t).1 = []) (s : Text) :
    blocks (s ++ '\n' :: '\n' :: t) = blocks s ++ blocks t := by
  obtain ⟨hfirst, hothers⟩ := cutText_append ht false s
  rw [blocks_eq, contents_cons, contents_congr hfirst, hothers, ← List.append_assoc,
    ← contents_cons, ← blocks_eq]

end SqlVocabulary
