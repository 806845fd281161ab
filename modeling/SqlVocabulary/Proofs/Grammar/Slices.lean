import SqlVocabulary.Proofs.Grammar.EmptyLines
import SqlVocabulary.Proofs.Grammar.Rendering
import SqlVocabulary.Proofs.Grammar.Tokens

/-!
# Blocks as slices of a document

Cutting a document into blocks is undone by writing the blocks with an empty line between them, and
what it leaves out are line ends.

1. A block other than the first starts with a character other than a blank
   (`isFlush_of_mem_tail_blocks`), and no block comes apart. So blocks that are joined by an empty
   line are found again (`blocks_join`).
2. Line ends apart, the blocks make up the document (`withoutLineEnds_flatten_blocks`).
3. A block can be cut out of the document by offsets alone, those at which its lines start
   (`partRanges`): what is read so far is a part up to an offset, and empty lines from there on
   (`EmptyFrom`), and each line keeps it so. So the ranges that are found cut the blocks out
   (`cutOut_partRanges`).
-/

namespace SqlVocabulary

/-! ## Flush texts -/

theorem isFlush_of_mem_cutText {a : Bool} {t part : Text} (h : part ∈ (cutText a t).2) :
    isFlush part = true := by
  induction t using Text.line_induction generalizing a with
  | last w hw =>
    rw [cutText_of_not_mem hw] at h
    split at h
    · rename_i hflush
      rw [List.mem_singleton.1 h]
      exact (Bool.and_eq_true_iff.1 hflush).2
    · cases h
  | line w t hw ih =>
    rw [cutText_line hw] at h
    split at h
    · rename_i hflush
      rcases List.mem_cons.1 h with rfl | h
      · exact isFlush_append (Bool.and_eq_true_iff.1 hflush).2 _
      · exact ih h
    · exact ih h

theorem isFlush_of_mem_tail_blocks {t b : Text} (h : b ∈ (blocks t).tail) : isFlush b = true := by
  have hothers : b ∈ contents (cutText false t).2 := by
    rw [blocks_eq, contents_cons, contents_singleton] at h
    split at h
    · exact List.mem_of_mem_tail h
    · exact h
  obtain ⟨part, hpart, rfl⟩ := List.mem_map.1 (List.mem_filter.1 hothers).1
  rw [isFlush_lineContent]
  exact isFlush_of_mem_cutText hpart

/-! ## Blocks joined by an empty line -/

/-- Blocks that are joined by an empty line are found again, if none but the first is indented. -/
theorem blocks_join {bs : List Text} (h : ∀ b ∈ bs, IsBlock b)
    (hflush : ∀ b ∈ bs.tail, isFlush b = true) : blocks (Text.join ['\n', '\n'] bs) = bs := by
  induction bs with
  | nil => rfl
  | cons b bs ih =>
    obtain ⟨hb, hbs⟩ := List.forall_mem_cons.1 h
    cases bs with
    | nil => exact hb.blocks_eq
    | cons b' bs =>
      have hrest := ih hbs fun v hv => hflush v (List.mem_of_mem_tail hv)
      have hnext : isFlush (Text.join ['\n', '\n'] (b' :: bs)) = true := by
        have hb' : isFlush b' = true := hflush b' List.mem_cons_self
        cases bs with
        | nil => exact hb'
        | cons v vs => exact isFlush_append (isFlush_append hb' _) _
      obtain ⟨c, hc, hblank⟩ := exists_head?_of_isFlush hnext
      have hjoin : Text.join ['\n', '\n'] (b :: b' :: bs) =
          b ++ '\n' :: '\n' :: Text.join ['\n', '\n'] (b' :: bs) := by
        simp [Text.join]
      rw [hjoin, blocks_append (cutText_of_head? hc hblank), hb.blocks_eq, hrest]
      rfl

/-! ## What is left out -/

/-- A text without its line ends, wherever they stand. -/
def withoutLineEnds (t : Text) : Text := t.filter fun c => !Text.isLineEnd c

theorem withoutLineEnds_append (s t : Text) :
    withoutLineEnds (s ++ t) = withoutLineEnds s ++ withoutLineEnds t := List.filter_append ..

theorem withoutLineEnds_lineContent (t : Text) :
    withoutLineEnds t.lineContent = withoutLineEnds t := by
  obtain ⟨e, ht, he⟩ := Text.exists_eq_dropEndWhile_append Text.isLineEnd t
  change t = t.lineContent ++ e at ht
  have hnil : withoutLineEnds e = [] := by
    unfold withoutLineEnds
    simpa using he
  conv_rhs => rw [ht, withoutLineEnds_append, hnil, List.append_nil]

theorem withoutLineEnds_flatten_contents (parts : List Text) :
    withoutLineEnds (contents parts).flatten = withoutLineEnds parts.flatten := by
  induction parts with
  | nil => rfl
  | cons t parts ih =>
    have hpart : withoutLineEnds (contents [t]).flatten = withoutLineEnds t := by
      rw [← withoutLineEnds_lineContent t, contents_singleton]
      split
      · rename_i hnil
        rw [hnil]
        rfl
      · rw [List.flatten_singleton]
    rw [contents_cons, List.flatten_append, withoutLineEnds_append, ih, hpart, List.flatten_cons,
      withoutLineEnds_append]

theorem withoutLineEnds_flatten_blocks (t : Text) :
    withoutLineEnds (blocks t).flatten = withoutLineEnds t := by
  rw [blocks_eq, withoutLineEnds_flatten_contents, List.flatten_cons, flatten_cutText]

/-! ## Slices -/

/-- The ranges of the parts of a text, read off its lines and the offsets of these. The part that is
being read starts at `start`, and the empty lines at its end start at `emptyFrom`, if there are any;
a flush line below them starts the next part. -/
def partRanges (stop start : Nat) (emptyFrom : Option Nat) : List (Nat × Text) → List (Nat × Nat)
  | [] => [(start, stop)]
  | (offset, line) :: below =>
    if line.isEmptyLine then partRanges stop start (emptyFrom.or (some offset)) below
    else match emptyFrom with
      | none => partRanges stop start none below
      | some e =>
        if isFlush line then (start, e) :: partRanges stop offset none below
        else partRanges stop start none below

/-- The ranges of the parts of a document. -/
def blockRanges (t : Text) : List (Nat × Nat) :=
  partRanges t.byteSize 0 none (Text.located 0 t.lines)

section PartRanges

variable {stop start offset : Nat} {emptyFrom : Option Nat} {line : Text}
  {below : List (Nat × Text)}

theorem partRanges_of_isEmptyLine (h : line.isEmptyLine = true) :
    partRanges stop start emptyFrom ((offset, line) :: below) =
      partRanges stop start (emptyFrom.or (some offset)) below := by
  simp [partRanges, h]

theorem partRanges_of_isFlush {e : Nat} (h : isFlush line = true) :
    partRanges stop start (some e) ((offset, line) :: below) =
      (start, e) :: partRanges stop offset none below := by
  simp [partRanges, isEmptyLine_of_isFlush h, h]

theorem partRanges_of_not_boundary (hempty : line.isEmptyLine = false)
    (h : (emptyFrom.isSome && isFlush line) = false) :
    partRanges stop start emptyFrom ((offset, line) :: below) =
      partRanges stop start none below := by
  cases emptyFrom with
  | none => simp [partRanges, hempty]
  | some e =>
    have hflush : isFlush line = false := h
    simp [partRanges, hempty, hflush]

end PartRanges

/-- What has been read of a part, below the text `before`, ends with empty lines from an offset on,
if there is such an offset. -/
def EmptyFrom (before part : Text) : Option Nat → Prop
  | none => True
  | some e => ∃ body run, part = body ++ run ∧ (∀ c ∈ run, Text.isLineEnd c = true) ∧
      (before ++ body).byteSize = e

theorem EmptyFrom.append {before part line : Text} {emptyFrom : Option Nat}
    (h : EmptyFrom before part emptyFrom) (hempty : line.isEmptyLine = true) :
    EmptyFrom before (part ++ line) (emptyFrom.or (some (before ++ part).byteSize)) := by
  have hline : ∀ c ∈ line, Text.isLineEnd c = true :=
    Text.lineContent_eq_nil.1 (List.isEmpty_iff.1 hempty)
  cases emptyFrom with
  | none => exact ⟨part, line, rfl, hline, rfl⟩
  | some e =>
    obtain ⟨body, run, rfl, hrun, he⟩ := h
    exact ⟨body, run ++ line, List.append_assoc .., List.forall_mem_append.2 ⟨hrun, hline⟩, he⟩

/-- Ranges cut slices out of a text that have the contents of some parts. -/
def CutOut (t : Text) (ranges : List (Nat × Nat)) (parts : List Text) : Prop :=
  ∃ slices, List.Forall₂ (Token.SliceIs t) ranges slices ∧ contents slices = contents parts

theorem cutOut_singleton {t before part : Text} (ht : t = before ++ part) :
    CutOut t [(before.byteSize, t.byteSize)] [part] := by
  have hslice : Token.SliceIs t (before.byteSize, t.byteSize) part :=
    ⟨before, [], by rw [ht, List.append_nil], rfl, by rw [ht]⟩
  exact ⟨[part], .cons hslice .nil, rfl⟩

/-- The empty lines at the end of a part need not be cut out with it. -/
theorem CutOut.cons {t before body run below : Text} {ranges : List (Nat × Nat)}
    {parts : List Text} (h : CutOut t ranges parts) (ht : t = before ++ body ++ (run ++ below))
    (hrun : ∀ c ∈ run, Text.isLineEnd c = true) :
    CutOut t ((before.byteSize, (before ++ body).byteSize) :: ranges)
      ((body ++ run) :: parts) := by
  obtain ⟨slices, hslices, hcontents⟩ := h
  have hslice : Token.SliceIs t (before.byteSize, (before ++ body).byteSize) body :=
    ⟨before, run ++ below, ht, rfl, rfl⟩
  have hcontent : Text.lineContent body = Text.lineContent (body ++ run) :=
    (Text.dropEndWhile_append_of_eq_nil body (Text.dropEndWhile_eq_nil.2 hrun)).symm
  refine ⟨body :: slices, .cons hslice hslices, ?_⟩
  rw [contents_cons, contents_congr hcontent, hcontents, ← contents_cons]

/-- Below `before` and what has been read of a part, the ranges cut out the parts that the lines are
cut into. -/
theorem cutOut_partRanges {t : Text} {ls : List Text} (before part : Text)
    {emptyFrom : Option Nat} (ht : t = before ++ part ++ ls.flatten)
    (h : EmptyFrom before part emptyFrom) :
    CutOut t
      (partRanges t.byteSize before.byteSize emptyFrom
        (Text.located (before ++ part).byteSize ls))
      ((part ++ (cutLines emptyFrom.isSome ls).1) :: (cutLines emptyFrom.isSome ls).2) := by
  induction ls generalizing before part emptyFrom with
  | nil =>
    rw [List.flatten_nil, List.append_nil] at ht
    rw [cutLines, List.append_nil]
    exact cutOut_singleton ht
  | cons line ls ih =>
    have hsize : ∀ s : Text, s.byteSize + line.byteSize = (s ++ line).byteSize :=
      fun s => (Text.byteSize_append s line).symm
    rw [Text.located, cutLines_cons, hsize]
    cases hempty : line.isEmptyLine with
    | true =>
      have hrest := ih before (part ++ line) (by simp [ht]) (h.append hempty)
      rw [Option.isSome_or, Option.isSome_some, Bool.or_true, ← List.append_assoc before,
        List.append_assoc part] at hrest
      rw [partRanges_of_isEmptyLine hempty, isFlush_of_isEmptyLine hempty, Bool.and_false,
        if_neg Bool.false_ne_true]
      exact hrest
    | false =>
      by_cases hboundary : (emptyFrom.isSome && isFlush line) = true
      · -- the line starts a part, and the empty lines above it end the one before
        obtain ⟨hsome, hflush⟩ := Bool.and_eq_true_iff.1 hboundary
        obtain ⟨e, rfl⟩ := Option.isSome_iff_exists.1 hsome
        obtain ⟨body, run, rfl, hrun, rfl⟩ := h
        have hbelow : t = before ++ body ++ (run ++ (line :: ls).flatten) := by simp [ht]
        have hread : EmptyFrom (before ++ (body ++ run)) line none := trivial
        have hrest := ih (before ++ (body ++ run)) line (by simp [ht]) hread
        rw [partRanges_of_isFlush hflush, if_pos hboundary, List.append_nil]
        exact hrest.cons hbelow hrun
      · have hread : EmptyFrom before (part ++ line) none := trivial
        have hrest := ih before (part ++ line) (by simp [ht]) hread
        rw [← List.append_assoc before, List.append_assoc part] at hrest
        rw [partRanges_of_not_boundary hempty (Bool.eq_false_iff.2 hboundary), if_neg hboundary]
        exact hrest

theorem exists_slices (t : Text) :
    ∃ slices, List.Forall₂ (Token.SliceIs t) (blockRanges t) slices ∧
      contents slices = blocks t := by
  have hread : EmptyFrom [] [] none := trivial
  exact cutOut_partRanges [] [] (Text.flatten_lines t).symm hread

/-- **Splitting.** The blocks of a document, with an empty line between them, have the same blocks.
Each of them is its own only block, is not empty and ends with no line end. Line ends apart, they
make up the document, and they are the contents of slices of it that are found by offsets. -/
theorem blocks_canonical (t : Text) :
    blocks (Text.join ['\n', '\n'] (blocks t)) = blocks t ∧
    (∀ b ∈ blocks t,
      blocks b = [b] ∧ b ≠ [] ∧ ∀ c ∈ b.getLast?, Text.isLineEnd c = false) ∧
    withoutLineEnds (blocks t).flatten = withoutLineEnds t ∧
    ∃ slices, List.Forall₂ (Token.SliceIs t) (blockRanges t) slices ∧
      contents slices = blocks t := by
  refine ⟨?_, fun b hb => ?_, withoutLineEnds_flatten_blocks t, exists_slices t⟩
  · exact blocks_join (fun _ hb => isBlock_of_mem_blocks hb)
      fun _ hb => isFlush_of_mem_tail_blocks hb
  · have hblock := isBlock_of_mem_blocks hb
    exact ⟨hblock.blocks_eq, hblock.ne_nil, Text.lineContent_eq_self_iff.1 hblock.trimmed⟩

/-- A document that starts with empty and indented lines, with line ends of all kinds. -/
def ragged : Text := "\r\n \n\n\r\n  é\n\nfoo\r\r\n\r\n\n bar\n\n\n<b> ::=\n\t|\n\r".toList

/-- The first block keeps what it starts with, and the second one its empty lines. -/
theorem blocks_canonical_ragged :
    blocks ragged = ["\r\n \n\n\r\n  é".toList, "foo\r\r\n\r\n\n bar".toList,
      "<b> ::=\n\t|".toList] ∧
    blockRanges ragged = [(0, 12), (13, 27), (29, 41)] ∧
    blocks "foo\r\r\n\r\n\n bar".toList = ["foo\r\r\n\r\n\n bar".toList] := by
  have hblocks : blocks ragged = ["\r\n \n\n\r\n  é".toList, "foo\r\r\n\r\n\n bar".toList,
      "<b> ::=\n\t|".toList] := by decide +kernel
  have hmem : "foo\r\r\n\r\n\n bar".toList ∈ blocks ragged := by
    rw [hblocks]
    exact List.mem_cons_of_mem _ List.mem_cons_self
  exact ⟨hblocks, by decide +kernel, ((blocks_canonical ragged).2.1 _ hmem).1⟩

end SqlVocabulary
