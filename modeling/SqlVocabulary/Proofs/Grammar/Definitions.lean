import Mathlib.Data.List.Nodup
import SqlVocabulary.Grammar.Basic
import SqlVocabulary.Proofs.FirstOccurrences
import SqlVocabulary.Proofs.Grammar.Blocks
import SqlVocabulary.Proofs.Grammar.Header

/-!
# The definitions of a document

A document defines a rule at each header line that is its first line or comes after an empty one,
and the body of the rule is what stands below, up to the next boundary (`definitions`). This is a
reading of the document line by line, without blocks.

1. The blocks of a document define the same rules (`filterMap_blocks`).
2. Rules that are defined one after the other make a grammar with each name once, where it came
   up first, and with its last body (`defineAll_empty`).
3. So the grammar of a document follows from its definitions, and from nothing else in it
   (`ofText_definitions`).
-/

namespace SqlVocabulary

/-! ## Reading a document line by line -/

/-- A boundary is a line below an empty one that is itself neither empty nor indented. -/
def isBoundary (above line : Text) : Bool :=
  above.isEmptyLine && (!line.isEmptyLine && line.head?.all fun c => !Text.isSpace c)

/-- The lines below a line, up to the next boundary. -/
def upToBoundary (above : Text) : List Text → List Text
  | [] => []
  | line :: below => if isBoundary above line then [] else line :: upToBoundary line below

/-- The rule that a line defines, which must be the first line or below an empty one. The body is
what follows up to the next boundary, without the line ends at its end. -/
def definitionAt? (above : Option Text) (line : Text) (below : List Text) : Option Rule :=
  if above.all Text.isEmptyLine then
    (headerName? line).map fun n =>
      ⟨n, Text.dropEndWhile Text.isLineEnd (upToBoundary line below).flatten⟩
  else none

/-- The rules that some lines define, in order. -/
def definitionsBelow (above : Option Text) : List Text → List Rule
  | [] => []
  | line :: below => (definitionAt? above line below).toList ++ definitionsBelow (some line) below

/-- The rules that a document defines, in order, those that are defined again included. -/
def definitions (document : Text) : List Rule := definitionsBelow none document.lines

theorem isFlush_eq (line : Text) :
    isFlush line = (!line.isEmptyLine && line.head?.all fun c => !Text.isSpace c) := by
  obtain ⟨e, hline, -⟩ := Text.exists_eq_dropEndWhile_append Text.isLineEnd line
  change line = line.lineContent ++ e at hline
  unfold isFlush Text.isEmptyLine
  cases hc : line.lineContent with
  | nil => rfl
  | cons c rest =>
    rw [hc] at hline
    rw [hline]
    rfl

theorem isBoundary_eq (above line : Text) :
    isBoundary above line = (above.isEmptyLine && isFlush line) := by
  rw [isBoundary, isFlush_eq]

theorem isEmptyLine_of_isFlush {line : Text} (h : isFlush line = true) :
    line.isEmptyLine = false := by
  rw [isFlush_eq, Bool.and_eq_true] at h
  simpa using h.1

theorem isSpace_of_isLineEnd {c : Char} (h : Text.isLineEnd c = true) : Text.isSpace c = true := by
  simp only [Text.isLineEnd, Bool.or_eq_true, beq_iff_eq] at h
  rcases h with rfl | rfl <;> decide

theorem isFlush_of_head? {line : Text} {c : Char} (h : line.head? = some c)
    (hc : Text.isSpace c = false) : isFlush line = true := by
  have hnonempty : line.isEmptyLine = false := by
    by_contra hempty
    rw [Bool.not_eq_false, Text.isEmptyLine, List.isEmpty_iff, Text.lineContent_eq_nil] at hempty
    rw [isSpace_of_isLineEnd (hempty c (List.mem_of_head? h))] at hc
    cases hc
  rw [isFlush_eq, hnonempty, h]
  simp [hc]

theorem exists_head?_of_isFlush {t : Text} (h : isFlush t = true) :
    ∃ c, t.head? = some c ∧ Text.isSpace c = false := by
  rw [isFlush_eq, Bool.and_eq_true] at h
  obtain ⟨hnonempty, hhead⟩ := h
  cases t with
  | nil => cases hnonempty
  | cons c t => exact ⟨c, rfl, by simpa using hhead⟩

theorem isFlush_append {s : Text} (h : isFlush s = true) (t : Text) : isFlush (s ++ t) = true := by
  obtain ⟨c, hc, hblank⟩ := exists_head?_of_isFlush h
  refine isFlush_of_head? ?_ hblank
  rw [List.head?_append, hc]
  rfl

theorem isFlush_of_headerName? {line : Text} {n : Nonterminal} (h : headerName? line = some n) :
    isFlush line = true :=
  isFlush_of_head? (head?_of_headerName? h) (by decide)

theorem definitionAt?_none (line : Text) (below : List Text) :
    definitionAt? none line below = (headerName? line).map fun n =>
      ⟨n, Text.dropEndWhile Text.isLineEnd (upToBoundary line below).flatten⟩ := rfl

theorem definitionAt?_of_boundary {above line : Text} (below : List Text)
    (h : isBoundary above line = true) :
    definitionAt? (some above) line below = definitionAt? none line below := by
  have habove : above.isEmptyLine = true := (Bool.and_eq_true_iff.1 h).1
  unfold definitionAt?
  rw [Option.all_some, habove, Option.all_none]

theorem definitionAt?_of_not_boundary {above line : Text} (below : List Text)
    (h : isBoundary above line = false) : definitionAt? (some above) line below = none := by
  unfold definitionAt?
  rw [isBoundary_eq] at h
  split
  · rename_i habove
    have hflush : isFlush line = false := by
      rw [show above.isEmptyLine = true from habove] at h
      exact h
    rcases hn : headerName? line with _ | n
    · rfl
    · rw [isFlush_of_headerName? hn] at hflush
      cases hflush
  · rfl

/-! ## The rule of a block -/

def Rule.ofBlock? (block : Text) : Option Rule :=
  (headerName? (blockHeader block)).map fun n => ⟨n, blockBody block⟩

theorem ne_newline_of_not_mem {w : Text} (hw : '\n' ∉ w) : ∀ c ∈ w, (c != '\n') = true := by
  intro c hc
  simpa using fun h : c = '\n' => hw (h ▸ hc)

theorem ofBlock?_of_not_mem {w : Text} (hw : '\n' ∉ w) :
    Rule.ofBlock? w = (headerName? w).map fun n => ⟨n, []⟩ := by
  have hne := ne_newline_of_not_mem hw
  unfold Rule.ofBlock? blockHeader blockBody
  rw [List.takeWhile_eq_self_iff.2 hne, List.dropWhile_eq_nil_iff.2 hne]
  rfl

theorem ofBlock?_line {w : Text} (hw : '\n' ∉ w) (t : Text) :
    Rule.ofBlock? (w ++ '\n' :: t) = (headerName? w).map fun n => ⟨n, t⟩ := by
  have hne := ne_newline_of_not_mem hw
  unfold Rule.ofBlock? blockHeader blockBody
  rw [List.takeWhile_append_of_pos hne, List.dropWhile_append_of_pos hne]
  simp

theorem headerName?_lineContent (w : Text) : headerName? w.lineContent = headerName? w := by
  obtain ⟨e, hw, he⟩ := Text.exists_eq_dropEndWhile_append Text.isLineEnd w
  conv_rhs => rw [hw, headerName?_append _ fun c hc => isSpace_of_isLineEnd (he c hc)]
  rfl

theorem ofBlock?_lineContent_line {w : Text} (hw : '\n' ∉ w) (t : Text) :
    Rule.ofBlock? (Text.lineContent (w ++ '\n' :: t)) =
      (headerName? w).map fun n => ⟨n, t.lineContent⟩ := by
  rw [Text.lineContent_line]
  split
  · rename_i ht
    rw [ofBlock?_of_not_mem (Text.not_mem_lineContent hw), headerName?_lineContent, ht]
  · rw [ofBlock?_line hw]

theorem ofBlock?_lineContent_of_not_mem {w : Text} (hw : '\n' ∉ w) :
    Rule.ofBlock? w.lineContent = (headerName? w).map fun n => ⟨n, []⟩ := by
  rw [ofBlock?_of_not_mem (Text.not_mem_lineContent hw), headerName?_lineContent]

theorem filterMap_contents_cons (t : Text) (parts : List Text) :
    (contents (t :: parts)).filterMap Rule.ofBlock? =
      (Rule.ofBlock? t.lineContent).toList ++ (contents parts).filterMap Rule.ofBlock? := by
  rw [contents_cons, List.filterMap_append, contents_singleton]
  congr 1
  split
  · rename_i h
    rw [h]
    rfl
  · simp only [List.filterMap_cons, List.filterMap_nil]
    cases Rule.ofBlock? t.lineContent <;> rfl

/-! ## Blocks and lines -/

/-- Below a line, the cut of a text is a reading of its lines: what carries on runs up to the next
boundary, and the blocks define what the lines do. -/
theorem cutText_eq (above t : Text) :
    (cutText above.isEmptyLine t).1 = (upToBoundary above t.lines).flatten ∧
      (contents (cutText above.isEmptyLine t).2).filterMap Rule.ofBlock? =
        definitionsBelow (some above) t.lines := by
  induction t using Text.line_induction generalizing above with
  | last w hw =>
    by_cases hne : w = []
    · subst hne
      cases h : above.isEmptyLine <;> exact ⟨rfl, rfl⟩
    · rw [cutText_of_not_mem hw, Text.lines_of_not_mem hw hne, ← isBoundary_eq]
      cases hb : isBoundary above w with
      | true =>
        simp only [upToBoundary, definitionsBelow, definitionAt?_of_boundary _ hb,
          definitionAt?_none, hb, if_true, filterMap_contents_cons,
          ofBlock?_lineContent_of_not_mem hw]
        exact ⟨rfl, rfl⟩
      | false =>
        simp only [upToBoundary, definitionsBelow, definitionAt?_of_not_boundary _ hb, hb,
          Bool.false_eq_true, if_false]
        exact ⟨by simp, rfl⟩
  | line w t hw ih =>
    obtain ⟨hfirst, hothers⟩ := ih (w ++ ['\n'])
    rw [Text.isEmptyLine_append_newline] at hfirst hothers
    rw [cutText_line hw, Text.lines_line hw, ← isFlush_append_newline, ← isBoundary_eq]
    cases hb : isBoundary above (w ++ ['\n']) with
    | true =>
      simp only [upToBoundary, definitionsBelow, definitionAt?_of_boundary _ hb,
        definitionAt?_none, hb, if_true, filterMap_contents_cons, ofBlock?_lineContent_line hw,
        headerName?_append_newline, hfirst, hothers]
      exact ⟨rfl, rfl⟩
    | false =>
      simp only [upToBoundary, definitionsBelow, definitionAt?_of_not_boundary _ hb, hb,
        Bool.false_eq_true, if_false, hfirst, hothers]
      exact ⟨by simp, rfl⟩

/-- **Blocks.** The blocks of a document define the rules that its lines do. -/
theorem filterMap_blocks (document : Text) :
    (blocks document).filterMap Rule.ofBlock? = definitions document := by
  unfold definitions
  rw [blocks_eq, filterMap_contents_cons]
  induction document using Text.line_induction with
  | last w hw =>
    by_cases hne : w = []
    · subst hne
      rfl
    · rw [cutText_of_not_mem hw, Text.lines_of_not_mem hw hne]
      simp only [Bool.false_and, Bool.false_eq_true, if_false,
        ofBlock?_lineContent_of_not_mem hw]
      rfl
  | line w t hw _ =>
    obtain ⟨hfirst, hothers⟩ := cutText_eq (w ++ ['\n']) t
    rw [Text.isEmptyLine_append_newline] at hfirst hothers
    rw [cutText_line hw, Text.lines_line hw]
    simp only [Bool.false_and, Bool.false_eq_true, if_false, definitionsBelow, definitionAt?_none,
      headerName?_append_newline, ofBlock?_lineContent_line hw, hfirst, hothers]
    rfl

/-- Two documents, an empty line between them, define what the one does and then what the other
does, unless the second one carries on with the last block of the first. -/
theorem definitions_append {t : Text} (ht : (cutText true t).1 = []) (s : Text) :
    definitions (s ++ '\n' :: '\n' :: t) = definitions s ++ definitions t := by
  simp only [← filterMap_blocks, blocks_append ht, List.filterMap_append]

/-! ## Rules defined one after the other -/

def lastDefinition? (ds : List Rule) (n : Nonterminal) : Option Rule :=
  ds.reverse.find? fun d => d.name == n

/-- Each name that some definitions define, once, in the order of the first definitions, with the
body of the last one. -/
def lastRules (ds : List Rule) : List Rule :=
  (ds.map (·.name)).eraseDups.filterMap (lastDefinition? ds)

/-- The names of the definitions of a name that an earlier one has defined, in order. -/
def redefined (ds : List Rule) : List Nonterminal :=
  (ds.zipIdx.filter fun d => d.1.name ∈ (ds.take d.2).map (·.name)).map (·.1.name)

theorem lastDefinition?_append (ds es : List Rule) (n : Nonterminal) :
    lastDefinition? (ds ++ es) n = (lastDefinition? es n).or (lastDefinition? ds n) := by
  unfold lastDefinition?
  rw [List.reverse_append, List.find?_append]

theorem lastDefinition?_append_singleton (ds : List Rule) (d : Rule) (n : Nonterminal) :
    lastDefinition? (ds ++ [d]) n = if d.name = n then some d else lastDefinition? ds n := by
  rw [lastDefinition?_append]
  by_cases h : d.name = n <;> simp [lastDefinition?, h]

theorem map_name_lastDefinition? {ds : List Rule} {n : Nonterminal}
    (h : n ∈ (ds.map (·.name)).eraseDups) : (lastDefinition? ds n).map (·.name) = some n := by
  obtain ⟨d, hd, rfl⟩ := List.mem_map.1 (List.mem_eraseDups.1 h)
  have hsome : (lastDefinition? ds d.name).isSome :=
    List.find?_isSome.2 ⟨d, List.mem_reverse.2 hd, by simp⟩
  obtain ⟨r, hr⟩ := Option.isSome_iff_exists.1 hsome
  rw [hr]
  have hname := List.find?_some hr
  exact congrArg some (beq_iff_eq.1 hname)

theorem map_name_lastRules (ds : List Rule) :
    (lastRules ds).map (·.name) = (ds.map (·.name)).eraseDups := by
  unfold lastRules
  rw [List.map_filterMap, List.filterMap_congr fun n hn => map_name_lastDefinition? hn,
    List.filterMap_some]

theorem lastRules_append_of_mem {ds : List Rule} {d : Rule} (h : d.name ∈ ds.map (·.name)) :
    lastRules (ds ++ [d]) = Grammar.replaceBody d.name d.body (lastRules ds) := by
  unfold lastRules Grammar.replaceBody
  rw [List.map_append, List.map_singleton, eraseDups_append_singleton, if_pos h, List.append_nil,
    List.map_filterMap]
  refine List.filterMap_congr fun n hn => ?_
  obtain ⟨r, hr, rfl⟩ := Option.map_eq_some_iff.1 (map_name_lastDefinition? hn)
  rw [lastDefinition?_append_singleton, hr, Option.map_some]
  by_cases hd : d.name = r.name
  · rw [if_pos hd, if_pos hd.symm, ← hd]
  · rw [if_neg hd, if_neg (Ne.symm hd)]

theorem lastRules_append_of_not_mem {ds : List Rule} {d : Rule}
    (h : d.name ∉ ds.map (·.name)) : lastRules (ds ++ [d]) = lastRules ds ++ [d] := by
  unfold lastRules
  rw [List.map_append, List.map_singleton, eraseDups_append_singleton, if_neg h,
    List.filterMap_append]
  congr 1
  · refine List.filterMap_congr fun n hn => ?_
    rw [lastDefinition?_append_singleton, if_neg]
    rintro rfl
    exact h (List.mem_eraseDups.1 hn)
  · simp [lastDefinition?_append_singleton]

theorem redefined_append_singleton (ds : List Rule) (d : Rule) :
    redefined (ds ++ [d]) =
      redefined ds ++ if d.name ∈ ds.map (·.name) then [d.name] else [] := by
  have hearlier :
      (ds.zipIdx.filter fun e => e.1.name ∈ ((ds ++ [d]).take e.2).map (·.name)) =
        ds.zipIdx.filter fun e => e.1.name ∈ (ds.take e.2).map (·.name) := by
    refine List.filter_congr fun e he => ?_
    obtain ⟨-, hi, -⟩ := List.mem_zipIdx he
    rw [List.take_append_of_le_length (by omega)]
  unfold redefined
  rw [List.zipIdx_append, List.filter_append, List.map_append, hearlier]
  congr 1
  by_cases h : d.name ∈ ds.map (·.name)
  · rw [if_pos h, List.zipIdx_singleton, List.filter_cons_of_pos (by simpa using h)]
    rfl
  · rw [if_neg h, List.zipIdx_singleton, List.filter_cons_of_neg (by simpa using h)]
    rfl

namespace Grammar

/-- A grammar with more definitions, made one after the other. -/
def defineAll (g : Grammar) (ds : List Rule) : Grammar :=
  ds.foldl (fun g d => (g.define d.name d.body).1) g

theorem addBlocks_eq (g : Grammar) (bs : List Text) :
    (g.addBlocks bs).1 = g.defineAll (bs.filterMap Rule.ofBlock?) := by
  induction bs generalizing g with
  | nil => rfl
  | cons b bs ih =>
    have hstep : (g.addBlocks (b :: bs)).1 = ((g.addBlock b).1.addBlocks bs).1 := rfl
    rw [hstep, ih, addBlock, List.filterMap_cons, Rule.ofBlock?]
    cases headerName? (blockHeader b) <;> rfl

/-- **Redefinitions.** Each name that is defined keeps the place of its first definition and the
body of its last one, and each definition of a known name is reported. -/
theorem defineAll_empty (ds : List Rule) :
    empty.defineAll ds = ⟨lastRules ds, (redefined ds).map redefinition⟩ := by
  induction ds using List.reverseRecOn with
  | nil => rfl
  | append_singleton ds d ih =>
    have hstep : empty.defineAll (ds ++ [d]) =
        ((empty.defineAll ds).define d.name d.body).1 := by
      simp [defineAll]
    have hknown : ((empty.defineAll ds).body? d.name).isSome ↔ d.name ∈ ds.map (·.name) := by
      rw [isSome_body?_iff, ih, map_name_lastRules, List.mem_eraseDups]
    rw [hstep, define, redefined_append_singleton]
    by_cases hd : d.name ∈ ds.map (·.name)
    · rw [if_pos (hknown.2 hd), if_pos hd, ih, lastRules_append_of_mem hd, List.map_append]
      rfl
    · rw [if_neg (mt hknown.1 hd), if_neg hd, ih, lastRules_append_of_not_mem hd,
        List.append_nil]

theorem ofText_eq_defineAll (document : Text) :
    ofText document = empty.defineAll (definitions document) := by
  rw [← filterMap_blocks, ← addBlocks_eq]
  rfl

/-- **The grammar of a document.** It follows from the definitions of the document alone: each name
that they define stands once, in the order of the first definitions, with the body of the last one,
and each definition of a name that is already defined is a diagnostic about that name. -/
theorem ofText_definitions (document : Text) :
    ofText document =
        ⟨lastRules (definitions document), (redefined (definitions document)).map redefinition⟩ ∧
      (ofText document).diagnostics.map (fun d => (d.code.id, d.rule)) =
        (redefined (definitions document)).map fun n => ("G0101".toList, some n) := by
  have heq := (ofText_eq_defineAll document).trans (defineAll_empty (definitions document))
  refine ⟨heq, ?_⟩
  rw [heq, List.map_map]
  rfl

end Grammar

end SqlVocabulary
