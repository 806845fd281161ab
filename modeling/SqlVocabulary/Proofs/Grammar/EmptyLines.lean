import SqlVocabulary.Proofs.Grammar.Definitions

/-!
# Empty lines between blocks

It does not matter how many empty lines stand above a line that is not indented, or at the end of a
document, nor which line ends they have, as long as there is one (`ofText_emptyRun`).

The cut of some lines goes on from a run of empty ones as from a single one, and all of the run goes
to the end of the block before (`cutLines_emptyLines`), from where it is trimmed. So with another
run in its place the lines are cut alike (`CutAlike`), and they still are with any lines above.
-/

namespace SqlVocabulary

/-! ## Lines that are cut alike -/

/-- Two sequences of lines carry on alike with the block before them and have the same blocks. -/
def CutAlike (x y : List Text) : Prop :=
  ∀ a, (cutLines a x).1.lineContent = (cutLines a y).1.lineContent ∧
    contents (cutLines a x).2 = contents (cutLines a y).2

theorem cutLines_cons (a : Bool) (l : Text) (ls : List Text) :
    cutLines a (l :: ls) =
      if (a && isFlush l) = true then
        ([], (l ++ (cutLines l.isEmptyLine ls).1) :: (cutLines l.isEmptyLine ls).2)
      else (l ++ (cutLines l.isEmptyLine ls).1, (cutLines l.isEmptyLine ls).2) := rfl

theorem CutAlike.cons {x y : List Text} (h : CutAlike x y) (l : Text) :
    CutAlike (l :: x) (l :: y) := by
  intro a
  obtain ⟨hcarried, hblocks⟩ := h l.isEmptyLine
  have hline := Text.lineContent_append_congr hcarried l
  rw [cutLines_cons, cutLines_cons]
  split
  · refine ⟨rfl, ?_⟩
    rw [contents_cons, contents_congr hline, hblocks, ← contents_cons]
  · exact ⟨hline, hblocks⟩

theorem CutAlike.append {x y : List Text} (h : CutAlike x y) (above : List Text) :
    CutAlike (above ++ x) (above ++ y) := by
  induction above with
  | nil => exact h
  | cons l above ih => exact ih.cons l

theorem CutAlike.blocks_eq {s t : Text} (h : CutAlike s.lines t.lines) : blocks s = blocks t := by
  obtain ⟨hfirst, hothers⟩ := h false
  have hblocks : ∀ u : Text, blocks u =
      contents [(cutLines false u.lines).1] ++ contents (cutLines false u.lines).2 :=
    fun u => contents_cons _ _
  rw [hblocks, hblocks, contents_congr hfirst, hothers]

/-! ## Runs of empty lines -/

/-- Some lines, at least one, and all of them empty. -/
structure IsEmptyRun (run : List Text) : Prop where
  ne_nil : run ≠ []
  empty : ∀ l ∈ run, l.isEmptyLine = true

theorem isFlush_of_isEmptyLine {l : Text} (h : l.isEmptyLine = true) : isFlush l = false := by
  by_contra hflush
  rw [Bool.not_eq_false] at hflush
  rw [isEmptyLine_of_isFlush hflush] at h
  cases h

theorem lineContent_flatten {run : List Text} (h : ∀ l ∈ run, l.isEmptyLine = true) :
    Text.lineContent run.flatten = [] := by
  rw [Text.lineContent_eq_nil]
  intro c hc
  obtain ⟨l, hl, hcl⟩ := List.mem_flatten.1 hc
  have hempty : Text.lineContent l = [] := List.isEmpty_iff.1 (h l hl)
  exact Text.lineContent_eq_nil.1 hempty c hcl

/-- Lines that do not start with an indented one carry nothing on after an empty line. -/
theorem cutLines_of_flush {below : List Text} (h : ∀ l ∈ below.head?, isFlush l = true) :
    (cutLines true below).1 = [] := by
  cases below with
  | nil => rfl
  | cons l below =>
    have hl : isFlush l = true := h l rfl
    rw [cutLines_cons, hl]
    rfl

/-- A run of empty lines goes to the end of the block before it. -/
theorem cutLines_emptyLines {run below : List Text} (hrun : IsEmptyRun run)
    (hbelow : ∀ l ∈ below.head?, isFlush l = true) (a : Bool) :
    cutLines a (run ++ below) = (run.flatten, (cutLines true below).2) := by
  obtain ⟨hne, hempty⟩ := hrun
  induction run generalizing a with
  | nil => exact absurd rfl hne
  | cons l run ih =>
    obtain ⟨hl, hempty⟩ := List.forall_mem_cons.1 hempty
    have hstep : cutLines a (l :: (run ++ below)) =
        (l ++ (cutLines true (run ++ below)).1, (cutLines true (run ++ below)).2) := by
      rw [cutLines_cons, isFlush_of_isEmptyLine hl, hl, Bool.and_false]
      rfl
    rw [List.cons_append, hstep, List.flatten_cons]
    cases run with
    | nil => rw [List.nil_append, cutLines_of_flush hbelow, List.flatten_nil]
    | cons l' run => rw [ih true (List.cons_ne_nil l' run) hempty]

theorem cutAlike_emptyLines {run run' below : List Text} (hrun : IsEmptyRun run)
    (hrun' : IsEmptyRun run') (hbelow : ∀ l ∈ below.head?, isFlush l = true) :
    CutAlike (run ++ below) (run' ++ below) := by
  intro a
  rw [cutLines_emptyLines hrun hbelow, cutLines_emptyLines hrun' hbelow]
  exact ⟨(lineContent_flatten hrun.empty).trans (lineContent_flatten hrun'.empty).symm, rfl⟩

/-! ## Documents -/

/-- Lines that hold nothing but a line feed, or a carriage return and a line feed. -/
def AreBare (run : List Text) : Prop := ∀ l ∈ run, l = ['\n'] ∨ l = ['\r', '\n']

theorem AreBare.isEmptyRun {run : List Text} (h : AreBare run) (hne : run ≠ []) :
    IsEmptyRun run := by
  refine ⟨hne, fun l hl => ?_⟩
  rcases h l hl with rfl | rfl <;> rfl

theorem AreBare.isEnded {run : List Text} (h : AreBare run) : ∀ l ∈ run, l.IsEnded := by
  intro l hl
  rcases h l hl with rfl | rfl
  · exact ⟨[], rfl, by simp⟩
  · exact ⟨['\r'], rfl, by simp⟩

/-- The lines of a document in which other lines stand in the place of some of its own. -/
theorem lines_replaced {document : Text} {above run run' below : List Text}
    (hlines : document.lines = above ++ (run ++ below)) (hne : run ≠ [])
    (hended : ∀ l ∈ run', l.IsEnded) :
    Text.lines (above ++ (run' ++ below)).flatten = above ++ (run' ++ below) := by
  have habove := Text.isEnded_of_lines_eq_append hlines (by simp [hne])
  rw [← List.append_assoc] at hlines
  have hbelow := Text.lines_flatten_of_lines_eq_append hlines
  rw [List.flatten_append, Text.lines_flatten_append habove, List.flatten_append,
    Text.lines_flatten_append hended, hbelow]

theorem ofText_congr {s t : Text} (h : blocks s = blocks t) :
    Grammar.ofText s = Grammar.ofText t := by
  rw [Grammar.ofText_eq_defineAll, Grammar.ofText_eq_defineAll, ← filterMap_blocks,
    ← filterMap_blocks, h]

/-- **Empty lines.** Take a run of empty lines of a document, above a line that starts with a
character other than a blank or at the end. With any other run of bare lines in its place, the
document has the same grammar: the same names in the same order, the same bodies and the same
diagnostics. -/
theorem ofText_emptyRun {document : Text} {above run below run' : List Text}
    (hlines : document.lines = above ++ (run ++ below)) (hrun : IsEmptyRun run)
    (hbelow : ∀ l ∈ below.head?, ∃ c, l.head? = some c ∧ Text.isSpace c = false)
    (hne : run' ≠ []) (hrun' : AreBare run') :
    Grammar.ofText (above ++ (run' ++ below)).flatten = Grammar.ofText document := by
  have hflush : ∀ l ∈ below.head?, isFlush l = true := by
    intro l hl
    obtain ⟨c, hhead, hc⟩ := hbelow l hl
    exact isFlush_of_head? hhead hc
  have halike := (cutAlike_emptyLines (hrun'.isEmptyRun hne) hrun hflush).append above
  rw [← hlines, ← lines_replaced hlines hrun.ne_nil hrun'.isEnded] at halike
  exact ofText_congr halike.blocks_eq

/-- Two rules with a body that goes on below an empty line, and a run of empty lines of other kinds
between them. -/
def spaced : Text := "<a> ::=\n  X\n\n  | Y\n\r\n\n\r\r\n<b> ::=\n  Z\n".toList

def spacedAbove : List Text :=
  ["<a> ::=\n".toList, "  X\n".toList, "\n".toList, "  | Y\n".toList]

def spacedRun : List Text := ["\r\n".toList, "\n".toList, "\r\r\n".toList]

def spacedBelow : List Text := ["<b> ::=\n".toList, "  Z\n".toList]

/-- A single line feed will do between them. -/
theorem ofText_emptyRun_spaced :
    spaced.lines = spacedAbove ++ (spacedRun ++ spacedBelow) ∧
      Grammar.ofText (spacedAbove ++ ([['\n']] ++ spacedBelow)).flatten =
        Grammar.ofText spaced := by
  have hlines : spaced.lines = spacedAbove ++ (spacedRun ++ spacedBelow) := by decide +kernel
  have hrun : IsEmptyRun spacedRun := ⟨by decide, by decide⟩
  have hbelow : ∀ l ∈ spacedBelow.head?, ∃ c, l.head? = some c ∧ Text.isSpace c = false := by
    intro l hl
    obtain rfl := Option.some.inj hl
    exact ⟨'<', rfl, rfl⟩
  have hbare : AreBare [['\n']] := fun l hl => Or.inl (List.mem_singleton.1 hl)
  exact ⟨hlines, ofText_emptyRun hlines hrun hbelow (List.cons_ne_nil _ _) hbare⟩

end SqlVocabulary
