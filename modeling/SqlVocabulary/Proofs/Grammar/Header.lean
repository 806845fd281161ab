import SqlVocabulary.Grammar.Block
import SqlVocabulary.Proofs.Grammar.Lookup
import SqlVocabulary.Proofs.Text.Parts

/-!
# Header lines

The reader of headers strips a line from its end. What it accepts is said from the front
(`headerName?_eq_some`): a bracketed name, blanks, `::=`, and nothing else but blanks. A line can be
read so in one way only (`Heads.unique`).
-/

namespace SqlVocabulary

/-- A line is the header of a rule: `inner` in brackets, the blanks `gap`, the sign, and the blanks
`tail`. -/
structure Heads (line : Text) (n : Nonterminal) (inner gap tail : Text) : Prop where
  line_eq : line = '<' :: (inner ++ ['>']) ++ gap ++ "::=".toList ++ tail
  closed : '>' ∉ inner
  gap_ne_nil : gap ≠ []
  gap_blank : ∀ c ∈ gap, Text.isSpace c = true
  tail_blank : ∀ c ∈ tail, Text.isSpace c = true
  name_eq : .ofText inner = n
  named : n.isEmpty = false

theorem heads_of_headerName? {line : Text} {n : Nonterminal} (h : headerName? line = some n) :
    ∃ inner gap tail, Heads line n inner gap tail := by
  unfold headerName? at h
  rcases hstem : Text.stripEnd? "::=".toList line.trimEnd with _ | stem
  · simp only [hstem, reduceCtorEq] at h
  rcases hinner : Text.unwrap? '<' '>' stem.trimEnd with _ | inner
  · simp only [hstem, hinner, ite_self, reduceCtorEq] at h
  simp only [hstem, hinner] at h
  split at h
  · cases h
  rename_i hgap
  split at h
  · cases h
  rename_i hname
  obtain ⟨hclosed, hnamed⟩ : '>' ∉ inner ∧ (Nonterminal.ofText inner).isEmpty = false := by
    simpa using hname
  obtain rfl := Option.some.inj h
  -- what was trimmed off the line and off the text before the sign
  obtain ⟨tail, hline, htail⟩ := Text.exists_eq_dropEndWhile_append Text.isSpace line
  obtain ⟨gap, hhead, hblank⟩ := Text.exists_eq_dropEndWhile_append Text.isSpace stem
  change line = line.trimEnd ++ tail at hline
  change stem = stem.trimEnd ++ gap at hhead
  refine ⟨inner, gap, tail, ?_, hclosed, ?_, hblank, htail, rfl, hnamed⟩
  · rw [hline, Text.stripEnd?_eq_some.1 hstem, hhead, Text.unwrap?_eq_some.1 hinner]
  · rintro rfl
    rw [List.append_nil] at hhead
    exact hgap (congrArg List.length hhead.symm)

theorem Heads.headerName? {line : Text} {n : Nonterminal} {inner gap tail : Text}
    (h : Heads line n inner gap tail) : headerName? line = some n := by
  have hline : Text.trimEnd line = '<' :: (inner ++ ['>']) ++ gap ++ "::=".toList := by
    have := Text.dropEndWhile_concat_append ('<' :: (inner ++ ['>']) ++ gap ++ [':', ':'])
      (by decide : Text.isSpace '=' = false) h.tail_blank
    rw [h.line_eq]
    simpa [Text.trimEnd] using this
  have hhead : Text.trimEnd ('<' :: (inner ++ ['>']) ++ gap) = '<' :: (inner ++ ['>']) := by
    have := Text.dropEndWhile_concat_append ('<' :: inner)
      (by decide : Text.isSpace '>' = false) h.gap_blank
    simpa [Text.trimEnd] using this
  have hlen : ('<' :: (inner ++ ['>'])).length ≠ ('<' :: (inner ++ ['>']) ++ gap).length := by
    rw [List.length_append]
    have := List.length_pos_iff.2 h.gap_ne_nil
    omega
  have hname : ¬(inner.any (· == '>') || n.isEmpty) = true := by
    simp [h.closed, h.named]
  unfold SqlVocabulary.headerName?
  rw [hline, Text.stripEnd?_eq_some.2 rfl]
  simp only [hhead, if_neg hlen, Text.unwrap?_eq_some.2 rfl, h.name_eq, if_neg hname]

/-- **Headers.** A line defines a rule if and only if it is a header with that name. -/
theorem headerName?_eq_some {line : Text} {n : Nonterminal} :
    headerName? line = some n ↔ ∃ inner gap tail, Heads line n inner gap tail := by
  constructor
  · exact heads_of_headerName?
  · rintro ⟨inner, gap, tail, h⟩
    exact h.headerName?

theorem closed_of_headerName? {line : Text} {n : Nonterminal} (h : headerName? line = some n) :
    '>' ∉ n.name ∧ n.isEmpty = false := by
  obtain ⟨inner, gap, tail, hh⟩ := heads_of_headerName? h
  refine ⟨fun hmem => ?_, hh.named⟩
  rw [← hh.name_eq] at hmem
  rcases Text.mem_of_mem_collapse hmem with hspace | hinner
  · revert hspace
    decide
  · exact hh.closed hinner

theorem headerName?_bracketed {n : Nonterminal} (hclosed : '>' ∉ n.name)
    (hnamed : n.isEmpty = false) : headerName? (n.bracketed ++ " ::=".toList) = some n := by
  have hh : Heads (n.bracketed ++ " ::=".toList) n n.name [' '] [] :=
    { line_eq := by simp [Nonterminal.bracketed]
      closed := hclosed
      gap_ne_nil := List.cons_ne_nil _ _
      gap_blank := List.forall_mem_singleton.2 rfl
      tail_blank := by simp
      name_eq := n.ofText_name
      named := hnamed }
  exact hh.headerName?

theorem headerName?_append {e : Text} (line : Text) (he : ∀ c ∈ e, Text.isSpace c = true) :
    headerName? (line ++ e) = headerName? line := by
  have htrim : Text.trimEnd (line ++ e) = Text.trimEnd line :=
    Text.dropEndWhile_append_of_eq_nil line (Text.dropEndWhile_eq_nil.2 he)
  unfold headerName?
  rw [htrim]

@[simp] theorem headerName?_append_newline (line : Text) :
    headerName? (line ++ ['\n']) = headerName? line :=
  headerName?_append line (List.forall_mem_singleton.2 rfl)

theorem head?_of_headerName? {line : Text} {n : Nonterminal} (h : headerName? line = some n) :
    line.head? = some '<' := by
  obtain ⟨inner, gap, tail, hh⟩ := heads_of_headerName? h
  rw [hh.line_eq]
  rfl

/-! ## Taking a header apart -/

/-- A line is a header in one way only: its first closing bracket ends the name, and the first colon
behind it ends the blanks. -/
theorem Heads.unique {line : Text} {n n' : Nonterminal} {inner inner' gap gap' tail tail' : Text}
    (h : Heads line n inner gap tail) (h' : Heads line n' inner' gap' tail') :
    inner = inner' ∧ gap = gap' ∧ tail = tail' := by
  have hcolon : ∀ {w : Text}, (∀ c ∈ w, Text.isSpace c = true) → ':' ∉ w :=
    fun hw hmem => absurd (hw ':' hmem) (by decide)
  have hline : inner ++ '>' :: (gap ++ ':' :: (":=".toList ++ tail)) =
      inner' ++ '>' :: (gap' ++ ':' :: (":=".toList ++ tail')) := by
    simpa using h.line_eq.symm.trans h'.line_eq
  obtain ⟨hinner, hrest⟩ := Text.append_cons_inj h.closed h'.closed hline
  obtain ⟨hgap, hsign⟩ :=
    Text.append_cons_inj (hcolon h.gap_blank) (hcolon h'.gap_blank) hrest
  exact ⟨hinner, hgap, List.append_cancel_left hsign⟩

/-- **The grammar of headers.** A line defines a rule if and only if it can be taken apart as a
header with that name, and then it can be in one way only. A block with this first line gives the
rule the text below it for a body. -/
theorem headerName?_existsUnique (line : Text) (n : Nonterminal) :
    (headerName? line = some n ↔
      ∃! parts : Text × Text × Text, Heads line n parts.1 parts.2.1 parts.2.2) ∧
    ∀ (g : Grammar) (block : Text), blockHeader block = line → headerName? line = some n →
      (g.addBlock block).1.body? n = some (blockBody block) := by
  constructor
  · rw [headerName?_eq_some]
    constructor
    · rintro ⟨inner, gap, tail, h⟩
      refine ⟨(inner, gap, tail), h, ?_⟩
      rintro ⟨inner', gap', tail'⟩ h'
      obtain ⟨rfl, rfl, rfl⟩ := h'.unique h
      rfl
    · rintro ⟨⟨inner, gap, tail⟩, h, -⟩
      exact ⟨inner, gap, tail, h⟩
  · rintro g block rfl hn
    unfold Grammar.addBlock
    rw [hn]
    exact g.body?_define n (blockBody block)

/-- A header with the sign, an opening bracket and blanks in the name. -/
def signedHeader : Text := "<a ::= <b \t c>\t ::= \r".toList

def signedName : Nonterminal := .ofText "a ::= <b c".toList

/-- The name ends at the closing bracket, whatever is in it. The rule was there, and has a new
body. -/
theorem headerName?_existsUnique_signed :
    (blockHeader (signedHeader ++ "\n  X".toList) = signedHeader ∧
      headerName? signedHeader = some signedName) ∧
    (∃! parts : Text × Text × Text, Heads signedHeader signedName parts.1 parts.2.1 parts.2.2) ∧
    (Grammar.addBlock ⟨[⟨signedName, ['Y']⟩], []⟩ (signedHeader ++ "\n  X".toList)).1.body?
      signedName = some "  X".toList := by
  have hblock : blockHeader (signedHeader ++ "\n  X".toList) = signedHeader := by decide
  have hname : headerName? signedHeader = some signedName := by decide +kernel
  obtain ⟨hparts, hbody⟩ := headerName?_existsUnique signedHeader signedName
  exact ⟨⟨hblock, hname⟩, hparts.1 hname, hbody _ _ hblock hname⟩

end SqlVocabulary
