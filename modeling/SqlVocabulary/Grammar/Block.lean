import SqlVocabulary.Text.Lines
import SqlVocabulary.Nonterminal

/-!
# Blocks of a grammar document

Empty lines separate the blocks of a document, but only where the next line is not indented: a line
that starts with a blank carries on with the block before it. A block whose first line is a header
`<name> ::=` defines that rule, and the rest of the block is its body. All other blocks are prose.
-/

namespace SqlVocabulary

/-- Whether a line starts with a character that is neither blank nor a line end. -/
def isFlush (line : Text) : Bool :=
  match line.lineContent with
  | c :: _ => !Text.isSpace c
  | [] => false

/-- Cuts lines before each flush line that follows an empty one. The first part is what carries on
with the block before; `afterEmpty` says whether that block ends with an empty line. -/
def cutLines (afterEmpty : Bool) : List Text → Text × List Text
  | [] => ([], [])
  | l :: ls =>
    let (carried, blocks) := cutLines l.isEmptyLine ls
    if afterEmpty && isFlush l then ([], (l ++ carried) :: blocks)
    else (l ++ carried, blocks)

/-- The blocks of a document, without the line ends at their ends. No block is empty. -/
def blocks (document : Text) : List Text :=
  let (first, others) := cutLines false document.lines
  ((first :: others).map (Text.dropEndWhile Text.isLineEnd)).filter fun b => !b.isEmpty

/-- The rule that a header line defines: a name in angle brackets, blanks, `::=`, and nothing else
but blanks. The name has a word in it and holds no closing bracket. -/
def headerName? (line : Text) : Option Nonterminal :=
  match Text.stripEnd? "::=".toList line.trimEnd with
  | none => none
  | some stem =>
    let head := stem.trimEnd
    if head.length = stem.length then none
    else match head.unwrap? '<' '>' with
      | none => none
      | some inner =>
        let n := Nonterminal.ofText inner
        if inner.any (· == '>') || n.isEmpty then none else some n

/-- The first line of a block, without its line feed. -/
def blockHeader (block : Text) : Text := block.takeWhile (· != '\n')

/-- The rest of a block after its first line. -/
def blockBody (block : Text) : Text := (block.dropWhile (· != '\n')).drop 1

end SqlVocabulary
