import SqlVocabulary.Text.Basic

/-!
# Cursors

A place in a YAML text: what is still to be read, how many characters were read, and the line and
column reached. Columns count characters; they decide where the blocks of a document begin and end.
-/

namespace SqlVocabulary

namespace Yaml

/-- The blanks inside a line. -/
def isBlank (c : Char) : Bool := c == ' ' || c == '\t'

/-- The characters that break lines. -/
def isBreak (c : Char) : Bool :=
  c == '\r' || c == '\n' || c == '\x85' || c == '\u2028' || c == '\u2029'

/-- Whether a text starts with a blank or a line break, or is empty. -/
def startsBlank : Text → Bool
  | [] => true
  | c :: _ => isBlank c || isBreak c

/-- Whether a text starts with a line break or is empty. -/
def startsBreak : Text → Bool
  | [] => true
  | c :: _ => isBreak c

/-- The characters of names: ASCII letters and digits, hyphen and underscore. -/
def isNameChar (c : Char) : Bool := c.isAlphanum || c == '-' || c == '_'

/-- The characters that may stand in a YAML text. -/
def isAllowed (c : Char) : Bool :=
  let n := c.toNat
  n == 0x9 || n == 0xA || n == 0xD || (0x20 ≤ n && n ≤ 0x7E) || n == 0x85 ||
    (0xA0 ≤ n && n ≤ 0xFFFD) || 0x10000 ≤ n

def byteOrderMark : Char := '\ufeff'

/-- A place in a text. -/
structure Cursor where
  rest : Text
  index : Nat := 0
  line : Nat := 0
  column : Nat := 0

namespace Cursor

/-- The place after `n` more characters of the line. -/
def skip (c : Cursor) (n : Nat) : Cursor :=
  { c with rest := c.rest.drop n, index := c.index + n, column := c.column + n }

/-- The place after all characters ahead that satisfy `p`. None of them breaks a line. -/
def skipWhile (c : Cursor) (p : Char → Bool) : Cursor := c.skip (c.rest.takeWhile p).length

/-- The place at the start of the next line, after a line break. A carriage return and a line feed
are one break. -/
def skipBreak (c : Cursor) : Cursor :=
  match c.rest with
  | '\r' :: '\n' :: rest => ⟨rest, c.index + 2, c.line + 1, 0⟩
  | _ :: rest => ⟨rest, c.index + 1, c.line + 1, 0⟩
  | [] => c

/-- What a line break ahead stands for in a scalar: a line feed, but for the two separators of
Unicode, which stay. -/
def breakText (c : Cursor) : Text :=
  match c.rest with
  | '\u2028' :: _ => ['\u2028']
  | '\u2029' :: _ => ['\u2029']
  | d :: _ => if isBreak d then ['\n'] else []
  | [] => []

/-- Whether the marker of a document's start or end is ahead at the start of a line. -/
def atMarker (c : Cursor) (mark : Text) : Bool :=
  c.column == 0 && mark.isPrefixOf c.rest && startsBlank (c.rest.drop 3)

/-- Whether a document's start or end is ahead. -/
def atDocumentEdge (c : Cursor) : Bool :=
  c.atMarker ['-', '-', '-'] || c.atMarker ['.', '.', '.']

end Cursor

end Yaml

end SqlVocabulary
