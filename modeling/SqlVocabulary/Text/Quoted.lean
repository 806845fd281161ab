import SqlVocabulary.Text.Property

/-!
# Quoted text

A text between double quotes, for messages that show it to a person: everything that would not be
seen, or that would merge with a neighbour, is written as an escape. Two texts with one quoted form
are equal.
-/

namespace SqlVocabulary.Text

/-- The property of characters that attach to the one before them. -/
def graphemeExtend : Property := (propertyOfName? "graphemeextend".toList).getD ⟨[], [], []⟩

/-- Where `graphemeExtend` differs from its categories. -/
def graphemeExtendExceptions : Array (Nat × Nat) := graphemeExtend.exceptionRanges.toArray

/-- Whether a character merges with the one before it. The two halfwidth sound marks take up a cell
of their own and do not. -/
def isCombining (c : Char) : Bool :=
  let n := c.toNat
  0x300 ≤ n && n != 0xFF9E && n != 0xFF9F &&
    (graphemeExtend.base.contains (category c) !=
      graphemeExtendExceptions.any fun r => r.1 ≤ n && n ≤ r.2)

/-- Whether a character has a visible form of its own; of the separators only the space counts. -/
def isPrintable (c : Char) : Bool :=
  if c.toNat < 0x7F then 0x20 ≤ c.toNat
  else match category c with
    | .control | .format | .surrogate | .privateUse | .unassigned
    | .lineSeparator | .paragraphSeparator | .spaceSeparator => false
    | _ => true

/-- The lower-case hexadecimal digits of a number, without leading zeros. -/
def hexDigits (n : Nat) : Text := Nat.toDigits 16 n

/-- How one character is written between the quotes. -/
def quoteChar (c : Char) : Text :=
  if c = '\x00' then ['\\', '0']
  else if c = '\t' then ['\\', 't']
  else if c = '\r' then ['\\', 'r']
  else if c = '\n' then ['\\', 'n']
  else if c = '"' then ['\\', '"']
  else if c = '\\' then ['\\', '\\']
  else if isPrintable c && !isCombining c then [c]
  else "\\u\x7b".toList ++ hexDigits c.toNat ++ ['}']

/-- A text between double quotes. -/
def quoted (t : Text) : Text := '"' :: t.flatMap quoteChar ++ ['"']

end SqlVocabulary.Text
