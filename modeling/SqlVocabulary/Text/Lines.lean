import SqlVocabulary.Text.Basic

/-!
# Lines

A line runs up to and including its line feed, so the lines of a text written one after the other
are the text again. `located` gives every piece of such a cut the byte offset at which it starts,
and `lineContent` is a line without the carriage returns and line feeds at its end, however many
there are.
-/

namespace SqlVocabulary.Text

/-- The lines of a text, each with the line feed that ends it. Only the last may lack one. -/
def lines : Text → List Text
  | [] => []
  | c :: cs =>
    if c = '\n' then [c] :: lines cs
    else match lines cs with
      | [] => [[c]]
      | l :: ls => (c :: l) :: ls

/-- Consecutive pieces of a text with the byte offsets at which they start, the first at `start`. -/
def located (start : Nat) : List Text → List (Nat × Text)
  | [] => []
  | p :: ps => (start, p) :: located (start + p.byteSize) ps

/-- A line without the line ends at its end. -/
def lineContent (line : Text) : Text := line.dropEndWhile isLineEnd

/-- Whether a line holds nothing but line ends. -/
def isEmptyLine (line : Text) : Bool := line.lineContent.isEmpty

end SqlVocabulary.Text
