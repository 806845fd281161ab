/-!
# Text

A text is a list of characters. The blanks of a grammar document are the five ASCII ones
(`isSpace`); every other character, a no-break space included, belongs to a word.

`words` are the maximal runs of characters that are not blanks, and `collapse` writes them with one
space between neighbours: the canonical form under which two spellings of a rule name are the same.
-/

namespace SqlVocabulary

/-- A sequence of Unicode characters. -/
abbrev Text := List Char

namespace Text

/-- The ASCII blanks: space, tab, line feed, form feed and carriage return. -/
def isSpace (c : Char) : Bool :=
  c == ' ' || c == '\t' || c == '\n' || c == '\x0c' || c == '\r'

def isLineEnd (c : Char) : Bool := c == '\n' || c == '\r'

def byteSize : Text → Nat
  | [] => 0
  | c :: cs => c.utf8Size + byteSize cs

/-- The stretches of a text between the characters that satisfy `p`, empty ones included, so there
is one more of them than there are such characters. -/
def pieces (p : Char → Bool) : Text → List Text
  | [] => [[]]
  | c :: cs =>
    if p c then [] :: pieces p cs
    else match pieces p cs with
      | [] => [[c]]
      | w :: ws => (c :: w) :: ws

/-- The maximal runs of characters that are not blanks. -/
def words (t : Text) : List Text := (pieces isSpace t).filter (fun w => !w.isEmpty)

/-- Texts written one after the other with `sep` between neighbours. -/
def join (sep : Text) : List Text → Text
  | [] => []
  | [w] => w
  | w :: ws => w ++ sep ++ join sep ws

/-- The words of a text with exactly one space between neighbours. -/
def collapse (t : Text) : Text := join [' '] t.words

/-- A text without its longest end of characters that satisfy `p`. -/
def dropEndWhile (p : Char → Bool) (t : Text) : Text := (t.reverse.dropWhile p).reverse

def trimEnd (t : Text) : Text := t.dropEndWhile isSpace

/-- A text without the blanks at its two ends. -/
def trim (t : Text) : Text := Text.trimEnd (t.dropWhile isSpace)

/-- Whether `w` occurs in a text as a contiguous part. -/
def contains (w : Text) : Text → Bool
  | [] => w.isEmpty
  | c :: cs => w.isPrefixOf (c :: cs) || contains w cs

/-- The text between an opening and a closing character, both of which must be there. -/
def unwrap? (first last : Char) : Text → Option Text
  | c :: cs => if c = first ∧ cs.getLast? = some last then some cs.dropLast else none
  | [] => none

/-- A text without a given end, which must be there. -/
def stripEnd? (ending t : Text) : Option Text :=
  if ending.isSuffixOf t then some (t.take (t.length - ending.length)) else none

def ofNat (n : Nat) : Text := (toString n).toList

/-- Texts ordered by their first difference, code point against code point; a proper start of a
text comes before it. Their UTF-8 bytes have the same order. -/
def le : Text → Text → Bool
  | [], _ => true
  | _ :: _, [] => false
  | c :: cs, d :: ds => c < d || (c == d && le cs ds)

end Text

end SqlVocabulary
