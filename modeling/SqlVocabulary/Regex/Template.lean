import SqlVocabulary.Text.RunTable

/-!
# Replacement texts

In a replacement text a dollar sign refers to a group, by number or by name, and the group's part of
the match takes its place. The name is the longest run of ASCII letters, digits and underscores, or
whatever stands between braces. `$$` is a dollar sign, and so is one that no name follows.
-/

namespace SqlVocabulary

namespace Regex

inductive GroupRef where
  | index (n : Nat)
  | name (t : Text)
  deriving DecidableEq

inductive TemplatePart where
  | text (t : Text)
  | group (r : GroupRef)
  deriving DecidableEq

/-- The characters of a name without braces. -/
def isRefChar (c : Char) : Bool := c.isAlphanum || c == '_'

/-- The reference with a given spelling: a number if it consists of digits, after a plus sign if
there is one, and a name otherwise. -/
def GroupRef.ofText (t : Text) : GroupRef :=
  let digits := match t with
    | '+' :: ds => ds
    | ds => ds
  if digits.isEmpty || digits.any (fun c => !c.isDigit) then .name t
  else .index (Text.digitsValue digits)

/-- Reads the reference after a dollar sign: the reference, and the text after it. -/
def readGroupRef : Text → Option (GroupRef × Text)
  | '{' :: t =>
    match t.dropWhile (· != '}') with
    | _ :: rest => some (.ofText (t.takeWhile (· != '}')), rest)
    | [] => none
  | t =>
    match t.takeWhile isRefChar with
    | [] => none
    | name => some (.ofText name, t.dropWhile isRefChar)

/-- The parts of a replacement text. Every step reads at least one character, so the length of the
text is fuel enough. -/
def readTemplate : (fuel : Nat) → Text → List TemplatePart
  | 0, _ => []
  | _, [] => []
  | fuel + 1, '$' :: '$' :: t => .text ['$'] :: readTemplate fuel t
  | fuel + 1, '$' :: t =>
    match readGroupRef t with
    | some (r, rest) => .group r :: readTemplate fuel rest
    | none => .text ['$'] :: readTemplate fuel t
  | fuel + 1, c :: t => .text [c] :: readTemplate fuel t

def templateParts (t : Text) : List TemplatePart := readTemplate t.length t

end Regex

end SqlVocabulary
