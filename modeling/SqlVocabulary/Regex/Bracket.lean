import SqlVocabulary.Regex.Escape

/-!
# Bracketed classes

A class in brackets is a union of characters, ranges and other classes. Intersection `&&`,
difference `--` and symmetric difference `~~` bind weaker than union and group to the left. A
closing bracket in first place and hyphens in first or last place stand for themselves.
-/

namespace SqlVocabulary

namespace Regex

/-- A set with the nesting depth of the notation that asks for it. -/
structure Nested where
  set : CharSet
  depth : Nat

/-- The members read so far between two operators. -/
structure Gathered where
  set : CharSet := .empty
  items : Nat := 0
  depth : Nat := 0

namespace Gathered

def add (g : Gathered) (n : Nested) : Gathered :=
  ⟨g.set.union n.set, g.items + 1, Nat.max g.depth n.depth⟩

def addChar (g : Gathered) (c : Char) : Gathered := g.add ⟨.single c, 0⟩

/-- The union of the items. Two or more of them are one level deeper than the deepest. -/
def close (g : Gathered) : Nested := ⟨g.set, if g.items ≤ 1 then g.depth else g.depth + 1⟩

end Gathered

/-- The operators between the parts of a class. -/
inductive SetOp where
  | inter
  | diff
  | symmDiff

def SetOp.apply : SetOp → CharSet → CharSet → CharSet
  | inter => CharSet.inter
  | diff => CharSet.diff
  | symmDiff => CharSet.symmDiff

/-- What is still to be finished when a part of a class is read. -/
inductive OpenClass where
  /-- A bracket inside the items gathered before it. -/
  | bracket (outer : Gathered) (negated : Bool)
  /-- An operator and the value on its left. -/
  | operator (op : SetOp) (left : Nested)

/-- Joins the part that was read last to the operator on its left, if there is one. -/
def applyOperator (flags : Flags) (right : Nested) :
    List OpenClass → Nested × List OpenClass
  | .operator op left :: stack =>
    (⟨op.apply (flags.fold left.set) (flags.fold right.set), Nat.max left.depth right.depth + 1⟩,
      stack)
  | stack => (right, stack)

/-- Reads the start of a class after its opening bracket: whether it is negated, and the characters
that stand for themselves only there. -/
def readBracketStart (x : Bool) (t : Text) : Option (Bool × Gathered × Text) :=
  let rec hyphens (g : Gathered) : (fuel : Nat) → Text → Gathered × Text
    | 0, t => (g, t)
    | fuel + 1, '-' :: cs => hyphens (g.addChar '-') fuel (skipSpace x cs)
    | _, t => (g, t)
  let (negated, t) := match skipSpace x t with
    | '^' :: cs => (true, skipSpace x cs)
    | t => (false, t)
  let (g, t) := hyphens {} t.length t
  match g.items, t with
  | _, [] => none
  | 0, ']' :: cs => some (negated, g.addChar ']', skipSpace x cs)
  | _, _ => some (negated, g, t)

/-- Reads the name of an ASCII class after its opening bracket: `:name:]`, with a caret for the
complement. Anything else there is a class in brackets. -/
def readAsciiName : Text → Option (CharSet × Bool × Text)
  | ':' :: t =>
    let (negated, t) := match t with
      | '^' :: cs => (true, cs)
      | t => (false, t)
    match t.dropWhile (· != ':') with
    | ':' :: ']' :: rest =>
      (CharSet.ofAsciiName? (t.takeWhile (· != ':'))).map fun s => (s, negated, rest)
    | _ => none
  | _ => none

/-- The character that decides whether a hyphen makes a range: the next one, or under the flag `x`
the next one that is not a blank, one number sign apart. -/
def afterHyphen (x hash : Bool) : Text → Option Char
  | [] => none
  | c :: cs =>
    if !x then some c
    else if Text.isWhite c then afterHyphen x hash cs
    else if !hash && c = '#' then afterHyphen x true cs
    else some c

/-- Reads one character or escape inside brackets. -/
def readBracketPrimitive (flags : Flags) : Text → Option (Primitive × Text)
  | '\\' :: rest => readEscape flags rest
  | c :: rest => some (.literal c false, rest)
  | [] => none

/-- The code of a character inside brackets. Without Unicode it must be ASCII. -/
def Flags.bracketCode? (flags : Flags) : Primitive → Option Nat
  | .literal c _ => if flags.unicode || c.toNat < 0x80 then some c.toNat else none
  | _ => none

/-- What a primitive adds to a class. Conditions and the dot have no place there. -/
def Flags.bracketSet? (flags : Flags) : Primitive → Option CharSet
  | .literal c byte => (flags.bracketCode? (.literal c byte)).map fun n => CharSet.range n n
  | .perl kind negated => flags.perlClass? kind negated
  | .named s negated => flags.namedSet? s negated
  | .look _ | .dot => none

/-- Reads one item of a class: a character, a range or a class with a letter or name. -/
def readBracketItem (flags : Flags) (t : Text) : Option (CharSet × Text) :=
  let x := flags.ignoreSpace
  match readBracketPrimitive flags t with
  | none => none
  | some (first, t) =>
    match skipSpace x t with
    | [] => none
    | '-' :: cs =>
      let next := afterHyphen x false cs
      if next == some ']' || next == some '-' then
        (flags.bracketSet? first).map fun s => (s, '-' :: cs)
      else
        match readBracketPrimitive flags (skipSpace x cs) with
        | none => none
        | some (last, rest) =>
          match flags.bracketCode? first, flags.bracketCode? last with
          | some a, some b => if a ≤ b then some (CharSet.range a b, rest) else none
          | _, _ => none
    | t => (flags.bracketSet? first).map fun s => (s, t)

/-- Reads what follows inside brackets, up to the end of the outermost class. Every step reads at
least one character, so the length of the text is fuel enough. -/
def readBracketRest (flags : Flags) :
    (fuel : Nat) → List OpenClass → Gathered → Text → Option (Nested × Text)
  | 0, _, _, _ => none
  | fuel + 1, stack, g, t =>
    let x := flags.ignoreSpace
    let operator (op : SetOp) (rest : Text) :=
      let (left, stack) := applyOperator flags g.close stack
      readBracketRest flags fuel (.operator op left :: stack) {} rest
    match skipSpace x t with
    | [] => none
    | '[' :: cs =>
      match readAsciiName cs with
      | some (s, negated, rest) =>
        match flags.negate? negated (flags.fold s) with
        | some s => readBracketRest flags fuel stack (g.add ⟨s, 0⟩) rest
        | none => none
      | none =>
        match readBracketStart x cs with
        | some (negated, inner, rest) =>
          readBracketRest flags fuel (.bracket g negated :: stack) inner rest
        | none => none
    | ']' :: cs =>
      match applyOperator flags g.close stack with
      | (value, .bracket outer negated :: stack) =>
        match flags.negate? negated (flags.fold value.set) with
        | none => none
        | some s =>
          let closed : Nested := ⟨s, value.depth + 1⟩
          if stack.isEmpty then some (closed, cs)
          else readBracketRest flags fuel stack (outer.add closed) cs
      | _ => none
    | '&' :: '&' :: cs => operator .inter cs
    | '-' :: '-' :: cs => operator .diff cs
    | '~' :: '~' :: cs => operator .symmDiff cs
    | t =>
      match readBracketItem flags t with
      | some (s, rest) => readBracketRest flags fuel stack (g.add ⟨s, 0⟩) rest
      | none => none

/-- Reads a class after its opening bracket. -/
def readBracket (flags : Flags) (t : Text) : Option (Nested × Text) :=
  match readBracketStart flags.ignoreSpace t with
  | some (negated, g, rest) =>
    readBracketRest flags (rest.length + 1) [.bracket {} negated] g rest
  | none => none

end Regex

end SqlVocabulary
