import SqlVocabulary.Regex.Bracket

/-!
# Reading a pattern

The notation is read from left to right with a stack of open groups. Flags that are set inside a
group hold to its end, through the alternatives that follow. A pattern may be nested 250 levels
deep, where a sequence, a choice, a group, a repetition and a class in brackets are one level each.
-/

namespace SqlVocabulary

namespace Regex

def maxNesting : Nat := 250

/-- A part of a sequence, with its nesting depth. Setting flags is a part that matches nothing and
cannot be repeated. -/
structure Part where
  expr : Expr
  depth : Nat
  repeatable : Bool := true

/-- Parts written one after the other, the last one first. -/
def Part.sequence : List Part → Part
  | [] => ⟨.empty, 0, true⟩
  | [p] => p
  | ps =>
    ⟨(ps.map (·.expr)).foldl (fun rest e => .seq e rest) .empty,
      (ps.map (·.depth)).foldl Nat.max 0 + 1, true⟩

/-- Parts to choose from, the last one first. -/
def Part.choice : List Part → Part
  | [] => ⟨.empty, 0, true⟩
  | [p] => p
  | p :: ps =>
    ⟨(ps.map (·.expr)).foldl (fun rest e => .alt e rest) p.expr,
      ((p :: ps).map (·.depth)).foldl Nat.max 0 + 1, true⟩

/-- A group that is not closed yet: the index under which its match is kept, if it is, the flags to
return to, and the choices and parts before it. -/
structure OpenGroup where
  capture : Option Nat
  flags : Flags
  choices : List Part
  parts : List Part

/-- What is known when a pattern has been read up to some place. -/
structure ReadState where
  flags : Flags := {}
  groups : List OpenGroup := []
  choices : List Part := []
  parts : List Part := []
  /-- The number of capturing groups opened so far. -/
  captures : Nat := 0
  /-- The names of groups, each with its index. -/
  names : List (Text × Nat) := []

/-- Flags as they are set in a group: each at most once, a hyphen at most once and not at the end.
-/
def readFlags (flags : Flags) (seen : List Char) (negated : Bool) : Text → Option (Flags × Text)
  | [] => none
  | c :: cs =>
    if c = ':' || c = ')' then
      if seen.head? == some '-' then none else some (flags, c :: cs)
    else if seen.contains c then none
    else
      let set? : Option Flags := match c with
        | '-' => some flags
        | 'i' => some { flags with ignoreCase := !negated }
        | 'm' => some { flags with multiLine := !negated }
        | 's' => some { flags with dotAll := !negated }
        | 'U' => some { flags with lazyFirst := !negated }
        | 'u' => some { flags with unicode := !negated }
        | 'R' => some { flags with crlf := !negated }
        | 'x' => some { flags with ignoreSpace := !negated }
        | _ => none
      match set? with
      | some flags => readFlags flags (c :: seen) (negated || c == '-') cs
      | none => none

def isNameChar (first : Bool) (c : Char) : Bool :=
  c == '_' || CharSet.alphabetic.contains c ||
    (!first && (c == '.' || c == '[' || c == ']' || (Text.category c).group == 'N'))

/-- Reads the name of a group up to its closing bracket. -/
def readGroupName (t : Text) : Option (Text × Text) :=
  match t.takeWhile (· != '>'), t.dropWhile (· != '>') with
  | c :: cs, _ :: rest =>
    if isNameChar true c && cs.all (isNameChar false) then some (c :: cs, rest) else none
  | _, _ => none

namespace ReadState

def push (s : ReadState) (p : Part) : ReadState := { s with parts := p :: s.parts }

def openGroup (s : ReadState) (capture : Option Nat) (flags : Flags) : ReadState :=
  { s with
    flags := flags
    groups := ⟨capture, s.flags, s.choices, s.parts⟩ :: s.groups
    choices := []
    parts := [] }

/-- Opens a group whose match is kept. -/
def openCapture (s : ReadState) : ReadState :=
  { s.openGroup (some (s.captures + 1)) s.flags with captures := s.captures + 1 }

def nextChoice (s : ReadState) : ReadState :=
  { s with choices := Part.sequence s.parts :: s.choices, parts := [] }

/-- All that was read since the innermost open group. -/
def current (s : ReadState) : Part := Part.choice (Part.sequence s.parts :: s.choices)

def closeGroup? (s : ReadState) : Option ReadState :=
  match s.groups with
  | [] => none
  | g :: groups =>
    let inner := s.current
    let expr := match g.capture with
      | some i => .capture i inner.expr
      | none => inner.expr
    some { s with
      flags := g.flags
      groups := groups
      choices := g.choices
      parts := ⟨expr, inner.depth + 1, true⟩ :: g.parts }

/-- Repeats the last part. There must be one, and it must be more than a setting of flags. -/
def repeatLast? (s : ReadState) (min : Nat) (max : Option Nat) (greedy : Bool) :
    Option ReadState :=
  match s.parts with
  | p :: ps =>
    if p.repeatable then
      some { s with
        parts := ⟨p.expr.repeated min max (greedy != s.flags.lazyFirst), p.depth + 1, true⟩ :: ps }
    else none
  | [] => none

end ReadState

/-- Reads what follows an opening parenthesis. Conditions on the text around a match are not part
of the notation. -/
def readGroupStart (s : ReadState) (t : Text) : Option (ReadState × Text) :=
  match skipSpace s.flags.ignoreSpace t with
  | '?' :: '=' :: _ | '?' :: '!' :: _ => none
  | '?' :: '<' :: '=' :: _ | '?' :: '<' :: '!' :: _ => none
  | '?' :: 'P' :: '<' :: t | '?' :: '<' :: t =>
    match readGroupName t with
    | some (name, rest) =>
      if s.names.any fun e => e.1 == name then none
      else
        let s := { s.openCapture with names := s.names ++ [(name, s.captures + 1)] }
        some (s, rest)
    | none => none
  | '?' :: t =>
    match readFlags s.flags [] false t with
    | some (flags, ':' :: rest) => some (s.openGroup none flags, rest)
    | some (flags, _ :: rest) =>
      if rest.length + 1 = t.length then none
      else some ({ s with flags := flags }.push ⟨.empty, 0, false⟩, rest)
    | _ => none
  | t => some (s.openCapture, t)

/-- Reads whether a repetition prefers fewer rounds. -/
def readLazy : Text → Bool × Text
  | '?' :: cs => (true, cs)
  | t => (false, t)

/-- Reads a decimal number with blanks around it: nothing if there is no digit. Numbers of 32 bits
are allowed. -/
def readDecimal (x : Bool) (t : Text) : Option (Nat × Text) :=
  let t := t.dropWhile Text.isWhite
  let (digits, rest) := readRun x Char.isDigit (t.length + 1) t
  let rest := rest.dropWhile Text.isWhite
  let rest := if x then skipIgnored false rest else rest
  if digits.isEmpty then none
  else
    let n := Text.digitsValue digits
    if n < Nat.pow 2 32 then some (n, rest) else none

/-- Reads the counts of a repetition after its opening brace. -/
def readCounts (x : Bool) (t : Text) : Option (Nat × Option Nat × Text) :=
  match readDecimal x (skipSpace x t) with
  | none => none
  | some (min, '}' :: rest) => some (min, some min, rest)
  | some (min, ',' :: rest) =>
    match skipSpace x rest with
    | '}' :: rest => some (min, none, rest)
    | t =>
      match readDecimal x t with
      | some (max, '}' :: rest) => if min ≤ max then some (min, some max, rest) else none
      | _ => none
  | _ => none

/-- One step of reading; `t` is not empty. -/
def readStep (s : ReadState) (t : Text) : Option (ReadState × Text) :=
  let x := s.flags.ignoreSpace
  let uncounted (min : Nat) (max : Option Nat) (t : Text) :=
    let (isLazy, rest) := readLazy t
    (s.repeatLast? min max (!isLazy)).map fun s => (s, rest)
  match t with
  | '(' :: cs => readGroupStart s cs
  | ')' :: cs => s.closeGroup?.map fun s => (s, cs)
  | '|' :: cs => some (s.nextChoice, cs)
  | '[' :: cs =>
    (readBracket s.flags cs).map fun (n, rest) => (s.push ⟨.set n.set, n.depth, true⟩, rest)
  | '?' :: cs => uncounted 0 (some 1) cs
  | '*' :: cs => uncounted 0 none cs
  | '+' :: cs => uncounted 1 none cs
  | '{' :: cs =>
    match readCounts x cs with
    | none => none
    | some (min, max, rest) =>
      let (isLazy, rest) := readLazy (skipSpace x rest)
      (s.repeatLast? min max (!isLazy)).map fun s => (s, rest)
  | t =>
    match readPrimitive s.flags t with
    | none => none
    | some (p, rest) => (s.flags.expr? p).map fun e => (s.push ⟨e, 0, true⟩, rest)

/-- Reads a pattern to its end. Every step reads at least one character, so the length of the text
is fuel enough. -/
def readRest : (fuel : Nat) → ReadState → Text → Option ReadState
  | fuel, s, t =>
    match skipSpace s.flags.ignoreSpace t, fuel with
    | [], _ => some s
    | _, 0 => none
    | t, fuel + 1 =>
      match readStep s t with
      | some (s, rest) => readRest fuel s rest
      | none => none

/-- What a pattern means, and the names of its groups. There is nothing for a text that is not a
pattern. -/
def read? (t : Text) : Option (Expr × List (Text × Nat)) :=
  match readRest (t.length + 1) {} t with
  | none => none
  | some s =>
    let whole := s.current
    if s.groups.isEmpty && whole.depth ≤ maxNesting then some (whole.expr, s.names) else none

end Regex

end SqlVocabulary
