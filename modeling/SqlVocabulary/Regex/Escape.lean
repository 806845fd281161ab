import SqlVocabulary.Text.Blank
import SqlVocabulary.Regex.NamedClass
import SqlVocabulary.Regex.Expr

/-!
# Flags, escapes and single characters of a pattern

The parts of the pattern notation that stand for one character, one class of characters or one
condition. A reader takes the text of a pattern from some place on and gives what stands there
together with the text after it, or nothing if the pattern is not well formed.

Under the flag `x` blanks and comments between the parts of a pattern do not count, and many readers
skip them on the way.
-/

namespace SqlVocabulary

namespace Regex

/-- The flags in force at a place of a pattern. -/
structure Flags where
  ignoreCase : Bool := false
  multiLine : Bool := false
  dotAll : Bool := false
  lazyFirst : Bool := false
  unicode : Bool := true
  crlf : Bool := false
  ignoreSpace : Bool := false

/-- The rest of a text after blanks and comments; `inComment` says whether it starts in one. -/
def skipIgnored (inComment : Bool) : Text → Text
  | [] => []
  | c :: cs =>
    if inComment then skipIgnored (c != '\n') cs
    else if Text.isWhite c then skipIgnored false cs
    else if c = '#' then skipIgnored true cs
    else c :: cs

/-- The rest of a text after what the flags let a pattern hold between its parts. -/
def skipSpace (x : Bool) (t : Text) : Text := if x then skipIgnored false t else t

/-- What a single character or escape stands for. -/
inductive Primitive where
  /-- A character. `byte` says that it is written as two hexadecimal digits. -/
  | literal (c : Char) (byte : Bool)
  | look (l : Look)
  /-- One of the classes of digits, blanks and word characters. -/
  | perl (kind : Char) (negated : Bool)
  /-- A class with a Unicode name. -/
  | named (s : CharSet) (negated : Bool)
  | dot

/-- The characters that mean something in a pattern. -/
def isMeta (c : Char) : Bool := "\\.+*?()|[]\x7b\x7d^$#&-~".toList.contains c

/-- The characters that an escape may make literal. -/
def isEscapable (c : Char) : Bool :=
  isMeta c || (c.toNat < 0x80 && !c.isAlphanum && c != '<' && c != '>')

def hexValue? (c : Char) : Option Nat :=
  if c.isDigit then some (c.toNat - '0'.toNat)
  else if 'a' ≤ c && c ≤ 'f' then some (c.toNat - 'a'.toNat + 10)
  else if 'A' ≤ c && c ≤ 'F' then some (c.toNat - 'A'.toNat + 10)
  else none

def charOfCode? (n : Nat) : Option Char :=
  if n < 0xD800 || (0xDFFF < n && n ≤ 0x10FFFF) then some (Char.ofNat n) else none

/-- Reads `count` hexadecimal digits after a value read before. -/
def readHexFixed (x : Bool) : (count : Nat) → Nat → Text → Option (Nat × Text)
  | 0, n, t => some (n, t)
  | count + 1, n, t =>
    match t with
    | c :: cs => (hexValue? c).bind fun d => readHexFixed x count (16 * n + d) (skipSpace x cs)
    | [] => none

/-- Reads hexadecimal digits up to a closing brace: how many there were, and their value. -/
def readHexBraced (x : Bool) :
    (fuel : Nat) → (count value : Nat) → Text → Option (Nat × Nat × Text)
  | 0, _, _, _ => none
  | fuel + 1, count, n, t =>
    match t with
    | '}' :: cs => some (count, n, skipSpace x cs)
    | c :: cs =>
      (hexValue? c).bind fun d =>
        readHexBraced x fuel (count + 1) (16 * n + d) (skipSpace x cs)
    | [] => none

/-- Reads the rest of a hexadecimal escape with a fixed number of digits or digits in braces. -/
def readHex (x : Bool) (count : Nat) (t : Text) : Option (Primitive × Text) :=
  match skipSpace x t with
  | '{' :: cs =>
    match readHexBraced x (cs.length + 1) 0 0 (skipSpace x cs) with
    | some (0, _, _) => none
    | some (_, n, rest) => (charOfCode? n).map fun c => (.literal c false, rest)
    | none => none
  | t =>
    match readHexFixed x count 0 t with
    | some (n, rest) => (charOfCode? n).map fun c => (.literal c (count == 2), rest)
    | none => none

/-- Reads characters that satisfy `p`, with what counts as space between them. -/
def readRun (x : Bool) (p : Char → Bool) : (fuel : Nat) → Text → Text × Text
  | 0, t => ([], t)
  | fuel + 1, t =>
    match t with
    | c :: cs =>
      if p c then
        let (run, rest) := readRun x p fuel (skipSpace x cs)
        (c :: run, rest)
      else ([], t)
    | [] => ([], [])

/-- The class that a name between braces asks for, and whether it is asked for with `!=`. -/
def namedClass? (name : Text) : Option (CharSet × Bool) :=
  let key (p : Char → Bool) := name.takeWhile p
  let value (p : Char → Bool) := name.dropWhile p
  let rec splitUnequal (before : Text) : Text → Option (Text × Text)
    | '!' :: '=' :: rest => some (before.reverse, rest)
    | c :: cs => splitUnequal (c :: before) cs
    | [] => none
  match splitUnequal [] name with
  | some (k, v) => (CharSet.ofValue? k v).map fun s => (s, true)
  | none =>
    if name.any (· == ':') then
      (CharSet.ofValue? (key (· != ':')) ((value (· != ':')).drop 1)).map fun s => (s, false)
    else if name.any (· == '=') then
      (CharSet.ofValue? (key (· != '=')) ((value (· != '=')).drop 1)).map fun s => (s, false)
    else (CharSet.ofName? name).map fun s => (s, false)

/-- Reads the name of a Unicode class: one character, or anything between braces. -/
def readNamed (x negated : Bool) (t : Text) : Option (Primitive × Text) :=
  match skipSpace x t with
  | '{' :: cs =>
    match readRun x (· != '}') (cs.length + 1) (skipSpace x cs) with
    | (name, '}' :: rest) =>
      (namedClass? name).map fun (s, unequal) => (.named s (negated != unequal), rest)
    | _ => none
  | '\\' :: _ => none
  | c :: cs => (CharSet.ofName? [c]).map fun s => (.named s negated, skipSpace x cs)
  | [] => none

/-- The kinds of word edges that have names. -/
def wordEdgeOfName? (name : Text) : Option WordEdge :=
  if name == "start".toList then some .first
  else if name == "end".toList then some .last
  else if name == "start-half".toList then some .firstHalf
  else if name == "end-half".toList then some .lastHalf
  else none

/-- Reads what follows the escape of a word edge: the name of its kind in braces, or nothing. Braces
in which no name starts belong to a repetition. -/
def readWordEdge (flags : Flags) (t : Text) : Option (Primitive × Text) :=
  let x := flags.ignoreSpace
  let isName := fun c : Char => c.isAlpha || c == '-'
  let plain := Primitive.look (.word .either (!flags.unicode))
  match t with
  | '{' :: cs =>
    match skipSpace x cs with
    | [] => none
    | c :: rest =>
      if isName c then
        match readRun x isName (rest.length + 2) (c :: rest) with
        | (name, '}' :: rest) =>
          (wordEdgeOfName? name).map fun e => (.look (.word e (!flags.unicode)), rest)
        | _ => none
      else some (plain, t)
  | _ => some (plain, t)

/-- Reads an escape after its backslash. Back-references are not part of the notation. -/
def readEscape (flags : Flags) (t : Text) : Option (Primitive × Text) :=
  let x := flags.ignoreSpace
  let look (l : Look) (rest : Text) : Option (Primitive × Text) := some (.look l, rest)
  let char (n : Nat) (rest : Text) : Option (Primitive × Text) :=
    some (.literal (Char.ofNat n) false, rest)
  match t with
  | [] => none
  | c :: rest =>
    match c with
    | 'x' => readHex x 2 rest
    | 'u' => readHex x 4 rest
    | 'U' => readHex x 8 rest
    | 'p' => readNamed x false rest
    | 'P' => readNamed x true rest
    | 'd' | 's' | 'w' => some (.perl c false, rest)
    | 'D' | 'S' | 'W' => some (.perl c.toLower true, rest)
    | 'a' => char 0x07 rest
    | 't' => char 0x09 rest
    | 'n' => char 0x0A rest
    | 'v' => char 0x0B rest
    | 'f' => char 0x0C rest
    | 'r' => char 0x0D rest
    | 'A' => look .textStart rest
    | 'z' => look .textEnd rest
    | 'b' => readWordEdge flags rest
    | 'B' => look (.word .neither (!flags.unicode)) rest
    | '<' => look (.word .first (!flags.unicode)) rest
    | '>' => look (.word .last (!flags.unicode)) rest
    | _ => if isEscapable c then some (.literal c false, rest) else none

/-- Reads one character or escape outside brackets. -/
def readPrimitive (flags : Flags) : Text → Option (Primitive × Text)
  | '\\' :: rest => readEscape flags rest
  | '.' :: rest => some (.dot, rest)
  | '^' :: rest =>
    some (.look (if flags.multiLine then .lineStart flags.crlf else .textStart), rest)
  | '$' :: rest => some (.look (if flags.multiLine then .lineEnd flags.crlf else .textEnd), rest)
  | c :: rest => some (.literal c false, rest)
  | [] => none

/-- The last code of the characters that a set is taken from: without Unicode these are bytes. -/
def Flags.top (flags : Flags) : Nat := if flags.unicode then CharSet.top else 0xFF

/-- A set without regard to case, if the flags say so. -/
def Flags.fold (flags : Flags) (s : CharSet) : CharSet :=
  if !flags.ignoreCase then s
  else if flags.unicode then s.closeCase
  else s.closeAsciiCase

/-- A set or its complement. Without Unicode a set must be ASCII: its members are bytes, and a byte
beyond is no character. -/
def Flags.negate? (flags : Flags) (negated : Bool) (s : CharSet) : Option CharSet :=
  let s := if negated then s.complement flags.top else s
  if flags.unicode || s.isAscii then some s else none

/-- The set of one of the three classes that have letters. They are not folded: they are the same in
both cases. -/
def Flags.perlClass? (flags : Flags) (kind : Char) (negated : Bool) : Option CharSet :=
  flags.negate? negated <|
    match kind, flags.unicode with
    | 'd', true => CharSet.digits
    | 'd', false => CharSet.asciiDigits
    | 's', true => CharSet.spaces
    | 's', false => CharSet.asciiSpaces
    | _, true => CharSet.wordChars
    | _, false => CharSet.asciiWordChars

/-- The set of a class with a Unicode name. -/
def Flags.namedSet? (flags : Flags) (s : CharSet) (negated : Bool) : Option CharSet :=
  if flags.unicode then flags.negate? negated (flags.fold s) else none

/-- The characters that a dot stands for. -/
def Flags.dotSet? (flags : Flags) : Option CharSet :=
  if !flags.unicode then none
  else if flags.dotAll then some (CharSet.range 0 CharSet.top)
  else if flags.crlf then
    some (((CharSet.single '\n').union (CharSet.single '\r')).complement CharSet.top)
  else some ((CharSet.single '\n').complement CharSet.top)

/-- The set for one character. A byte beyond ASCII is no character. -/
def Flags.literalSet? (flags : Flags) (c : Char) (byte : Bool) : Option CharSet :=
  if flags.unicode then some (flags.fold (CharSet.single c))
  else if c.toNat < 0x80 then some (flags.fold (CharSet.single c))
  else if byte && c.toNat ≤ 0xFF then none
  else some (CharSet.single c)

/-- What a primitive means outside brackets. -/
def Flags.expr? (flags : Flags) : Primitive → Option Expr
  | .literal c byte => (flags.literalSet? c byte).map .set
  | .look l => some (.look l)
  | .perl kind negated => (flags.perlClass? kind negated).map .set
  | .named s negated => (flags.namedSet? s negated).map .set
  | .dot => flags.dotSet?.map .set

end Regex

end SqlVocabulary
