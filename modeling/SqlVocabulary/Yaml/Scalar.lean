import SqlVocabulary.Yaml.Cursor

/-!
# Scalars in their written forms

A scalar is written plain, between single or double quotes, or as an indented block. In all but the
literal block, lines are folded: one line break between two pieces of text is a space, and of more
line breaks all but the first remain. A reader starts at the first character of a scalar and gives
its value and the place after it, or nothing if the text is not well formed.
-/

namespace SqlVocabulary

namespace Yaml

/-- The written forms of a scalar. -/
inductive Style where
  | plain
  | singleQuoted
  | doubleQuoted
  | literal
  | folded
  deriving DecidableEq, Repr

/-- What stands between two pieces of a scalar: blanks on one line, or line breaks. -/
structure Gap where
  blanks : Text := []
  firstBreak : Text := []
  otherBreaks : Text := []
  broken : Bool := false

namespace Gap

def text (g : Gap) : Text :=
  if g.broken then
    if g.firstBreak == ['\n'] then (if g.otherBreaks.isEmpty then [' '] else g.otherBreaks)
    else g.firstBreak ++ g.otherBreaks
  else g.blanks

/-- Reads blanks and line breaks. On a line of its own, a tab before the column `indent` is not
allowed. -/
def read (indent : Nat) : (fuel : Nat) → Gap → Cursor → Option (Gap × Cursor)
  | 0, g, c => some (g, c)
  | fuel + 1, g, c =>
    match c.rest with
    | d :: _ =>
      if isBlank d then
        if g.broken && c.column < indent && d == '\t' then none
        else if g.broken then read indent fuel g (c.skip 1)
        else read indent fuel { g with blanks := g.blanks ++ [d] } (c.skip 1)
      else if isBreak d then
        if g.broken then
          read indent fuel { g with otherBreaks := g.otherBreaks ++ c.breakText } c.skipBreak
        else
          read indent fuel { g with blanks := [], firstBreak := c.breakText, broken := true }
            c.skipBreak
      else some (g, c)
    | [] => some (g, c)

end Gap

/-! ## Plain scalars -/

/-- The characters of a plain scalar up to a blank, a colon before a blank or, in flow, an
indicator. In flow a colon must not stand right before an indicator. -/
def plainRun? (flow : Bool) : Text → Option Text
  | [] => some []
  | c :: cs =>
    if isBlank c || isBreak c then some []
    else if flow && c == ':' && (match cs with
        | d :: _ => ",?[]\x7b\x7d".toList.contains d
        | [] => false) then none
    else if c == ':' && startsBlank cs then some []
    else if flow && ",[]\x7b\x7d".toList.contains c then some []
    else (plainRun? flow cs).map (c :: ·)

/-- Reads a plain scalar: its value, whether it ends after a line break, and the place after it. In
a block its further lines must reach the column `indent`. `value` and `gap` are what was read
before. -/
def readPlain (flow : Bool) (indent : Nat) :
    (fuel : Nat) → (value : Text) → Gap → Cursor → Option (Text × Bool × Cursor)
  | 0, value, gap, c => some (value, gap.broken, c)
  | fuel + 1, value, gap, c =>
    if c.atDocumentEdge || c.rest.head? == some '#' then some (value, gap.broken, c)
    else
      match plainRun? flow c.rest with
      | none => none
      | some run =>
        let (value, gap) := if run.isEmpty then (value, gap) else (value ++ gap.text ++ run, {})
        let c := c.skip run.length
        if c.rest.isEmpty || !startsBlank c.rest then some (value, gap.broken, c)
        else
          match gap.read indent (c.rest.length + 1) c with
          | none => none
          | some (gap, c) =>
            if !flow && c.column < indent then some (value, gap.broken, c)
            else readPlain flow indent fuel value gap c

/-! ## Quoted scalars -/

def hexValue? (c : Char) : Option Nat :=
  if c.isDigit then some (c.toNat - '0'.toNat)
  else if 'a' ≤ c && c ≤ 'f' then some (c.toNat - 'a'.toNat + 10)
  else if 'A' ≤ c && c ≤ 'F' then some (c.toNat - 'A'.toNat + 10)
  else none

def hexNumber? (ds : Text) : Option Nat :=
  ds.foldlM (fun n d => (hexValue? d).map fun v => 16 * n + v) 0

/-- The code points of the escapes of one character. -/
def simpleEscapes : List (Char × Nat) := [
  ('0', 0x0), ('a', 0x7), ('b', 0x8), ('t', 0x9), ('\t', 0x9), ('n', 0xA), ('v', 0xB), ('f', 0xC),
  ('r', 0xD), ('e', 0x1B), (' ', 0x20), ('"', 0x22), ('/', 0x2F), ('\\', 0x5C), ('N', 0x85),
  ('_', 0xA0), ('L', 0x2028), ('P', 0x2029)]

/-- What an escape after its backslash stands for, and how many characters it takes. -/
def escape? : Text → Option (Char × Nat)
  | [] => none
  | c :: cs =>
    let hex (count : Nat) : Option (Char × Nat) :=
      if cs.length < count then none
      else match hexNumber? (cs.take count) with
        | some n =>
          if n < 0xD800 || (0xDFFF < n && n ≤ 0x10FFFF) then some (Char.ofNat n, count + 1)
          else none
        | none => none
    match c with
    | 'x' => hex 2
    | 'u' => hex 4
    | 'U' => hex 8
    | _ => (simpleEscapes.find? fun e => e.1 == c).map fun e => (Char.ofNat e.2, 1)

/-- Reads the characters of a quoted scalar up to a blank, a line break or the closing quote: the
value, whether it stops after an escaped line break, and the place reached. -/
def readQuotedRun (single : Bool) : (fuel : Nat) → Cursor → Option (Text × Bool × Cursor)
  | 0, c => some ([], false, c)
  | fuel + 1, c =>
    let add (d : Char) (n : Nat) :=
      (readQuotedRun single fuel (c.skip n)).map fun (t, b, c) => (d :: t, b, c)
    match c.rest with
    | [] => some ([], false, c)
    | d :: ds =>
      if isBlank d || isBreak d then some ([], false, c)
      else if single then
        match d, ds with
        | '\x27', '\x27' :: _ => add '\x27' 2
        | '\x27', _ => some ([], false, c)
        | _, _ => add d 1
      else if d == '"' then some ([], false, c)
      else if d == '\\' then
        match ds with
        | [] => none
        | e :: _ =>
          if isBreak e then some ([], true, (c.skip 1).skipBreak)
          else match escape? ds with
            | some (e, n) => add e (n + 1)
            | none => none
      else add d 1

/-- Reads a quoted scalar after its opening quote, up to and with the closing one. -/
def readQuoted (single : Bool) : (fuel : Nat) → (value : Text) → Cursor → Option (Text × Cursor)
  | 0, _, _ => none
  | fuel + 1, value, c =>
    if c.atDocumentEdge || c.rest.isEmpty then none
    else
      match readQuotedRun single (c.rest.length + 1) c with
      | none => none
      | some (run, escaped, c) =>
        let value := value ++ run
        if c.rest.head? == some (if single then '\x27' else '"') then some (value, c.skip 1)
        else
          match Gap.read 0 (c.rest.length + 1) { broken := escaped } c with
          | none => none
          | some (gap, c) => readQuoted single fuel (value ++ gap.text) c

/-! ## Block scalars -/

/-- What becomes of the line breaks at the end of a block. -/
inductive Chomp where
  | strip
  | clip
  | keep
  deriving DecidableEq

/-- Reads the header of a block after its indicator: an indentation from 1 to 9 and a chomping
indicator in either order, then blanks and a comment up to the end of the line. -/
def readBlockHeader (c : Cursor) : Option (Option Nat × Chomp × Cursor) :=
  let chomp? (c : Cursor) : Chomp × Cursor :=
    match c.rest with
    | '+' :: _ => (.keep, c.skip 1)
    | '-' :: _ => (.strip, c.skip 1)
    | _ => (.clip, c)
  let indent? (c : Cursor) : Option (Option Nat × Cursor) :=
    match c.rest with
    | d :: _ =>
      if d == '0' then none
      else if d.isDigit then some (some (d.toNat - '0'.toNat), c.skip 1)
      else some (none, c)
    | [] => some (none, c)
  let finish (indent : Option Nat) (chomp : Chomp) (c : Cursor) :=
    let c := c.skipWhile isBlank
    let c := if c.rest.head? == some '#' then c.skipWhile (fun d => !isBreak d) else c
    if startsBreak c.rest then some (indent, chomp, c.skipBreak) else none
  match chomp? c with
  | (.clip, _) =>
    match indent? c with
    | some (some n, c) =>
      let (chomp, c) := chomp? c
      finish (some n) chomp c
    | some (none, c) => finish none .clip c
    | none => none
  | (chomp, c) =>
    match indent? c with
    | some (n, c) => finish n chomp c
    | none => none

/-- Reads line breaks and the indentation after them. Where the indentation is not known yet, as
many spaces as there are belong to it. Gives the breaks, the greatest column reached, and the place
after them; a tab must not stand in the indentation. -/
def readIndentation (indent : Option Nat) :
    (fuel : Nat) → (breaks : Text) → (reached : Nat) → Cursor → Option (Text × Nat × Cursor)
  | 0, breaks, reached, c => some (breaks, reached, c)
  | fuel + 1, breaks, reached, c =>
    let spaces := (c.rest.takeWhile (· == ' ')).length
    let c := match indent with
      | some n => c.skip (min spaces (n - c.column))
      | none => c.skip spaces
    let reached := max reached c.column
    let open? := match indent with
      | some n => c.column < n
      | none => true
    if open? && c.rest.head? == some '\t' then none
    else match c.rest with
      | d :: _ =>
        if isBreak d then
          readIndentation indent fuel (breaks ++ c.breakText) reached c.skipBreak
        else some (breaks, reached, c)
      | [] => some (breaks, reached, c)

/-- Reads the lines of a block: its value, the last line break and the breaks after it. `value`,
`lead` and `breaks` are what was read before, and `indented` tells whether the line before starts
with a blank, which keeps a folded block from joining it to the next. -/
def readBlockLines (literal : Bool) (indent : Nat) :
    (fuel : Nat) → (value lead breaks : Text) → (indented : Bool) → Cursor →
      Option (Text × Text × Text × Cursor)
  | 0, value, lead, breaks, _, c => some (value, lead, breaks, c)
  | fuel + 1, value, lead, breaks, indented, c =>
    if c.column != indent || c.rest.isEmpty then some (value, lead, breaks, c)
    else
      let blank := match c.rest with
        | d :: _ => isBlank d
        | [] => false
      let glue :=
        if !literal && lead == ['\n'] && !indented && !blank then
          if breaks.isEmpty then [' '] else []
        else lead
      let line := c.rest.takeWhile fun d => !isBreak d
      let c := c.skip line.length
      let value := value ++ glue ++ breaks ++ line
      let lead := c.breakText
      match readIndentation (some indent) (c.rest.length + 1) [] 0 c.skipBreak with
      | some (breaks, _, c) => readBlockLines literal indent fuel value lead breaks blank c
      | none => none

/-- Reads a block scalar after its indicator. `parent` is the column of the block around it, if
there is one. -/
def readBlock (literal : Bool) (parent : Option Nat) (c : Cursor) : Option (Text × Cursor) :=
  match readBlockHeader c with
  | none => none
  | some (increment, chomp, c) =>
    let fixed := increment.map fun n => parent.getD 0 + n
    match readIndentation fixed (c.rest.length + 1) [] 0 c with
    | none => none
    | some (breaks, reached, c) =>
      let least := match parent with
        | some p => max (p + 1) 1
        | none => 1
      let indent := fixed.getD (max reached least)
      match readBlockLines literal indent (c.rest.length + 1) [] [] breaks false c with
      | none => none
      | some (value, lead, breaks, c) =>
        match chomp with
        | .strip => some (value, c)
        | .clip => some (value ++ lead, c)
        | .keep => some (value ++ lead ++ breaks, c)

end Yaml

end SqlVocabulary
