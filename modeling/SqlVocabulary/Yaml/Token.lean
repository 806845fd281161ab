import SqlVocabulary.Yaml.Scalar

/-!
# Tokens of a YAML text

Indentation becomes tokens that open and close blocks. A mapping key is often known only when the
colon after it is reached: where a key may start, its place among the tokens is remembered, and the
colon puts the tokens that announce the key there. Such a key must end on its line, within 1024
characters.
-/

namespace SqlVocabulary

namespace Yaml

inductive Token where
  | documentStart
  | documentEnd
  | blockSequence
  | blockMapping
  | blockEnd
  | flowSequence
  | flowSequenceEnd
  | flowMapping
  | flowMappingEnd
  | entry
  | comma
  | key
  | value
  | alias (name : Text)
  | anchor (name : Text)
  /-- A tag as written: its handle, and what follows it. -/
  | tag (handle suffix : Text)
  | scalar (text : Text) (style : Style)
  /-- A directive that states the version of the notation. -/
  | version (major minor : Nat)
  /-- A directive that gives a handle its meaning. -/
  | handle (name meaning : Text)
  deriving DecidableEq

/-- A place where a key may have started: the number of tokens before it, where it stands, and
whether there must be a key. -/
structure KeyStart where
  tokens : Nat
  index : Nat
  line : Nat
  column : Nat
  required : Bool

/-- What is known when a text has been read up to some place. -/
structure Scan where
  cursor : Cursor
  /-- The tokens so far, the last one first. -/
  tokens : List Token := []
  /-- The columns of the open blocks, the innermost first. -/
  indents : List Nat := []
  /-- Whether a key may start here. -/
  keyAllowed : Bool := true
  /-- The last place where a key may have started outside all brackets, -/
  blockKey : Option KeyStart := none
  /-- and for each open bracket inside it, the innermost first. -/
  flowKeys : List (Option KeyStart) := []

namespace Scan

/-- The longest key that is not announced by an indicator. -/
def maxKeyLength : Nat := 1024

def inFlow (s : Scan) : Bool := !s.flowKeys.isEmpty

/-- The innermost place where a key may have started. -/
def keyStart? (s : Scan) : Option KeyStart :=
  match s.flowKeys with
  | k :: _ => k
  | [] => s.blockKey

/-- The same with another innermost place. -/
def setKeyStart (s : Scan) (k : Option KeyStart) : Scan :=
  match s.flowKeys with
  | _ :: ks => { s with flowKeys := k :: ks }
  | [] => { s with blockKey := k }

def push (s : Scan) (t : Token) : Scan := { s with tokens := t :: s.tokens }

def insert (s : Scan) (n : Nat) (t : Token) : Scan :=
  let later := s.tokens.length - n
  { s with tokens := s.tokens.take later ++ t :: s.tokens.drop later }

def moveTo (s : Scan) (c : Cursor) : Scan := { s with cursor := c }

/-- The same, with keys allowed or not. -/
def allowKey (s : Scan) (allowed : Bool) : Scan := { s with keyAllowed := allowed }

/-- The column of the innermost block. -/
def indent? (s : Scan) : Option Nat := s.indents.head?

/-- Whether a column lies right of the innermost block. -/
def isDeeper (s : Scan) (column : Nat) : Bool :=
  match s.indents with
  | n :: _ => n < column
  | [] => true

/-- Gives up a possible key. A key that is required cannot be given up. -/
def dropKey? (s : Scan) : Option Scan :=
  match s.keyStart? with
  | some k => if k.required then none else some (s.setKeyStart none)
  | none => some s

/-- Remembers that a key may start here. At the column of a block there must be one. -/
def saveKey? (s : Scan) : Option Scan :=
  if s.keyAllowed then
    s.dropKey?.map fun s =>
      s.setKeyStart (some ⟨s.tokens.length, s.cursor.index, s.cursor.line, s.cursor.column,
        !s.inFlow && s.indent? == some s.cursor.column⟩)
  else some s

/-- Whether a place where a key may have started is too far back for that. -/
def isStale (c : Cursor) (k : KeyStart) : Bool :=
  k.line < c.line || k.index + maxKeyLength < c.index

/-- Gives up the keys that are too far back. -/
def dropStaleKeys? (s : Scan) : Option Scan :=
  let fresh (k : Option KeyStart) : Option (Option KeyStart) :=
    match k with
    | some k =>
      if isStale s.cursor k then (if k.required then none else some none) else some (some k)
    | none => some none
  match fresh s.blockKey, s.flowKeys.mapM fresh with
  | some b, some fs => some { s with blockKey := b, flowKeys := fs }
  | _, _ => none

/-- Closes the blocks that are right of a column; for none, all blocks. Inside brackets columns do
not count. -/
def closeBlocks (s : Scan) (column : Option Nat) : Scan :=
  if s.inFlow then s
  else
    let isOpen := fun n => match column with
      | some c => n ≤ c
      | none => false
    let closed := (s.indents.takeWhile fun n => !isOpen n).length
    { s with
      indents := s.indents.drop closed
      tokens := List.replicate closed .blockEnd ++ s.tokens }

/-- Opens a block at a column, unless one is open there; the token goes behind the first `n`
tokens. -/
def openBlock (s : Scan) (column n : Nat) (t : Token) : Scan :=
  if s.inFlow || !s.isDeeper column then s
  else { s.insert n t with indents := column :: s.indents }

/-- The same for a block that starts here. -/
def openBlockHere (s : Scan) (t : Token) : Scan :=
  s.openBlock s.cursor.column s.tokens.length t

/-- The place after blanks, comments and line breaks. Outside brackets a new line allows a key, and
tabs do not count as blanks where a key is allowed. A byte order mark in front of the text is passed
over, but it takes a column. -/
def skipToToken : (fuel : Nat) → Scan → Scan
  | 0, s => s
  | fuel + 1, s =>
    let c := s.cursor
    let c := if c.index == 0 && c.rest.head? == some byteOrderMark then c.skip 1 else c
    let tabs := s.inFlow || !s.keyAllowed
    let c := c.skipWhile fun d => d == ' ' || (tabs && d == '\t')
    let c := if c.rest.head? == some '#' then c.skipWhile (fun d => !isBreak d) else c
    match c.rest with
    | d :: _ =>
      if isBreak d then
        skipToToken fuel { s with cursor := c.skipBreak, keyAllowed := s.keyAllowed || !s.inFlow }
      else s.moveTo c
    | [] => s.moveTo c

/-! ## Names, tags and directives -/

/-- Reads the name of an anchor or alias after its indicator. -/
def readName (c : Cursor) : Option (Text × Cursor) :=
  let name := c.rest.takeWhile isNameChar
  let c := c.skip name.length
  let ends := startsBlank c.rest || (match c.rest with
    | d :: _ => "?:,]\x7d%@\x60".toList.contains d
    | [] => true)
  if name.isEmpty || !ends then none else some (name, c)

/-- The octet that a percent escape stands for. -/
def percentOctet? : Text → Option Nat
  | '%' :: a :: b :: _ => hexNumber? [a, b]
  | _ => none

/-- Reads a character written as the percent escapes of its UTF-8 octets. -/
def readPercent (c : Cursor) : Option (Char × Cursor) :=
  let rec more (value : Nat) : (count : Nat) → Cursor → Option (Nat × Cursor)
    | 0, c => some (value, c)
    | count + 1, c =>
      match percentOctet? c.rest with
      | some o =>
        if o / 0x40 == 2 then more (value * 0x40 + o % 0x40) count (c.skip 3) else none
      | none => none
  match percentOctet? c.rest with
  | none => none
  | some o =>
    let start : Option (Nat × Nat) :=
      if o < 0x80 then some (o, 0)
      else if o / 0x20 == 6 then some (o % 0x20, 1)
      else if o / 0x10 == 14 then some (o % 0x10, 2)
      else if o / 8 == 30 then some (o % 8, 3)
      else none
    match start with
    | none => none
    | some (value, count) =>
      (more value count (c.skip 3)).map fun (n, c) => (Char.ofNat n, c)

/-- Whether a character may stand in the text of a tag; `wide` adds those that are indicators in
flow. -/
def isTagChar (wide : Bool) (c : Char) : Bool :=
  isNameChar c || ";/?:@&=+$.%!~*\x27()".toList.contains c || (wide && ",[]".toList.contains c)

def readTagText (wide : Bool) : (fuel : Nat) → Cursor → Option (Text × Cursor)
  | 0, c => some ([], c)
  | fuel + 1, c =>
    match c.rest with
    | '%' :: _ =>
      match readPercent c with
      | some (d, c) => (readTagText wide fuel c).map fun (t, c) => (d :: t, c)
      | none => none
    | d :: _ =>
      if isTagChar wide d then
        (readTagText wide fuel (c.skip 1)).map fun (t, c) => (d :: t, c)
      else some ([], c)
    | [] => some ([], c)

/-- Reads the handle of a tag: an exclamation mark, and letters up to a second one if there is one.
-/
def readHandle (c : Cursor) : Option (Text × Cursor) :=
  match c.rest with
  | '!' :: rest =>
    let name := rest.takeWhile isNameChar
    match rest.drop name.length with
    | '!' :: _ => some ('!' :: name ++ ['!'], c.skip (name.length + 2))
    | _ => some ('!' :: name, c.skip (name.length + 1))
  | _ => none

/-- Reads a tag. What looks like a handle without its second mark belongs to the text of the tag. -/
def readTag (inFlow : Bool) (c : Cursor) : Option (Token × Cursor) :=
  let parsed : Option (Text × Text × Cursor) :=
    match c.rest with
    | '!' :: '<' :: _ =>
      match readTagText true c.rest.length (c.skip 2) with
      | some (t, c) =>
        if t.isEmpty || c.rest.head? != some '>' then none else some ([], t, c.skip 1)
      | none => none
    | _ =>
      match readHandle c with
      | none => none
      | some (h, after) =>
        match readTagText false c.rest.length after with
        | none => none
        | some (t, c) =>
          if 2 ≤ h.length && h.getLast? == some '!' then
            if t.isEmpty then none else some (h, t, c)
          else
            match h.drop 1 ++ t with
            | [] => some ([], ['!'], c)
            | suffix => some (['!'], suffix, c)
  match parsed with
  | some (handle, suffix, c) =>
    if startsBlank c.rest || (inFlow && c.rest.head? == some ',') then
      some (.tag handle suffix, c)
    else none
  | none => none

/-- Reads a number of a version: up to nine digits. -/
def readVersionNumber (c : Cursor) : Option (Nat × Cursor) :=
  let digits := c.rest.takeWhile Char.isDigit
  if digits.isEmpty || 9 < digits.length then none
  else some (digits.foldl (fun n d => 10 * n + (d.toNat - '0'.toNat)) 0, c.skip digits.length)

def readVersion (c : Cursor) : Option (Token × Cursor) :=
  match readVersionNumber (c.skipWhile isBlank) with
  | some (major, c) =>
    if c.rest.head? != some '.' then none
    else (readVersionNumber (c.skip 1)).map fun (minor, c) => (.version major minor, c)
  | none => none

/-- Reads the value of a directive for a handle. -/
def readHandleMeaning (c : Cursor) : Option (Token × Cursor) :=
  match readHandle (c.skipWhile isBlank) with
  | none => none
  | some (h, c) =>
    let isHandle := h == ['!'] || (2 ≤ h.length && h.getLast? == some '!')
    match c.rest with
    | d :: _ =>
      if !isHandle || !isBlank d then none
      else
        match readTagText true c.rest.length (c.skipWhile isBlank) with
        | some (t, c) =>
          if t.isEmpty || !startsBlank c.rest then none else some (.handle h t, c)
        | none => none
    | [] => none

/-- Reads a directive up to the end of its line. -/
def readDirective (c : Cursor) : Option (Token × Cursor) :=
  let c := c.skip 1
  let name := c.rest.takeWhile isNameChar
  let c := c.skip name.length
  let parsed :=
    if !startsBlank c.rest then none
    else if name == "YAML".toList then readVersion c
    else if name == "TAG".toList then readHandleMeaning c
    else none
  match parsed with
  | some (t, c) =>
    let c := c.skipWhile isBlank
    let c := if c.rest.head? == some '#' then c.skipWhile (fun d => !isBreak d) else c
    if startsBreak c.rest then some (t, c.skipBreak) else none
  | none => none

/-! ## Fetching tokens -/

/-- A token of one or more characters that ends all blocks. -/
def fetchDocumentEdge (s : Scan) (t : Token) : Option Scan :=
  (s.closeBlocks none).dropKey?.map fun s => ((s.allowKey false).push t).moveTo (s.cursor.skip 3)

def fetchDirective (s : Scan) : Option Scan :=
  match (s.closeBlocks none).dropKey?, readDirective s.cursor with
  | some s, some (t, c) => some (((s.allowKey false).push t).moveTo c)
  | _, _ => none

def fetchFlowStart (s : Scan) (t : Token) : Option Scan :=
  s.saveKey?.map fun s =>
    { s.push t with
      flowKeys := none :: s.flowKeys, keyAllowed := true, cursor := s.cursor.skip 1 }

def fetchFlowEnd (s : Scan) (t : Token) : Option Scan :=
  s.dropKey?.map fun s =>
    { s.push t with
      flowKeys := s.flowKeys.drop 1, keyAllowed := false, cursor := s.cursor.skip 1 }

def fetchComma (s : Scan) : Option Scan :=
  s.dropKey?.map fun s => ((s.allowKey true).push .comma).moveTo (s.cursor.skip 1)

/-- The hyphen before an entry of a block sequence. -/
def fetchEntry (s : Scan) : Option Scan :=
  if !s.inFlow && !s.keyAllowed then none
  else
    (s.openBlockHere .blockSequence).dropKey?.map fun s =>
      ((s.allowKey true).push .entry).moveTo (s.cursor.skip 1)

/-- The question mark before a key. -/
def fetchKey (s : Scan) : Option Scan :=
  if !s.inFlow && !s.keyAllowed then none
  else
    (s.openBlockHere .blockMapping).dropKey?.map fun s =>
      ((s.allowKey (!s.inFlow)).push .key).moveTo (s.cursor.skip 1)

/-- The colon before a value. If a key may have started before it, that was a key. -/
def fetchValue (s : Scan) : Option Scan :=
  match s.keyStart? with
  | some k =>
    let s := (s.insert k.tokens .key).openBlock k.column k.tokens .blockMapping
    some ((((s.setKeyStart none).allowKey false).push .value).moveTo (s.cursor.skip 1))
  | none =>
    if !s.inFlow && !s.keyAllowed then none
    else
      let s := s.openBlockHere .blockMapping
      some (((s.allowKey (!s.inFlow)).push .value).moveTo (s.cursor.skip 1))

/-- A token that may start a key: what a reader makes of the text from the first character on. -/
def fetchContent (s : Scan) (read : Cursor → Option (Token × Cursor)) : Option Scan :=
  match s.saveKey?, read s.cursor with
  | some s, some (t, c) => some (((s.allowKey false).push t).moveTo c)
  | _, _ => none

/-- A block scalar. It cannot be a key, and the line after it may start one. -/
def fetchBlockScalar (s : Scan) (literal : Bool) : Option Scan :=
  match s.dropKey?, readBlock literal s.indent? (s.cursor.skip 1) with
  | some s, some (t, c) =>
    some (((s.allowKey true).push (.scalar t (if literal then .literal else .folded))).moveTo c)
  | _, _ => none

/-- A plain scalar. If line breaks follow it, the place after them may start a key. -/
def fetchPlain (s : Scan) : Option Scan :=
  let indent := match s.indent? with
    | some n => n + 1
    | none => 0
  match s.saveKey?, readPlain s.inFlow indent (s.cursor.rest.length + 1) [] {} s.cursor with
  | some s, some (t, broken, c) =>
    some (((s.allowKey broken).push (.scalar t .plain)).moveTo c)
  | _, _ => none

/-- Whether a plain scalar may start with what is ahead. -/
def startsPlain (inFlow : Bool) : Text → Bool
  | [] => false
  | c :: cs =>
    let isIndicator := isBlank c || isBreak c ||
      "-?:,[]\x7b\x7d#&*!|>\x27\"%@\x60".toList.contains c
    let blankAhead := match cs with
      | d :: _ => isBlank d
      | [] => false
    !isIndicator || (c == '-' && !blankAhead) ||
      (!inFlow && (c == '?' || c == ':') && !startsBlank cs)

/-- Reads an alias or anchor. -/
def readNamed (make : Text → Token) (c : Cursor) : Option (Token × Cursor) :=
  (readName (c.skip 1)).map fun (t, c) => (make t, c)

def readQuotedToken (single : Bool) (c : Cursor) : Option (Token × Cursor) :=
  (readQuoted single (c.rest.length + 1) [] (c.skip 1)).map fun (t, c) =>
    (.scalar t (if single then .singleQuoted else .doubleQuoted), c)

/-- The next token, the place being at its first character. -/
def fetch (s : Scan) : Option Scan :=
  let c := s.cursor
  if c.column == 0 && c.rest.head? == some '%' then s.fetchDirective
  else if c.atMarker ['-', '-', '-'] then s.fetchDocumentEdge .documentStart
  else if c.atMarker ['.', '.', '.'] then s.fetchDocumentEdge .documentEnd
  else
    match c.rest with
    | [] => none
    | d :: ds =>
      let apart := startsBlank ds
      if d == '[' then s.fetchFlowStart .flowSequence
      else if d == '\x7b' then s.fetchFlowStart .flowMapping
      else if d == ']' then s.fetchFlowEnd .flowSequenceEnd
      else if d == '\x7d' then s.fetchFlowEnd .flowMappingEnd
      else if d == ',' then s.fetchComma
      else if d == '-' && apart then s.fetchEntry
      else if d == '?' && (s.inFlow || apart) then s.fetchKey
      else if d == ':' && (s.inFlow || apart) then s.fetchValue
      else if d == '*' then s.fetchContent (readNamed .alias)
      else if d == '&' then s.fetchContent (readNamed .anchor)
      else if d == '!' then s.fetchContent (readTag s.inFlow)
      else if d == '|' && !s.inFlow then s.fetchBlockScalar true
      else if d == '>' && !s.inFlow then s.fetchBlockScalar false
      else if d == '\x27' then s.fetchContent (readQuotedToken true)
      else if d == '"' then s.fetchContent (readQuotedToken false)
      else if startsPlain s.inFlow c.rest then s.fetchPlain
      else none

/-- The end of the text: all blocks are closed, and no key may be missing. -/
def finish (s : Scan) : Option (List Token) :=
  (s.closeBlocks none).dropKey?.map fun s => s.tokens.reverse

/-- All tokens from a place on. Every token takes at least one character, so the length of the text
is fuel enough. -/
def run : (fuel : Nat) → Scan → Option (List Token)
  | 0, _ => none
  | fuel + 1, s =>
    match (skipToToken (s.cursor.rest.length + 1) s).dropStaleKeys? with
    | none => none
    | some s =>
      let s := s.closeBlocks (some s.cursor.column)
      if s.cursor.rest.isEmpty then s.finish
      else
        match s.fetch with
        | some s => run fuel s
        | none => none

end Scan

/-- The tokens of a text, if it is well formed so far. -/
def Token.scan? (t : Text) : Option (List Token) :=
  if t.all isAllowed then Scan.run (t.length + 1) { cursor := { rest := t } } else none

end Yaml

end SqlVocabulary
