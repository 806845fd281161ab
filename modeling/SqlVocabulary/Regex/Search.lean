import SqlVocabulary.Regex.Program

/-!
# Searching

All ways to match are followed side by side, one character at a time. At each position the threads
stand in the order of preference, and of two threads at one instruction the later one is dropped:
whatever it could still do, the earlier one does and is preferred. When a thread is done, those
behind it are dropped. A new match may start at every position until one is found, so the leftmost
match wins, and among those that start there the preferred one.
-/

namespace SqlVocabulary

namespace Regex

/-- The positions that a thread has kept: those of group `i` in the slots `2 * i` and
`2 * i + 1`. -/
abbrev Slots := Array (Option Nat)

/-- A way to match that stands at an instruction. -/
structure Thread where
  instr : Nat
  slots : Slots

/-- A position in a text: its index and the characters on its two sides. -/
structure Place where
  index : Nat
  before : Option Char
  after : Option Char

def isWordChar (ascii : Bool) : Option Char → Bool
  | some c =>
    if c.toNat < 0x80 then c.isAlphanum || c == '_' else !ascii && CharSet.wordChars.contains c
  | none => false

/-- Whether a condition holds at a place. -/
def Look.holds (p : Place) : Look → Bool
  | .textStart => p.before.isNone
  | .textEnd => p.after.isNone
  | .lineStart crlf =>
    p.before.isNone || p.before == some '\n' ||
      (crlf && p.before == some '\r' && p.after != some '\n')
  | .lineEnd crlf =>
    p.after.isNone || (p.after == some '\n' && !(crlf && p.before == some '\r')) ||
      (crlf && p.after == some '\r')
  | .word edge ascii =>
    let left := isWordChar ascii p.before
    let right := isWordChar ascii p.after
    match edge with
    | .either => left != right
    | .neither => left == right
    | .first => !left && right
    | .last => left && !right
    | .firstHalf => !left
    | .lastHalf => !right

/-- The threads that wait for a character at a place, and the slots of a thread that is done. The
threads to look at stand in `stack` in order of preference; `seen` marks the instructions that a
thread has been at, by the index of the place plus one. Every instruction is looked at once and puts
at most two threads on the stack, which bounds the fuel. -/
def settle (code : Array Instr) (p : Place) :
    (fuel : Nat) → List Thread → (seen : Array Nat) → (waiting : Array Thread) →
      Array Thread × Option Slots × Array Nat
  | 0, _, seen, waiting => (waiting, none, seen)
  | _, [], seen, waiting => (waiting, none, seen)
  | fuel + 1, t :: stack, seen, waiting =>
    if seen[t.instr]? == some (p.index + 1) then settle code p fuel stack seen waiting
    else
      let seen := seen.setIfInBounds t.instr (p.index + 1)
      match code[t.instr]? with
      | none => settle code p fuel stack seen waiting
      | some .done => (waiting, some t.slots, seen)
      | some (.char _ _) => settle code p fuel stack seen (waiting.push t)
      | some (.look l next) =>
        if l.holds p then settle code p fuel (⟨next, t.slots⟩ :: stack) seen waiting
        else settle code p fuel stack seen waiting
      | some (.save slot next) =>
        settle code p fuel (⟨next, t.slots.setIfInBounds slot (some p.index)⟩ :: stack) seen waiting
      | some (.fork preferred other) =>
        settle code p fuel (⟨preferred, t.slots⟩ :: ⟨other, t.slots⟩ :: stack) seen waiting

/-- The threads that a character takes on. -/
def advance (code : Array Instr) (c : Char) (waiting : Array Thread) : List Thread :=
  waiting.toList.filterMap fun (t : Thread) =>
    match code[t.instr]? with
    | some (.char s next) => if s.contains c then some ⟨next, t.slots⟩ else none
    | _ => none

/-- Goes on with a search at a position: `threads` are the ways to match that have come here, and
`found` is the match that is preferred so far. -/
def searchFrom (prog : Program) (index : Nat) (before : Option Char) (threads : List Thread)
    (found : Option Slots) (seen : Array Nat) (text : Text) : Option Slots :=
  let fresh : List Thread :=
    match found with
    | none => [⟨prog.start, Array.replicate (2 * prog.groups) none⟩]
    | some _ => []
  let stack := threads ++ fresh
  let fuel := stack.length + 2 * prog.code.size + 1
  let (waiting, done, seen) :=
    settle prog.code ⟨index, before, text.head?⟩ fuel stack seen #[]
  let found := done <|> found
  match text with
  | [] => found
  | c :: cs =>
    if found.isSome && waiting.isEmpty then found
    else searchFrom prog (index + 1) (some c) (advance prog.code c waiting) found seen cs

/-- A match: the stretches of its groups, from and to which positions, that of the whole match
first. A group that took no part has none. -/
structure Match where
  start : Nat
  stop : Nat
  groups : List (Option (Nat × Nat))

/-- The match in the slots of a thread that is done. -/
def Match.ofSlots? (s : Slots) : Option Match :=
  let group (i : Nat) : Option (Nat × Nat) :=
    match s[2 * i]?, s[2 * i + 1]? with
    | some (some a), some (some b) => some (a, b)
    | _, _ => none
  (group 0).map fun (a, b) => ⟨a, b, (List.range (s.size / 2)).map group⟩

/-- The first match in a text that goes on at a position, given the character before it. -/
def Program.find? (prog : Program) (index : Nat) (before : Option Char) (text : Text) :
    Option Match :=
  (searchFrom prog index before [] none (Array.replicate prog.code.size 0) text).bind
    Match.ofSlots?

/-- The rest of a text after some characters, and the last of those. -/
def skipChars : (count : Nat) → (before : Option Char) → Text → Option Char × Text
  | 0, before, t => (before, t)
  | _, before, [] => (before, [])
  | count + 1, _, c :: cs => skipChars count (some c) cs

/-- The matches in a text one after the other, none overlapping the one before it. `last` is where
the match before ended: an empty match there does not count, and the search goes on one character
further. -/
def Program.findAllFrom (prog : Program) :
    (fuel : Nat) → (index : Nat) → (last : Option Nat) → (before : Option Char) → Text → List Match
  | 0, _, _, _, _ => []
  | fuel + 1, index, last, before, text =>
    match prog.find? index before text with
    | none => []
    | some m =>
      if m.start = m.stop ∧ last = some m.stop then
        match text with
        | [] => []
        | c :: cs => prog.findAllFrom fuel (index + 1) last (some c) cs
      else
        let (before, rest) := skipChars (m.stop - index) before text
        m :: prog.findAllFrom fuel m.stop (some m.stop) before rest

/-- The matches in a text. Between two of them at least one character is passed, save that a match
may be empty where the one before it did not end. -/
def Program.findAll (prog : Program) (text : Text) : List Match :=
  prog.findAllFrom (2 * text.length + 2) 0 none none text

end Regex

end SqlVocabulary
