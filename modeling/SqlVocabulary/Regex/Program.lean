import SqlVocabulary.Regex.Expr

/-!
# Matching programs

An expression is turned into instructions that name the instructions to go on with. Where an
instruction names two, the first is preferred.

An optional or repeated part prefers to go on with itself if it is greedy, and with what follows if
it is not. `e*` is `(e+)?`: the round that is optional is the first, so that a part that can match
nothing is entered once at a place and is not left out there because it was entered.
-/

namespace SqlVocabulary

namespace Regex

inductive Instr where
  /-- Reads a character of a set. -/
  | char (s : CharSet) (next : Nat)
  /-- Goes on where a condition holds. -/
  | look (l : Look) (next : Nat)
  /-- Keeps the position in a slot. -/
  | save (slot next : Nat)
  /-- Goes on with either, the first one preferred. -/
  | fork (preferred other : Nat)
  /-- The match is complete. -/
  | done

/-- Instructions under construction: those there are, and the one to start with. -/
structure Compiled where
  code : Array Instr
  start : Nat

namespace Compiled

def push (code : Array Instr) (i : Instr) : Compiled :=
  let start := code.size
  ⟨code.push i, start⟩

/-- The fork of a part that may be left out. -/
def forkTo (greedy : Bool) (inside after : Nat) : Instr :=
  if greedy then .fork inside after else .fork after inside

end Compiled

/-- The instructions for a number of copies of a part before `next`, where `emit` writes one. -/
def emitTimes (emit : Nat → Array Instr → Compiled) (next : Nat) :
    (count : Nat) → Array Instr → Compiled
  | 0, code => ⟨code, next⟩
  | count + 1, code =>
    let rest := emitTimes emit next count code
    emit rest.start rest.code

/-- The instructions for up to a number of copies of a part before `next`. A copy is tried only
after the one before it, and any of them may be the last. -/
def emitUpTo (emit : Nat → Array Instr → Compiled) (greedy : Bool) (next : Nat) :
    (count : Nat) → Array Instr → Compiled
  | 0, code => ⟨code, next⟩
  | count + 1, code =>
    let rest := emitUpTo emit greedy next count code
    let inside := emit rest.start rest.code
    .push inside.code (Compiled.forkTo greedy inside.start next)

/-- The instructions for one or more copies of a part before `next`. -/
def emitPlus (emit : Nat → Array Instr → Compiled) (greedy : Bool) (next : Nat)
    (code : Array Instr) : Compiled :=
  let loop := code.size
  let inside := emit loop (code.push .done)
  ⟨inside.code.setIfInBounds loop (Compiled.forkTo greedy inside.start next), inside.start⟩

/-- The instructions of an expression, which go on with `next`. -/
def emit : Expr → (next : Nat) → Array Instr → Compiled
  | .empty, next, code => ⟨code, next⟩
  | .set s, next, code => .push code (.char s next)
  | .look l, next, code => .push code (.look l next)
  | .capture i e, next, code =>
    let close := Compiled.push code (.save (2 * i + 1) next)
    let inside := emit e close.start close.code
    .push inside.code (.save (2 * i) inside.start)
  | .seq e f, next, code =>
    let rest := emit f next code
    emit e rest.start rest.code
  | .alt e f, next, code =>
    let other := emit f next code
    let preferred := emit e next other.code
    .push preferred.code (.fork preferred.start other.start)
  | .rep e min max greedy, next, code =>
    match max with
    | some m =>
      let optional := emitUpTo (emit e) greedy next (m - min) code
      emitTimes (emit e) optional.start min optional.code
    | none =>
      let plus := emitPlus (emit e) greedy next code
      match min with
      | 0 => .push plus.code (Compiled.forkTo greedy plus.start next)
      | n + 1 => emitTimes (emit e) plus.start n plus.code

/-- A program: its instructions, the one to start with, and the number of groups. -/
structure Program where
  code : Array Instr
  start : Nat
  groups : Nat

/-- The program of an expression. The whole match is group zero. -/
def Program.ofExpr (e : Expr) : Program :=
  let c := emit (.capture 0 e) 0 #[.done]
  ⟨c.code, c.start, e.groupCount⟩

end Regex

end SqlVocabulary
