import SqlVocabulary.Regex.CharSet

/-!
# Regular expressions

What a pattern means, with its flags worked into it. Of two ways to match, the one that an earlier
alternative or a greedier repetition asks for is preferred.
-/

namespace SqlVocabulary

namespace Regex

/-- Where a word edge is looked for. -/
inductive WordEdge where
  | either
  | neither
  | first
  | last
  /-- Nothing of a word is on the left. -/
  | firstHalf
  /-- Nothing of a word is on the right. -/
  | lastHalf
  deriving DecidableEq, Repr

/-- Conditions on a position between characters. -/
inductive Look where
  | textStart
  | textEnd
  /-- The start of a line; `crlf` tells whether a carriage return ends a line too. -/
  | lineStart (crlf : Bool)
  | lineEnd (crlf : Bool)
  /-- A word edge; `ascii` tells whether words are ASCII. -/
  | word (edge : WordEdge) (ascii : Bool)
  deriving DecidableEq, Repr

/-- A regular expression. -/
inductive Expr where
  | empty
  | set (s : CharSet)
  | look (l : Look)
  /-- A group whose part of the match is kept under an index. -/
  | capture (index : Nat) (e : Expr)
  | seq (first second : Expr)
  | alt (preferred other : Expr)
  /-- At least `min` and at most `max` times in a row. -/
  | rep (e : Expr) (min : Nat) (max : Option Nat) (greedy : Bool)

namespace Expr

/-- Whether an expression can match nothing but empty stretches. -/
def isWidthless : Expr → Bool
  | empty | look _ => true
  | set _ => false
  | capture _ e | rep e _ _ _ => e.isWidthless
  | seq e f | alt e f => e.isWidthless && f.isWidthless

/-- A repetition. To repeat an empty match more than once is of no use, no repetition is the empty
expression, and one repetition is the expression itself. -/
def repeated (e : Expr) (min : Nat) (max : Option Nat) (greedy : Bool) : Expr :=
  let (min, max) :=
    if e.isWidthless then (Nat.min min 1, some (Nat.min (max.getD 1) 1)) else (min, max)
  match min, max with
  | 0, some 0 => empty
  | 1, some 1 => e
  | _, _ => rep e min max greedy

/-- The number of groups, the whole match counted as one: groups inside a part that is repeated
zero times are not there. -/
def groupCount : Expr → Nat
  | empty | set _ | look _ => 1
  | capture i e => Nat.max (i + 1) e.groupCount
  | seq e f | alt e f => Nat.max e.groupCount f.groupCount
  | rep e _ _ _ => e.groupCount

/-- An estimate of the bytes that a matching machine takes for one character out of a set. -/
def setWeight (s : CharSet) : Nat :=
  match s.ranges.toList with
  | [(_, last)] => if last ≤ 0x7F then 32 else 192
  | rs => rs.foldl (fun n r => n + if r.2 ≤ 0x7F then 8 else if r.1 ≤ 0x7F then 160 else 60) 32

/-- An estimate of the bytes that a matching machine takes for an expression. -/
def weight : Expr → Nat
  | empty => 32
  | set s => setWeight s
  | look _ => 32
  | capture _ e => 64 + e.weight
  | seq e f => e.weight + f.weight
  | alt e f => e.weight + f.weight + 40
  | rep e min max _ =>
    match max with
    | none => Nat.max min 1 * e.weight + 80
    | some m => m * e.weight + (m - min) * 40

end Expr

end Regex

end SqlVocabulary
