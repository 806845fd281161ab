import SqlVocabulary.Text.Basic

/-!
# Tables of runs

A property of all code points that is constant over long stretches is written as its runs: words
made of a letter code and the decimal length of the run, from code point zero on. `RunTable` keeps
the first code point of every run, so that a look-up is a bisection.
-/

namespace SqlVocabulary.Text

/-- The number that decimal digits spell. -/
def digitsValue (ds : Text) : Nat := ds.foldl (fun n d => 10 * n + (d.toNat - '0'.toNat)) 0

/-- The runs of a table: the first code point of each and its value, in ascending order. -/
structure RunTable (α : Type) where
  runs : Array (Nat × α)

namespace RunTable

/-- Reads words such as `Lu26`, each a run of the value that its letters stand for. A word whose
letters stand for nothing covers its run without a value of its own. -/
def read {α : Type} (value? : Text → Option α) (lines : List String) : RunTable α :=
  let words := lines.flatMap fun l => Text.words l.toList
  let step := fun (s : Nat × Array (Nat × α)) (w : Text) =>
    let code := w.takeWhile Char.isAlpha
    let count := digitsValue (w.dropWhile Char.isAlpha)
    match value? code with
    | some v => (s.1 + count, s.2.push (s.1, v))
    | none => (s.1 + count, s.2)
  ⟨(words.foldl step (0, #[])).2⟩

/-- The last of the runs `lo`, …, `hi - 1` that does not start beyond `n`, given that run `lo`
does not. -/
def bisect {α : Type} (t : RunTable α) (n lo hi : Nat) : Nat :=
  if _h : lo + 1 < hi then
    let mid := (lo + hi) / 2
    match t.runs[mid]? with
    | some (first, _) =>
      if first ≤ n then bisect t n mid hi else bisect t n lo mid
    | none => lo
  else lo
termination_by hi - lo

def find? {α : Type} (t : RunTable α) (n : Nat) : Option α :=
  (t.runs[t.bisect n 0 t.runs.size]?).map (·.2)

/-- The stretches of code points below `top` whose values satisfy `p`, as first and last. -/
def ranges {α : Type} (t : RunTable α) (top : Nat) (p : α → Bool) : List (Nat × Nat) :=
  let runs := t.runs.toList
  let ends := (runs.drop 1).map (·.1) ++ [top]
  (runs.zip ends).filterMap fun ((first, v), next) =>
    if p v then some (first, next - 1) else none

end RunTable

end SqlVocabulary.Text
