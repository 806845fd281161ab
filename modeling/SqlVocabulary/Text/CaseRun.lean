import SqlVocabulary.Text.Basic

/-!
# Runs of a case mapping

A case mapping that takes characters to characters is mostly regular: over a stretch of code points
every one, or every second one, moves by the same distance. A `CaseRun` is such a stretch, and a
mapping is a list of runs ordered by their first code points.
-/

namespace SqlVocabulary.Text

/-- The code points `first`, `first + step`, … up to `last`, each of which moves by `shift`. -/
structure CaseRun where
  first : Nat
  last : Nat
  step : Nat
  shift : Int

namespace CaseRun

def covers (r : CaseRun) (n : Nat) : Bool :=
  r.first ≤ n && n ≤ r.last && (n - r.first) % r.step == 0

/-- Where the runs take a code point, if one of them moves it. The runs are ordered by `first`, so
the search ends at the first run beyond it. -/
def find? (n : Nat) : List CaseRun → Option Nat
  | [] => none
  | r :: rs =>
    if n < r.first then none
    else if r.covers n then some (n + r.shift).toNat
    else find? n rs

def pairs (r : CaseRun) : List (Nat × Nat) :=
  (List.range ((r.last - r.first) / r.step + 1)).map fun i =>
    (r.first + i * r.step, ((r.first + i * r.step : Nat) + r.shift).toNat)

end CaseRun

end SqlVocabulary.Text
