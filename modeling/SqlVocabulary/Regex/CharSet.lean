import SqlVocabulary.Text.CaseFold
import SqlVocabulary.Text.Property

/-!
# Sets of characters

A set of characters is a list of ranges of code points in ascending order that neither overlap nor
touch. Every operation ends in `ofRanges`, which brings ranges into that form, so equal sets have
equal ranges.
-/

namespace SqlVocabulary

/-- A set of code points as ascending ranges, each given by its first and last. -/
structure CharSet where
  ranges : Array (Nat × Nat)

namespace CharSet

def top : Nat := 0x10FFFF

/-- Joins ranges from the front: `current` is the range that may still grow. -/
def mergeInto (current : Nat × Nat) : List (Nat × Nat) → List (Nat × Nat)
  | [] => [current]
  | r :: rs =>
    if r.1 ≤ current.2 + 1 then mergeInto (current.1, max current.2 r.2) rs
    else current :: mergeInto r rs

/-- The set of the code points in some ranges. -/
def ofRanges (rs : List (Nat × Nat)) : CharSet :=
  match rs.mergeSort (fun a b => a.1 ≤ b.1) with
  | [] => ⟨#[]⟩
  | r :: rs => ⟨(mergeInto r rs).toArray⟩

def empty : CharSet := ⟨#[]⟩

def range (first last : Nat) : CharSet := ofRanges (if first ≤ last then [(first, last)] else [])

def single (c : Char) : CharSet := ⟨#[(c.toNat, c.toNat)]⟩

/-- The last of the ranges `lo`, …, `hi - 1` that does not start beyond `n`, given that range `lo`
does not. -/
def bisect (s : CharSet) (n lo hi : Nat) : Nat :=
  if _h : lo + 1 < hi then
    let mid := (lo + hi) / 2
    match s.ranges[mid]? with
    | some (first, _) => if first ≤ n then bisect s n mid hi else bisect s n lo mid
    | none => lo
  else lo
termination_by hi - lo

def containsCode (s : CharSet) (n : Nat) : Bool :=
  match s.ranges[s.bisect n 0 s.ranges.size]? with
  | some (first, last) => first ≤ n && n ≤ last
  | none => false

def contains (s : CharSet) (c : Char) : Bool := s.containsCode c.toNat

def union (s t : CharSet) : CharSet := ofRanges (s.ranges.toList ++ t.ranges.toList)

/-- The gaps between ascending ranges, from `next` up to `last`. -/
def gaps (last next : Nat) : List (Nat × Nat) → List (Nat × Nat)
  | [] => if next ≤ last then [(next, last)] else []
  | r :: rs =>
    if next < r.1 then (next, r.1 - 1) :: gaps last (r.2 + 1) rs else gaps last (r.2 + 1) rs

/-- The code points up to `last` that are not in the set. -/
def complement (last : Nat) (s : CharSet) : CharSet := ⟨(gaps last 0 s.ranges.toList).toArray⟩

def inter (s t : CharSet) : CharSet :=
  complement top ((complement top s).union (complement top t))

def diff (s t : CharSet) : CharSet := s.inter (complement top t)

def symmDiff (s t : CharSet) : CharSet := (s.union t).diff (s.inter t)

def isAscii (s : CharSet) : Bool := s.ranges.all fun r => r.2 ≤ 0x7F

/-- The set together with every character that differs from a member in case alone. -/
def closeCase (s : CharSet) : CharSet :=
  let targets := Text.foldPairs.filterMap fun (n, f) =>
    if s.containsCode n || s.containsCode f then some (f, f) else none
  let met := ofRanges targets
  let joined := Text.foldPairs.filterMap fun (n, f) =>
    if met.containsCode f then some (n, n) else none
  s.union (met.union (ofRanges joined))

/-- The set together with the other case of every ASCII letter in it. -/
def closeAsciiCase (s : CharSet) : CharSet :=
  let letters := (List.range 26).flatMap fun i =>
    let upper := 'A'.toNat + i
    let lower := 'a'.toNat + i
    if s.containsCode upper || s.containsCode lower then [(upper, upper), (lower, lower)] else []
  s.union (ofRanges letters)

/-- The characters of some general categories. -/
def ofCategories (p : Text.Category → Bool) : CharSet :=
  ofRanges (Text.categoryTable.ranges (top + 1) p)

/-- The characters with a binary property. -/
def ofProperty (p : Text.Property) : CharSet :=
  (ofCategories fun c => p.base.contains c).symmDiff (ofRanges p.exceptionRanges)

/-- The characters with a binary property that has a given name. -/
def ofPropertyName (name : String) : CharSet :=
  match Text.propertyOfName? name.toList with
  | some p => ofProperty p
  | none => empty

def alphabetic : CharSet := ofPropertyName "alphabetic"

def digits : CharSet := ofCategories (· == .decimalNumber)

def spaces : CharSet := ofPropertyName "whitespace"

/-- The characters of which words are made: letters, marks, decimal digits, connecting
punctuation, and the characters that join or part letters. -/
def wordChars : CharSet :=
  let others := ofCategories fun c =>
    c.group == 'M' || c == .decimalNumber || c == .connectorPunctuation
  alphabetic.union (others.union (ofPropertyName "joincontrol"))

def asciiDigits : CharSet := range '0'.toNat '9'.toNat

def asciiSpaces : CharSet := (range 0x9 0xD).union (single ' ')

def asciiWordChars : CharSet :=
  ofRanges [('0'.toNat, '9'.toNat), ('A'.toNat, 'Z'.toNat), ('_'.toNat, '_'.toNat),
    ('a'.toNat, 'z'.toNat)]

end CharSet

end SqlVocabulary
