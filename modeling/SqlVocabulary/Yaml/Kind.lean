import SqlVocabulary.Text.Basic

/-!
# Kinds of plain scalars

A plain scalar without a tag stands for null, for a truth value or for a number if it is written
like one, and for its text otherwise. A whole number with a superfluous leading zero is text. So is
a number that is larger in magnitude than every double, unless it is written in another base than
ten; for those the limit is 128 bits.
-/

namespace SqlVocabulary

namespace Yaml

/-- What a plain scalar stands for. -/
inductive Kind where
  | null
  | boolean (value : Bool)
  | number
  | text
  deriving DecidableEq, Repr

def isNull (t : Text) : Bool :=
  t == "null".toList || t == "Null".toList || t == "NULL".toList || t == "~".toList

def boolean? (t : Text) : Option Bool :=
  if t == "true".toList || t == "True".toList || t == "TRUE".toList then some true
  else if t == "false".toList || t == "False".toList || t == "FALSE".toList then some false
  else none

/-! ## Numbers -/

/-- The value of a digit, letters being the digits from ten on. -/
def digit? (c : Char) : Option Nat :=
  if c.isDigit then some (c.toNat - '0'.toNat)
  else if 'a' ≤ c ∧ c ≤ 'z' then some (c.toNat - 'a'.toNat + 10)
  else if 'A' ≤ c ∧ c ≤ 'Z' then some (c.toNat - 'A'.toNat + 10)
  else none

/-- The number that digits write in a base, `value` being that of the digits before. -/
def numeralFrom? (base value : Nat) : Text → Option Nat
  | [] => some value
  | c :: cs =>
    match digit? c with
    | some d => if d < base then numeralFrom? base (base * value + d) cs else none
    | none => none

/-- The number that at least one digit writes in a base. -/
def numeral? (base : Nat) (t : Text) : Option Nat :=
  if t.isEmpty then none else numeralFrom? base 0 t

/-- The magnitude of a whole number in hexadecimal, octal or binary form. -/
def based? : Text → Option Nat
  | '0' :: 'x' :: digits => numeral? 16 digits
  | '0' :: 'o' :: digits => numeral? 8 digits
  | '0' :: 'b' :: digits => numeral? 2 digits
  | _ => none

/-- Whether a text is a whole number of 128 bits in another base than ten. -/
def isBased : Text → Bool
  | '-' :: t => (based? t).any fun n => n ≤ Nat.pow 2 127
  | '+' :: t | t => (based? t).any fun n => n < Nat.pow 2 128

/-- A decimal number without its sign: `mantissa * 10 ^ exponent`. -/
structure Decimal where
  mantissa : Nat
  exponent : Int

namespace Decimal

/-- Reads the exponent after its letter. -/
def exponent? : Text → Option Int
  | '-' :: t => (numeral? 10 t).map fun n => -(n : Int)
  | '+' :: t | t => (numeral? 10 t).map fun n => (n : Int)

/-- Reads digits with at most one point among them, and an exponent if there is one. -/
def ofText? (t : Text) : Option Decimal :=
  let whole := t.takeWhile Char.isDigit
  let rest := t.drop whole.length
  let (fraction, rest) := match rest with
    | '.' :: r => (r.takeWhile Char.isDigit, r.dropWhile Char.isDigit)
    | r => ([], r)
  let exponent := match rest with
    | [] => some 0
    | c :: r => if c = 'e' ∨ c = 'E' then exponent? r else none
  match numeral? 10 (whole ++ fraction), exponent with
  | some m, some e => some ⟨m, e - fraction.length⟩
  | _, _ => none

/-- The least magnitude that is rounded to no double: half a unit of the last place above the
largest one. -/
def limit : Nat := Nat.pow 2 1024 - Nat.pow 2 970

/-- Whether a number is within the range of doubles. Where the count of its digits decides, no power
is computed. -/
def isFinite (d : Decimal) : Bool :=
  let size : Int := (Nat.toDigits 10 d.mantissa).length + d.exponent
  if d.mantissa = 0 || size < 300 then true
  else if 320 < size then false
  else d.mantissa * Nat.pow 10 d.exponent.toNat < limit * Nat.pow 10 (-d.exponent).toNat

end Decimal

def isInfinity (t : Text) : Bool :=
  t == ".inf".toList || t == ".Inf".toList || t == ".INF".toList

def isNaN (t : Text) : Bool :=
  t == ".nan".toList || t == ".NaN".toList || t == ".NAN".toList

/-- Whether a text has digits only and starts with a zero that it could do without. -/
def isPadded : Text → Bool
  | '0' :: d :: ds => (d :: ds).all Char.isDigit
  | _ => false

/-- A text without a sign in front. -/
def dropSign : Text → Text
  | '-' :: t | '+' :: t => t
  | t => t

def isDecimal (t : Text) : Bool :=
  let unsigned := dropSign t
  isNaN t || isInfinity unsigned ||
    (!isPadded unsigned && (Decimal.ofText? unsigned).any Decimal.isFinite)

/-- What a plain scalar without a tag stands for. -/
def Kind.ofPlain (t : Text) : Kind :=
  if t.isEmpty || isNull t then .null
  else match boolean? t with
    | some b => .boolean b
    | none => if isBased t || isDecimal t then .number else .text

end Yaml

end SqlVocabulary
