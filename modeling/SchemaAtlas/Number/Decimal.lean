import SchemaAtlas.Number.Shortest

/-!
# Decimal numbers with their own scale

A decimal number keeps the digits it was written with: a coefficient and a power of ten. `1.50` and
`1.5` are equal as numbers and differ as texts.
-/

namespace SchemaAtlas.Number

/-- A decimal number; a finite one is `coefficient * 10 ^ exponent`. -/
inductive Decimal where
  | nan (signalling : Bool)
  | infinite (negative : Bool)
  | finite (negative : Bool) (coefficient : Nat) (exponent : Int)
deriving Repr, DecidableEq

namespace Decimal

/-- Numerator and denominator of the absolute value of a finite number. -/
def ratio (coefficient : Nat) (exponent : Int) : Nat × Nat :=
  if 0 ≤ exponent then (coefficient * tenTo exponent.toNat, 1) else (coefficient, tenTo (-exponent).toNat)

/-- The whole part of a finite number, toward zero. -/
def truncated (negative : Bool) (coefficient : Nat) (exponent : Int) : Int :=
  let (a, b) := ratio coefficient exponent
  Binary64.signedMantissa negative (a / b)

/-- The integer that the number is, if it is one. -/
def integer? : Decimal → Option Int
  | .finite negative c e =>
    let (a, b) := ratio c e
    if a % b = 0 then some (Binary64.signedMantissa negative (a / b)) else none
  | _ => none

/-- Whether the number is zero, of either sign. -/
def isZero : Decimal → Bool
  | .finite _ c _ => c == 0
  | _ => false

/-- The text of a number: positional where its scale needs no zeros at the end and few at the start,
with an exponent otherwise. -/
def text : Decimal → String
  | .nan signalling => if signalling then "sNaN" else "NaN"
  | .infinite negative => if negative then "-Infinity" else "Infinity"
  | .finite negative c e =>
    let digits := decimalDigits c
    let left : Int := e + digits.length
    let point : Int := if e ≤ 0 && -6 < left then left else 1
    let body :=
      if point ≤ 0 then '0' :: '.' :: (noughts (-point) ++ digits)
      else if digits.length ≤ point then digits ++ noughts (point - digits.length)
      else digits.take point.toNat ++ '.' :: digits.drop point.toNat
    let tail := if left = point then [] else 'E' :: exponentText 1 (left - point)
    String.ofList ((if negative then ['-'] else []) ++ body ++ tail)

/-- The decimal number that a text writes. -/
def ofText? (s : String) : Option Decimal :=
  let (negative, body) : Bool × List Char :=
    match s.toList with
    | '-' :: rest => (true, rest)
    | '+' :: rest => (false, rest)
    | cs => (false, cs)
  let word := String.ofList (body.map Char.toLower)
  if word == "nan" then some (.nan false)
  else if word == "snan" then some (.nan true)
  else if word == "inf" || word == "infinity" then some (.infinite negative)
  else (unsignedDecimal? body).map fun (digits, power) => .finite negative digits power

end Decimal

end SchemaAtlas.Number
