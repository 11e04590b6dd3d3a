/-!
# Floating-point numbers as exact data

A binary floating-point number of 64 bits is one of finitely many dyadic rationals, an infinity or no
number at all. It is kept as sign, mantissa and exponent, so that every rule about it is a rule about
natural numbers. The results of arithmetic are exact rationals rounded to the nearest such number, a
tie going to the even mantissa.
-/

namespace SchemaAtlas.Number

/-- A floating-point number; a finite one is `mantissa * 2 ^ exponent`, with its sign kept for zero too. -/
inductive Binary64 where
  | nan
  | infinite (negative : Bool)
  | finite (negative : Bool) (mantissa : Nat) (exponent : Int)
deriving Repr, DecidableEq

/-- A power of two. -/
def twoTo (n : Nat) : Nat := Nat.pow 2 n

/-- A power of ten. -/
def tenTo (n : Nat) : Nat := Nat.pow 10 n

/-- `a / b` rounded to the nearest natural number, a tie going to the even one. -/
def divideToEven (a b : Nat) : Nat :=
  let q := a / b
  let r := a % b
  if b < 2 * r || (2 * r == b && q % 2 == 1) then q + 1 else q

namespace Binary64

/-- The least exponent of a finite number. -/
def leastExponent : Int := -1074

/-- The greatest exponent of a finite number. -/
def greatestExponent : Int := 971

/-- `a * 2 ^ -e / b` rounded to a natural number. -/
def scaledMantissa (a b : Nat) (e : Int) : Nat :=
  if 0 ≤ e then divideToEven a (b * twoTo e.toNat) else divideToEven (a * twoTo (-e).toNat) b

/-- The exponent at which the quotient `a / b` of positive numbers has a full mantissa. -/
def fullExponent (a b : Nat) : Int :=
  let guess : Int := (a.log2 : Int) - (b.log2 : Int) - 52
  let reaches : Bool :=
    if 0 ≤ guess then b * twoTo guess.toNat * twoTo 52 ≤ a else b * twoTo 52 ≤ a * twoTo (-guess).toNat
  if reaches then guess else guess - 1

/-- The number nearest to the quotient `a / b`, where `b` is positive. -/
def ofRatio (negative : Bool) (a b : Nat) : Binary64 :=
  if a = 0 then .finite negative 0 leastExponent
  else
    let e := max (fullExponent a b) leastExponent
    let m := scaledMantissa a b e
    let (m, e) := if m = twoTo 53 then (twoTo 52, e + 1) else (m, e)
    if greatestExponent < e then .infinite negative else .finite negative m e

/-- A power of ten above all finite numbers. -/
def endlessPower : Int := 310

/-- A power of ten below half the least positive number. -/
def vanishingPower : Int := -330

/-- The number nearest to `digits * 10 ^ power`. No power is computed where the digits alone tell that the
number is too great or too small. -/
def ofDecimal (negative : Bool) (digits : Nat) (power : Int) : Binary64 :=
  if digits = 0 then .finite negative 0 leastExponent
  else if endlessPower ≤ power then .infinite negative
  else if power + (digits.log2 / 3 + 1 : Nat) ≤ vanishingPower then .finite negative 0 leastExponent
  else if 0 ≤ power then ofRatio negative (digits * tenTo power.toNat) 1
  else ofRatio negative digits (tenTo (-power).toNat)

/-- The number nearest to `n * 2 ^ e`; an exact zero is positive. -/
def ofScaled (n : Int) (e : Int) : Binary64 :=
  let negative := decide (n < 0)
  if 0 ≤ e then ofRatio negative (n.natAbs * twoTo e.toNat) 1
  else ofRatio negative n.natAbs (twoTo (-e).toNat)

/-- Numerator and denominator of the absolute value of a finite number. -/
def ratio (mantissa : Nat) (exponent : Int) : Nat × Nat :=
  if 0 ≤ exponent then (mantissa * twoTo exponent.toNat, 1) else (mantissa, twoTo (-exponent).toNat)

/-- The mantissa with its sign. -/
def signedMantissa (negative : Bool) (mantissa : Nat) : Int :=
  if negative then -(mantissa : Int) else mantissa

/-- The difference of two numbers. -/
def sub : Binary64 → Binary64 → Binary64
  | .nan, _ => .nan
  | _, .nan => .nan
  | .infinite a, .infinite b => if a == b then .nan else .infinite a
  | .infinite a, .finite .. => .infinite a
  | .finite .., .infinite b => .infinite !b
  | .finite na ma ea, .finite nb mb eb =>
    if ma = 0 && mb = 0 then .finite (na && !nb) 0 leastExponent
    else
      let e := min ea eb
      ofScaled (signedMantissa na ma * twoTo (ea - e).toNat - signedMantissa nb mb * twoTo (eb - e).toNat) e

/-- A number times a positive whole number. -/
def scale (x : Binary64) (factor : Nat) : Binary64 :=
  match x with
  | .finite negative m e =>
    let (a, b) := ratio m e
    ofRatio negative (a * factor) b
  | other => other

/-- The number nearest to the exact value rounded to hundredths, a tie going to the even hundredth. -/
def roundToHundredths : Binary64 → Binary64
  | .finite negative m e =>
    let (a, b) := ratio m e
    ofRatio negative (divideToEven (a * 100) b) 100
  | other => other

/-- Whether the number is greater than a natural number. -/
def exceeds (x : Binary64) (limit : Nat) : Bool :=
  match x with
  | .nan => false
  | .infinite negative => !negative
  | .finite negative m e =>
    let (a, b) := ratio m e
    !negative && limit * b < a

/-- The whole part of a finite number, toward zero. -/
def truncated (negative : Bool) (mantissa : Nat) (exponent : Int) : Int :=
  let (a, b) := ratio mantissa exponent
  signedMantissa negative (a / b)

/-- The integer that the number is, if it is one. -/
def integer? : Binary64 → Option Int
  | .finite negative m e =>
    let (a, b) := ratio m e
    if a % b = 0 then some (signedMantissa negative (a / b)) else none
  | _ => none

/-- Whether the number is zero, of either sign. -/
def isZero : Binary64 → Bool
  | .finite _ m _ => m == 0
  | _ => false

/-- The number zero. -/
def zero : Binary64 := .finite false 0 leastExponent

end Binary64

end SchemaAtlas.Number
