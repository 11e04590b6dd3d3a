import SchemaAtlas.Number.Binary64

/-!
# The shortest decimal that reads back

A finite floating-point number is written with the fewest digits that read back as the same number and,
among those, with the digits nearest to it. A `Numeral` style then decides where positional notation
ends and how the exponent is written.
-/

namespace SchemaAtlas.Number

/-- Decimal digits of a natural number. -/
def decimalDigits (n : Nat) : List Char :=
  Nat.toDigits 10 n

/-- The exponent of the leading digit of the positive quotient `a / b`. -/
def leadingPower (a b : Nat) : Int :=
  let guess : Int := (decimalDigits a).length - (decimalDigits b).length
  let reaches : Bool :=
    if 0 ≤ guess then b * tenTo guess.toNat ≤ a else b ≤ a * tenTo (-guess).toNat
  if reaches then guess else guess - 1

/-- The quotient `a / b` in units of `10 ^ power`, as a quotient. -/
def inUnits (a b : Nat) (power : Int) : Nat × Nat :=
  if 0 ≤ power then (a, b * tenTo power.toNat) else (a * tenTo (-power).toNat, b)

/-- The number with `count` digits that reads back as `x` and is nearest to it, if there is one. -/
def readingBack? (x : Binary64) (a b : Nat) (power : Int) : Option Nat :=
  let (n, d) := inUnits a b power
  let low := n / d
  let reads (digits : Nat) : Bool := Binary64.ofDecimal false digits power == x
  match reads low, reads (low + 1) with
  | true, true =>
    let below := n % d
    if 2 * below < d || (2 * below == d && low % 2 == 0) then some low else some (low + 1)
  | true, false => some low
  | false, true => some (low + 1)
  | false, false => none

/-- Tries more and more digits, `tries` of them at most. -/
def shortestFrom (x : Binary64) (a b : Nat) (power : Int) : Nat → Nat × Int
  | 0 => ((inUnits a b power).1 / (inUnits a b power).2, power)
  | tries + 1 =>
    match readingBack? x a b power with
    | some digits => (digits, power)
    | none => shortestFrom x a b (power - 1) tries

/-- Digits and power of ten of the shortest decimal of a positive number. -/
def shortest (mantissa : Nat) (exponent : Int) : Nat × Int :=
  let (a, b) := Binary64.ratio mantissa exponent
  shortestFrom (.finite false mantissa exponent) a b (leadingPower a b) 17

/-- How numerals are written: for which exponents of the leading digit the notation is positional, and
how many digits an exponent has at least. -/
structure NumeralStyle where
  leastPositional : Int
  greatestPositional : Int
  exponentWidth : Nat

/-- Positional from four places behind the point to sixteen before it; exponents of two digits. -/
def NumeralStyle.plain : NumeralStyle := ⟨-4, 15, 2⟩

/-- Zeros, as many as asked for. -/
def noughts (count : Int) : List Char :=
  List.replicate count.toNat '0'

/-- An exponent with its sign and at least `width` digits. -/
def exponentText (width : Nat) (e : Int) : List Char :=
  let digits := decimalDigits e.natAbs
  (if e < 0 then '-' else '+') :: (noughts (width - digits.length) ++ digits)

/-- Digits without the zeros at their end. -/
def withoutFinalZeros (digits : List Char) : List Char :=
  (digits.reverse.dropWhile (· == '0')).reverse

/-- The numeral of significant digits whose leading one has the exponent `lead`. -/
def numeral (style : NumeralStyle) (digits : List Char) (lead : Int) : List Char :=
  if style.leastPositional ≤ lead && lead ≤ style.greatestPositional then
    if lead < 0 then '0' :: '.' :: (noughts (-lead - 1) ++ digits)
    else
      let whole := digits.take (lead.toNat + 1)
      let fraction := digits.drop (lead.toNat + 1)
      whole ++ noughts (lead + 1 - whole.length) ++ '.' :: (if fraction.isEmpty then ['0'] else fraction)
  else
    let fraction := digits.drop 1
    digits.take 1 ++ (if fraction.isEmpty then [] else '.' :: fraction) ++
      'e' :: exponentText style.exponentWidth lead

/-- The text of a floating-point number. -/
def Binary64.text (x : Binary64) : String :=
  match x with
  | .nan => "nan"
  | .infinite negative => if negative then "-inf" else "inf"
  | .finite negative m e =>
    let body :=
      if m = 0 then ['0', '.', '0']
      else
        let (n, power) := shortest m e
        let digits := decimalDigits n
        numeral .plain (withoutFinalZeros digits) (power + digits.length - 1)
    String.ofList (if negative then '-' :: body else body)

/-! ## Reading -/

/-- Digits in front of anything else, with what follows them. -/
def leadingDigits (cs : List Char) : List Char × List Char :=
  (cs.takeWhile Char.isDigit, cs.dropWhile Char.isDigit)

/-- The natural number that ASCII digits write. -/
def naturalOf (digits : List Char) : Nat :=
  digits.foldl (fun n c => 10 * n + (c.toNat - '0'.toNat)) 0

/-- An exponent behind its letter. -/
def exponent? (cs : List Char) : Option Int :=
  let (sign, digits) : Int × List Char :=
    match cs with
    | '-' :: rest => (-1, rest)
    | '+' :: rest => (1, rest)
    | _ => (1, cs)
  if !digits.isEmpty && digits.all Char.isDigit then some (sign * naturalOf digits) else none

/-- Digits and power of ten of an unsigned decimal such as `12.5e-3`. -/
def unsignedDecimal? (cs : List Char) : Option (Nat × Int) :=
  let (whole, rest) := leadingDigits cs
  let (fraction, rest) :=
    match rest with
    | '.' :: more => leadingDigits more
    | _ => ([], rest)
  if whole.isEmpty && fraction.isEmpty then none
  else
    let digits := naturalOf (whole ++ fraction)
    match rest with
    | [] => some (digits, -fraction.length)
    | c :: more =>
      if c == 'e' || c == 'E' then (exponent? more).map fun e => (digits, e - fraction.length) else none

/-- The floating-point number that a decimal text, `inf` or `nan` denotes. -/
def Binary64.ofText? (s : String) : Option Binary64 :=
  let (negative, body) : Bool × List Char :=
    match s.toList with
    | '-' :: rest => (true, rest)
    | '+' :: rest => (false, rest)
    | cs => (false, cs)
  let word := String.ofList (body.map Char.toLower)
  if word == "nan" then some .nan
  else if word == "inf" || word == "infinity" then some (.infinite negative)
  else (unsignedDecimal? body).map fun (digits, power) => Binary64.ofDecimal negative digits power

end SchemaAtlas.Number
