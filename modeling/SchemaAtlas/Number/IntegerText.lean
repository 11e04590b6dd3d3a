import SchemaAtlas.Text.Blank
import SchemaAtlas.Text.Digit

/-!
# Integers written as text

An integer is written as an optional sign and digits, with blanks around it and single underscores
between digits. Two readers share this grammar: the general one takes the decimal digits of any script
and, in base sixteen, an optional `0x`; the field reader takes ASCII digits only and tolerates a
fraction of zeros.
-/

namespace SchemaAtlas.Number

/-- Whether the character may surround an integer: white space other than the information separators. -/
def isMargin (c : Char) : Bool :=
  Text.isBlank c && !(0x1c ≤ c.toNat && c.toNat ≤ 0x1f)

/-- The text without the blanks around it. -/
def trimMargins (cs : List Char) : List Char :=
  ((cs.dropWhile isMargin).reverse.dropWhile isMargin).reverse

/-- The value of a letter used as a hexadecimal digit. -/
def letterDigit? (c : Char) : Option Nat :=
  if 'a' ≤ c && c ≤ 'f' then some (c.toNat - 'a'.toNat + 10)
  else if 'A' ≤ c && c ≤ 'F' then some (c.toNat - 'A'.toNat + 10)
  else none

/-- The value of a digit in a base. -/
def digitIn? (base : Nat) (c : Char) : Option Nat :=
  ((Text.digitValue? c).or (letterDigit? c)).filter (· < base)

/-- The number that digits with single underscores between them add to `value`; `ready` tells whether
a digit came just before. -/
def digitsFrom (digit : Char → Option Nat) (base value : Nat) (ready : Bool) : List Char → Option Nat
  | [] => if ready then some value else none
  | '_' :: rest => if ready then digitsFrom digit base value false rest else none
  | c :: rest =>
    match digit c with
    | some d => digitsFrom digit base (value * base + d) true rest
    | none => none

/-- Reads an optional sign and hands the rest to a reader of the absolute value. -/
def signed (absolute : List Char → Option Nat) : List Char → Option Int
  | '+' :: rest => (absolute rest).map Int.ofNat
  | '-' :: rest => (absolute rest).map fun n => -Int.ofNat n
  | cs => (absolute cs).map Int.ofNat

/-- Takes the sign of base sixteen off a hexadecimal number. -/
def dropHexSign : List Char → List Char
  | c :: x :: rest =>
    if Text.digitValue? c == some 0 && (x == 'x' || x == 'X') then
      match rest with
      | '_' :: more => more
      | _ => rest
    else c :: x :: rest
  | cs => cs

/-- The integer that a text writes in base ten. There is no limit to the number of its digits. -/
def decimalInteger? (cs : List Char) : Option Int :=
  signed (digitsFrom (digitIn? 10) 10 0 false) (trimMargins cs)

/-- The integer that a text writes in base sixteen. -/
def hexInteger? (cs : List Char) : Option Int :=
  signed (fun rest => digitsFrom (digitIn? 16) 16 0 false (dropHexSign rest)) (trimMargins cs)

/-- The value of an ASCII decimal digit. -/
def asciiDigit? (c : Char) : Option Nat :=
  if c.isDigit then some (c.toNat - '0'.toNat) else none

/-- The text without a final fraction of zeros. -/
def dropZeroFraction (cs : List Char) : List Char :=
  let whole := cs.takeWhile (· != '.')
  match cs.dropWhile (· != '.') with
  | '.' :: fraction => if fraction.all (· == '0') then whole else cs
  | _ => cs

/-- The integer that a field's text writes: ASCII digits, and a fraction only if it is zero. -/
def fieldInteger? (cs : List Char) : Option Int :=
  signed (fun rest => digitsFrom asciiDigit? 10 0 false (dropZeroFraction rest)) (trimMargins cs)

end SchemaAtlas.Number
