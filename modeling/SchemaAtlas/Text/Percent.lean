import SchemaAtlas.Number.IntegerText
import SchemaAtlas.Text.Utf8

/-!
# Percent encoding

In an address, a byte that must not stand for itself is written as a percent sign and two hexadecimal
digits in capitals. Reading takes digits of either case and leaves a percent sign that is followed by
anything else as it is.
-/

namespace SchemaAtlas.Text

/-- Whether the character stands for itself everywhere in an address. -/
def isUnreserved (c : Char) : Bool :=
  c.isAlphanum || c == '_' || c == '.' || c == '-' || c == '~'

/-- The hexadecimal digit of a number below sixteen, in capitals. -/
def capitalDigit (n : Nat) : Char :=
  (Nat.digitChar n).toUpper

/-- A byte as it is written when the characters of `safe` may stand for themselves. -/
def percentByte (safe : List Char) (b : Nat) : List Char :=
  let c := Char.ofNat b
  if b < 0x80 && (isUnreserved c || safe.contains c) then [c]
  else ['%', capitalDigit (b / 16), capitalDigit (b % 16)]

/-- A text as it is written when the characters of `safe` may stand for themselves. -/
def percentEncode (safe : List Char) (s : String) : String :=
  String.ofList ((utf8 s.toList).flatMap (percentByte safe))

/-- The bytes of a written text. -/
def percentBytes : List Nat → List Nat
  | p :: a :: b :: rest =>
    let digit (n : Nat) : Option Nat := (Number.letterDigit? (Char.ofNat n)).or (Number.asciiDigit? (Char.ofNat n))
    match p == '%'.toNat, digit a, digit b with
    | true, some high, some low => (high * 16 + low) :: percentBytes rest
    | _, _, _ => p :: percentBytes (a :: b :: rest)
  | bytes => bytes

/-- The text that a written text stands for. -/
def percentDecode (cs : List Char) : List Char :=
  ofUtf8 (percentBytes (utf8 cs))

/-- The text of a field of a form: a plus stands for a blank. -/
def formDecode (cs : List Char) : List Char :=
  percentDecode (cs.map fun c => if c == '+' then ' ' else c)

/-- A text as a field of a form: a blank is written as a plus. -/
def formEncode (s : String) : String :=
  String.ofList ((percentEncode [' '] s).toList.map fun c => if c == ' ' then '+' else c)

end SchemaAtlas.Text
