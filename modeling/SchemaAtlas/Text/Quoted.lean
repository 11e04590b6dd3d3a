import SchemaAtlas.Text.Printable

/-!
# Quoted literals

A text is quoted between single quotes, or between double quotes when it holds a single quote and no
double one. The backslash, the quote in use and the three common controls are escaped by a letter,
every other unprintable character by its code point in as few of two, four or eight digits as hold it.
A text of bytes is quoted by the same rule with every byte outside printable ASCII escaped.
-/

namespace SchemaAtlas.Text

/-- The last `width` hexadecimal digits of a number, in small letters. -/
def hexDigits : Nat → Nat → List Char
  | 0, _ => []
  | width + 1, n => hexDigits width (n / 16) ++ [Nat.digitChar (n % 16)]

/-- The quote a text is written between. -/
def quoteOf (cs : List Char) : Char :=
  if cs.contains '\'' && !cs.contains '"' then '"' else '\''

/-- The escape that stands for an unprintable code point. -/
def escapePoint (point : Nat) : List Char :=
  if point < 0x100 then '\\' :: 'x' :: hexDigits 2 point
  else if point < 0x10000 then '\\' :: 'u' :: hexDigits 4 point
  else '\\' :: 'U' :: hexDigits 8 point

/-- How a character is written between the given quotes, when `shown` tells which stand for themselves. -/
def quoteChar (shown : Char → Bool) (quote c : Char) : List Char :=
  if c == quote || c == '\\' then ['\\', c]
  else if c == '\t' then ['\\', 't']
  else if c == '\n' then ['\\', 'n']
  else if c == '\r' then ['\\', 'r']
  else if shown c then [c]
  else escapePoint c.toNat

/-- The characters of a text between quotes. -/
def quoteChars (shown : Char → Bool) (cs : List Char) : List Char :=
  let quote := quoteOf cs
  quote :: (cs.flatMap (quoteChar shown quote) ++ [quote])

/-- The literal of a text. -/
def quoted (s : String) : String :=
  String.ofList (quoteChars isPrintable s.toList)

/-- Whether a byte is printable ASCII. -/
def isPlainByte (c : Char) : Bool :=
  0x20 ≤ c.toNat && c.toNat < 0x7f

/-- The literal of a text of bytes. -/
def quotedBytes (bytes : List UInt8) : String :=
  String.ofList ('b' :: quoteChars isPlainByte (bytes.map fun b => Char.ofNat b.toNat))

end SchemaAtlas.Text
