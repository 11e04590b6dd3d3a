import SchemaAtlas.Value.Access
import SchemaAtlas.Value.Json
import SchemaAtlas.Number.Shortest

/-!
# Reading structured text

The reader of the text that values are written as: absences, flags, numbers, texts, lists and records. A
number without fraction and exponent is an integer. Three words stand for the doubles that no digits
write. Of fields with the same key the last one counts, at the place of the first.
-/

namespace SchemaAtlas

namespace Json

/-- Whether the character separates the signs of a text. -/
def isGap (c : Char) : Bool :=
  c == ' ' || c == '\t' || c == '\n' || c == '\r'

/-- The text behind the gap it starts with. -/
def skip (cs : List Char) : List Char :=
  cs.dropWhile isGap

/-- The value of a hexadecimal digit. -/
def hexValue? (c : Char) : Option Nat :=
  if '0' ≤ c && c ≤ '9' then some (c.toNat - '0'.toNat)
  else if 'a' ≤ c && c ≤ 'f' then some (c.toNat - 'a'.toNat + 10)
  else if 'A' ≤ c && c ≤ 'F' then some (c.toNat - 'A'.toNat + 10)
  else none

/-- The number that four hexadecimal digits write. -/
def fourDigits (cs : List Char) : Option (Nat × List Char) :=
  match cs with
  | a :: b :: c :: d :: rest => do
    let a ← hexValue? a
    let b ← hexValue? b
    let c ← hexValue? c
    let d ← hexValue? d
    some (((a * 16 + b) * 16 + c) * 16 + d, rest)
  | _ => none

/-- The character of an escape with digits; two escapes can stand for one character. -/
def escapedPoint (cs : List Char) : Option (Char × List Char) := do
  let (high, rest) ← fourDigits cs
  if 0xD800 ≤ high && high < 0xDC00 then
    match rest with
    | '\\' :: 'u' :: more =>
      let (low, rest) ← fourDigits more
      if 0xDC00 ≤ low && low < 0xE000 then
        some (Char.ofNat (0x10000 + (high - 0xD800) * 0x400 + (low - 0xDC00)), rest)
      else some (Char.ofNat high, '\\' :: 'u' :: more)
    | _ => some (Char.ofNat high, rest)
  else some (Char.ofNat high, rest)

/-- The character that an escape with a letter stands for. -/
def escapedLetter? (c : Char) : Option Char :=
  [('"', '"'), ('\\', '\\'), ('/', '/'), ('b', '\x08'), ('f', '\x0c'), ('n', '\n'), ('r', '\r'),
   ('t', '\t')].lookup c

/-- The characters of a text up to its closing quote, behind those already read. -/
def readText : Nat → List Char → List Char → Option (String × List Char)
  | 0, _, _ => none
  | fuel + 1, before, cs =>
    match cs with
    | '"' :: rest => some (String.ofList before.reverse, rest)
    | '\\' :: 'u' :: rest => do
      let (c, rest) ← escapedPoint rest
      readText fuel (c :: before) rest
    | '\\' :: letter :: rest => do
      let c ← escapedLetter? letter
      readText fuel (c :: before) rest
    | c :: rest => if c.toNat < 0x20 then none else readText fuel (c :: before) rest
    | [] => none

/-- Some digits and what follows them, if there are any. -/
def someDigits (cs : List Char) : Option (List Char × List Char) :=
  match cs.takeWhile Char.isDigit with
  | [] => none
  | digits => some (digits, cs.drop digits.length)

/-- The fraction that a text starts with, if it starts with one. -/
def fraction (cs : List Char) : List Char × List Char :=
  match cs with
  | '.' :: rest =>
    match someDigits rest with
    | some (digits, rest) => ('.' :: digits, rest)
    | none => ([], cs)
  | _ => ([], cs)

/-- The exponent that a text starts with, if it starts with one. -/
def exponent (cs : List Char) : List Char × List Char :=
  let signed (mark : Char) (sign rest : List Char) : List Char × List Char :=
    match someDigits rest with
    | some (digits, rest) => (mark :: sign ++ digits, rest)
    | none => ([], cs)
  match cs with
  | 'e' :: '+' :: rest => signed 'e' ['+'] rest
  | 'e' :: '-' :: rest => signed 'e' ['-'] rest
  | 'E' :: '+' :: rest => signed 'e' ['+'] rest
  | 'E' :: '-' :: rest => signed 'e' ['-'] rest
  | 'e' :: rest => signed 'e' [] rest
  | 'E' :: rest => signed 'e' [] rest
  | _ => ([], cs)

/-- A number without a sign. -/
def unsignedNumber (negative : Bool) (cs : List Char) : Option (Value × List Char) := do
  let (digits, rest) ← match cs with
    | '0' :: rest => some (['0'], rest)
    | cs => someDigits cs
  let (part, rest) := fraction rest
  let (power, rest) := exponent rest
  let sign := if negative then ['-'] else []
  if part.isEmpty && power.isEmpty then
    let n := Number.naturalOf digits
    some (.int (if negative then -(n : Int) else n), rest)
  else
    let x ← Number.Binary64.ofText? (String.ofList (sign ++ digits ++ part ++ power))
    some (.float x, rest)

/-- The words that stand for values. -/
def words : List (String × Value) :=
  [("null", .null), ("true", .bool true), ("false", .bool false), ("NaN", .float .nan),
   ("Infinity", .float (.infinite false)), ("-Infinity", .float (.infinite true))]

/-- The word that a text starts with. -/
def word (cs : List Char) : Option (Value × List Char) :=
  (words.find? fun entry => entry.1.toList.isPrefixOf cs).map fun entry =>
    (entry.2, cs.drop entry.1.length)

mutual

/-- The value that a text starts with. -/
def readValue : Nat → List Char → Option (Value × List Char)
  | 0, _ => none
  | fuel + 1, cs =>
    match cs with
    | '"' :: rest => (readText (rest.length + 1) [] rest).map fun (s, rest) => (.text s, rest)
    | '[' :: rest =>
      match skip rest with
      | ']' :: rest => some (.list [], rest)
      | rest => (readItems fuel rest).map fun (items, rest) => (.list items, rest)
    | '\x7b' :: rest =>
      match skip rest with
      | '\x7d' :: rest => some (.record [], rest)
      | rest => (readFields fuel [] rest).map fun (fields, rest) => (.record fields, rest)
    | cs =>
      match word cs with
      | some found => some found
      | none =>
        match cs with
        | '-' :: rest => unsignedNumber true rest
        | cs => unsignedNumber false cs

/-- The items of a list up to its closing bracket. -/
def readItems : Nat → List Char → Option (List Value × List Char)
  | 0, _ => none
  | fuel + 1, cs => do
    let (v, rest) ← readValue fuel (skip cs)
    match skip rest with
    | ',' :: rest =>
      let (more, rest) ← readItems fuel rest
      some (v :: more, rest)
    | ']' :: rest => some ([v], rest)
    | _ => none

/-- The fields of a record up to its closing brace, behind those already read. -/
def readFields : Nat → List (String × Value) → List Char → Option (List (String × Value) × List Char)
  | 0, _, _ => none
  | fuel + 1, before, cs => do
    let rest ← match skip cs with
      | '"' :: rest => some rest
      | _ => none
    let (key, rest) ← readText (rest.length + 1) [] rest
    let rest ← match skip rest with
      | ':' :: rest => some rest
      | _ => none
    let (v, rest) ← readValue fuel (skip rest)
    let fields := putField before key v
    match skip rest with
    | ',' :: rest => readFields fuel fields rest
    | '\x7d' :: rest => some (fields, rest)
    | _ => none

end

/-- The value that a whole text writes. -/
def parse (s : String) : Option Value :=
  let cs := s.toList
  match readValue (cs.length + 1) (skip cs) with
  | some (v, rest) => if (skip rest).isEmpty then some v else none
  | none => none

end Json

end SchemaAtlas
