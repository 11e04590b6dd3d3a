import SchemaAtlas.Number.IntegerText
import SchemaAtlas.Number.Shortest
import SchemaAtlas.Value.Basic
import SchemaAtlas.Yaml.Place

/-!
# Plain scalars

A plain scalar stands without quotes. It ends at a colon that a space follows and at a comment; among
the items of a flow it also ends at the signs of the flow. Over several lines it is folded. What it
denotes is decided by its text: an absence, a flag, a number, a date, or else the text itself.
-/

namespace SchemaAtlas.Yaml

/-! ## Where a plain scalar starts and ends -/

/-- The signs that a plain scalar does not start with. -/
def indicators : List Char := "-?:,[]\x7b\x7d#&*!|>'\"%@`".toList

/-- The signs that end a plain scalar in a flow. -/
def flowSigns : List Char := ",?[]\x7b\x7d".toList

/-- Whether a plain scalar starts here. -/
def startsPlain (flow : Bool) (place : Place) : Bool :=
  match place.next? with
  | none => false
  | some c =>
    if isSpace c then false
    else !indicators.contains c || (!place.spaceAt 1 && (c == '-' || (!flow && (c == '?' || c == ':'))))

/-- Whether a plain scalar cannot go on here. -/
def endsPlain (flow : Bool) (c : Char) (rest : List Char) : Bool :=
  isSpace c || (flow && flowSigns.contains c) ||
    (c == ':' && match rest with
      | [] => true
      | d :: _ => isSpace d || (flow && ",[]\x7b\x7d".toList.contains d))

/-- A plain scalar up to the next space. -/
def plainChunk (flow : Bool) : List Char → List Char
  | [] => []
  | c :: rest => if endsPlain flow c rest then [] else c :: plainChunk flow rest

/-- The line ends and blanks at the start of a text: what line ends stand for, and the place behind
them; none if a document ends in between. -/
def foldBreaks (place : Place) : Nat → Option (List Char × Place)
  | 0 => some ([], place)
  | fuel + 1 =>
    if place.atSeparator then none
    else
      match place.next? with
      | some c =>
        if c == ' ' then foldBreaks place.step fuel
        else if isBreak c then (foldBreaks place.step fuel).map fun (more, place) => (breakText c ++ more, place)
        else some ([], place)
      | none => some ([], place)

/-- What folding makes of a line end and those behind it. -/
def foldedBreak (c : Char) (more : List Char) : List Char :=
  if breakText c != ['\n'] then breakText c ++ more
  else if more.isEmpty then [' '] else more

/-- What separates a chunk of a plain scalar from the next one; none if the scalar ends. -/
def plainGap (place : Place) : Option (List Char × Place) :=
  let blanks := place.rest.takeWhile (· == ' ')
  let behind := place.skip blanks.length
  match behind.next? with
  | none => none
  | some c =>
    if isBreak c then
      (foldBreaks behind.step behind.rest.length).map fun (more, place) => (foldedBreak c more, place)
    else if blanks.isEmpty then none else some (blanks, behind)

/-- The text of a plain scalar and the place behind it. A line that is indented less than `indent` does
not belong to it. -/
def scanPlain (flow : Bool) (indent : Nat) (place : Place) : Nat → List Char × Place
  | 0 => ([], place)
  | fuel + 1 =>
    let chunk := plainChunk flow place.rest
    let behind := place.skip chunk.length
    match plainGap behind with
    | none => (chunk, behind)
    | some (gap, next) =>
      if next.startsWith '#' || (!flow && next.column < indent) || (plainChunk flow next.rest).isEmpty then
        (chunk, behind)
      else
        let (more, last) := scanPlain flow indent next fuel
        (chunk ++ gap ++ more, last)

/-! ## What a plain scalar denotes -/

/-- A text without its sign; whether the sign is a minus. -/
def splitSign : List Char → Bool × List Char
  | '-' :: rest => (true, rest)
  | '+' :: rest => (false, rest)
  | cs => (false, cs)

/-- Whether every character is a digit that the base has, or an underscore. -/
def allDigits (base : Nat) (cs : List Char) : Bool :=
  !cs.isEmpty && cs.all fun c => c == '_' || ((Number.digitIn? base c).isSome && c.toNat < 0x80)

/-- The number that digits write in a base; underscores do not count. -/
def numberIn (base : Nat) (cs : List Char) : Nat :=
  cs.foldl (fun n c => match Number.digitIn? base c with | some d => n * base + d | none => n) 0

/-- Texts separated by colons. -/
def colonParts (cs : List Char) : List (List Char) :=
  cs.foldr (fun c parts =>
    match parts with
    | [] => if c == ':' then [[], []] else [[c]]
    | part :: more => if c == ':' then [] :: part :: more else (c :: part) :: more) []

/-- Whether the text writes a number below sixty with at most two digits. -/
def isSixtieth : List Char → Bool
  | [c] => c.isDigit
  | [c, d] => '0' ≤ c && c ≤ '5' && d.isDigit
  | _ => false

/-- The number that parts write in base sixty. -/
def sixtieths (parts : List (List Char)) : Nat :=
  parts.foldl (fun n part => n * 60 + numberIn 10 part) 0

/-- The natural number that a plain scalar without sign denotes. -/
def plainNatural? (cs : List Char) : Option Nat :=
  match cs with
  | ['0'] => some 0
  | '0' :: 'b' :: digits => if allDigits 2 digits then some (numberIn 2 digits) else none
  | '0' :: 'x' :: digits => if allDigits 16 digits then some (numberIn 16 digits) else none
  | '0' :: digits => if allDigits 8 digits then some (numberIn 8 digits) else none
  | cs =>
    match colonParts cs with
    | [digits] => if allDigits 10 digits && cs.head? != some '_' then some (numberIn 10 digits) else none
    | first :: rest =>
      if allDigits 10 first && first.head? != some '_' && rest.all isSixtieth then some (sixtieths (first :: rest))
      else none
    | [] => none

/-- The exponent behind a fraction: none is zero. -/
def plainExponent? : List Char → Option Int
  | [] => some 0
  | e :: sign :: digits =>
    if (e == 'e' || e == 'E') && (sign == '+' || sign == '-') && !digits.isEmpty && digits.all Char.isDigit then
      some (if sign == '-' then -(numberIn 10 digits : Int) else numberIn 10 digits)
    else none
  | _ => none

/-- The number that a plain scalar denotes if it has a point; digits are needed before the point if there
is a sign. -/
def plainFraction? (negative signed : Bool) (cs : List Char) : Option Number.Binary64 :=
  let whole := cs.takeWhile (· != '.')
  match cs.dropWhile (· != '.') with
  | '.' :: rest =>
    let places := rest.takeWhile fun c => c.isDigit || c == '_'
    let digits := places.filter Char.isDigit
    let parts := colonParts whole
    let wholeNumber : Option Nat :=
      match parts with
      | [] => if !signed && (places.head?.map Char.isDigit).getD false then some 0 else none
      | first :: minutes =>
        if allDigits 10 first && first.head? != some '_' && minutes.all isSixtieth then some (sixtieths parts)
        else none
    match wholeNumber, plainExponent? (rest.drop places.length) with
    | some n, some e =>
      if e != 0 && parts.length > 1 then none
      else some (.ofDecimal negative (n * Number.tenTo digits.length + numberIn 10 digits) (e - digits.length))
    | _, _ => none
  | _ => none

/-- Whether the text writes a date, or a date with a time: the number of digits of each group and the
signs between them are fixed. -/
def dateParts (cs : List Char) : Option (List Char) :=
  match cs with
  | a :: b :: c :: d :: '-' :: rest =>
    if [a, b, c, d].all Char.isDigit then
      let month := rest.takeWhile Char.isDigit
      match rest.drop month.length with
      | '-' :: rest =>
        let day := rest.takeWhile Char.isDigit
        if month.length == 2 && day.length == 2 && (rest.drop day.length).isEmpty then some []
        else if (month.length == 1 || month.length == 2) && (day.length == 1 || day.length == 2) then
          some (rest.drop day.length)
        else none
      | _ => none
    else none
  | _ => none

/-- Whether what follows a date writes a time. -/
def isTime (cs : List Char) : Bool :=
  let behind := match cs with
    | 'T' :: rest => rest
    | 't' :: rest => rest
    | cs => if (cs.takeWhile fun c => c == ' ' || c == '\t').isEmpty then [] else
        cs.dropWhile fun c => c == ' ' || c == '\t'
  let hour := behind.takeWhile Char.isDigit
  match behind.drop hour.length with
  | ':' :: m :: n :: ':' :: s :: t :: _ =>
    (hour.length == 1 || hour.length == 2) && [m, n, s, t].all Char.isDigit
  | _ => false

/-- The words that are no texts. -/
def plainWords : List (String × Value) :=
  ["", "~", "null", "Null", "NULL"].map (·, .null) ++
    ["yes", "Yes", "YES", "true", "True", "TRUE", "on", "On", "ON"].map (·, .bool true) ++
    ["no", "No", "NO", "false", "False", "FALSE", "off", "Off", "OFF"].map (·, .bool false) ++
    [".inf", ".Inf", ".INF", "+.inf", "+.Inf", "+.INF"].map (·, .float (.infinite false)) ++
    ["-.inf", "-.Inf", "-.INF"].map (·, .float (.infinite true)) ++
    [".nan", ".NaN", ".NAN"].map (·, .float .nan)

/-- The texts that are reserved and denote nothing. -/
def reserved : List String := ["=", "<<"]

/-- What a plain scalar denotes, if it denotes anything. -/
def plainValue? (s : String) : Option Value :=
  let (negative, digits) := splitSign s.toList
  let signed := digits.length < s.length
  if reserved.contains s then none
  else
    match plainWords.lookup s, plainNatural? digits, plainFraction? negative signed digits,
      dateParts s.toList with
    | some v, _, _, _ => some v
    | none, some n, _, _ => some (.int (if negative then -(n : Int) else n))
    | none, none, some x, _ => some (.float x)
    | none, none, none, some [] => some (.object ⟨"datetime", "date"⟩)
    | none, none, none, some rest =>
      some (if isTime rest then .object ⟨"datetime", "datetime"⟩ else .text s)
    | none, none, none, none => some (.text s)

end SchemaAtlas.Yaml
