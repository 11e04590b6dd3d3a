import SchemaAtlas.Value.Access

/-!
# Type mappers

A mapper declares that values of one type read from a column are exposed as values of another type, and
converts between the two. A registry is an ordered collection of mappers; a column is resolved to the
single mapper that leaves its type unchanged.
-/

namespace SchemaAtlas

/-- How a mapper converts values. -/
inductive Conversion where
  /-- Values stay as they are. -/
  | unchanged
  /-- Numbers are exposed as whether they differ from zero. -/
  | nonZero
  /-- Texts are exposed as 128-bit identifiers. -/
  | identifier
deriving Repr, DecidableEq

/-- A declared pair of a database's type and the type its values are exposed as. -/
structure Mapper where
  databaseType : TypeName
  valueType : TypeName
  conversion : Conversion := .unchanged
  label : String
deriving Repr, DecidableEq

namespace Conversion

/-- The text without any occurrence of the given part. -/
def removeAll (part : List Char) : List Char → List Char
  | [] => []
  | c :: rest =>
    if part.isPrefixOf (c :: rest) && !part.isEmpty then removeAll part (rest.drop (part.length - 1))
    else c :: removeAll part rest
termination_by cs => cs.length
decreasing_by
  all_goals simp only [List.length_drop, List.length_cons]
  all_goals omega

/-- Whether the character is a brace. -/
def isBrace (c : Char) : Bool :=
  c == '\x7b' || c == '\x7d'

/-- The digits of an identifier's text: without the words that announce one, the braces around it and
the hyphens inside. -/
def identifierDigits (s : String) : List Char :=
  let plain := removeAll "uuid:".toList (removeAll "urn:".toList s.toList)
  let bare := ((plain.dropWhile isBrace).reverse.dropWhile isBrace).reverse
  bare.filter (· != '-')

/-- The identifier that a text writes. -/
def readIdentifier (s : String) : Except Failure Value :=
  let digits := identifierDigits s
  if digits.length ≠ 32 then
    .error (Failure.faultText .wrongValue "badly formed hexadecimal UUID string")
  else
    match Number.hexInteger? digits with
    | some n => .ok (.uuid n.toNat)
    | none => .error (Value.notInteger 16 (Text.quoted (String.ofList digits)))

/-- What a value read from a column is exposed as. -/
def expose (conversion : Conversion) (v : Value) : Except Failure Value :=
  if v.isNull then .ok v
  else
    match conversion with
    | .unchanged => .ok v
    | .nonZero => .ok (.bool !(v.equalsInteger 0))
    | .identifier =>
      match v with
      | .text s => readIdentifier s
      | .bytes _ => .error (Failure.faultText .wrongType "a bytes-like object is required, not 'str'")
      | v => .error (v.noAttribute "replace")

/-- What an exposed value is stored as. -/
def store (conversion : Conversion) (v : Value) : Value :=
  if v.isNull then v
  else
    match conversion with
    | .unchanged => v
    | .nonZero => .int (if v.isTrue then 1 else 0)
    | .identifier => .text v.display

end Conversion

namespace Mapper

/-- The label of a mapper that was given none. -/
def defaultLabel (databaseType valueType : TypeName) : String :=
  databaseType.name ++ " -> " ++ valueType.name

/-- A mapper; an empty label counts as none. -/
def make (databaseType valueType : TypeName) (label : Option String) : Mapper :=
  { databaseType, valueType,
    label := (label.filter (!·.isEmpty)).getD (defaultLabel databaseType valueType) }

/-- The mapper that leaves the values of a type as they are. -/
def identity (t : TypeName) : Mapper :=
  { databaseType := t, valueType := t, label := t.name ++ " identity" }

/-- Whether both sides of the mapper are the same type. -/
def isIdentity (m : Mapper) : Bool :=
  m.databaseType == m.valueType

/-- Whether both sides of the mapper are the given type. -/
def keeps (t : TypeName) (m : Mapper) : Bool :=
  m.databaseType == t && m.valueType == t

/-- The literal of a mapper. -/
def literal (m : Mapper) : String :=
  s!"TypeMapper({m.label})"

end Mapper

/-- The mappers known to a crawl, in order of registration. -/
abbrev Registry := List Mapper

namespace Registry

/-- The types whose values are exposed as they are. -/
def plainTypes : List TypeName :=
  [.builtin "str", .builtin "int", .builtin "float", .builtin "bool", .builtin "bytes",
   ⟨"decimal", "Decimal"⟩, ⟨"datetime", "date"⟩, ⟨"datetime", "datetime"⟩, ⟨"datetime", "time"⟩,
   ⟨"datetime", "timedelta"⟩, ⟨"uuid", "UUID"⟩, .builtin "dict", .builtin "list"]

/-- The mappers that are known without registration. -/
def default : Registry :=
  plainTypes.map Mapper.identity ++
    [{ databaseType := .builtin "int", valueType := .builtin "bool", conversion := .nonZero,
       label := "int -> bool" },
     { databaseType := .builtin "str", valueType := ⟨"uuid", "UUID"⟩, conversion := .identifier,
       label := "str -> UUID" }]

/-- Adds a mapper behind the others. -/
def register (registry : Registry) (m : Mapper) : Registry :=
  registry ++ [m]

/-- A registry that a caller passes; an empty one counts as none. -/
def given (registry : Option Registry) : Registry :=
  match registry with
  | some (m :: rest) => m :: rest
  | _ => default

/-- The failure of finding some other number of mappers than one that keep a type. -/
def notUnique (found : Nat) (t : TypeName) : Failure :=
  .plain .columnResolution
    s!"Found {found} identity type mappers for mapping '{t.path}', expected exactly one."

/-- The single mapper that keeps the given type. -/
def identityFor (registry : Registry) (t : TypeName) : Except Failure Mapper :=
  match registry.filter (Mapper.keeps t) with
  | [m] => .ok m
  | found => .error (notUnique found.length t)

/-- A mapper is found exactly if it is the only one that keeps the type. -/
theorem identityFor_eq_ok_iff (registry : Registry) (t : TypeName) (m : Mapper) :
    registry.identityFor t = .ok m ↔ registry.filter (Mapper.keeps t) = [m] := by
  unfold identityFor
  split
  · rename_i found h
    simp [h]
  · rename_i found h
    constructor
    · intro absurdity
      cases absurdity
    · intro single
      exact absurd single (h m)

end Registry

end SchemaAtlas
