import SchemaAtlas.Value.Access

/-!
# Reading fields leniently

A field has a type, and a value that does not have that type is converted where that loses nothing: a
whole float to an integer, a word to a flag, bytes to text. Each reader returns the field's value or the
reason why the given value was refused.
-/

namespace SchemaAtlas

/-- The stable code of a reason for refusal. -/
def IssueKind.code : IssueKind → String
  | .stringType => "string_type"
  | .stringUnicode => "string_unicode"
  | .integerType => "int_type"
  | .integerText => "int_parsing"
  | .integerFraction => "int_from_float"
  | .finiteNumber => "finite_number"
  | .flagType => "bool_type"
  | .flagText => "bool_parsing"
  | .enumeration => "enum"
  | .literal => "literal_error"
  | .listType => "list_type"
  | .setType => "frozen_set_type"
  | .recordType => "dict_type"
  | .modelType => "model_type"
  | .missing => "missing"
  | .tooSmall => "greater_than_equal"
  | .notClass => "is_type"
  | .notInstance => "is_instance_of"
  | .noSuchAttribute => "no_such_attribute"
  | .extra => "extra_forbidden"

/-- What reading one field yields. -/
abbrev Reading (α : Type) := Except IssueKind α

namespace Field

/-- The text that bytes encode. -/
def textOfBytes? (bs : List UInt8) : Option String :=
  String.fromUTF8? ⟨bs.toArray⟩

/-- A text, or bytes that encode one. -/
def text : Value → Reading String
  | .text s => .ok s
  | .bytes bs =>
    match textOfBytes? bs with
    | some s => .ok s
    | none => .error .stringUnicode
  | _ => .error .stringType

/-- The integer that a text writes. -/
def integerOfText (s : String) : Reading Int :=
  match Number.fieldInteger? s.toList with
  | some n => .ok n
  | none => .error .integerText

/-- An integer, a flag, a whole number of another kind, or a text that writes one. -/
def integer : Value → Reading Int
  | .bool b => .ok (if b then 1 else 0)
  | .int n => .ok n
  | .float .nan => .error .finiteNumber
  | .float (.infinite _) => .error .finiteNumber
  | .float x =>
    match x.integer? with
    | some n => .ok n
    | none => .error .integerFraction
  | .decimal (.nan _) => .error .finiteNumber
  | .decimal (.infinite _) => .error .finiteNumber
  | .decimal d =>
    match d.integer? with
    | some n => .ok n
    | none => .error .integerFraction
  | .text s => integerOfText s
  | .bytes bs =>
    match textOfBytes? bs with
    | some s => integerOfText s
    | none => .error .integerText
  | _ => .error .integerType

/-- The flag that a word names. -/
def flagOfText (s : String) : Reading Bool :=
  let word := String.ofList (s.toList.map Char.toLower)
  if ["0", "off", "f", "false", "n", "no"].contains word then .ok false
  else if ["1", "on", "t", "true", "y", "yes"].contains word then .ok true
  else .error .flagText

/-- A flag, a zero or a one, or a word that names a flag. -/
def flag : Value → Reading Bool
  | .bool b => .ok b
  | .int n => if n == 0 then .ok false else if n == 1 then .ok true else .error .flagText
  | .float x =>
    match x.integer? with
    | some 0 => .ok false
    | some 1 => .ok true
    | _ => .error .flagType
  | .text s => flagOfText s
  | .bytes bs =>
    match textOfBytes? bs with
    | some s => flagOfText s
    | none => .error .flagText
  | _ => .error .flagType

/-- A field that may be absent: null stands for absence. -/
def optional {α : Type} (read : Value → Reading α) : Value → Reading (Option α)
  | .null => .ok none
  | v => (read v).map some

/-- One of the given texts. -/
def oneOf {α : Type} (refusal : IssueKind) (choices : List (String × α)) : Value → Reading α
  | .text s =>
    match choices.lookup s with
    | some choice => .ok choice
    | none => .error refusal
  | _ => .error refusal

/-- A type of any kind. -/
def typeName : Value → Reading TypeName
  | .type t => .ok t
  | .sqlType t => .ok t.name
  | _ => .error .notClass

/-- Absence is not handed to the reader of an optional field. -/
theorem optional_null {α : Type} (read : Value → Reading α) : optional read .null = .ok none := rfl

end Field

/-! ## Records of fields -/

/-- A reading at a place, with every refusal that occurred. -/
abbrev Checked (α : Type) := Except (List Issue) α

namespace Checked

/-- A reading at a place. -/
def atPlace {α : Type} (location : List String) : Reading α → Checked α
  | .ok a => .ok a
  | .error kind => .error [⟨location, kind⟩]

/-- Both readings, with the refusals of both. -/
def both {α β : Type} : Checked α → Checked β → Checked (α × β)
  | .ok a, .ok b => .ok (a, b)
  | .ok _, .error issues => .error issues
  | .error issues, .ok _ => .error issues
  | .error first, .error second => .error (first ++ second)

/-- Puts the refusals of a reading below a place. -/
def below {α : Type} (place : String) : Checked α → Checked α
  | .ok a => .ok a
  | .error issues => .error (issues.map fun issue => { issue with location := place :: issue.location })

/-- All readings, with the refusals of all. -/
def all {α : Type} : List (Checked α) → Checked (List α)
  | [] => .ok []
  | first :: rest => (both first (all rest)).map fun (a, more) => a :: more

/-- A required field of a record. -/
def required {α : Type} (fields : List (String × Value)) (name : String) (read : Value → Reading α) :
    Checked α :=
  match fields.lookup name with
  | some v => atPlace [name] (read v)
  | none => .error [⟨[name], .missing⟩]

/-- A field of a record that has a default. -/
def withDefault {α : Type} (fields : List (String × Value)) (name : String) (default : α)
    (read : Value → Reading α) : Checked α :=
  match fields.lookup name with
  | some v => atPlace [name] (read v)
  | none => .ok default

/-- A list of items, each read at its position. -/
def listOf {α : Type} (refusal : IssueKind) (read : Value → Checked α) : Value → Checked (List α)
  | .list items =>
    all ((items.zipIdx).map fun (item, position) => below (toString position) (read item))
  | _ => .error [⟨[], refusal⟩]

/-- A checked reading as a computation that may fail. -/
def orFail {α : Type} : Checked α → Except Failure α
  | .ok a => .ok a
  | .error issues => .error (.refused issues)

end Checked

end SchemaAtlas
