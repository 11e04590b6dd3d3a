import SchemaAtlas.Failure.Basic
import SchemaAtlas.Number.IntegerText

/-!
# Using a value

A value of unknown kind is read as a record, as a sequence, as a truth value or as an integer. Each
reading says which values it accepts and which fault arises from the others.
-/

namespace SchemaAtlas

/-- Sets a field of a record, where it stands or behind the others. -/
def putField (fields : List (String × Value)) (key : String) (v : Value) : List (String × Value) :=
  match fields with
  | [] => [(key, v)]
  | (k, old) :: rest => if k == key then (k, v) :: rest else (k, old) :: putField rest key v

namespace Value

open Failure

/-- The type of a value. -/
def typeName : Value → TypeName
  | .null => .builtin "NoneType"
  | .bool _ => .builtin "bool"
  | .int _ => .builtin "int"
  | .float _ => .builtin "float"
  | .decimal _ => ⟨"decimal", "Decimal"⟩
  | .uuid _ => ⟨"uuid", "UUID"⟩
  | .text _ => .builtin "str"
  | .bytes _ => .builtin "bytes"
  | .list _ => .builtin "list"
  | .record _ => .builtin "dict"
  | .type _ => .builtin "type"
  | .sqlType _ => .builtin "type"
  | .column t _ => t.name
  | .object t => t

/-- The name of a value's type in the text of a fault. -/
def kindName : Value → String
  | .decimal _ => "decimal.Decimal"
  | v => v.typeName.name

/-- The fault of asking a value for something its type does not have. -/
def noAttribute (v : Value) (wanted : String) : Failure :=
  match v with
  | .type t => faultText .noAttribute s!"type object '{t.name}' has no attribute '{wanted}'"
  | .sqlType t => faultText .noAttribute s!"type object '{t.name.name}' has no attribute '{wanted}'"
  | v => faultText .noAttribute s!"'{v.kindName}' object has no attribute '{wanted}'"

/-! ## Records -/

/-- A field of a record; other values have no fields. -/
def field (name : String) : Value → Except Failure Value
  | .record fields =>
    match fields.lookup name with
    | some v => .ok v
    | none => .error (missingField name)
  | .list _ => .error (faultText .wrongType "list indices must be integers or slices, not str")
  | .text _ => .error (faultText .wrongType "string indices must be integers, not 'str'")
  | .bytes _ => .error (faultText .wrongType "byte indices must be integers or slices, not str")
  | .type t => .error (faultText .wrongType s!"type '{t.name}' is not subscriptable")
  | .sqlType t => .error (faultText .wrongType s!"type '{t.name.name}' is not subscriptable")
  | v => .error (faultText .wrongType s!"'{v.kindName}' object is not subscriptable")

/-- A field of a record, or null where the record lacks it. -/
def fieldOrNull (name : String) : Value → Except Failure Value
  | .record fields => .ok ((fields.lookup name).getD .null)
  | v => .error (v.noAttribute "get")

/-- Whether a record has a field, a list an item or a text a part with this text. -/
def hasText (wanted : String) : Value → Except Failure Bool
  | .record fields => .ok (fields.any fun entry => entry.1 == wanted)
  | .list items => .ok (items.any fun | .text s => s == wanted | _ => false)
  | .text s => .ok (contains s.toList)
  | .bytes _ => .error (faultText .wrongType "a bytes-like object is required, not 'str'")
  | v => .error (faultText .wrongType s!"argument of type '{v.kindName}' is not iterable")
where
  contains : List Char → Bool
    | [] => wanted.isEmpty
    | c :: rest => wanted.toList.isPrefixOf (c :: rest) || contains rest

/-! ## Sequences -/

/-- The items of a value, one after the other. -/
def items : Value → Except Failure (List Value)
  | .list items => .ok items
  | .text s => .ok (s.toList.map fun c => .text (String.singleton c))
  | .bytes bs => .ok (bs.map fun b => .int b.toNat)
  | .record fields => .ok (fields.map fun entry => .text entry.1)
  | v => .error (faultText .wrongType s!"'{v.kindName}' object is not iterable")

/-- The items of a value that has a length. -/
def sized (v : Value) : Except Failure (List Value) :=
  match v.items with
  | .ok items => .ok items
  | .error _ => .error (faultText .wrongType s!"object of type '{v.kindName}' has no len()")

/-- The item at a position of a row; negative positions count from the end. -/
def at? (row : List Value) (position : Int) : Option Value :=
  if 0 ≤ position then row[position.toNat]?
  else if (-position).toNat ≤ row.length then row[row.length - (-position).toNat]? else none

/-! ## Truth -/

/-- Whether a value counts as true: absence, zeros and empty values do not. -/
def isTrue : Value → Bool
  | .null => false
  | .bool b => b
  | .int n => n != 0
  | .float x => !x.isZero
  | .decimal d => !d.isZero
  | .text s => !s.isEmpty
  | .bytes bs => !bs.isEmpty
  | .list items => !items.isEmpty
  | .record fields => !fields.isEmpty
  | _ => true

/-- The value itself if it counts as true, else another one. -/
def orElse (v other : Value) : Value :=
  if v.isTrue then v else other

/-- Whether the value is absent. -/
def isNull : Value → Bool
  | .null => true
  | _ => false

/-! ## Integers -/

/-- Whether a value equals an integer as a number. -/
def equalsInteger (v : Value) (n : Int) : Bool :=
  match v with
  | .bool b => (if b then 1 else 0) == n
  | .int m => m == n
  | .float x => x.integer? == some n
  | .decimal d => d.integer? == some n
  | _ => false

/-- The fault of a text that is no integer. -/
def notInteger (base : Nat) (shown : String) : Failure :=
  faultText .wrongValue s!"invalid literal for int() with base {base}: {shown}"

/-- The integer that a value denotes: numbers lose their fraction, texts are read. -/
def toInteger : Value → Except Failure Int
  | .bool b => .ok (if b then 1 else 0)
  | .int n => .ok n
  | .float .nan => .error (faultText .wrongValue "cannot convert float NaN to integer")
  | .float (.infinite _) => .error (faultText .overflow "cannot convert float infinity to integer")
  | .float (.finite negative m e) => .ok (Number.Binary64.truncated negative m e)
  | .decimal (.nan _) => .error (faultText .wrongValue "cannot convert NaN to integer")
  | .decimal (.infinite _) => .error (faultText .overflow "cannot convert Infinity to integer")
  | .decimal (.finite negative c e) => .ok (Number.Decimal.truncated negative c e)
  | .uuid n => .ok n
  | .text s =>
    match Number.decimalInteger? s.toList with
    | some n => .ok n
    | none => .error (notInteger 10 (Text.quoted s))
  | .bytes bs =>
    match asciiOf bs >>= Number.decimalInteger? with
    | some n => .ok n
    | none => .error (notInteger 10 (Text.quotedBytes bs))
  | v => .error (faultText .wrongType
      s!"int() argument must be a string, a bytes-like object or a real number, not '{v.kindName}'")
where
  asciiOf (bs : List UInt8) : Option (List Char) :=
    if bs.all (· < 0x80) then some (bs.map fun b => Char.ofNat b.toNat) else none

end Value

end SchemaAtlas
