import SchemaAtlas.Value.Basic
import SchemaAtlas.Text.Quoted

/-!
# Values as text

A value has two texts: its literal, which shows what kind of value it is, and its display, which is the
literal except that texts, decimal numbers and identifiers stand for themselves. Inside a list or a
record every value is shown by its literal.
-/

namespace SchemaAtlas

/-- The canonical text of a 128-bit identifier. -/
def uuidText (n : Nat) : String :=
  let digits := Text.hexDigits 32 n
  let part (start count : Nat) : List Char := (digits.drop start).take count
  String.ofList (part 0 8 ++ '-' :: part 8 4 ++ '-' :: part 12 4 ++ '-' :: part 16 4 ++ '-' :: part 20 12)

/-- The literal of a type. -/
def TypeName.literal (t : TypeName) : String :=
  "<class '" ++ (if t.home == "builtins" then t.path else t.full) ++ "'>"

/-- Texts separated by a comma and a space. -/
def joinComma (texts : List String) : String :=
  String.intercalate ", " texts

mutual

/-- The literal of a value. -/
def Value.literal : Value → String
  | .null => "None"
  | .bool b => if b then "True" else "False"
  | .int n => toString n
  | .float x => x.text
  | .decimal d => "Decimal('" ++ d.text ++ "')"
  | .uuid n => "UUID('" ++ uuidText n ++ "')"
  | .text s => Text.quoted s
  | .bytes bs => Text.quotedBytes bs
  | .list items => "[" ++ joinComma (Value.literals items) ++ "]"
  | .record fields => "\x7b" ++ joinComma (Value.fieldLiterals fields) ++ "\x7d"
  | .type t => t.literal
  | .sqlType t => t.name.literal
  | .column t _ => t.name.path ++ "()"
  | .object t => "<" ++ t.path ++ ">"

/-- The literals of values. -/
def Value.literals : List Value → List String
  | [] => []
  | v :: rest => v.literal :: Value.literals rest

/-- The literals of fields. -/
def Value.fieldLiterals : List (String × Value) → List String
  | [] => []
  | (key, v) :: rest => (Text.quoted key ++ ": " ++ v.literal) :: Value.fieldLiterals rest

end

/-- The display of a value. -/
def Value.display : Value → String
  | .text s => s
  | .decimal d => d.text
  | .uuid n => uuidText n
  | v => v.literal

/-- The literal of several values taken together. -/
def tupleLiteral (values : List Value) : String :=
  match values with
  | [v] => "(" ++ v.literal ++ ",)"
  | _ => "(" ++ joinComma (Value.literals values) ++ ")"

/-- The display of a name that may be absent. -/
def displayName (name : Option String) : String :=
  name.getD "None"

/-- A name that may be absent, as a value. -/
def Value.ofName : Option String → Value
  | none => .null
  | some s => .text s

/-- An integer that may be absent, as a value. -/
def Value.ofInteger : Option Int → Value
  | none => .null
  | some n => .int n

end SchemaAtlas
