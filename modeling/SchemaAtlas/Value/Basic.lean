import SchemaAtlas.Number.Decimal

/-!
# Values, column types and failures

What a database hands over is not typed beforehand: a field of a metadata row, a generated key or a
setting may hold anything. `Value` is such a thing. Among the values are the column types of a
vendor, and asking a column type for the type of its values may fail, so values, column types and
failures are defined together.
-/

namespace SchemaAtlas

/-- A type as programs name it: the module it lives in and its dotted path there. -/
structure TypeName where
  home : String
  path : String
deriving Repr, DecidableEq

namespace TypeName

/-- The last part of a type's path. -/
def name (t : TypeName) : String :=
  String.ofList (t.path.toList.reverse.takeWhile (· != '.')).reverse

/-- The module and the path of a type, joined. -/
def full (t : TypeName) : String :=
  t.home ++ "." ++ t.path

/-- The type of a joined name: its module is what stands before the last dot. -/
def ofFull (s : String) : TypeName :=
  let parts := s.splitOn "."
  ⟨String.intercalate "." parts.dropLast, parts.getLastD ""⟩

/-- A type that needs no module to be named. -/
def builtin (path : String) : TypeName := ⟨"builtins", path⟩

end TypeName

/-- The general kinds of column types that a vendor's column type may descend from. -/
inductive TypeFamily where
  | bigInteger | smallInteger | integer | boolean | double | float | numeric | text | string
  | dateTime | date | time | largeBinary | varBinary | binary
deriving Repr, DecidableEq

/-- How a value was used in a way it does not allow. -/
inductive FaultKind where
  | missingKey
  | outOfRange
  | noAttribute
  | wrongType
  | wrongValue
  | overflow
  | unsupported
  | exhausted
  | runtime
  | unknownNode
  | other (label : String)
deriving Repr, DecidableEq

/-- Why a field's value was refused. -/
inductive IssueKind where
  | stringType | stringUnicode | integerType | integerText | integerFraction | finiteNumber
  | flagType | flagText | enumeration | literal | listType | setType | recordType | modelType | missing
  | tooSmall | notClass | notInstance | noSuchAttribute | extra
deriving Repr, DecidableEq

/-- A refused value: where it stood and why it was refused. -/
structure Issue where
  location : List String
  kind : IssueKind
deriving Repr, DecidableEq

/-- What is known of a failed transaction beyond its text. -/
structure Transience where
  sqlstate : Option String := none
  kind : Option String := none
  retryable : Bool := false
deriving Repr, DecidableEq

/-- A text that is not what it should be. -/
inductive TextForm where
  | yaml
  | json
deriving Repr, DecidableEq

mutual

/-- A value that a database, a caller or a settings file may supply. Of other objects only the type is kept: they stand
for those without conversions of their own, which count as true, are no integers, and show nothing but their type. -/
inductive Value where
  | null
  | bool (b : Bool)
  | int (n : Int)
  | float (x : Number.Binary64)
  | decimal (d : Number.Decimal)
  | uuid (n : Nat)
  | text (s : String)
  | bytes (bs : List UInt8)
  | list (items : List Value)
  | record (fields : List (String × Value))
  | type (name : TypeName)
  | sqlType (t : SqlType)
  | column (t : SqlType) (measures : List (String × Value))
  | object (type : TypeName)

/-- A vendor's column type: its name, the name it is visited under, the families it descends from, and
what comes of asking an instance made without arguments for the type of its values. -/
inductive SqlType where
  | mk (name : TypeName) (visitName : String) (families : List TypeFamily)
      (probe : Except Failure (Option TypeName))

/-- The families of failures this library raises itself. -/
inductive Family where
  | general
  | configuration
  | connectivity
  | document
  | frozen
  | discovery
  | noSchema (discarded : List Value)
  | columnResolution
  | unknownNullable (code : Value)
  | query
  | readOnly
  | transaction (facts : Transience)
  | rollback (facts : Transience)

/-- Why something did not succeed. A failure of this library knows the failure it was explicitly raised
for (`cause`) and the one that was being handled when it was raised (`handling`). -/
inductive Failure where
  | fault (kind : FaultKind) (arguments : List Value)
  | refused (issues : List Issue)
  | unreadable (form : TextForm)
  | setting (field : String)
  | database (label text : String) (codes arguments : List Value)
  | own (family : Family) (text : String) (cause handling : Option Failure)

end

instance : Inhabited Value := ⟨.null⟩

instance : Inhabited Failure := ⟨.fault .runtime []⟩

namespace SqlType

/-- The type's own name. -/
def name : SqlType → TypeName
  | .mk name .. => name

/-- The name that the type is visited under. -/
def visitName : SqlType → String
  | .mk _ visitName .. => visitName

/-- The families that the type descends from. -/
def families : SqlType → List TypeFamily
  | .mk _ _ families _ => families

/-- What comes of asking an instance for the type of its values. -/
def probe : SqlType → Except Failure (Option TypeName)
  | .mk _ _ _ probe => probe

end SqlType

/-- One record of what happened, with its urgency. -/
inductive LogLevel where
  | warning
  | error
deriving Repr, DecidableEq

/-- A line of the log. -/
structure LogEntry where
  level : LogLevel
  text : String
deriving Repr, DecidableEq

/-- A computation that may fail, and that keeps what it did to its state when it fails. -/
abbrev Keeping (σ α : Type) := ExceptT Failure (StateM σ) α

end SchemaAtlas
