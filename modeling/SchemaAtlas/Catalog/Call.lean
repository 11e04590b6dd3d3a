import SchemaAtlas.Value.Basic

/-!
# Listing calls

A catalog is read by listing calls: the types a database knows, its schemas, its catalogs, the tables of
a namespace, and four parts of each table. A source answers a call with a listing or refuses it; the
answer may depend on the calls made before. A listing has rows, each of which may fail when it is
reached, and closing it may fail as well.
-/

namespace SchemaAtlas

/-- The listed parts of a table. -/
inductive TablePart where
  | columns
  | indexes
  | primaryKey
  | foreignKeys
deriving Repr, DecidableEq

/-- The parts of a table, in the order in which they are read. -/
def TablePart.all : List TablePart :=
  [.columns, .indexes, .primaryKey, .foreignKeys]

/-- A listing call with its arguments. -/
inductive Call where
  | typeInfo
  | schemas
  | catalogs
  | tables (catalog schema : Option String)
  | part (part : TablePart) (catalog schema table : Option String)
deriving Repr, DecidableEq

/-- A row, or the failure of reaching it. -/
abbrev Row := Except Failure Value

/-- What an accepted listing call yields. -/
structure Listing where
  rows : List Row := []
  closeFailure : Option Failure := none

/-- What each listing call is answered, given the calls made before it. -/
abbrev Source := List Call → Call → Except Failure Listing

/-- What happens to the cursors of a source. -/
inductive Event where
  | called (call : Call)
  | opened (call : Call)
  | closed (call : Call)
deriving Repr, DecidableEq

namespace Event

/-- The call of an event that is one. -/
def call? : Event → Option Call
  | .called call => some call
  | _ => none

/-- The calls among some events. -/
def calls (events : List Event) : List Call :=
  events.filterMap call?

/-- The number of cursors that some events leave open. -/
def stillOpen (events : List Event) : Nat :=
  (events.countP fun | .opened _ => true | _ => false) - (events.countP fun | .closed _ => true | _ => false)

/-- The number of cursors that some events close. -/
def closings (events : List Event) : Nat :=
  events.countP fun | .closed _ => true | _ => false

end Event

end SchemaAtlas
