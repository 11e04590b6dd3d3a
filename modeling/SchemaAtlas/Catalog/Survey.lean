import SchemaAtlas.Catalog.Call
import SchemaAtlas.Atlas.Basic
import SchemaAtlas.Failure.Keeping

/-!
# Reading listings into an atlas

A survey is an atlas in the making, with the events of the cursors read so far and notes of the reader's
choice. A listing is consumed as a whole: its cursor is closed on every path once it was opened, and a
failure of closing takes the place of any failure before it. A survey keeps what it did when it fails.
-/

namespace SchemaAtlas

/-- An atlas in the making. -/
structure Survey (Notes : Type) where
  atlas : Atlas := {}
  events : List Event := []
  notes : Notes

namespace Survey

variable {Notes α γ : Type}

/-- Records an event. -/
def record (event : Event) : Keeping (Survey Notes) Unit :=
  modify fun survey => { survey with events := survey.events ++ [event] }

/-- Changes the notes. -/
def note (change : Notes → Notes) : Keeping (Survey Notes) Unit :=
  modify fun survey => { survey with notes := change survey.notes }

/-- Adds a child to a node of the atlas. -/
def add (parent : NodeId) (kind : NodeKind) : Keeping (Survey Notes) NodeId := do
  let (atlas, id) ← Keeping.settle ((← get).atlas.add parent kind)
  modify fun survey => { survey with atlas }
  pure id

/-- Sets a field of a node of the atlas. -/
def set (id : NodeId) (field : String) (given : Entry) : Keeping (Survey Notes) Unit := do
  let atlas ← Keeping.settle ((← get).atlas.assign id field given)
  modify fun survey => { survey with atlas }

/-- Sets a field of a node of the atlas to a value. -/
def setValue (id : NodeId) (field : String) (v : Value) : Keeping (Survey Notes) Unit :=
  set id field (.value v)

/-- Sets a field of a node of the atlas to a field of a row. -/
def setFrom (id : NodeId) (field : String) (row : Value) (column : String) :
    Keeping (Survey Notes) Unit := do
  setValue id field (← Keeping.settle (row.field column))

/-- The first child of a kind that has the name which a value is. -/
def childNamed (id : NodeId) (kind : NodeKind) (name : Value) :
    Keeping (Survey Notes) (Option NodeId) := do
  let atlas := (← get).atlas
  match name with
  | .null => pure (atlas.childNamed id kind none)
  | .text s => pure (atlas.childNamed id kind (some s))
  | _ => pure none

/-- What comes of the rows of a listing, its cursor being closed afterwards. -/
def consume (source : Source) (call : Call) (body : List Row → Keeping (Survey Notes) α) :
    Keeping (Survey Notes) α := do
  let earlier := Event.calls (← get).events
  record (.called call)
  let listing ← Keeping.settle (source earlier call)
  record (.opened call)
  let outcome ← Keeping.attempt (body listing.rows)
  record (.closed call)
  match listing.closeFailure, outcome with
  | none, outcome => Keeping.settle outcome
  | some f, .ok _ => throw f
  | some f, .error earlier => throw (f.during earlier)

/-- Hands rows to a step one after the other. -/
def eachRow (step : Value → Keeping (Survey Notes) Unit) : List Row → Keeping (Survey Notes) Unit
  | [] => pure ()
  | .error f :: _ => throw f
  | .ok row :: rest => do
    step row
    eachRow step rest

/-- How rows become children: which rows count, which child a row belongs to, and what the row adds to
it. -/
structure Ingestion (Notes γ : Type) where
  accepts : Value → Keeping (Survey Notes) Bool := fun _ => pure true
  child : Value → Keeping (Survey Notes) γ
  fill : γ → Value → Keeping (Survey Notes) Unit

/-- Ingests rows one after the other; the result is the number of rows that counted. -/
def Ingestion.rows (way : Ingestion Notes γ) : Nat → List Row → Keeping (Survey Notes) Nat
  | count, [] => pure count
  | _, .error f :: _ => throw f
  | count, .ok row :: rest => do
    if ← way.accepts row then
      let child ← way.child row
      way.fill child row
      Ingestion.rows way (count + 1) rest
    else Ingestion.rows way count rest

/-- The failure of reading the children of a node: failures of discovery stay what they are. -/
def unreadable (atlas : Atlas) (parent : NodeId) (what : String) (f : Failure) : Failure :=
  if f.isDiscovery then f
  else
    match atlas.node? parent with
    | some node => .becauseOf .discovery s!"Failed to read {what} of {node.title}: {f.message}" f
    | none => f

/-- Reads a listing into the children of a node. -/
def ingest (source : Source) (call : Call) (parent : NodeId) (what : String)
    (way : Ingestion Notes γ) : Keeping (Survey Notes) Nat := do
  match ← Keeping.attempt (consume source call (way.rows 0)) with
  | .ok count => pure count
  | .error f => throw (unreadable (← get).atlas parent what f)

end Survey

end SchemaAtlas
