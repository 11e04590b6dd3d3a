import SchemaAtlas.Session.Supplier
import SchemaAtlas.Sql.ReadOnly

/-!
# Queries

A query runs on a connection of its own, and every row is mapped before the connection is closed. A row
mapper may call the query it works for again; what such a call comes to is part of running the mapper.
If anything fails there is no partial result; failures of the database layer are told as failed queries.
-/

namespace SchemaAtlas

/-- How a mapped row comes about: at once, or after calling the query again. -/
inductive Mapping where
  | done (outcome : Except Failure Value)
  | again (next : Except Failure (List Value) → Mapping)

/-- What a row becomes. -/
abbrev RowMapper := List Value → Mapping

namespace RowMapper

/-- The whole row. -/
def whole : RowMapper := fun row => .done (.ok (.list row))

/-- The value at a place of the row. -/
def valueAt (place : Value) : RowMapper := fun row =>
  let at? (n : Int) : Except Failure Value :=
    match Value.at? row n with
    | some v => .ok v
    | none => .error (Failure.faultText .outOfRange "tuple index out of range")
  .done <| match place with
    | .int n => at? n
    | .bool b => at? (if b then 1 else 0)
    | v => .error (Failure.faultText .wrongType
        s!"tuple indices must be integers or slices, not {v.kindName}")

/-- A mapper that always fails. -/
def failing (f : Failure) : RowMapper := fun _ => .done (.error f)

/-- A mapper that calls its query again and fails if that fails. -/
def reentrant : RowMapper := fun _ =>
  .again fun rows => .done (rows.map .list)

end RowMapper

namespace Mapping

/-- The mapped row, given what calling the query again comes to. -/
def settle (again : Except Failure (List Value)) : Mapping → Except Failure Value
  | .done outcome => outcome
  | .again next => (next again).settle again

end Mapping

/-- A statement to be run for reading, with the values for its marks. -/
structure Query where
  statement : String
  parameters : List Value := []

namespace Query

/-- Maps rows up to the first failure. -/
def mapRows (mapper : List Value → Except Failure Value) :
    List (Except Failure (List Value)) → Except Failure (List Value)
  | [] => .ok []
  | .error f :: _ => .error f
  | .ok row :: rest => do
    let v ← mapper row
    let more ← mapRows mapper rest
    .ok (v :: more)

/-- Runs a query on a connection. -/
def read (query : Query) (mapper : List Value → Except Failure Value) (link : Link) :
    Except Failure (List Value) × Link :=
  match link.execute query.statement (.positional query.parameters) with
  | (.error f, link) => (.error f, link)
  | (.ok (.rows rows _), link) => (mapRows mapper rows, link)
  | (.ok _, link) => (.ok [], link)

/-- The text of a failed query. -/
def failureText (query : Query) (f : Failure) : String :=
  s!"Error querying {query.statement}: {f.message}"

variable {σ : Type}

/-- Runs a query on a connection of its own. -/
def run (supplier : Supplier σ) (query : Query) (mapper : List Value → Except Failure Value) :
    Keeping σ (List Value) := do
  match ← Keeping.attempt (supplier.withLink (query.read mapper)) with
  | .ok rows => pure rows
  | .error f =>
    if f.isDatabase then
      supplier.error (query.failureText f)
      throw (.becauseOf .query (query.failureText f) f)
    else throw f

/-- Refuses a statement that is not a reading one, where only reading is allowed. -/
def check (readOnly : Bool) (statement : String) : Except Failure Unit :=
  if readOnly then Sql.checkReading statement else .ok ()

/-- Runs a query if its statement may be run. -/
def execute (supplier : Supplier σ) (readOnly : Bool) (query : Query)
    (mapper : List Value → Except Failure Value) : Keeping σ (List Value) := do
  Keeping.settle (check readOnly query.statement)
  query.run supplier mapper

end Query

end SchemaAtlas
