import SchemaAtlas.Session.Query

/-!
# Deferred queries

A deferred query is fully described but runs only when it is streamed, and anew each time. While it runs
it cannot be streamed again.
-/

namespace SchemaAtlas

/-- Where a deferred query stands. -/
inductive QueryState where
  | notStarted
  | inFlight
  | completed
  | failed
deriving Repr, DecidableEq

namespace QueryState

/-- The text of a state. -/
def text : QueryState → String
  | .notStarted => "not_started"
  | .inFlight => "in_flight"
  | .completed => "completed"
  | .failed => "failed"

/-- The states by their texts. -/
def byText : List (String × QueryState) :=
  [("not_started", .notStarted), ("in_flight", .inFlight), ("completed", .completed), ("failed", .failed)]

end QueryState

/-- A query to be run later, and where it stands. -/
structure Deferred where
  query : Query
  mapper : RowMapper
  state : QueryState := .notStarted

namespace Deferred

/-- The text of a deferred query. -/
def literal (deferred : Deferred) : String :=
  s!"DeferredQuery(sql={Text.quoted deferred.query.statement}, state={deferred.state.text})"

/-- The failure of streaming a query that runs. -/
def alreadyRunning (deferred : Deferred) : Failure :=
  .plain .query s!"Query is already running: {deferred.query.statement}"

/-- What streaming comes to at once: a query that runs refuses. -/
def admits (deferred : Deferred) : Except Failure Unit :=
  if deferred.state = .inFlight then .error deferred.alreadyRunning else .ok ()

/-- What a row becomes while the query runs. -/
def mapRow (deferred : Deferred) (row : List Value) : Except Failure Value :=
  (deferred.mapper row).settle (deferred.admits.map fun _ => [])

variable {σ : Type}

/-- Runs the query; the result is what came of it and where the query stands afterwards. -/
def stream (supplier : Supplier σ) (deferred : Deferred) :
    Keeping σ (Except Failure (List Value) × Deferred) := do
  match deferred.admits with
  | .error f => pure (.error f, deferred)
  | .ok () =>
    let running := { deferred with state := .inFlight }
    match ← Keeping.attempt (running.query.run supplier running.mapRow) with
    | .ok rows => pure (.ok rows, { running with state := .completed })
    | .error f => pure (.error f, { running with state := .failed })

end Deferred

/-- Defers a query if its statement may be run. -/
def Query.defer (readOnly : Bool) (query : Query) (mapper : RowMapper) : Except Failure Deferred := do
  check readOnly query.statement
  .ok { query, mapper }

end SchemaAtlas
