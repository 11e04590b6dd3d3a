import SchemaAtlas.Catalog.Call
import SchemaAtlas.Failure.Basic

/-!
# Connections

A connection is described by what it will do: how it replies to each statement it is handed, in order,
what its transaction and its closing come to, and what it tells of its database. A link is a connection
in use; it keeps what was done on it. Every action is recorded before its failure is raised.
-/

namespace SchemaAtlas

/-- How a connection replies to a statement: it refuses, it yields rows, or it reports a change. -/
inductive Reply where
  | refused (f : Failure)
  | rows (rows : List (Except Failure (List Value))) (count : Value)
  | changed (lastRow : Value) (count : Value)

/-- A question about the structure of a database. -/
inductive Inspection where
  | schemaNames
  | tableNames (schema : Option String)
  | part (part : TablePart) (table schema : Option String)
deriving Repr, DecidableEq

/-- How a statement is run: bare, with values for its marks, or as a text of its own. -/
inductive Binding where
  | bare
  | positional (values : List Value)
  | text

/-- A statement that was run. -/
structure Execution where
  statement : String
  binding : Binding

/-- What can be done on a connection. -/
inductive Action where
  | begin
  | run (execution : Execution)
  | commit
  | rollback
  | close
  | closeResult

namespace Action

/-- The text of an action other than running a statement. -/
def text? : Action → Option String
  | .begin => some "begin"
  | .run _ => none
  | .commit => some "commit"
  | .rollback => some "rollback"
  | .close => some "close"
  | .closeResult => some "result close"

/-- The statement that an action runs. -/
def execution? : Action → Option Execution
  | .run execution => some execution
  | _ => none

end Action

/-- What a connection will do. It may drop a transaction of its own accord, given what was done. -/
structure Connection where
  script : List Reply := []
  beginFailure : Option Failure := none
  commitFailure : Option Failure := none
  rollbackFailure : Option Failure := none
  closeFailure : Option Failure := none
  failureEnds : Bool := false
  drops : List Action → Bool := fun _ => false
  inspectorFailure : Option Failure := none
  database : Option String := none
  types : List Value := []
  inspect : Inspection → Except Failure Value := fun _ => .ok (.list [])

/-- A connection in use: the replies still to come, whether a transaction is active, and what was done,
in order. -/
structure Link where
  connection : Connection
  pending : List Reply
  active : Bool := false
  actions : List Action := []
  inspected : List Inspection := []

namespace Link

/-- A connection before its first use. -/
def fresh (connection : Connection) : Link :=
  { connection, pending := connection.script }

/-- Succeeds unless there is a failure. -/
def outcome (f : Option Failure) : Except Failure Unit :=
  match f with
  | some f => .error f
  | none => .ok ()

/-- Records an action. -/
def record (link : Link) (action : Action) : Link :=
  { link with actions := link.actions ++ [action] }

/-- The statements that were run. -/
def executed (link : Link) : List Execution :=
  link.actions.filterMap Action.execution?

/-- The failure of handing a statement to a connection that has no reply left. -/
def scriptExhausted : Failure :=
  Failure.faultText .runtime "script exhausted"

/-- Runs a statement. -/
def execute (link : Link) (statement : String) (binding : Binding) : Except Failure Reply × Link :=
  let link := link.record (.run ⟨statement, binding⟩)
  match link.pending with
  | [] => (.error scriptExhausted, link)
  | .refused f :: rest => (.error f, { link with pending := rest })
  | reply :: rest => (.ok reply, { link with pending := rest })

/-- Begins a transaction. -/
def begin (link : Link) : Except Failure Unit × Link :=
  let link := link.record .begin
  (outcome link.connection.beginFailure,
    { link with active := link.connection.beginFailure.isNone })

/-- Whether the transaction is active still. -/
def isActive (link : Link) : Bool :=
  link.active && !link.connection.drops link.actions

/-- Whether a transaction is active after an attempt to end it. -/
def activeAfter (link : Link) (f : Option Failure) : Bool :=
  link.active && f.isSome && !link.connection.failureEnds

/-- Commits the transaction. -/
def commit (link : Link) : Except Failure Unit × Link :=
  let link := link.record .commit
  let f := link.connection.commitFailure
  (outcome f, { link with active := link.activeAfter f })

/-- Rolls the transaction back. -/
def rollback (link : Link) : Except Failure Unit × Link :=
  let link := link.record .rollback
  let f := link.connection.rollbackFailure
  (outcome f, { link with active := link.activeAfter f })

/-- Closes the connection. -/
def close (link : Link) : Except Failure Unit × Link :=
  let link := link.record .close
  (outcome link.connection.closeFailure, link)

/-- Closing is recorded whether or not it succeeds. -/
theorem actions_close (link : Link) : link.close.2.actions = link.actions ++ [.close] := rfl

end Link

/-- An outcome that a second outcome, which always happens afterwards, may take the place of. -/
def Failure.afterwards {α : Type} (outcome : Except Failure α) (last : Except Failure Unit) :
    Except Failure α :=
  match last, outcome with
  | .ok (), outcome => outcome
  | .error f, .ok _ => .error f
  | .error f, .error earlier => .error (f.during earlier)

end SchemaAtlas
