import SchemaAtlas.Session.Supplier
import SchemaAtlas.Text.Blank
import SchemaAtlas.Text.Case
import SchemaAtlas.Transience

/-!
# Write batches

A batch is a list of statements that run in one transaction. If the transaction fails for a transient
reason, and attempts are left, it is tried again on a new connection. The keys that statements generate
are gathered attempt by attempt; they are delivered only after an attempt that succeeded, statement by
statement.
-/

namespace SchemaAtlas

/-- A statement of a batch. -/
structure Statement where
  statement : String
  parameters : List Value := []

namespace Statement

/-- The literal of a statement. -/
def literal (s : Statement) : String :=
  let parameters := (Value.list s.parameters).literal
  s!"SqlUpdateStatement(sql={Text.quoted s.statement}, parameters={parameters})"

/-- Whether the statement inserts a row: its first word does. -/
def isInsert (s : Statement) : Bool :=
  "INSERT".toList.isPrefixOf (Text.upperChars (Text.dropBlanks s.statement.toList))

end Statement

namespace Batch

/-- A statement's number among all statements of a caller. -/
abbrev StatementId := Nat

/-- How batches are run. -/
structure Policy where
  transient : TransientTable := .default
  maxAttempts : Nat := 5
  rowIdentifiers : List String := ["ROWID", "oracle.sql.ROWID"]

/-- A number of attempts that batches can be run with. -/
def checkAttempts (n : Int) : Except Failure Nat :=
  if n < 1 then .error (Failure.faultText .wrongValue "max_attempts must be at least 1")
  else .ok n.toNat

/-- Whether a value's type is one that stands for the place of a row, and so for no key. -/
def isRowIdentifier (policy : Policy) (v : Value) : Bool :=
  policy.rowIdentifiers.contains v.typeName.name || policy.rowIdentifiers.contains v.typeName.full

/-- The failure of a key that is no integer. -/
def notAnInteger (s : Statement) (key : Value) (f : Failure) : Failure :=
  .becauseOf (.transaction {}) s!"Generated key {key.literal} of {s.statement} is not an integer" f

/-- The key that a returned row generates, if it generates one. -/
def keyOfRow (policy : Policy) (s : Statement) (row : List Value) : Except Failure (Option Int) :=
  match row with
  | [] => .error (Failure.faultText .outOfRange "tuple index out of range")
  | key :: _ =>
    if key.isNull || isRowIdentifier policy key then .ok none
    else
      match key.toInteger with
      | .ok n => .ok (some n)
      | .error (.fault .wrongType arguments) => .error (notAnInteger s key (.fault .wrongType arguments))
      | .error (.fault .wrongValue arguments) => .error (notAnInteger s key (.fault .wrongValue arguments))
      | .error f => .error f

/-- The keys of returned rows, and the failure that stopped the reading. -/
def keysOfRows (policy : Policy) (s : Statement) :
    List (Except Failure (List Value)) → List Int × Except Failure Unit
  | [] => ([], .ok ())
  | .error f :: _ => ([], .error f)
  | .ok row :: rest =>
    match keyOfRow policy s row with
    | .error f => ([], .error f)
    | .ok key =>
      let (keys, outcome) := keysOfRows policy s rest
      (key.toList ++ keys, outcome)

/-- The keys that a reply generates, and the failure that stopped the reading. A change generates a key
only if an insertion added exactly one row. -/
def keysOfReply (policy : Policy) (s : Statement) : Reply → List Int × Except Failure Unit
  | .refused f => ([], .error f)
  | .rows rows _ => keysOfRows policy s rows
  | .changed lastRow count =>
    if s.isInsert && count.equalsInteger 1 && lastRow.isTrue then
      match lastRow.toInteger with
      | .ok key => ([key], .ok ())
      | .error f => ([], .error f)
    else ([], .ok ())

/-! ## One attempt -/

/-- The generated keys by statement. -/
abbrev Keys := List (List Int)

namespace Keys

/-- Adds keys to those of a statement. -/
def add (keys : Keys) (id : StatementId) (more : List Int) : Keys :=
  keys.modify id (· ++ more)

/-- Forgets the keys of some statements. -/
def clear (keys : Keys) (ids : List StatementId) : Keys :=
  ids.foldl (fun keys id => keys.modify id fun _ => []) keys

/-- The keys of a statement. -/
def of (keys : Keys) (id : StatementId) : List Int :=
  keys.getD id []

end Keys

/-- An attempt under way: its connection, the keys gathered, and the statement reached. -/
structure Work where
  link : Link
  keys : Keys
  reached : Option Statement := none

/-- Runs statements one after the other. -/
def runStatements (policy : Policy) : List (StatementId × Statement) → Work → Except Failure Unit × Work
  | [], work => (.ok (), work)
  | (id, s) :: rest, work =>
    let work := { work with reached := some s }
    match work.link.execute s.statement (.positional s.parameters) with
    | (.error f, link) => (.error f, { work with link })
    | (.ok reply, link) =>
      match keysOfReply policy s reply with
      | (keys, .error f) => (.error f, { work with link, keys := work.keys.add id keys })
      | (keys, .ok ()) => runStatements policy rest { work with link, keys := work.keys.add id keys }

/-- Runs statements in a transaction, which is committed if all succeed. -/
def transact (policy : Policy) (statements : List (StatementId × Statement)) (work : Work) :
    Except Failure Unit × Work :=
  match work.link.begin with
  | (.error f, link) => (.error f, { work with link })
  | (.ok (), link) =>
    match runStatements policy statements { work with link } with
    | (.error f, work) => (.error f, work)
    | (.ok (), work) =>
      let (outcome, link) := work.link.commit
      (outcome, { work with link })

/-- The failure of a transaction that the database layer failed. -/
def transactionFailed (policy : Policy) (f : Failure) : Failure :=
  let kind := f.transientKind policy.transient
  .becauseOf
    (.transaction { sqlstate := f.sqlstate, kind := kind.map TransientKind.text, retryable := kind.isSome })
    s!"Transaction failed: {f.message}" f

/-- The failure of a rollback that the database layer failed. -/
def rollbackFailed (f : Failure) : Failure :=
  .becauseOf (.rollback { sqlstate := f.sqlstate }) s!"Rollback failed: {f.message}" f

/-- What is logged of a transaction that the database layer failed. -/
def failureLog (statements : List Statement) (reached : Option Statement) (f : Failure) : List String :=
  let all := joinComma (statements.map Statement.literal)
  let current := displayName (reached.map Statement.literal)
  [s!"SqlStatementList: [{all}]", s!"SQL: {current}", f.message]

/-- What a failed attempt comes to: what is logged, the failure, and the connection, rolled back if its
transaction was still active. -/
def abandon (policy : Policy) (statements : List Statement) (f : Failure) (work : Work) :
    List String × Failure × Link :=
  let logged := if f.isDatabase then failureLog statements work.reached f else []
  let told := if f.isDatabase then transactionFailed policy f else f
  if work.link.isActive then
    match work.link.rollback with
    | (.ok (), link) => (logged, told, link)
    | (.error r, link) =>
      if r.isDatabase then
        (logged ++ [s!"Rollback error! connection: {r.message}"], rollbackFailed r, link)
      else (logged, r, link)
  else (logged, told, work.link)

/-- One attempt on a connection: what is logged, what came of it, and what it left. -/
def attemptOn (policy : Policy) (statements : List (StatementId × Statement)) (work : Work) :
    List String × Except Failure Unit × Work :=
  let (logged, outcome, work) : List String × Except Failure Unit × Work :=
    match transact policy statements work with
    | (.ok (), work) => ([], .ok (), work)
    | (.error f, work) =>
      let (logged, f, link) := abandon policy (statements.map (·.2)) f work
      (logged, .error f, { work with link })
  let (closing, link) := work.link.close
  (logged, Failure.afterwards outcome closing, { work with link })

/-! ## Attempts on a supplier -/

/-- What running batches leaves: the supplier's state, the keys gathered, and the deliveries made. -/
structure State (σ : Type) where
  supply : σ
  keys : Keys
  delivered : List (StatementId × List Int) := []

variable {σ α : Type}

/-- A computation on the supplier's state. -/
def onSupply (body : Keeping σ α) : Keeping (State σ) α :=
  Keeping.onPart State.supply (fun supply state => { state with supply }) body

/-- One attempt, on a new connection. -/
def attempt (supplier : Supplier σ) (policy : Policy) (statements : List (StatementId × Statement)) :
    Keeping (State σ) Unit := do
  modify fun state => { state with keys := state.keys.clear (statements.map (·.1)) }
  let link ← onSupply supplier.acquire
  let (logged, outcome, work) := attemptOn policy statements { link, keys := (← get).keys }
  modify fun state => { state with keys := work.keys }
  onSupply do
    supplier.giveBack work.link
    logged.forM supplier.error
    Keeping.settle outcome

/-- What is known of a failure that is worth another attempt. -/
def retryable? (f : Failure) : Option Transience :=
  f.transience?.filter (·.retryable)

/-- What is logged before another attempt. -/
def retryText (facts : Transience) (number total : Nat) : String :=
  let kind := displayName facts.kind
  let code := displayName facts.sqlstate
  s!"Transient failure ({kind}, SQLSTATE {code}) on attempt {number}/{total}, retrying transaction"

/-- Attempts, the first of which has the given number, until one succeeds, fails for good, or is the
last. -/
def attempts (supplier : Supplier σ) (policy : Policy) (statements : List (StatementId × Statement)) :
    Nat → Nat → Keeping (State σ) Unit
  | 0, _ => pure ()
  | left + 1, number => do
    match ← Keeping.attempt (attempt supplier policy statements) with
    | .ok () => pure ()
    | .error f =>
      match retryable? f, left with
      | some facts, _ + 1 =>
        onSupply (supplier.log ⟨.warning, retryText facts number policy.maxAttempts⟩)
        attempts supplier policy statements left (number + 1)
      | _, _ => throw f

/-- Who receives the keys of a statement; receiving may fail. -/
abbrev Consumers := StatementId → Option (List Int → Except Failure Unit)

/-- Delivers the keys of statements one after the other. -/
def deliver (consumers : Consumers) : List StatementId → Keeping (State σ) Unit
  | [] => pure ()
  | id :: rest => do
    match consumers id with
    | none => deliver consumers rest
    | some consumer =>
      let keys := (← get).keys.of id
      modify fun state => { state with delivered := state.delivered ++ [(id, keys)] }
      Keeping.settle (consumer keys)
      deliver consumers rest

/-- Runs a batch. -/
def run (supplier : Supplier σ) (policy : Policy) (consumers : Consumers)
    (statements : List (StatementId × Statement)) : Keeping (State σ) Unit := do
  attempts supplier policy statements policy.maxAttempts 1
  deliver consumers (statements.map (·.1))

end Batch

end SchemaAtlas
