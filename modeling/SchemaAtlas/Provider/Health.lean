import SchemaAtlas.Provider.Basic

/-!
# Health of a connection

A check opens a connection, runs a statement that reads nothing, and measures how long this took. It
tells of a failure to connect and of failures of the database layer, and passes on all others. An answer
that took more than five seconds counts as none.
-/

namespace SchemaAtlas

/-- What a check came to. -/
inductive HealthStatus where
  | success
  | failed
  | timeout
deriving Repr, DecidableEq

/-- The text of a status. -/
def HealthStatus.text : HealthStatus → String
  | .success => "success"
  | .failed => "failed"
  | .timeout => "timeout"

/-- What a check found; the latency is in milliseconds. -/
structure Health where
  label : String
  status : HealthStatus
  latency : Number.Binary64
  error : Option String

namespace Health

/-- The longest latency of an answer that counts, in milliseconds. -/
def limit : Nat := 5000

/-- The statement that a check runs. -/
def probe : String := "SELECT 1"

/-- Whether a check tells of the failure rather than passing it on. -/
def tells : Failure → Bool
  | .own .connectivity .. => true
  | f => f.isDatabase

/-- What a check tells of a failure: a failure to connect is told with what it was raised for. -/
def errorText (f : Failure) : String :=
  match f with
  | .own .connectivity text (some cause) _ => s!"{text}: {cause.message}"
  | f => f.message

/-- The outcome of a check, given what the statement came to and how long that took. -/
def ofOutcome (label : String) (failure : Option Failure) (elapsed : Number.Binary64) : Health :=
  let latency := elapsed.scale 1000
  let status := match failure with
    | some _ => .failed
    | none => if latency.exceeds limit then .timeout else .success
  { label, status, latency := latency.roundToHundredths, error := failure.map errorText }

end Health

/-- Checks the database of a provider. -/
def Provider.health (provider : Provider) : Keeping State Health := do
  let start ← onWorld World.time
  let outcome ← Keeping.attempt (provider.supplier.withLink fun link => link.execute Health.probe .text)
  let failure ← match outcome with
    | .ok _ => pure none
    | .error f => if Health.tells f then pure (some f) else throw f
  let finish ← onWorld World.time
  pure (.ofOutcome provider.label failure (finish.sub start))

end SchemaAtlas
