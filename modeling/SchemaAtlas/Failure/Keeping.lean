import SchemaAtlas.Failure.Basic

/-!
# Computations that keep their state

A computation of this kind fails with its state as it then is: what was done before the failure stays
done. An outcome can be made such a computation, and a computation can be run for its outcome.
-/

namespace SchemaAtlas.Keeping

variable {σ α : Type}

/-- A computation that fails exactly if the outcome is a failure. -/
def settle (outcome : Except Failure α) : Keeping σ α :=
  fun s => (outcome, s)

/-- The outcome of a computation, failures included. -/
def attempt (body : Keeping σ α) : Keeping σ (Except Failure α) :=
  fun s => match body s with
    | (outcome, s) => (.ok outcome, s)

/-- A computation on a part of the state. -/
def onPart {τ : Type} (part : τ → σ) (put : σ → τ → τ) (body : Keeping σ α) : Keeping τ α :=
  fun t => match body (part t) with
    | (outcome, s) => (outcome, put s t)

end SchemaAtlas.Keeping
