import SchemaAtlas.Failure.Keeping
import SchemaAtlas.Session.Connection

/-!
# Suppliers of connections

Whoever runs statements asks a supplier for a connection each time, and hands it back when done. A pool
is the plainest supplier: it hands out the connections it was given, one after the other, some of which
may turn out to be failures.
-/

namespace SchemaAtlas

/-- Hands out connections, takes them back and keeps the log. -/
structure Supplier (σ : Type) where
  acquire : Keeping σ Link
  giveBack : Link → Keeping σ Unit
  log : LogEntry → Keeping σ Unit

namespace Supplier

variable {σ α : Type}

/-- What comes of using a connection, which is closed and handed back afterwards. -/
def withLink (supplier : Supplier σ) (use : Link → Except Failure α × Link) : Keeping σ α := do
  let link ← supplier.acquire
  let (outcome, link) := use link
  let (closing, link) := link.close
  supplier.giveBack link
  Keeping.settle (Failure.afterwards outcome closing)

/-- Logs an error. -/
def error (supplier : Supplier σ) (text : String) : Keeping σ Unit :=
  supplier.log ⟨.error, text⟩

end Supplier

/-- The connections still to be handed out, those handed back, how often one was asked for, and the
log. -/
structure Pool where
  waiting : List (Except Failure Connection)
  links : List Link := []
  acquired : Nat := 0
  log : List LogEntry := []

namespace Pool

/-- The failure of asking for a connection when there is none. -/
def empty : Failure :=
  Failure.faultText .runtime "no connection left"

/-- Hands out the next connection. -/
def acquire : Keeping Pool Link := fun pool =>
  let pool := { pool with acquired := pool.acquired + 1 }
  match pool.waiting with
  | [] => (.error empty, pool)
  | .error f :: rest => (.error f, { pool with waiting := rest })
  | .ok connection :: rest => (.ok (Link.fresh connection), { pool with waiting := rest })

/-- The pool as a supplier. -/
def supplier : Supplier Pool where
  acquire := acquire
  giveBack link := modify fun pool => { pool with links := pool.links ++ [link] }
  log entry := modify fun pool => { pool with log := pool.log ++ [entry] }

end Pool

end SchemaAtlas
