import SchemaAtlas.Catalog.Call
import SchemaAtlas.Failure.Basic

/-!
# Cursors

A cursor hands out the rows of a listing one after the other and must be closed. Closing it runs its
hook, if it has one, the first time only; a closed cursor has no rows left.
-/

namespace SchemaAtlas

/-- A cursor: the rows still to come, whether it is closed, what its hook does if it has one, and how
often the hook ran. -/
structure Cursor where
  pending : List Row
  closed : Bool := false
  hook : Option (Except Failure Unit) := none
  hookRuns : Nat := 0

namespace Cursor

/-- The fault of asking for a row when there is none. -/
def exhausted : Failure := .fault .exhausted []

/-- The next row; after a row that failed there are none. -/
def next (cursor : Cursor) : Except Failure Value × Cursor :=
  if cursor.closed then (.error exhausted, cursor)
  else
    match cursor.pending with
    | [] => (.error exhausted, cursor)
    | .ok row :: rest => (.ok row, { cursor with pending := rest })
    | .error f :: _ => (.error f, { cursor with pending := [] })

/-- The rows up to the first one that fails, and its failure. -/
def readRows : List Row → List Value × Except Failure Unit
  | [] => ([], .ok ())
  | .error f :: _ => ([], .error f)
  | .ok row :: rest =>
    let (rows, outcome) := readRows rest
    (row :: rows, outcome)

/-- All rows still to come. -/
def drain (cursor : Cursor) : Except Failure (List Value) × Cursor :=
  if cursor.closed then (.ok [], cursor)
  else
    match readRows cursor.pending with
    | (rows, .ok ()) => (.ok rows, { cursor with pending := [] })
    | (_, .error f) => (.error f, { cursor with pending := [] })

/-- Closes the cursor. -/
def close (cursor : Cursor) : Except Failure Unit × Cursor :=
  if cursor.closed then (.ok (), cursor)
  else
    match cursor.hook with
    | none => (.ok (), { cursor with closed := true })
    | some outcome => (outcome, { cursor with closed := true, hookRuns := cursor.hookRuns + 1 })

/-- A closed cursor stays as it is when it is closed again. -/
theorem close_closed (cursor : Cursor) (h : cursor.closed = true) : cursor.close = (.ok (), cursor) := by
  simp [close, h]

/-- After closing, a cursor is closed. -/
theorem closed_close (cursor : Cursor) : cursor.close.2.closed = true := by
  unfold close
  split
  · assumption
  · split <;> rfl

end Cursor

end SchemaAtlas
