import Mathlib.Data.List.Induction
import SchemaAtlas.Proofs.Handler.Reading

/-!
# The life of a handler

Whatever is asked of a handler, one thing after the other, and whatever fails, its document and its type
mapping are those of the reading that succeeded last. Documents that were returned stay as they are, and
after each operation every connection it was given has been closed once.
-/

namespace SchemaAtlas.Handler

/-- What can be asked of a handler: to read the schemas that a filter lets pass, to run a query, to defer
one, to stream a deferred one, whatever its state, and to run a write batch. -/
inductive Operation where
  | read (filter : Option SchemaFilter)
  | query (query : Query) (mapper : List Value → Except Failure Value)
  | defer (query : Query) (mapper : RowMapper)
  | stream (deferred : Deferred)
  | update (consumers : Batch.Consumers) (statements : List Statement)

/-- Does what is asked. -/
def perform (handler : Handler) : Operation → Keeping State Unit
  | .read filter => do
    let _ ← handler.read filter
  | .query query mapper => do
    let _ ← query.execute handler.supplier handler.readOnly mapper
  | .defer query mapper => do
    let _ ← Keeping.settle (query.defer handler.readOnly mapper)
  | .stream deferred => do
    let (outcome, _) ← deferred.stream handler.supplier
    let _ ← Keeping.settle outcome
  | .update consumers statements => fun state =>
    let (outcome, batch) := handler.update consumers statements state
    (outcome, batch.supply)

/-- A reading that succeeded: its filter, the state it started in, and the document it returned. -/
structure Reading where
  filter : Option SchemaFilter
  before : State
  charted : Charted

/-- The reading that an operation is, if it is one that succeeds. -/
def reading? (handler : Handler) (state : State) : Operation → Option Reading
  | .read filter =>
    match (handler.read filter state).1 with
    | .ok charted => some { filter, before := state, charted }
    | .error _ => none
  | _ => none

/-- The state after some operations, each of which may fail. -/
def performed (handler : Handler) (state : State) (operations : List Operation) : State :=
  operations.foldl (fun state operation => (handler.perform operation state).2) state

/-- The readings among some operations that succeed, in order. -/
def readings (handler : Handler) : State → List Operation → List Reading
  | _, [] => []
  | state, operation :: rest =>
    (handler.reading? state operation).toList ++ handler.readings (handler.perform operation state).2 rest

variable (handler : Handler)

/-- The readings of operations that follow others. -/
theorem readings_concat (state : State) (operations : List Operation) (operation : Operation) :
    handler.readings state (operations ++ [operation]) =
      handler.readings state operations ++ (handler.reading? (handler.performed state operations) operation).toList := by
  induction operations generalizing state with
  | nil => simp [readings, performed]
  | cons first rest ih =>
    have hperformed : handler.performed state (first :: rest) =
        handler.performed (handler.perform first state).2 rest := rfl
    rw [List.cons_append, readings, readings, ih, hperformed, List.append_assoc]

/-- The state after operations that follow others. -/
theorem performed_concat (state : State) (operations : List Operation) (operation : Operation) :
    handler.performed state (operations ++ [operation]) =
      (handler.perform operation (handler.performed state operations)).2 := by
  rw [performed, List.foldl_append]
  rfl

variable {handler}

/-! ## What one operation does -/

/-- Reading is what the handler does when asked to read. -/
theorem perform_read (filter : Option SchemaFilter) (state : State) :
    (handler.perform (.read filter) state).2 = (handler.read filter state).2 := by
  rw [perform, Keeping.bind_apply]
  generalize handler.read filter state = result
  obtain ⟨_ | _, after⟩ := result <;> rfl

/-- An operation that is no reading, or one that fails, spares what was read before. -/
theorem spares_perform {state : State} {operation : Operation} (h : handler.reading? state operation = none) :
    state.Spares (handler.perform operation state).2 := by
  have hsupplier := handler.spares_supplier
  cases operation with
  | read filter =>
    rw [perform_read]
    cases hread : (handler.read filter state).1 with
    | error f => exact read_of_error (Prod.ext hread rfl)
    | ok charted => simp [reading?, hread] at h
  | query query mapper =>
    have hrun := Query.keeps_run hsupplier query mapper (query.spent_read mapper)
    have hkeeps : Keeping.Keeps State.Spares (query.execute handler.supplier handler.readOnly mapper) :=
      (Keeping.Keeps.settle _).bind fun _ => hrun
    exact (hkeeps.bind fun _ => Keeping.Keeps.pure _) state
  | defer query mapper => exact ((Keeping.Keeps.settle _).bind fun _ => Keeping.Keeps.pure _) state
  | stream deferred =>
    have hstream := Deferred.keeps_stream hsupplier deferred deferred.query.spent_read
    exact (hstream.bind fun _ => (Keeping.Keeps.settle _).bind fun _ => Keeping.Keeps.pure _) state
  | update consumers statements =>
    have hattempts (given : List Statement) :
        handler.supplier.Keeps State.Spares (Batch.Attempted handler.policy given) :=
      hsupplier.narrow fun _ _ => Batch.spent_of_attempted
    have hbatch := Batch.keeps_run
      (hattempts (((List.range statements.length).zip statements).map Prod.snd)) consumers
    exact hbatch { supply := state, keys := statements.map fun _ => [] }

/-- A reading that succeeds leaves its document and its type mapping. -/
theorem reads_perform {state : State} {operation : Operation} {reading : Reading}
    (h : handler.reading? state operation = some reading) :
    handler.Reads reading.filter reading.before reading.charted (handler.perform operation state).2.mapping ∧
      reading.before = state ∧ (handler.perform operation state).2.charted = some reading.charted ∧
      Provider.Accounts state.reach (handler.perform operation state).2.reach := by
  cases operation with
  | read filter =>
    rw [perform_read]
    cases hread : (handler.read filter state).1 with
    | error f => simp [reading?, hread] at h
    | ok charted =>
      obtain rfl : (⟨filter, state, charted⟩ : Reading) = reading := by simpa [reading?, hread] using h
      obtain ⟨hreads, hcharted, haccounts⟩ := read_of_ok (Prod.ext hread rfl)
      exact ⟨hreads, rfl, hcharted, haccounts⟩
  | query | defer | stream | update => cases h

/-- The atlas of the document read last. -/
theorem State.atlas_of_charted {state : State} {charted : Charted} (h : state.charted = some charted) :
    state.atlas = charted.atlas := by
  rw [State.atlas, h]

/-- Any operation is part of the life of the atlas. -/
theorem evolves_perform (handler : Handler) (state : State) (operation : Operation) :
    state.atlas.Evolves (handler.perform operation state).2.atlas := by
  cases hreading : handler.reading? state operation with
  | none =>
    have hsame : (handler.perform operation state).2.atlas = state.atlas := by
      rw [State.atlas, State.atlas, (spares_perform hreading).charted]
    rw [hsame]
    exact Std.Refl.refl state.atlas
  | some reading =>
    obtain ⟨hreads, hbefore, hcharted, -⟩ := reads_perform hreading
    rw [State.atlas_of_charted hcharted, ← hbefore]
    exact hreads.evolves.1

/-! ## Whole lives -/

/-- Operations one after the other are part of the life of the atlas. -/
theorem evolves_performed (handler : Handler) (state : State) (operations : List Operation) :
    state.atlas.Evolves (handler.performed state operations).atlas := by
  induction operations generalizing state with
  | nil => exact Std.Refl.refl state.atlas
  | cons operation rest ih => exact IsTrans.trans _ _ _ (evolves_perform handler state operation) (ih _)

/-- A reading that succeeds is one of the operations. -/
theorem exists_of_mem_readings {state : State} {operations : List Operation} {reading : Reading}
    (h : reading ∈ handler.readings state operations) :
    ∃ before operation rest, operations = before ++ operation :: rest ∧
      handler.reading? (handler.performed state before) operation = some reading := by
  induction operations generalizing state with
  | nil => cases h
  | cons operation rest ih =>
    rcases List.mem_append.mp h with hfirst | hlater
    · exact ⟨[], operation, rest, rfl, Option.mem_toList.mp hfirst⟩
    · obtain ⟨before, later, last, hrest, hreading⟩ := ih hlater
      exact ⟨operation :: before, later, last, by rw [hrest, List.cons_append], hreading⟩

/-- The document of a reading that succeeded is frozen to its leaves, and it is still what it was. -/
theorem returned_lasts {state : State} {operations : List Operation} {reading : Reading}
    (hproper : state.atlas.Proper) (hmem : reading ∈ handler.readings state operations) {id : NodeId}
    (hbelow : reading.charted.atlas.Below reading.charted.dbms id) :
    ∃ node, reading.charted.atlas.node? id = some node ∧ node.frozen = true ∧
      (handler.performed state operations).atlas.node? id = some node := by
  obtain ⟨before, operation, rest, rfl, hreading⟩ := exists_of_mem_readings hmem
  obtain ⟨hreads, hbefore, hcharted, -⟩ := reads_perform hreading
  have hstart : reading.before.atlas.Proper := by
    rw [hbefore]
    exact (evolves_performed handler state before hproper).2
  obtain ⟨hlife, hfrozen⟩ := hreads.evolves
  have hread := (hlife hstart).2
  obtain ⟨⟨node, hnode, hnodeFrozen⟩, -⟩ := hread.settled.below (hfrozen hstart) hbelow
  have hrest : handler.performed state (before ++ operation :: rest) =
      handler.performed (handler.perform operation (handler.performed state before)).2 rest := by
    rw [performed, List.foldl_append]
    rfl
  have hlater := evolves_performed handler (handler.perform operation (handler.performed state before)).2 rest
  rw [State.atlas_of_charted hcharted, ← hrest] at hlater
  obtain ⟨next, hnext, hlasts⟩ := (hlater hread).1 hnode
  rw [hlasts.frozen hnodeFrozen] at hnext
  exact ⟨node, hnode, hnodeFrozen, hnext⟩

/-- What holds of the state of a handler, given the readings that succeeded so far. -/
structure Consistent (handler : Handler) (readings : List Reading) (state : State) : Prop where
  /-- Nothing was read, or the document and the type mapping are those of the reading that succeeded last. -/
  latest : match readings.getLast? with
    | none => state.charted = none ∧ state.mapping = []
    | some reading => state.charted = some reading.charted ∧
        handler.Reads reading.filter reading.before reading.charted state.mapping
  /-- Every document that was returned is frozen to its leaves and is still what it was. -/
  returned : ∀ reading ∈ readings, ∀ {id}, reading.charted.atlas.Below reading.charted.dbms id →
    ∃ node, reading.charted.atlas.node? id = some node ∧ node.frozen = true ∧ state.atlas.node? id = some node
  /-- A reading returns a document exactly if its connection is had and closed, its crawl succeeds and its
  document is frozen. -/
  returns : ∀ filter charted,
    (handler.read filter state).1 = .ok charted ↔ ∃ mapping, handler.Reads filter state charted mapping
  /-- An operation that is no reading, or one that fails, spares the document and the type mapping. -/
  spared : ∀ operation, handler.reading? state operation = none →
    state.Spares (handler.perform operation state).2
  /-- Every connection that an operation is given has been closed once when it ends. -/
  accounts : ∀ operation, state.reach.world.Accounts (handler.perform operation state).2.reach.world

/-- Handlers are consistent at all times, whatever they are asked to do and whatever fails. -/
theorem performed_consistent (handler : Handler) (reach : Provider.State) (operations : List Operation) :
    handler.Consistent (handler.readings { reach } operations) (handler.performed { reach } operations) := by
  constructor
  case latest =>
    induction operations using List.reverseRecOn with
    | nil => exact ⟨rfl, rfl⟩
    | append_singleton operations operation ih =>
      rw [readings_concat, performed_concat]
      cases hreading : handler.reading? (handler.performed { reach } operations) operation with
      | none =>
        obtain ⟨hcharted, hmapping, -⟩ := spares_perform hreading
        rw [hcharted, hmapping, Option.toList_none, List.append_nil]
        exact ih
      | some reading =>
        obtain ⟨hreads, -, hcharted, -⟩ := reads_perform hreading
        rw [Option.toList_some, List.getLast?_concat]
        exact ⟨hcharted, hreads⟩
  case returned =>
    intro reading hmem id hbelow
    have hstart : (State.mk reach [] none).atlas.Proper := Atlas.proper_empty
    exact returned_lasts hstart hmem hbelow
  case returns =>
    intro filter charted
    exact read_returns_iff _ charted
  case spared =>
    intro operation hnone
    exact spares_perform hnone
  case accounts =>
    intro operation
    cases hreading : handler.reading? (handler.performed { reach } operations) operation with
    | none => exact (spares_perform hreading).accounts
    | some reading => exact (reads_perform hreading).2.2.2

end SchemaAtlas.Handler
