import SchemaAtlas.Proofs.Crawl.Columns

/-!
# Filling columns from rows

A new column is filled from its row as far as the row can be read. If it can be read to its end, the column is what the
row says, and there is a warning for what it does not tell; else the column stays as it is where the reading stops.
-/

namespace SchemaAtlas

/-- A column takes every mapper. -/
theorem Node.assign_mapper (name : Option String) (facts : ColumnFacts) (m : Mapper) (parent : Option NodeId) :
    assign { name, content := .column facts, parent } "type_mapper" (.mapper m) =
      .ok { name, content := .column { facts with mapper := some m }, parent } :=
  rfl

/-- It takes every type. -/
theorem Node.assign_databaseType (name : Option String) (facts : ColumnFacts) (t : TypeName)
    (parent : Option NodeId) :
    assign { name, content := .column facts, parent } "database_type" (.ofType (some t)) =
      .ok { name, content := .column { facts with databaseType := some t }, parent } :=
  rfl

/-- It can be told whether its values may be absent. -/
theorem Node.assign_nullable (name : Option String) (facts : ColumnFacts) (nullable : Bool) (parent : Option NodeId) :
    assign { name, content := .column facts, parent } "nullable" (.value (.bool nullable)) =
      .ok { name, content := .column { facts with nullable }, parent } :=
  rfl

/-- It can be told whether its values are made automatically. -/
theorem Node.assign_increments (name : Option String) (facts : ColumnFacts) (autoIncrement : Bool)
    (parent : Option NodeId) :
    assign { name, content := .column facts, parent } "auto_increment" (.value (.bool autoIncrement)) =
      .ok { name, content := .column { facts with autoIncrement }, parent } :=
  rfl

namespace Crawl

variable {table : NodeId} {before between after : Survey Notes}

/-- A column of a table was planted and filled so far, with some entries behind those that the log had. -/
structure Written (before : Survey Notes) (table : NodeId) (log : List LogEntry) (name : Option String)
    (facts : ColumnFacts) (said : List LogEntry) (after : Survey Notes) : Prop where
  planted : Planted before table .column { name, content := .column facts, parent := some table } after
  log : after.notes.log = log ++ said

/-- A column of a table was planted and filled somehow. -/
def HalfWritten (before : Survey Notes) (table : NodeId) (log : List LogEntry) (after : Survey Notes) : Prop :=
  ∃ name facts said, Written before table log name facts said after

variable {log : List LogEntry} {name : Option String} {facts : ColumnFacts} {said : List LogEntry} {row : Value}

/-- What was filled is filled somehow. -/
theorem Written.half (h : Written before table log name facts said after) : HalfWritten before table log after :=
  ⟨name, facts, said, h⟩

/-- A field of the column takes a value, or stays as it is. -/
theorem Written.take {α : Type} {field : String} {read : Value → Reading α} {put : Option α → ColumnFacts} {v : Value}
    (h : Written before table log name facts said between)
    (hagain : Atlas.setsAgain { name, content := .column facts, parent := some table } field = false)
    (htold : Node.isTold { name, content := .column facts, parent := some table } field = false)
    (hname : (field == "name") = false)
    (hset : (Content.column facts).set? field (.value v) =
      some ((Field.optional read v).map fun a => .column (put a))) :
    Keeping.EndsAs (ColumnLine.taken field read v) (Survey.setValue before.atlas.nodes.size field v) between
      (fun a => Written before table log name (put a) said) (HalfWritten before table log) := by
  have happly := h.planted.set_apply field (.value v)
  unfold ColumnLine.taken
  cases hread : Field.optional read v with
  | ok a =>
    rw [Node.assign_read rfl hagain htold hname hset hread] at happly
    exact ⟨(), _, happly, ⟨h.planted.lt, h.planted.mapping, rfl⟩, h.log⟩
  | error kind =>
    rw [Node.assign_refused rfl hagain htold hname hset hread] at happly
    exact ⟨_, happly, h.half⟩

/-- So does its name. -/
theorem Written.takeName {v : Value} (h : Written before table log name facts said between) :
    Keeping.EndsAs (ColumnLine.taken "name" Field.text v) (Survey.setValue before.atlas.nodes.size "name" v) between
      (fun name => Written before table log name facts said) (HalfWritten before table log) := by
  have happly := h.planted.set_apply "name" (.value v)
  rw [Node.assign_name rfl] at happly
  unfold ColumnLine.taken
  cases hread : Field.optional Field.text v with
  | ok name =>
    rw [hread] at happly
    exact ⟨(), _, happly, ⟨h.planted.lt, h.planted.mapping, rfl⟩, h.log⟩
  | error kind =>
    rw [hread] at happly
    exact ⟨_, happly, h.half⟩

/-- The column is set to what it takes in any case. -/
theorem Written.set {field : String} {given : Entry} {next : ColumnFacts}
    (h : Written before table log name facts said between)
    (hnext : Node.assign { name, content := .column facts, parent := some table } field given =
      .ok { name, content := .column next, parent := some table }) :
    Keeping.Succeeds (Survey.set before.atlas.nodes.size field given) between fun _ =>
      Written before table log name next said := by
  have happly := h.planted.set_apply field given
  rw [hnext] at happly
  exact ⟨(), _, happly, ⟨h.planted.lt, h.planted.mapping, rfl⟩, h.log⟩

/-- A warning about the column names its table. -/
theorem Written.warn (h : Written before table log name facts said between) (what : String) :
    Keeping.Succeeds (whichColumn table before.atlas.nodes.size >>= fun which =>
      Crawl.warn ("Unable to determine " ++ what ++ which)) between fun _ => Written before table log name facts
        (said ++ [ColumnLine.undetermined what (before.atlas.nameOf table) name]) := by
  have hwhich : whichColumn table before.atlas.nodes.size between =
      (.ok s!"for table {displayName (before.atlas.nameOf table)}, column {displayName name}", between) := by
    rw [whichColumn, Keeping.bind_of_ok (Keeping.get_apply _)]
    simp only [h.planted.nameOf, h.planted.nameOf_parent]
    rfl
  rw [Keeping.Succeeds, Keeping.bind_of_ok hwhich]
  refine ⟨(), _, rfl, ⟨h.planted.lt, h.planted.mapping, h.planted.atlas⟩, ?_⟩
  rw [← List.append_assoc, ← h.log]
  rfl

/-- At last the column is told whether its values are counted up, or there is a warning. -/
theorem Written.mark (h : Written before table log name facts said between) (hfacts : facts.autoIncrement = false) :
    Keeping.EndsAs (ColumnLine.marked row) (match row.field "IS_AUTOINCREMENT" with
      | .ok mark => Survey.setValue before.atlas.nodes.size "auto_increment" (.bool (readsAsSet mark))
      | .error (.fault .missingKey _) => do
        Crawl.warn ("Unable to determine IS_AUTOINCREMENT " ++ (← whichColumn table before.atlas.nodes.size))
      | .error f => throw f : Step Unit) between
      (fun increments => Written before table log name { facts with autoIncrement := increments.getD false } (said ++
        if increments.isNone then [ColumnLine.undetermined "IS_AUTOINCREMENT " (before.atlas.nameOf table) name]
        else []))
      (HalfWritten before table log) := by
  unfold ColumnLine.marked
  generalize row.field "IS_AUTOINCREMENT" = outcome
  split
  · rename_i mark
    change Keeping.Succeeds _ _ _
    simpa [Survey.setValue] using h.set (Node.assign_increments name facts (readsAsSet mark) (some table))
  · have hsame : ({ facts with autoIncrement := (none : Option Bool).getD false } : ColumnFacts) = facts :=
      congrArg (fun increments => { facts with autoIncrement := increments }) hfacts.symm
    rw [Keeping.EndsAs, hsame]
    exact h.warn "IS_AUTOINCREMENT "
  · rename_i f hother
    refine ⟨between, ?_, h.half⟩
    simp

/-- A new column is filled from its row as the row is read. -/
theorem fillColumn_ends (plan : Plan) (row : Value)
    (h : Planted before table .column { content := .new .column, parent := some table } between) :
    Keeping.EndsAs (ColumnLine.read plan.mappers before.notes.mapping row)
      (fillColumn plan table before.atlas.nodes.size row) between
      (fun line => Written before table between.notes.log line.name line.facts
        (line.warnings (before.atlas.nameOf table)))
      (HalfWritten before table between.notes.log) := by
  have hnew : Written before table between.notes.log none {} [] between := ⟨h, (List.append_nil _).symm⟩
  unfold ColumnLine.read fillColumn
  refine .bind (.of_settle hnew.half fun v _ => hnew.takeName) fun name _ s hs => ?_
  refine .bind (.of_settle hs.half fun v _ => hs.take rfl rfl rfl rfl) fun position _ s hs => ?_
  refine .of_settle hs.half fun nullable _ => (hs.set (Node.assign_nullable ..)).endsAs fun _ s hs => ?_
  refine .of_settle hs.half fun given _ => .bind (hs.take rfl rfl rfl rfl) fun typeName _ s hs => ?_
  refine .of_settle hs.half fun _ _ => .bind (hs.take rfl rfl rfl rfl) fun size _ s hs => ?_
  refine .of_settle hs.half fun _ _ => .bind (hs.take rfl rfl rfl rfl) fun digits _ s hs => ?_
  refine .of_get ?_
  rw [hs.planted.mapping]
  cases mappedType before.notes.mapping given with
  | none =>
    refine .of_ok rfl (.assoc ((hs.warn "mapping ").endsAs fun _ s hs => .map ?_))
    exact (hs.mark rfl).imp (fun _ _ _ h => h) fun _ _ _ h => h
  | some t =>
    rw [ColumnLine.resolution_bind]
    refine .of_settle hs.half fun m _ => (hs.set (Node.assign_mapper ..)).endsAs fun _ s hs => ?_
    refine (hs.set (Node.assign_databaseType ..)).endsAs fun _ s hs => .map ?_
    exact (hs.mark rfl).imp (fun _ _ _ h => h) fun _ _ _ h => h

end Crawl

end SchemaAtlas
