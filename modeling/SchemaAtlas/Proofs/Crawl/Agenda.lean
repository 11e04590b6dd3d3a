import SchemaAtlas.Proofs.Crawl.Family

/-!
# What a crawl does, task by task

A crawl works an agenda off: it does the first task, and then what that made due and what is due besides. It ends where
nothing is due, or with the first task that fails, whose failure is passed on. So a crawl fails as soon as one of its
tasks does, and does nothing behind it.
-/

namespace SchemaAtlas.Crawl

open Survey (Quiet Orderly)

variable {α β γ : Type} {plan : Plan} {dbms : NodeId} {before between after : Survey Notes}

/-! ## Calls -/

/-- A step makes no calls. -/
abbrev Silent (step : Step α) : Prop :=
  Keeping.Keeps (InvImage Eq fun survey : Survey Notes => Event.calls survey.events) step

/-- What follows without calls leaves the calls that there are. -/
theorem calls_bind {step : Step α} {next : α → Step β} (hnext : ∀ a, Silent (next a)) (before : Survey Notes) :
    Event.calls ((step >>= next) before).2.events = Event.calls (step before).2.events := by
  rw [Keeping.bind_apply]
  generalize step before = result
  obtain ⟨outcome, after⟩ := result
  cases outcome with
  | error f => rfl
  | ok a => exact (hnext a after).symm

/-- A listing that is consumed is one call. -/
theorem calls_consume (source : Source) (call : Call) {body : List Row → Step α}
    (hbody : ∀ rows, Keeping.Keeps Survey.Quiet (body rows)) (before : Survey Notes) :
    Event.calls (Survey.consume source call body before).2.events = Event.calls before.events ++ [call] := by
  cases hanswer : source (Event.calls before.events) call with
  | error f =>
    rw [Survey.consume_refused hanswer, Survey.called, Event.calls, List.filterMap_append]
    rfl
  | ok listing =>
    rw [Survey.consume_accepted hanswer, Survey.closed, (hbody listing.rows _).events, Survey.opened, Event.calls,
      List.filterMap_append, List.filterMap_append, List.append_assoc]
    rfl

/-- So is a listing that is ingested. -/
theorem calls_ingest (source : Source) (call : Call) (parent : NodeId) (what : String)
    {way : Survey.Ingestion Notes γ} (hway : way.Keeps Survey.Quiet) (before : Survey Notes) :
    Event.calls (Survey.ingest source call parent what way before).2.events = Event.calls before.events ++ [call] := by
  rw [Survey.ingest_apply, calls_consume source call (hway.rows 0)]

/-- Types are listed unless they are declared. -/
theorem calls_resolveTypes (plan : Plan) (before : Survey Notes) :
    Event.calls (resolveTypes plan.vendor plan.codes plan.source before).2.events =
      Event.calls before.events ++ if plan.vendor.types.isEmpty then [.typeInfo] else [] := by
  unfold resolveTypes
  split
  · rw [← calls_consume plan.source .typeInfo fun rows => Keeping.Keeps.settle (typesOfRows rows)]
    exact calls_bind (fun _ => Keeping.Keeps.settle _) before
  · exact (List.append_nil _).symm

/-- Where the tables of a schema are looked up depends on its name. -/
theorem namespaceOf_eq (plan : Plan) (schema : NodeId) (survey : Survey Notes) :
    namespaceOf plan schema survey = (.ok ⟨plan.vendor.catalogName (survey.atlas.nameOf schema),
      plan.vendor.schemaName (survey.atlas.nameOf schema)⟩, survey) := rfl

/-! ## Tasks -/

/-- What is due in a crawl: the types, one of the two listings of names, that there is a schema, the tables of a schema,
or a part of a table. -/
inductive Task where
  | types
  | schemas
  | catalogs
  | check
  | tables (schema : NodeId)
  | partOf (space : Namespace) (table : NodeId) (part : TablePart)

namespace Task

/-- What is due when a crawl begins. -/
def opening : List Task := [.types, .schemas, .catalogs, .check]

/-- What is done for a task, with failures as they are. -/
def reads (plan : Plan) (dbms : NodeId) : Task → Step Unit
  | .types => do
    let mapping ← resolveTypes plan.vendor plan.codes plan.source
    Survey.note fun notes => { notes with mapping }
  | .schemas => Survey.consume plan.source .schemas (nameRows plan dbms (schemaName plan.vendor))
  | .catalogs => Survey.consume plan.source .catalogs (nameRows plan dbms catalogName)
  | .check => do
    let survey ← get
    if (survey.atlas.collection dbms .schema).isEmpty then throw (noSchema survey.notes.discarded)
  | .tables schema => do
    let space ← namespaceOf plan schema
    let _ ← Survey.consume plan.source (.tables space.catalog space.schema) ((tableRows schema).rows 0)
  | .partOf space table part => do
    let name := (← get).atlas.nameOf table
    let _ ← Survey.consume plan.source (.part part space.catalog space.schema name) ((rowsOf plan table part).rows 0)

/-- Which failures of a task are passed on as they are. -/
def passes : Task → Failure → Bool
  | .tables _ => Failure.isDiscovery
  | .partOf .. => Failure.isDiscovery
  | _ => Failure.isOwn

/-- What a task makes due: the tables of all schemas that there are, and the parts of all tables of a schema. -/
def due (plan : Plan) (dbms : NodeId) (before after : Survey Notes) : Task → List Task
  | .check => (after.atlas.collection dbms .schema).map .tables
  | .tables schema =>
    let name := before.atlas.nameOf schema
    (after.atlas.collection schema .table).flatMap fun table =>
      parts.map (.partOf ⟨plan.vendor.catalogName name, plan.vendor.schemaName name⟩ table)
  | _ => []

/-- The call that is made for a task, if any. -/
def call? (plan : Plan) (before : Survey Notes) : Task → Option Call
  | .types => if plan.vendor.types.isEmpty then some .typeInfo else none
  | .schemas => some .schemas
  | .catalogs => some .catalogs
  | .check => none
  | .tables schema =>
    let name := before.atlas.nameOf schema
    some (.tables (plan.vendor.catalogName name) (plan.vendor.schemaName name))
  | .partOf space table part => some (.part part space.catalog space.schema (before.atlas.nameOf table))

/-- Doing a task makes its call and no other. -/
theorem calls_reads (plan : Plan) (dbms : NodeId) (task : Task) (before : Survey Notes) :
    Event.calls (task.reads plan dbms before).2.events =
      Event.calls before.events ++ (task.call? plan before).toList := by
  have hnames (nameOf : Value → Except Failure Value) :=
    keeps_nameRows Survey.allows_quiet.spares plan dbms nameOf
  cases task with
  | types =>
    have hnote (mapping : TypeMapping) : Silent (Survey.note fun notes => { notes with mapping }) :=
      Keeping.Keeps.modify fun _ => rfl
    rw [reads, calls_bind hnote, calls_resolveTypes, call?]
    split <;> rfl
  | schemas => exact calls_consume _ _ (hnames _) before
  | catalogs => exact calls_consume _ _ (hnames _) before
  | check =>
    rw [reads, Keeping.bind_of_ok (Keeping.get_apply before), call?, Option.toList_none, List.append_nil]
    split <;> rfl
  | tables schema =>
    rw [reads, Keeping.bind_of_ok (namespaceOf_eq plan schema before), calls_bind fun _ => Keeping.Keeps.pure _]
    exact calls_consume _ _ ((keeps_tableRows Survey.allows_quiet.spares.toSparesColumns schema).rows 0) before
  | partOf space table part =>
    rw [reads, Keeping.bind_of_ok (Keeping.get_apply before), calls_bind fun _ => Keeping.Keeps.pure _]
    exact calls_consume _ _ ((keeps_rowsOf Survey.allows_quiet.builds plan table part).rows 0) before

/-- What is done for a task is orderly. -/
theorem orderly_reads (plan : Plan) (dbms : NodeId) (task : Task) :
    Keeping.Keeps (@Orderly Notes) (task.reads plan dbms) := by
  have hnames (nameOf : Value → Except Failure Value) :=
    keeps_nameRows Survey.allows_quiet.spares plan dbms nameOf
  cases task with
  | types =>
    refine Keeping.Keeps.bind ?_ fun mapping => Keeping.Keeps.modify fun _ => Quiet.orderly ⟨rfl, Std.Refl.refl _⟩
    unfold resolveTypes
    split
    · refine Keeping.Keeps.bind ?_ fun _ => Keeping.Keeps.settle _
      exact Survey.orderly_consume _ _ fun _ => Keeping.Keeps.settle _
    · exact Keeping.Keeps.settle _
  | schemas => exact Survey.orderly_consume _ _ (hnames _)
  | catalogs => exact Survey.orderly_consume _ _ (hnames _)
  | check =>
    refine Keeping.Keeps.get.bind fun _ => ?_
    split
    · exact Keeping.Keeps.throw _
    · exact Keeping.Keeps.pure ()
  | tables schema =>
    refine Keeping.Keeps.bind (Keeping.Keeps.get.bind fun _ => Keeping.Keeps.pure _) fun space => ?_
    refine Keeping.Keeps.bind (Survey.orderly_consume _ _ ?_) fun _ => Keeping.Keeps.pure ()
    exact (keeps_tableRows Survey.allows_quiet.spares.toSparesColumns schema).rows 0
  | partOf space table part =>
    refine Keeping.Keeps.get.bind fun _ => ?_
    refine Keeping.Keeps.bind (Survey.orderly_consume _ _ ?_) fun _ => Keeping.Keeps.pure ()
    exact (keeps_rowsOf Survey.allows_quiet.builds plan table part).rows 0

/-- So it is orderly however it ends. -/
theorem orderly_of_reads {task : Task} {outcome : Except Failure Unit}
    (h : task.reads plan dbms before = (outcome, after)) : Orderly before after := by
  have horderly := orderly_reads plan dbms task before
  rwa [h] at horderly

/-- A listing whose consumption fails breaks. -/
theorem breaks_of_eq {source : Source} {call : Call} {body : List Row → Step α} {f : Failure}
    (h : Survey.consume source call body before = (.error f, after)) :
    Survey.Breaks source call body before f ∧ (Survey.consume source call body before).2 = after :=
  ⟨Survey.breaks_of_consume (congrArg Prod.fst h), congrArg Prod.snd h⟩

/-- A task that fails does so as a crawl does. -/
theorem fails_of_reads {task : Task} {f told : Failure} (hreads : task.reads plan dbms before = (.error f, after))
    (hpassed : PassedOn task.passes f told) : Fails plan dbms before told after := by
  cases task with
  | types =>
    have hresolve := Keeping.error_of_bind (fun _ _ => rfl) hreads
    have hfails := @Fails.types plan dbms _ _ _ (congrArg Prod.fst hresolve) hpassed
    rwa [hresolve] at hfails
  | schemas =>
    rw [reads] at hreads
    obtain ⟨hbreaks, rfl⟩ := breaks_of_eq hreads
    exact .schemas hbreaks hpassed
  | catalogs =>
    rw [reads] at hreads
    obtain ⟨hbreaks, rfl⟩ := breaks_of_eq hreads
    exact .catalogs hbreaks hpassed
  | check =>
    rw [reads, Keeping.bind_of_ok (Keeping.get_apply before)] at hreads
    split at hreads
    · rename_i hempty
      cases hreads
      obtain rfl : told = noSchema before.notes.discarded := hpassed
      exact .noSchema (List.isEmpty_iff.mp hempty)
    · cases hreads
  | tables schema =>
    obtain ⟨hbreaks, rfl⟩ := breaks_of_eq (Keeping.error_of_bind (fun _ _ => rfl) hreads)
    exact .tables hbreaks hpassed
  | partOf space table part =>
    obtain ⟨hbreaks, rfl⟩ := breaks_of_eq (Keeping.error_of_bind (fun _ _ => rfl) hreads)
    exact .part hbreaks hpassed

end Task

/-! ## Working off -/

/-- An agenda is worked off. A task that fails is the last one, and its failure is passed on. Behind a task that does
not, what it made due comes first. -/
inductive WorksOff (plan : Plan) (dbms : NodeId) :
    List Task → Survey Notes → Except Failure α × Survey Notes → Prop where
  | done {survey a} : WorksOff plan dbms [] survey (.ok a, survey)
  | stopped {task : Task} {rest before after f told} : task.reads plan dbms before = (.error f, after) →
      PassedOn task.passes f told → WorksOff plan dbms (task :: rest) before (.error told, after)
  | next {task : Task} {rest before between run} : task.reads plan dbms before = (.ok (), between) →
      WorksOff plan dbms (task.due plan dbms before between ++ rest) between run →
      WorksOff plan dbms (task :: rest) before run

/-- A step does a task: it leaves what doing it leaves, and tells what comes of that. -/
def Task.DoneBy (plan : Plan) (dbms : NodeId) (before : Survey Notes) (task : Task)
    (run : Except Failure α × Survey Notes) : Prop :=
  ∃ raw : Except Failure α, task.reads plan dbms before = (raw.map fun _ => (), run.2) ∧ Conveys task.passes raw run.1

namespace WorksOff

variable {agenda more rest : List Task} {task : Task} {run : Except Failure α × Survey Notes}

/-- What works an agenda off is orderly. -/
theorem orderly (h : WorksOff plan dbms agenda before run) : Orderly before run.2 := by
  induction h with
  | done => exact Std.Refl.refl _
  | stopped hreads => exact Task.orderly_of_reads hreads
  | next hreads _ ih => exact IsTrans.trans _ _ _ (Task.orderly_of_reads hreads) ih

/-- It fails only as a crawl does. -/
theorem fails {told : Failure} (h : WorksOff plan dbms agenda before run) (hrun : run.1 = .error told) :
    ∃ between, Orderly before between ∧ Fails plan dbms between told run.2 := by
  induction h with
  | done => cases hrun
  | stopped hreads hpassed =>
    cases hrun
    exact ⟨_, Std.Refl.refl _, Task.fails_of_reads hreads hpassed⟩
  | next hreads _ ih =>
    obtain ⟨between, horderly, hfails⟩ := ih hrun
    exact ⟨between, IsTrans.trans _ _ _ (Task.orderly_of_reads hreads) horderly, hfails⟩

/-- What is due besides is not done behind a failure. -/
theorem append_error {f : Failure} (h : WorksOff plan dbms agenda before run) (hrun : run = (.error f, after))
    (more : List Task) :
    WorksOff plan dbms (agenda ++ more) before ((.error f, after) : Except Failure β × Survey Notes) := by
  induction h with
  | done => cases hrun
  | stopped hreads hpassed =>
    cases hrun
    exact .stopped hreads hpassed
  | next hreads _ ih =>
    refine .next hreads ?_
    rw [List.append_eq, ← List.append_assoc]
    exact ih hrun

/-- It is done behind what is worked off. -/
theorem append_ok {a : α} {last : Except Failure β × Survey Notes} (h : WorksOff plan dbms agenda before run)
    (hrun : run = (.ok a, between)) (hmore : WorksOff plan dbms more between last) :
    WorksOff plan dbms (agenda ++ more) before last := by
  induction h with
  | done =>
    cases hrun
    exact hmore
  | stopped => cases hrun
  | next hreads _ ih =>
    refine .next hreads ?_
    rw [List.append_eq, ← List.append_assoc]
    exact ih hrun

/-- Steps that work agendas off do so one after the other. -/
theorem bind {step : Step α} {next : α → Step β} (h : WorksOff plan dbms agenda before (step before))
    (hnext : ∀ a between, step before = (.ok a, between) → Orderly before between →
      WorksOff plan dbms more between (next a between)) :
    WorksOff plan dbms (agenda ++ more) before ((step >>= next) before) := by
  have horderly := h.orderly
  rcases hstep : step before with ⟨outcome, between⟩
  rw [hstep] at horderly
  cases outcome with
  | error f =>
    rw [Keeping.bind_of_error hstep]
    exact h.append_error hstep more
  | ok a =>
    rw [Keeping.bind_of_ok hstep]
    exact h.append_ok hstep (hnext a between hstep horderly)

/-- A step that does a task is followed by what the task made due and by what is due besides. -/
theorem perform {step : Step α} {next : α → Step β} (h : task.DoneBy plan dbms before (step before))
    (hnext : ∀ a between, step before = (.ok a, between) → Orderly before between →
      WorksOff plan dbms (task.due plan dbms before between ++ rest) between (next a between)) :
    WorksOff plan dbms (task :: rest) before ((step >>= next) before) := by
  obtain ⟨raw, hreads, hconveys⟩ := h
  have horderly := Task.orderly_of_reads hreads
  rcases hstep : step before with ⟨outcome, between⟩
  rw [hstep] at hreads hconveys horderly
  cases hconveys with
  | success =>
    rw [Keeping.bind_of_ok hstep]
    exact .next hreads (hnext _ between hstep horderly)
  | failure hpassed =>
    rw [Keeping.bind_of_error hstep]
    exact .stopped hreads hpassed

end WorksOff

/-! ## Steps that do a task -/

namespace Task

/-- A step that does a task makes its call. -/
theorem DoneBy.calls {task : Task} {run : Except Failure α × Survey Notes} (h : task.DoneBy plan dbms before run) :
    Event.calls run.2.events = Event.calls before.events ++ (task.call? plan before).toList := by
  obtain ⟨raw, hreads, -⟩ := h
  rw [← calls_reads plan dbms, hreads]

/-- A task is done also where its result does not count. -/
theorem DoneBy.void {task : Task} {step : Step α} (h : task.DoneBy plan dbms before (step before)) :
    task.DoneBy plan dbms before ((step >>= fun _ => pure ()) before) := by
  obtain ⟨raw, hreads, hconveys⟩ := h
  rw [Keeping.bind_apply]
  generalize step before = result at hreads hconveys
  obtain ⟨outcome, after⟩ := result
  cases hconveys with
  | success => exact ⟨.ok (), hreads, .success⟩
  | failure hpassed => exact ⟨.error _, hreads, .failure hpassed⟩

/-- A step that leaves what doing a task leaves does it if it tells what comes of that. -/
theorem DoneBy.of_reads {task : Task} {outcome : Except Failure Unit}
    (h : Conveys task.passes (task.reads plan dbms before).1 outcome) :
    task.DoneBy plan dbms before (outcome, (task.reads plan dbms before).2) := by
  refine ⟨(task.reads plan dbms before).1, ?_, h⟩
  rcases task.reads plan dbms before with ⟨_ | _, _⟩ <;> rfl

/-- Reading the types does that task. -/
theorem doneBy_readTypes (plan : Plan) (dbms : NodeId) (before : Survey Notes) :
    Task.types.DoneBy plan dbms before (readTypes plan dbms before) := by
  obtain ⟨outcome, hrun, hconveys⟩ := explained_conveys dbms "resolve type mapping for"
    (resolveTypes plan.vendor plan.codes plan.source) before
  rcases hraw : resolveTypes plan.vendor plan.codes plan.source before with ⟨raw, after⟩
  rw [hraw] at hrun hconveys
  cases hconveys with
  | @success mapping =>
    rw [readTypes, Keeping.bind_of_ok hrun]
    refine ⟨.ok (), ?_, .success⟩
    rw [reads, Keeping.bind_of_ok hraw]
    rfl
  | @failure f told hpassed =>
    rw [readTypes, Keeping.bind_of_error hrun]
    refine ⟨.error f, ?_, .failure hpassed⟩
    rw [reads, Keeping.bind_of_error hraw]
    rfl

/-- Reading a listing of names does what consuming it does. -/
theorem doneBy_discover {task : Task} {call : Call} {nameOf : Value → Except Failure Value}
    (hreads : task.reads plan dbms = Survey.consume plan.source call (nameRows plan dbms nameOf))
    (hpasses : task.passes = Failure.isOwn) (before : Survey Notes) :
    task.DoneBy plan dbms before (discover plan dbms call nameOf before) := by
  obtain ⟨outcome, hrun, hconveys⟩ := explained_conveys dbms "list schemas of"
    (Survey.consume plan.source call (nameRows plan dbms nameOf)) before
  change discover plan dbms call nameOf before = _ at hrun
  rw [← hreads, ← hpasses] at hconveys
  rw [hrun, ← hreads]
  exact .of_reads hconveys

/-- Looking whether there is a schema does that task. -/
theorem doneBy_check (plan : Plan) (dbms : NodeId) (before : Survey Notes) :
    Task.check.DoneBy plan dbms before (Task.check.reads plan dbms before) := by
  have hconveys : Conveys Task.check.passes (Task.check.reads plan dbms before).1
      (Task.check.reads plan dbms before).1 := by
    rw [reads, Keeping.bind_of_ok (Keeping.get_apply before)]
    split
    · exact .failure (.refl rfl)
    · exact .success
  exact .of_reads hconveys

/-- Reading children does what consuming their listing does, provided the parent is a node. -/
theorem doneBy_ingest {task : Task} {call : Call} {parent : NodeId} (what : String)
    {way : Survey.Ingestion Notes γ} (hway : way.Keeps Quiet) (hparent : parent < before.atlas.nodes.size)
    (hreads : task.reads plan dbms before =
      (Survey.consume plan.source call (way.rows 0) >>= fun _ => pure ()) before)
    (hpasses : task.passes = Failure.isDiscovery) :
    task.DoneBy plan dbms before (Survey.ingest plan.source call parent what way before) := by
  have horderly := Survey.orderly_consume plan.source call (hway.rows 0) before
  obtain ⟨outcome, hrun, hconveys⟩ :=
    ingest_conveys plan.source call what way (Nat.lt_of_lt_of_le hparent horderly.grows.size)
  refine ⟨(Survey.consume plan.source call (way.rows 0) before).1, ?_, ?_⟩
  · rw [hrun, hreads, Keeping.bind_apply]
    rcases Survey.consume plan.source call (way.rows 0) before with ⟨_ | _, _⟩ <;> rfl
  · rw [hrun, hpasses]
    exact hconveys

/-- Reading a part of a table does that task. -/
theorem doneBy_readPart (space : Namespace) {table : NodeId} (part : TablePart)
    (htable : table < before.atlas.nodes.size) :
    (Task.partOf space table part).DoneBy plan dbms before (readPart plan space table part before) :=
  (doneBy_ingest (partLabel part) (keeps_rowsOf Survey.allows_quiet.builds plan table part) htable rfl rfl).void

end Task

/-! ## A crawl works its agenda off -/

/-- The parts of a table are read one after the other. -/
theorem works_readParts (space : Namespace) {table : NodeId} (some : List TablePart)
    (htable : table < before.atlas.nodes.size) :
    WorksOff plan dbms (some.map (.partOf space table)) before (readParts plan space table some before) := by
  induction some generalizing before with
  | nil => exact .done
  | cons part rest ih =>
    refine .perform (Task.doneBy_readPart space part htable) fun _ between _ horderly => ih ?_
    exact Nat.lt_of_lt_of_le htable horderly.grows.size

/-- So are tables, each with all of its parts. -/
theorem works_readEach (space : Namespace) (tables : List NodeId)
    (htables : ∀ table ∈ tables, table < before.atlas.nodes.size) :
    WorksOff plan dbms (tables.flatMap fun table => parts.map (.partOf space table)) before
      (readEach plan space tables before) := by
  induction tables generalizing before with
  | nil => exact .done
  | cons table rest ih =>
    refine (works_readParts space parts (htables table List.mem_cons_self)).bind fun _ between _ horderly => ih ?_
    intro other hother
    exact Nat.lt_of_lt_of_le (htables other (List.mem_cons_of_mem _ hother)) horderly.grows.size

/-- The tables of a schema are listed and then read, provided those that it has by then are nodes. -/
theorem works_readSchema {schema : NodeId} (hschema : schema < before.atlas.nodes.size)
    (htables : ∀ call count between,
      Survey.ingest plan.source call schema "tables" (tableRows schema) before = (.ok count, between) →
      Orderly before between → ∀ table ∈ between.atlas.collection schema .table, table < between.atlas.nodes.size) :
    WorksOff plan dbms [.tables schema] before (readSchema plan schema before) := by
  rw [readSchema, Keeping.bind_of_ok (namespaceOf_eq plan schema before)]
  refine .perform (Task.doneBy_ingest "tables" ?_ hschema rfl rfl) fun count between hread horderly => ?_
  · exact keeps_tableRows Survey.allows_quiet.spares.toSparesColumns schema
  · rw [List.append_nil, Keeping.bind_of_ok (Keeping.get_apply between)]
    exact works_readEach _ _ (htables _ count between hread horderly)

/-- The schemas of a closed atlas are read one after the other. -/
theorem works_readSchemas (schemas : List NodeId) (hclosed : before.atlas.Closed)
    (hschemas : ∀ schema ∈ schemas, schema < before.atlas.nodes.size) :
    WorksOff plan dbms (schemas.map .tables) before (readSchemas plan schemas before) := by
  induction schemas generalizing before with
  | nil => exact .done
  | cons schema rest ih =>
    have hfirst : WorksOff plan dbms [.tables schema] before (readSchema plan schema before) := by
      refine works_readSchema (hschemas schema List.mem_cons_self) fun _ _ between _ horderly table htable => ?_
      exact (horderly.grows.closed hclosed).lt_of_mem_collection htable
    refine hfirst.bind fun _ between _ horderly => ih (horderly.grows.closed hclosed) ?_
    intro other hother
    exact Nat.lt_of_lt_of_le (hschemas other (List.mem_cons_of_mem _ hother)) horderly.grows.size

/-- A crawl works its agenda off, provided it does so with the schemas that it discovers. -/
theorem works_run
    (hschemas : ∀ typed between, readTypes plan dbms before = (.ok (), typed) →
      discoverSchemas plan dbms typed = (.ok (), between) → Orderly before between →
      WorksOff plan dbms ((between.atlas.collection dbms .schema).map .tables) between
        (readSchemas plan (between.atlas.collection dbms .schema) between)) :
    WorksOff plan dbms Task.opening before (run plan dbms before) := by
  have hrun : run plan dbms = (readTypes plan dbms >>= fun _ => discover plan dbms .schemas (schemaName plan.vendor) >>=
      fun _ => discover plan dbms .catalogs catalogName >>= fun _ => Task.check.reads plan dbms >>= fun _ =>
        get >>= fun survey => readSchemas plan (survey.atlas.collection dbms .schema)) := by
    simp only [run, discoverSchemas, bind_assoc]
    rfl
  rw [hrun]
  refine .perform (Task.doneBy_readTypes plan dbms before) fun _ typed htypes hfirst => ?_
  refine .perform (Task.doneBy_discover rfl rfl typed) fun _ listed hlisted hsecond => ?_
  refine .perform (Task.doneBy_discover rfl rfl listed) fun _ known hknown hthird => ?_
  refine .perform (Task.doneBy_check plan dbms known) fun _ between hcheck hlast => ?_
  have hdiscover : discoverSchemas plan dbms typed = (.ok (), between) := by
    rw [discoverSchemas, Keeping.bind_of_ok hlisted, Keeping.bind_of_ok hknown]
    exact hcheck
  have horderly : Orderly before between :=
    IsTrans.trans _ _ _ hfirst (IsTrans.trans _ _ _ hsecond (IsTrans.trans _ _ _ hthird hlast))
  rw [Task.due, List.append_nil, Keeping.bind_of_ok (Keeping.get_apply between)]
  exact hschemas typed between htypes hdiscover horderly

/-- A crawl that starts in a closed atlas works its agenda off. -/
theorem works_run_closed (hclosed : before.atlas.Closed) :
    WorksOff plan dbms Task.opening before (run plan dbms before) := by
  refine works_run fun _ between _ _ horderly => ?_
  have hafter := horderly.grows.closed hclosed
  exact works_readSchemas _ hafter fun _ hschema => hafter.lt_of_mem_collection hschema

end SchemaAtlas.Crawl
