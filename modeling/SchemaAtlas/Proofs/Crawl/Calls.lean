import SchemaAtlas.Proofs.Crawl.Agenda
import SchemaAtlas.Proofs.Crawl.Leaves
import SchemaAtlas.Proofs.Crawl.Locality
import SchemaAtlas.Proofs.Crawl.Mirror

/-!
# The calls of a crawl

Which calls a crawl makes, and in which order, can be read off the vendor and the names of the schemas and
tables that it discovered. A crawl that fails makes the first of these calls and stops with the one that it
fails in. This holds whatever the source answers, and however its answers depend on earlier calls.
-/

namespace SchemaAtlas

/-! ## The calls that are due -/

/-- The catalog and the schema under which the tables of a schema of a name are looked up. -/
def Vendor.lookup (vendor : Vendor) (schema : Option String) : Option String × Option String :=
  match vendor.lookupLevel with
  | .catalog => (schema, none)
  | .schema => (none, schema)

/-- The calls for a table. -/
def tableCalls (vendor : Vendor) (schema table : Option String) : List Call :=
  let (catalog, schema) := vendor.lookup schema
  [.part .columns catalog schema table, .part .indexes catalog schema table, .part .primaryKey catalog schema table,
    .part .foreignKeys catalog schema table]

/-- The call for the tables of a schema. -/
def tablesCall (vendor : Vendor) (schema : Option String) : Call :=
  .tables (vendor.lookup schema).1 (vendor.lookup schema).2

/-- The calls for a schema and its tables. -/
def schemaCalls (vendor : Vendor) (schema : Option String) (tables : List (Option String)) : List Call :=
  tablesCall vendor schema :: tables.flatMap (tableCalls vendor schema)

/-- The calls before those for schemas. -/
def openingCalls (vendor : Vendor) : List Call :=
  (if vendor.types.isEmpty then [.typeInfo] else []) ++ [.schemas, .catalogs]

/-- The calls of a crawl that discovers some schemas and tables. -/
def crawlCalls (vendor : Vendor) (schemas : List (Option String × List (Option String))) : List Call :=
  openingCalls vendor ++ schemas.flatMap fun schema => schemaCalls vendor schema.1 schema.2

/-- The names of some schemas, each with those of its tables. -/
def discovered (atlas : Atlas) (schemas : List NodeId) : List (Option String × List (Option String)) :=
  schemas.map fun schema => (atlas.nameOf schema, atlas.names schema .table)

/-- The calls for a schema that are made after some others, and whether they are all. Calls for its tables are made
only if its tables are those that the source lists. -/
inductive Visit (vendor : Vendor) (source : Source) (earlier : List Call) (schema : Option String)
    (tables : List (Option String)) : List Call → Bool → Prop where
  | unlisted : Visit vendor source earlier schema tables [tablesCall vendor schema] false
  | listed {rows calls complete} : source earlier (tablesCall vendor schema) = .ok { rows } →
      List.Forall₂ Crawl.GivesTable rows tables → calls <+: tables.flatMap (tableCalls vendor schema) →
      (complete = true → calls = tables.flatMap (tableCalls vendor schema)) →
      Visit vendor source earlier schema tables (tablesCall vendor schema :: calls) complete

/-- The calls for some schemas that are made after some others, and whether they are all. Each schema is visited once,
and only if the one before it was visited to its end. -/
inductive Visits (vendor : Vendor) (source : Source) :
    List Call → List (Option String × List (Option String)) → List Call → Bool → Prop where
  | all {earlier} : Visits vendor source earlier [] [] true
  | stopped {earlier schema tables rest calls} : Visit vendor source earlier schema tables calls false →
      Visits vendor source earlier ((schema, tables) :: rest) calls false
  | next {earlier schema tables rest calls more complete} : Visit vendor source earlier schema tables calls true →
      Visits vendor source (earlier ++ calls) rest more complete →
      Visits vendor source earlier ((schema, tables) :: rest) (calls ++ more) complete

/-- The calls of a visit are the first that are due for the schema. -/
theorem Visit.prefix_calls {vendor : Vendor} {source : Source} {earlier calls : List Call} {schema : Option String}
    {tables : List (Option String)} {complete : Bool} (h : Visit vendor source earlier schema tables calls complete) :
    calls <+: schemaCalls vendor schema tables ∧ (complete = true → calls = schemaCalls vendor schema tables) := by
  cases h with
  | unlisted => exact ⟨List.prefix_append [tablesCall vendor schema] _, nofun⟩
  | listed _ _ hprefix hall =>
    exact ⟨List.cons_prefix_cons.mpr ⟨rfl, hprefix⟩, fun hcomplete => by rw [hall hcomplete, schemaCalls]⟩

/-- The calls of visits are the first that are due for the schemas. -/
theorem Visits.prefix_calls {vendor : Vendor} {source : Source} {earlier calls : List Call}
    {schemas : List (Option String × List (Option String))} {complete : Bool}
    (h : Visits vendor source earlier schemas calls complete) :
    calls <+: (schemas.flatMap fun schema => schemaCalls vendor schema.1 schema.2) ∧
      (complete = true → calls = schemas.flatMap fun schema => schemaCalls vendor schema.1 schema.2) := by
  induction h with
  | all => exact ⟨List.prefix_rfl, fun _ => rfl⟩
  | stopped hvisit => exact ⟨hvisit.prefix_calls.1.trans (List.prefix_append _ _), nofun⟩
  | next hvisit _ ih =>
    rw [List.flatMap_cons, hvisit.prefix_calls.2 rfl]
    exact ⟨(List.prefix_append_right_inj _).mpr ih.1, fun hcomplete => by rw [ih.2 hcomplete]⟩

namespace Crawl

open Survey (Orderly)

variable {α β : Type} {plan : Plan} {before between after : Survey Notes}

/-! ## Steps that make calls -/

/-- A run makes the first of some calls, and all of them if it succeeds. -/
structure Makes (due : List Call) (before : Survey Notes) (run : Except Failure α × Survey Notes) : Prop where
  calls : ∃ calls, Event.calls run.2.events = Event.calls before.events ++ calls ∧ calls <+: due ∧
    (run.1.isOk = true → calls = due)

/-- What makes exactly some calls makes the first of them. -/
theorem Makes.of_eq {due : List Call} {run : Except Failure α × Survey Notes}
    (h : Event.calls run.2.events = Event.calls before.events ++ due) : Makes due before run :=
  ⟨due, h, List.prefix_rfl, fun _ => rfl⟩

/-- Steps make their calls one after the other. -/
theorem Makes.bind {due more : List Call} {step : Step α} {next : α → Step β} (h : Makes due before (step before))
    (hnext : ∀ a between, step before = (.ok a, between) → Makes more between (next a between)) :
    Makes (due ++ more) before ((step >>= next) before) := by
  cases hstep : step before with
  | mk outcome between =>
    rw [hstep] at h
    cases outcome with
    | error f =>
      rw [Keeping.bind_of_error hstep]
      obtain ⟨calls, hcalls, hprefix, -⟩ := h.calls
      exact ⟨calls, hcalls, hprefix.trans (List.prefix_append due more), nofun⟩
    | ok a =>
      rw [Keeping.bind_of_ok hstep]
      obtain ⟨calls, hcalls, -, hall⟩ := h.calls
      obtain rfl := hall rfl
      obtain ⟨further, hfurther, hprefix, hrest⟩ := (hnext a between hstep).calls
      refine ⟨calls ++ further, ?_, (List.prefix_append_right_inj calls).mpr hprefix, fun hok => ?_⟩
      · rw [hfurther, hcalls, List.append_assoc]
      · rw [hrest hok]

/-- Types are listed, when they are read, unless they are declared. -/
theorem calls_readTypes (plan : Plan) (dbms : NodeId) (before : Survey Notes) :
    Event.calls (readTypes plan dbms before).2.events =
      Event.calls before.events ++ if plan.vendor.types.isEmpty then [.typeInfo] else [] := by
  rw [(Task.doneBy_readTypes plan dbms before).calls, Task.call?]
  split <;> rfl

/-- A listing of names is one call. -/
theorem calls_discover (plan : Plan) (dbms : NodeId) (call : Call) (nameOf : Value → Except Failure Value)
    (before : Survey Notes) :
    Event.calls (discover plan dbms call nameOf before).2.events = Event.calls before.events ++ [call] := by
  obtain ⟨outcome, hrun, -⟩ := explained_conveys dbms "list schemas of"
    (Survey.consume plan.source call (nameRows plan dbms nameOf)) before
  rw [← calls_consume plan.source call (keeps_nameRows Survey.allows_quiet.spares plan dbms nameOf)]
  exact congrArg (fun run => Event.calls run.2.events) hrun

/-- Discovery makes two calls. -/
theorem makes_discoverSchemas (plan : Plan) (dbms : NodeId) (before : Survey Notes) :
    Makes [.schemas, .catalogs] before (discoverSchemas plan dbms before) := by
  change Makes ([.schemas] ++ ([.catalogs] ++ [])) before _
  refine Makes.bind (.of_eq (calls_discover plan dbms _ _ before)) fun _ between _ => ?_
  refine Makes.bind (.of_eq (calls_discover plan dbms _ _ between)) fun _ after _ => ?_
  apply Makes.of_eq
  rw [Keeping.bind_of_ok (Keeping.get_apply after), List.append_nil]
  split <;> rfl

/-! ## Tables -/

/-- Names are looked up at the level of the vendor. -/
theorem lookup_eq (vendor : Vendor) (schema : Option String) :
    vendor.lookup schema = (vendor.catalogName schema, vendor.schemaName schema) := by
  unfold Vendor.lookup Vendor.catalogName Vendor.schemaName
  cases vendor.lookupLevel <;> rfl

/-- The calls for a table are one for each of its parts. -/
theorem tableCalls_eq (vendor : Vendor) (schema table : Option String) :
    tableCalls vendor schema table =
      parts.map fun part => .part part (vendor.catalogName schema) (vendor.schemaName schema) table := by
  rw [tableCalls, lookup_eq]
  rfl

/-- A part of a table is read by one call, with the name of the table. -/
theorem calls_readPart (plan : Plan) (space : Namespace) (table : NodeId) (part : TablePart) (before : Survey Notes) :
    Event.calls (readPart plan space table part before).2.events = Event.calls before.events ++
      [.part part space.catalog space.schema (before.atlas.nameOf table)] := by
  rw [← calls_ingest plan.source _ table (partLabel part) (keeps_rowsOf Survey.allows_quiet.builds plan table part)]
  exact calls_bind (fun _ => Keeping.Keeps.pure _) before

/-- The parts of a table at a site are read by one call each, with the name of the table. -/
theorem makes_readParts (site : Site) (space : Namespace) (some : List TablePart) {lone survey : Survey Notes}
    (h : Follows site before lone survey) :
    Makes (some.map fun part => .part part space.catalog space.schema site.name) survey
      (readParts plan space site.root some survey) := by
  induction some generalizing lone survey with
  | nil => exact .of_eq (List.append_nil _).symm
  | cons part rest ih =>
    have hname : survey.atlas.nameOf site.root = site.name := (h.atlas.nameOf 0).trans h.atlas.root.nameOf
    have hcalls : Event.calls (readPart plan space site.root part survey).2.events =
        Event.calls survey.events ++ [.part part space.catalog space.schema site.name] := by
      rw [calls_readPart, hname]
    refine Makes.bind (.of_eq hcalls) fun _ between hpart => ?_
    -- The part grew below the lone leaf as well, so the table keeps its name for the next call.
    have hnext := (local_readPart (agrees_since plan before space) 0 part lone survey h).state
    rw [show site.place 0 = site.root from rfl, hpart] at hnext
    exact ih hnext

/-- Reading the parts of a table changes nothing but the table. -/
theorem confined_readParts (plan : Plan) (space : Namespace) {table : NodeId} {name : Option String}
    (htable : before.atlas.IsLeaf table name .table) (some : List TablePart) :
    before.atlas.Confined [table] (readParts plan space table some before).2.atlas := by
  let site : Site := ⟨_, table, _, _, htable⟩
  have hlocal : Local site before Eq (readParts (plan.since before) space 0 some) (readParts plan space table some) :=
    local_readParts (agrees_since plan before space) 0 some
  exact (hlocal _ before (follows_alone site rfl)).state.atlas.confined

/-- Tables are read one after the other, by the calls for each of them. -/
theorem makes_readEach (plan : Plan) (space : Namespace) {ids : List NodeId} {names : List (Option String)}
    (hleaves : List.Forall₂ (fun id name => before.atlas.IsLeaf id name .table) ids names) (hnodup : ids.Nodup) :
    Makes (names.flatMap fun name => parts.map fun part => .part part space.catalog space.schema name) before
        (readEach plan space ids before) ∧
      before.atlas.Confined ids (readEach plan space ids before).2.atlas := by
  induction names generalizing ids before with
  | nil =>
    cases hleaves
    exact ⟨.of_eq (List.append_nil _).symm, .refl _⟩
  | cons name names ih =>
    obtain _ | ⟨htable, hrest⟩ := hleaves
    rename_i table ids
    rw [List.nodup_cons] at hnodup
    have hmakes : Makes (parts.map fun part => .part part space.catalog space.schema name) before
        (readParts plan space table parts before) :=
      makes_readParts ⟨_, table, _, _, htable⟩ space parts (follows_alone _ rfl)
    have hconfined := confined_readParts plan space htable parts
    have hnext (between : Survey Notes) (h : readParts plan space table parts before = (.ok (), between)) :=
      ih (leaves_frame (congrArg Prod.snd h ▸ hconfined.same) hnodup.1 hrest) hnodup.2
    refine ⟨hmakes.bind fun _ between h => (hnext between h).1, ?_⟩
    cases hparts : readParts plan space table parts before with
    | mk outcome between =>
      rw [hparts] at hconfined
      cases outcome with
      | error f =>
        rw [readEach, Keeping.bind_of_error hparts]
        exact hconfined.mono (List.cons_subset_cons table (List.nil_subset ids))
      | ok _ =>
        rw [readEach, Keeping.bind_of_ok hparts]
        exact hconfined.append (hnext between hparts).2

/-! ## Schemas -/

/-- The tables of a schema are read by the calls for them, and stay its tables. -/
theorem makes_readTables (plan : Plan) {schema : NodeId} {label : Option String} {names : List (Option String)}
    (hopen : before.atlas.IsOpen schema label .schema) (hnodup : (before.atlas.collection schema .table).Nodup)
    (hleaves : List.Forall₂ (fun id name => before.atlas.IsLeaf id name .table)
      (before.atlas.collection schema .table) names) :
    let read := readEach plan ⟨plan.vendor.catalogName label, plan.vendor.schemaName label⟩
      (before.atlas.collection schema .table) before
    Makes (names.flatMap (tableCalls plan.vendor label)) before read ∧ read.2.atlas.names schema .table = names := by
  intro read
  obtain ⟨hmakes, hconfined⟩ := makes_readEach plan
    ⟨plan.vendor.catalogName label, plan.vendor.schemaName label⟩ hleaves hnodup
  constructor
  · simp only [← tableCalls_eq] at hmakes
    exact hmakes
  · have hlt : ∀ table ∈ before.atlas.collection schema .table, table < before.atlas.nodes.size :=
      Atlas.forall_of_forall₂ hleaves fun _ _ _ hleaf => hleaf.isOpen.lt
    have hother : schema ∉ before.atlas.collection schema .table :=
      not_mem_leaves hopen hleaves nofun
    rw [hconfined.names hopen.lt hother hlt]
    exact (map_nameOf hleaves).trans (List.map_id names)

/-- Reading the tables of a schema is a visit. -/
theorem visit_readSchema (plan : Plan) {schema : NodeId} {label : Option String}
    (hschema : before.atlas.IsLeaf schema label .schema) :
    ∃ calls, Event.calls (readSchema plan schema before).2.events = Event.calls before.events ++ calls ∧
      Visit plan.vendor plan.source (Event.calls before.events) label
        ((readSchema plan schema before).2.atlas.names schema .table) calls (readSchema plan schema before).1.isOk := by
  have hcall : Call.tables (plan.vendor.catalogName label) (plan.vendor.schemaName label) =
      tablesCall plan.vendor label := by rw [tablesCall, lookup_eq]
  have hcalls := calls_ingest plan.source (tablesCall plan.vendor label) schema "tables"
    (keeps_tableRows Survey.allows_quiet.spares.toSparesColumns schema) before
  rw [readSchema, Keeping.bind_of_ok (namespaceOf_apply plan hschema.isOpen), hcall]
  cases hingest : Survey.ingest plan.source (tablesCall plan.vendor label) schema "tables" (tableRows schema) before with
  | mk outcome between =>
    rw [hingest] at hcalls
    cases outcome with
    | error f =>
      rw [Keeping.bind_of_error hingest]
      exact ⟨_, hcalls, .unlisted⟩
    | ok count =>
      obtain ⟨hopen, hnodup, rows, names, hanswer, hnames, hleaves⟩ := tables_named hschema hingest
      obtain ⟨⟨calls, hmore, hprefix, hall⟩, hkept⟩ := makes_readTables plan hopen hnodup hleaves
      rw [Keeping.bind_of_ok hingest, Keeping.bind_of_ok (Keeping.get_apply between), hkept]
      refine ⟨tablesCall plan.vendor label :: calls, ?_, .listed hanswer hnames hprefix hall⟩
      rw [hmore, hcalls, List.append_assoc]
      rfl

/-- It changes nothing but the schema. -/
theorem confined_readSchema (plan : Plan) {schema : NodeId} {label : Option String}
    (hschema : before.atlas.IsLeaf schema label .schema) :
    before.atlas.Confined [schema] (readSchema plan schema before).2.atlas :=
  (local_readSchema ⟨_, schema, _, _, hschema⟩ (agrees_since plan before _) _ before
    (follows_alone _ rfl)).state.atlas.confined

/-- It leaves tables that are nodes. -/
theorem lt_of_readSchema (plan : Plan) {schema table : NodeId} {label : Option String}
    (hschema : before.atlas.IsLeaf schema label .schema)
    (h : table ∈ (readSchema plan schema before).2.atlas.collection schema .table) :
    table < (readSchema plan schema before).2.atlas.nodes.size := by
  have hapart := keeps_readSchema (staysApart_allows schema) Survey.keeps_record plan schema before
  exact (hapart hschema.apart).lt_of_mem_collection h

/-- Schemas are visited one after the other. -/
theorem visits_readSchemas (plan : Plan) {ids : List NodeId} {labels : List (Option String)}
    (hleaves : List.Forall₂ (fun id label => before.atlas.IsLeaf id label .schema) ids labels) (hnodup : ids.Nodup) :
    (∃ calls, Event.calls (readSchemas plan ids before).2.events = Event.calls before.events ++ calls ∧
      Visits plan.vendor plan.source (Event.calls before.events)
        (discovered (readSchemas plan ids before).2.atlas ids) calls (readSchemas plan ids before).1.isOk) ∧
      before.atlas.Confined ids (readSchemas plan ids before).2.atlas := by
  induction labels generalizing ids before with
  | nil =>
    cases hleaves
    exact ⟨⟨[], (List.append_nil _).symm, .all⟩, .refl _⟩
  | cons label labels ih =>
    obtain _ | ⟨hschema, hrest⟩ := hleaves
    rename_i schema ids
    rw [List.nodup_cons] at hnodup
    obtain ⟨calls, hcalls, hvisit⟩ := visit_readSchema plan hschema
    have hconfined := confined_readSchema plan hschema
    have htables (table : NodeId) := @lt_of_readSchema before plan schema table _ hschema
    have hlabel := hconfined.name schema hschema.isOpen.lt
    rw [hschema.isOpen.nameOf] at hlabel
    cases hread : readSchema plan schema before with
    | mk outcome between =>
      rw [hread] at hcalls hvisit hconfined htables hlabel
      cases outcome with
      | error f =>
        rw [readSchemas, Keeping.bind_of_error hread]
        refine ⟨⟨calls, hcalls, ?_⟩, hconfined.mono (List.cons_subset_cons schema (List.nil_subset ids))⟩
        rw [discovered, List.map_cons, hlabel]
        exact .stopped hvisit
      | ok _ =>
        rw [readSchemas, Keeping.bind_of_ok hread]
        -- The other schemas are leaves still, and reading them leaves this one with its name and its tables.
        obtain ⟨⟨more, hmore, hvisits⟩, hconfinedRest⟩ :=
          ih (leaves_frame hconfined.same hnodup.1 hrest) hnodup.2
        have hlt : schema < between.atlas.nodes.size := Nat.lt_of_lt_of_le hschema.isOpen.lt hconfined.size
        refine ⟨⟨calls ++ more, by rw [hmore, hcalls, List.append_assoc], ?_⟩, hconfined.append hconfinedRest⟩
        rw [discovered, List.map_cons, hconfinedRest.name schema hlt, hlabel,
          hconfinedRest.names hlt hnodup.1 htables]
        rw [hcalls] at hvisits
        exact .next hvisit hvisits

/-! ## Failures -/

/-- A failure comes with one more call at most. -/
theorem Fails.calls {dbms : NodeId} {told : Failure} (h : Fails plan dbms between told after) :
    ∃ last : Option Call, Event.calls after.events = Event.calls between.events ++ last.toList := by
  cases h with
  | types =>
    refine ⟨if plan.vendor.types.isEmpty then some .typeInfo else none, ?_⟩
    rw [calls_resolveTypes]
    split <;> rfl
  | schemas => exact ⟨some _, calls_consume _ _ (keeps_nameRows Survey.allows_quiet.spares plan dbms _) between⟩
  | catalogs => exact ⟨some _, calls_consume _ _ (keeps_nameRows Survey.allows_quiet.spares plan dbms _) between⟩
  | noSchema => exact ⟨none, (List.append_nil _).symm⟩
  | tables =>
    refine ⟨some _, calls_consume _ _ ?_ between⟩
    exact (keeps_tableRows Survey.allows_quiet.spares.toSparesColumns _).rows 0
  | part => exact ⟨some _, calls_consume _ _ ((keeps_rowsOf Survey.allows_quiet.builds plan _ _).rows 0) between⟩

/-- Schemas that are leaves are read one after the other. -/
theorem works_schemaLeaves {dbms : NodeId} {ids : List NodeId} {labels : List (Option String)}
    (hleaves : List.Forall₂ (fun id label => before.atlas.IsLeaf id label .schema) ids labels) (hnodup : ids.Nodup) :
    WorksOff plan dbms (ids.map .tables) before (readSchemas plan ids before) := by
  induction labels generalizing ids before with
  | nil =>
    cases hleaves
    exact .done
  | cons label labels ih =>
    obtain _ | ⟨hschema, hrest⟩ := hleaves
    rename_i schema ids
    rw [List.nodup_cons] at hnodup
    have hone : WorksOff plan dbms [.tables schema] before (readSchema plan schema before) := by
      refine works_readSchema hschema.isOpen.lt fun call count between hingest _ => ?_
      obtain ⟨-, -, _, names, -, -, hnames⟩ := tables_named hschema hingest
      exact Atlas.forall_of_forall₂ hnames fun _ _ _ hleaf => hleaf.isOpen.lt
    have hconfined := confined_readSchema plan hschema
    refine hone.bind fun _ between hread _ => ih (leaves_frame ?_ hnodup.1 hrest) hnodup.2
    rw [hread] at hconfined
    exact hconfined.same

/-! ## A crawl -/

/-- Before it reads schemas, a crawl reads the types and the names. -/
theorem run_eq (plan : Plan) (dbms : NodeId) :
    run plan dbms = ((readTypes plan dbms >>= fun _ => discoverSchemas plan dbms) >>= fun _ =>
      get >>= fun survey => readSchemas plan (survey.atlas.collection dbms .schema)) := by
  rw [bind_assoc]
  rfl

/-- Types and names are read by the opening calls. -/
theorem makes_opening (plan : Plan) (dbms : NodeId) (before : Survey Notes) :
    Makes (openingCalls plan.vendor) before ((readTypes plan dbms >>= fun _ => discoverSchemas plan dbms) before) :=
  Makes.bind (.of_eq (calls_readTypes plan dbms before)) fun _ between _ => makes_discoverSchemas plan dbms between

/-- Reading the types leaves the atlas as it is. -/
theorem readTypes_atlas {dbms : NodeId} (h : readTypes plan dbms before = (.ok (), after)) :
    after.atlas = before.atlas := by
  obtain ⟨mapping, hresolved⟩ := resolved_of_readTypes (congrArg Prod.fst h)
  obtain ⟨_, between, hrun, hatlas, -⟩ := readTypes_succeeds dbms hresolved
  obtain ⟨-, rfl⟩ := Prod.mk.inj (hrun.symm.trans h)
  exact hatlas

/-- The schemas that are known when types and names were read are different leaves. -/
theorem opening_named {dbms : NodeId} {label typeName : Option String}
    (hdbms : before.atlas.IsLeaf dbms label (.dbms typeName))
    (h : (readTypes plan dbms >>= fun _ => discoverSchemas plan dbms) before = (.ok (), after)) :
    after.atlas.IsOpen dbms label (.dbms typeName) ∧ (after.atlas.collection dbms .schema).Nodup ∧
      ∃ names, List.Forall₂ (fun id name => after.atlas.IsLeaf id name .schema)
        (after.atlas.collection dbms .schema) names := by
  obtain ⟨_, between, htypes, hdiscover⟩ := Keeping.bind_eq_ok h
  rw [← readTypes_atlas htypes] at hdbms
  exact discoverSchemas_named hdbms hdiscover

/-- A crawl of a new database works its agenda off. -/
theorem works_run_leaf {dbms : NodeId} {label typeName : Option String}
    (hdbms : before.atlas.IsLeaf dbms label (.dbms typeName)) :
    WorksOff plan dbms Task.opening before (run plan dbms before) := by
  refine works_run fun typed between htypes hdiscover _ => ?_
  have hopening : (readTypes plan dbms >>= fun _ => discoverSchemas plan dbms) before = (.ok (), between) := by
    rw [Keeping.bind_of_ok htypes, hdiscover]
  obtain ⟨-, hnodup, names, hleaves⟩ := opening_named hdbms hopening
  exact works_schemaLeaves hleaves hnodup

/-- What a crawl found: the schemas of its database, each with its tables. -/
def found (dbms : NodeId) (after : Survey Notes) : List (Option String × List (Option String)) :=
  discovered after.atlas (after.atlas.collection dbms .schema)

/-- A crawl fails in its opening calls, or visits the schemas that it found. -/
theorem visits_run (plan : Plan) {dbms : NodeId} {label typeName : Option String}
    (hdbms : before.atlas.IsLeaf dbms label (.dbms typeName)) :
    ∃ calls, Event.calls (run plan dbms before).2.events = Event.calls before.events ++ calls ∧
      (((run plan dbms before).1.isOk = false ∧ calls <+: openingCalls plan.vendor) ∨
        ∃ visits, calls = openingCalls plan.vendor ++ visits ∧
          Visits plan.vendor plan.source (Event.calls before.events ++ openingCalls plan.vendor)
            (found dbms (run plan dbms before).2) visits (run plan dbms before).1.isOk) := by
  obtain ⟨opening, hopening, hprefix, hall⟩ := (makes_opening plan dbms before).calls
  rw [run_eq]
  cases hread : (readTypes plan dbms >>= fun _ => discoverSchemas plan dbms) before with
  | mk outcome between =>
    rw [hread] at hopening hall
    cases outcome with
    | error f =>
      rw [Keeping.bind_of_error hread]
      exact ⟨opening, hopening, .inl ⟨rfl, hprefix⟩⟩
    | ok _ =>
      obtain rfl := hall rfl
      obtain ⟨hopen, hnodup, names, hleaves⟩ := opening_named hdbms hread
      obtain ⟨⟨visits, hvisits, hvisited⟩, hconfined⟩ := visits_readSchemas plan hleaves hnodup
      have hother : dbms ∉ between.atlas.collection dbms .schema := not_mem_leaves hopen hleaves nofun
      rw [Keeping.bind_of_ok hread, Keeping.bind_of_ok (Keeping.get_apply between), found,
        hconfined.collection hopen.lt hother]
      refine ⟨_, by rw [hvisits, hopening, List.append_assoc], .inr ⟨visits, rfl, ?_⟩⟩
      rwa [← hopening]

/-- The calls of a crawl, however it ends. They are the first of those that are due for what it found, and all of them
if it succeeds. It visits schemas only behind the opening calls, and none if it found none. No call follows the one
that it fails in. -/
structure Traced (plan : Plan) (dbms : NodeId) (before : Survey Notes) (outcome : Except Failure Unit)
    (after : Survey Notes) : Prop where
  calls : ∃ calls, Event.calls after.events = Event.calls before.events ++ calls ∧
    calls <+: crawlCalls plan.vendor (found dbms after) ∧
    (outcome = .ok () → calls = crawlCalls plan.vendor (found dbms after)) ∧
    ((outcome.isOk = false ∧ calls <+: openingCalls plan.vendor) ∨
      ∃ visits, calls = openingCalls plan.vendor ++ visits ∧
        Visits plan.vendor plan.source (Event.calls before.events ++ openingCalls plan.vendor) (found dbms after) visits
          outcome.isOk) ∧
    (after.atlas.collection dbms .schema = [] → calls <+: openingCalls plan.vendor)
  stops : ∀ told, outcome = .error told → ∃ between last, Orderly before between ∧ Fails plan dbms between told after ∧
    Event.calls after.events = Event.calls between.events ++ Option.toList last

/-- A crawl of a new database makes the calls that it should. -/
theorem run_calls (plan : Plan) {dbms : NodeId} {label typeName : Option String}
    (hdbms : before.atlas.IsLeaf dbms label (.dbms typeName)) :
    Traced plan dbms before (run plan dbms before).1 (run plan dbms before).2 := by
  obtain ⟨calls, hcalls, hvisits⟩ := visits_run plan hdbms
  refine ⟨⟨calls, hcalls, ?_, ?_, hvisits, ?_⟩, ?_⟩
  · obtain ⟨-, hprefix⟩ | ⟨visits, rfl, hvisited⟩ := hvisits
    · exact hprefix.trans (List.prefix_append _ _)
    · exact (List.prefix_append_right_inj _).mpr hvisited.prefix_calls.1
  · intro hok
    obtain ⟨hfails, -⟩ | ⟨visits, rfl, hvisited⟩ := hvisits
    · rw [hok] at hfails
      cases hfails
    · rw [crawlCalls, hvisited.prefix_calls.2 (by rw [hok]; rfl)]
  · intro hnone
    obtain ⟨-, hprefix⟩ | ⟨visits, rfl, hvisited⟩ := hvisits
    · exact hprefix
    · rw [found, hnone] at hvisited
      have hnil : visits = [] := List.prefix_nil.mp hvisited.prefix_calls.1
      simp only [hnil, List.append_nil, List.prefix_rfl]
  · intro told htold
    obtain ⟨between, horderly, hfails⟩ := (works_run_leaf hdbms).fails htold
    obtain ⟨last, hlast⟩ := hfails.calls
    exact ⟨between, last, horderly, hfails, hlast⟩

/-- A crawl of a source that lists a table only as its fourth answer, and one that is refused the indexes of it. -/
theorem run_calls_refused :
    let row (field name : String) : Row := .ok (.record [(field, .text name)])
    let source (refuses : Bool) (earlier : List Call) (call : Call) : Except Failure Listing := match call with
      | .schemas => .ok { rows := [row "TABLE_SCHEM" "main", row "TABLE_SCHEM" "shop"] }
      | .tables .. => .ok { rows := if earlier.length = 3 then [row "TABLE_NAME" "orders"] else [] }
      | .part .indexes .. => if refuses then .error (Failure.faultText .runtime "refused") else .ok {}
      | _ => .ok {}
    let plan (refuses : Bool) : Plan := { vendor := .generic, source := source refuses }
    let before : Survey Notes := { atlas := (Atlas.create {} { content := .dbms none }).1, notes := {} }
    let first : List Call := [.typeInfo, .schemas, .catalogs, .tables none (some "main"),
      .part .columns none (some "main") (some "orders"), .part .indexes none (some "main") (some "orders")]
    before.atlas.IsLeaf 0 none (.dbms none) ∧
      Traced (plan false) 0 before (run (plan false) 0 before).1 (run (plan false) 0 before).2 ∧
      Traced (plan true) 0 before (run (plan true) 0 before).1 (run (plan true) 0 before).2 ∧
      Event.calls (run (plan false) 0 before).2.events = first ++
        [.part .primaryKey none (some "main") (some "orders"), .part .foreignKeys none (some "main") (some "orders"),
          .tables none (some "shop")] ∧
      Event.calls (run (plan true) 0 before).2.events = first := by
  intro row source plan before first
  have hleaf : before.atlas.IsLeaf 0 none (.dbms none) := ⟨{ content := .dbms none }, rfl, rfl, rfl, rfl, rfl⟩
  exact ⟨hleaf, run_calls (plan false) hleaf, run_calls (plan true) hleaf, by decide +kernel, by decide +kernel⟩

end Crawl

end SchemaAtlas
