import SchemaAtlas.Proofs.Atlas.Freezing
import SchemaAtlas.Proofs.Crawl.Document
import SchemaAtlas.Proofs.Crawl.Names

/-!
# A crawl mirrors what a connection tells

A connection that tells of a database what a report says is a source that lists it so. A crawl of it
succeeds, the tree it builds can be frozen, and the document of the tree is the one told from the report.
-/

namespace SchemaAtlas

/-- A database as a connection reports it: the names of its schemas and catalogs, and the tables of each. -/
structure DatabaseReport where
  schemas : List String
  catalogs : List (Option String) := []
  tables : String → List TableReport

namespace DatabaseReport

/-- The names that are considered, in order. -/
def names (report : DatabaseReport) : List (Option String) :=
  report.schemas.map some ++ report.catalogs

/-- A connection tells of some schemas of a database what the report says. It lists catalogs only if the vendor
has a query for them, to which the first reply of the connection belongs. -/
structure Told (report : DatabaseReport) (vendor : Vendor) (connection : Connection) (chosen : List String) :
    Prop where
  schemas : connection.inspect .schemaNames = .ok (.list (report.schemas.map .text))
  catalogs : match Reflection.catalogQuery? vendor with
    | none => report.catalogs = []
    | some _ => ∃ rows count, connection.script[0]? = some (.rows rows count) ∧
        List.Forall₂ (fun row name => ∃ rest, row = .ok (.ofName name :: rest)) rows report.catalogs
  tables : ∀ schema ∈ chosen, connection.inspect (.tableNames (some schema)) =
    .ok (.list ((report.tables schema).map fun table => .text table.name))
  parts : ∀ schema ∈ chosen, ∀ table ∈ report.tables schema, ∀ part, ∃ answer,
    connection.inspect (.part part (some table.name) (some schema)) = .ok answer ∧ table.Told answer part

/-- The document of a database: the documents of some of its schemas. -/
def document (report : DatabaseReport) (label typeName : Option String) (mapping : TypeMapping)
    (chosen : List String) : Value :=
  .record [("name", .ofName label), ("type_name", .ofName typeName),
    ("schemas", .list (chosen.map fun schema => schemaDocument mapping schema (report.tables schema)))]

/-- The tree of a database. -/
def tree (report : DatabaseReport) (label typeName : Option String) (mappers : Registry) (mapping : TypeMapping)
    (chosen : List String) : Tree :=
  .node label (.dbms typeName) (chosen.map fun schema =>
    Crawl.schemaTree mappers mapping schema (report.tables schema))

/-- The document of a database is the document of its tree. -/
theorem documentLevels_tree (report : DatabaseReport) (label typeName : Option String) (mappers : Registry)
    (mapping : TypeMapping) (chosen : List String) :
    (report.tree label typeName mappers mapping chosen).documentLevels 4 =
      report.document label typeName mapping chosen :=
  Tree.documentLevels_map rfl (fun _ => rfl) fun schema => documentLevels_schemaTree schema (report.tables schema)

/-- A database has distinct siblings below it, if its tables report nothing twice and have different names, as do
its schemas. -/
theorem distinct_tree {plan : Crawl.Plan} {mapping : TypeMapping} {chosen : List String} (report : DatabaseReport)
    {label typeName : Option String} {mappers : Registry} (hnodup : chosen.Nodup)
    (hreadable : ∀ schema ∈ chosen, Crawl.Readable plan mapping (report.tables schema)) :
    (report.tree label typeName mappers mapping chosen).Distinct 4 := by
  apply Tree.distinct_of_nodup
  · rw [List.map_map]
    exact hnodup.map fun _ _ => Option.some.inj
  · intro child hchild
    obtain ⟨schema, hschema, rfl⟩ := List.mem_map.mp hchild
    have htables := hreadable schema hschema
    apply Tree.distinct_of_nodup
    · rw [List.map_map]
      have hnames := htables.names.map fun _ _ => Option.some.inj
      rwa [List.map_map] at hnames
    · intro tree htree
      obtain ⟨table, htable, rfl⟩ := List.mem_map.mp htree
      exact TableReport.distinct_tree (htables.distinct table htable)

end DatabaseReport

namespace Crawl

variable {plan : Plan} {connection : Connection} {report : DatabaseReport} {chosen : List String}

/-! ## The source -/

/-- The tables of a schema are looked up under its name. -/
theorem lookupName_vendor (vendor : Vendor) (schema : String) :
    Reflection.lookupName (vendor.catalogName (some schema)) (vendor.schemaName (some schema)) = some schema := by
  rcases vendor.lookup_one_level (some schema) with h | h <;>
  · obtain ⟨hcatalog, hschema⟩ := Prod.mk.inj h
    rw [hcatalog, hschema]
    rfl

/-- A connection that tells of the tables of a schema lists them. -/
theorem lists_of_told (hsource : plan.source = Reflection.source plan.vendor connection)
    (htold : report.Told plan.vendor connection chosen) {schema : String} (hschema : schema ∈ chosen) :
    Lists plan schema (report.tables schema) := by
  have hlookup := lookupName_vendor plan.vendor schema
  constructor
  · refine ⟨_, fun earlier => by rw [hsource]; rfl, ?_⟩
    simp only [Reflection.callRows, hlookup, htold.tables schema hschema]
    exact Reflection.rowsOf_names (report.tables schema) fun table => ⟨_, rfl, rfl⟩
  · intro table htable part
    obtain ⟨answer, hanswer, hpart⟩ := htold.parts schema hschema table htable part
    refine ⟨_, fun earlier => by rw [hsource]; rfl, ?_⟩
    simp only [Reflection.callRows, hlookup, hanswer]
    exact Reflection.partRows_told hpart _

/-- The name in the row of a schema is the schema's name, also where the row tells the catalog. -/
theorem schemaName_schemaRow {vendor : Vendor} (hfield : vendor.schemaField ≠ "TABLE_CATALOG")
    (database : Option String) (name : String) :
    ∃ v, Reflection.schemaRow vendor database (.text name) = .ok v ∧ schemaName vendor v = .ok (.text name) := by
  have hother : ("TABLE_CATALOG" == vendor.schemaField) = false := beq_eq_false_iff_ne.mpr hfield.symm
  unfold Reflection.schemaRow
  cases (if vendor.catalogInSchemaRows then database else none) with
  | none =>
    refine ⟨_, rfl, ?_⟩
    simp [schemaName, Value.field, List.lookup_cons, hother, bind, Except.bind, Failure.missingField]
  | some catalog =>
    refine ⟨_, rfl, ?_⟩
    simp [schemaName, Value.field, putField, hfield, List.lookup_cons, hother, bind, Except.bind, Value.isNull]

/-- A connection that tells of the names of a database lists them. -/
theorem listsNames_of_told (hsource : plan.source = Reflection.source plan.vendor connection)
    (hfield : plan.vendor.schemaField ≠ "TABLE_CATALOG") (htold : report.Told plan.vendor connection chosen) :
    ListsNames plan report.names := by
  refine ⟨report.schemas.map some, report.catalogs, rfl, ?_, ?_⟩
  · intro earlier
    refine ⟨_, by rw [hsource]; rfl, ?_⟩
    simp only [Reflection.callRows, htold.schemas]
    unfold Names
    rw [List.forall₂_map_right_iff]
    exact Reflection.rowsOf_names report.schemas fun name => schemaName_schemaRow hfield connection.database name
  · intro earlier hfirst
    have hcatalogs := htold.catalogs
    rw [hsource]
    unfold Reflection.source
    cases hquery : Reflection.catalogQuery? plan.vendor with
    | none =>
      rw [hquery] at hcatalogs
      rw [hcatalogs]
      exact ⟨[], rfl, .nil⟩
    | some query =>
      rw [hquery] at hcatalogs
      obtain ⟨rows, count, hreply, hrows⟩ := hcatalogs
      have hnext : Reflection.nextReply connection earlier = some (.rows rows count) := by
        have hnone : earlier.countP (· == .catalogs) = 0 := by
          rw [List.countP_eq_zero]
          intro call hcall heq
          exact hfirst (beq_iff_eq.mp heq ▸ hcall)
        rw [Reflection.nextReply, hnone, hreply]
      refine ⟨rows.map Reflection.catalogRow, by simp only [hnext, Reflection.catalogListing], ?_⟩
      unfold Names
      rw [List.forall₂_map_left_iff]
      apply hrows.imp
      rintro row name ⟨rest, rfl⟩
      exact ⟨_, rfl, rfl⟩

/-! ## The crawl -/

/-- Resolving types leaves the atlas as it is, and asks for no catalogs. -/
theorem resolveTypes_frame (plan : Plan) (before : Survey Notes) :
    (resolveTypes plan.vendor plan.codes plan.source before).2.atlas = before.atlas ∧
      (.catalogs ∉ Event.calls before.events →
        .catalogs ∉ Event.calls (resolveTypes plan.vendor plan.codes plan.source before).2.events) := by
  have hconsume :
      (Survey.consume plan.source .typeInfo (fun rows => Keeping.settle (typesOfRows rows)) before).2.atlas =
        before.atlas ∧ (.catalogs ∉ Event.calls before.events → .catalogs ∉ Event.calls
          (Survey.consume plan.source .typeInfo (fun rows => Keeping.settle (typesOfRows rows)) before).2.events) := by
    cases hanswer : plan.source (Event.calls before.events) .typeInfo with
    | error f =>
      rw [Survey.consume_refused hanswer]
      refine ⟨rfl, fun hnone => ?_⟩
      rw [Survey.called, Event.calls, List.filterMap_append, List.mem_append]
      exact not_or.mpr ⟨hnone, by decide⟩
    | ok listing =>
      rw [Survey.consume_accepted hanswer]
      refine ⟨rfl, fun hnone => ?_⟩
      change .catalogs ∉ Event.calls (before.events ++ [_, _] ++ [_])
      rw [List.append_assoc, Event.calls, List.filterMap_append, List.mem_append]
      exact not_or.mpr ⟨hnone, by decide⟩
  unfold resolveTypes
  split
  · rw [Keeping.bind_apply]
    generalize Survey.consume plan.source .typeInfo _ before = result at hconsume
    obtain ⟨outcome, after⟩ := result
    cases outcome <;> exact hconsume
  · exact ⟨rfl, id⟩

/-- Reading the types that are resolved notes them. -/
theorem readTypes_succeeds {mapping : TypeMapping} {before : Survey Notes} (dbms : NodeId)
    (hresolved : (resolveTypes plan.vendor plan.codes plan.source before).1 = .ok mapping) :
    Keeping.Succeeds (readTypes plan dbms) before fun _ after =>
      after.atlas = before.atlas ∧ after.notes.mapping = mapping ∧
        (.catalogs ∉ Event.calls before.events → .catalogs ∉ Event.calls after.events) := by
  have hframe := resolveTypes_frame plan before
  generalize hresult : resolveTypes plan.vendor plan.codes plan.source before = result at hresolved hframe
  obtain ⟨outcome, between⟩ := result
  obtain rfl : outcome = .ok mapping := hresolved
  have hexplained : explained (explainedBy dbms "resolve type mapping for")
      (resolveTypes plan.vendor plan.codes plan.source) before = (.ok mapping, between) := by
    rw [explained, Keeping.bind_apply, Keeping.attempt_apply, hresult]
    rfl
  rw [Keeping.Succeeds, readTypes, Keeping.bind_of_ok hexplained]
  exact ⟨(), _, rfl, hframe.1, rfl, hframe.2⟩

/-- Reading the types succeeds only if they are resolved. -/
theorem resolved_of_readTypes {before : Survey Notes} {dbms : NodeId} (h : (readTypes plan dbms before).1 = .ok ()) :
    ∃ mapping, (resolveTypes plan.vendor plan.codes plan.source before).1 = .ok mapping := by
  obtain ⟨mapping, between, hresolved, -⟩ := Keeping.bind_eq_ok (Prod.ext h rfl)
  exact ⟨mapping, congrArg Prod.fst (explained_eq_ok hresolved)⟩

/-- What a crawl of a report goes by: a connection that tells what the report says, conventions that do not
name schemas by the field of their catalog, a filter that never fails on a name, readable tables, and at least
one name that is accepted. -/
structure GoesBy (plan : Plan) (connection : Connection) (report : DatabaseReport) (passed : String → Bool)
    (mapping : TypeMapping) : Prop where
  source : plan.source = Reflection.source plan.vendor connection
  field : plan.vendor.schemaField ≠ "TABLE_CATALOG"
  filters : Filters plan passed
  told : report.Told plan.vendor connection (accepted plan.vendor passed report.names)
  readable : ∀ schema ∈ accepted plan.vendor passed report.names, Readable plan mapping (report.tables schema)
  some : accepted plan.vendor passed report.names ≠ []

variable {passed : String → Bool} {mapping : TypeMapping} {before : Survey Notes} {dbms : NodeId}
  {label typeName : Option String}

/-- A crawl fills a new database with the tree of the report. -/
theorem run_filled (h : GoesBy plan connection report passed mapping)
    (hresolved : (resolveTypes plan.vendor plan.codes plan.source before).1 = .ok mapping)
    (hfirst : .catalogs ∉ Event.calls before.events) (hdbms : before.atlas.IsLeaf dbms label (.dbms typeName)) :
    Keeping.Succeeds (run plan dbms) before fun _ after => Atlas.Fills [dbms] 4
      [report.tree label typeName plan.mappers mapping (accepted plan.vendor passed report.names)]
      before.atlas after.atlas := by
  refine (readTypes_succeeds dbms hresolved).bind ?_
  rintro _ between ⟨hatlas, rfl, hevents⟩
  rw [← hatlas] at hdbms ⊢
  have hnames := listsNames_of_told h.source h.field h.told
  refine (discoverSchemas_drawn h.filters hnames h.some (hevents hfirst) hdbms 0).bind fun _ next hnext => ?_
  apply Keeping.Succeeds.of_get
  have hleaves : List.Forall₂ (fun id name => next.atlas.IsLeaf id (some name) .schema)
      (next.atlas.collection dbms .schema) (accepted plan.vendor passed report.names) := hnext.leaves hdbms
  have hlists : ∀ schema ∈ accepted plan.vendor passed report.names, Lists plan schema (report.tables schema) :=
    fun schema hschema => lists_of_told h.source h.told hschema
  rw [← hnext.mapping] at h
  refine (readSchemas_filled hleaves (nodup_eraseDups _) hlists h.readable).imp fun _ after hafter => ?_
  rw [hnext.mapping] at hafter
  exact (hafter.below hnext hdbms fun _ => rfl).atlas

/-- A crawl of a connection succeeds, the database it fills can be frozen, and its document is the one told from
the report. Only indexes without a name or columns, and foreign keys without columns, are left out. -/
theorem run_mirrors {atlas : Atlas} (h : GoesBy plan connection report passed mapping)
    (hresolved : (resolveTypes plan.vendor plan.codes plan.source { atlas, notes := ({} : Notes) }).1 = .ok mapping)
    (hdbms : atlas.IsLeaf dbms label (.dbms typeName)) :
    ∃ after frozen, run plan dbms { atlas, notes := {} } = (.ok (), after) ∧
      after.atlas.freeze dbms = (.ok (), frozen) ∧ frozen.document dbms =
        report.document label typeName mapping (accepted plan.vendor passed report.names) := by
  obtain ⟨_, after, hrun, hfills⟩ := run_filled h hresolved List.not_mem_nil hdbms
  obtain _ | ⟨hstands, -⟩ := hfills.trees
  have hdistinct : (report.tree label typeName plan.mappers mapping
      (accepted plan.vendor passed report.names)).Distinct 4 := report.distinct_tree (nodup_eraseDups _) h.readable
  obtain ⟨frozen, hfrozen, hdocument⟩ := @Atlas.freeze_of_distinct after.atlas _ dbms (report.tree label typeName
    plan.mappers mapping (accepted plan.vendor passed report.names)) hstands hdistinct
  exact ⟨after, frozen, hrun, hfrozen, hdocument.trans (report.documentLevels_tree ..)⟩

/-! ## A shop -/

/-- A table of orders with an index on a column and an expression, and one without columns. -/
def shopOrders : TableReport where
  name := "orders"
  columns := [{ name := "id", typeName := "INTEGER", nullable := false, increments := some true },
    { name := "note", typeName := "VARCHAR", length := some 20 }]
  indexes := [{ name := some "by_note", unique := true, columns := [some "note", none]
                expressions := [some "note", some "lower(note)"], sorting := some [("note", true)] },
    { name := some "bare", columns := [] }]
  primaryKey := ["id"]
  foreignKeys := [{ name := "follows", schema := some "main", table := "orders", columns := [("id", "id")] }]

/-- A database with a schema of that table and a schema of temporary tables. -/
def shopReport : DatabaseReport where
  schemas := ["main", "temp"]
  tables _ := [shopOrders]

/-- The type of whole numbers in the shop. -/
def shopInteger : SqlType := .mk ⟨"shop", "INTEGER"⟩ "INTEGER" [.integer] (.ok (some (.builtin "int")))

/-- The type of texts in the shop. -/
def shopText : SqlType := .mk ⟨"shop", "VARCHAR"⟩ "VARCHAR" [.string] (.ok (some (.builtin "str")))

/-- A connection that tells of the shop. -/
def shopConnection : Connection where
  types := [.sqlType shopInteger, .sqlType shopText]
  inspect
    | .schemaNames => .ok (.list [.text "main", .text "temp"])
    | .tableNames _ => .ok (.list [.text "orders"])
    | .part .columns .. => .ok (.list [
        .record [("name", .text "id"), ("type", .column shopInteger []), ("nullable", .bool false),
          ("autoincrement", .bool true)],
        .record [("name", .text "note"), ("type", .column shopText [("length", .int 20)]), ("nullable", .bool true)]])
    | .part .indexes .. => .ok (.list [
        .record [("name", .text "by_note"), ("unique", .int 1), ("column_names", .list [.text "note", .null]),
          ("expressions", .list [.text "note", .text "lower(note)"]),
          ("column_sorting", .record [("note", .list [.text "desc"])])],
        .record [("name", .text "bare"), ("unique", .int 0), ("column_names", .list [])]])
    | .part .primaryKey .. => .ok (.record [("constrained_columns", .list [.text "id"]), ("name", .null)])
    | .part .foreignKeys .. => .ok (.list [
        .record [("name", .text "follows"), ("constrained_columns", .list [.text "id"]),
          ("referred_schema", .text "main"), ("referred_table", .text "orders"),
          ("referred_columns", .list [.text "id"])]])

/-- A crawl of the shop. -/
def shopPlan : Plan where
  vendor := .sqlite
  source := Reflection.source .sqlite shopConnection

/-- The types of the shop. -/
def shopTypes : TypeMapping := [("INTEGER", .builtin "int"), ("VARCHAR", .builtin "str")]

/-- The connection tells what the report of the table says. -/
theorem told_shopOrders (part : TablePart) : ∃ answer,
    shopConnection.inspect (.part part (some "orders") (some "main")) = .ok answer ∧ shopOrders.Told answer part := by
  cases part with
  | columns =>
    refine ⟨_, rfl, _, rfl, .cons ⟨_, rfl, ?_⟩ (.cons ⟨_, rfl, ?_⟩ .nil)⟩
    · exact ⟨rfl, ⟨_, rfl, rfl, rfl, rfl, rfl⟩, rfl, rfl⟩
    · exact ⟨rfl, ⟨_, rfl, rfl, rfl, rfl, rfl⟩, rfl, rfl⟩
  | indexes =>
    refine ⟨_, rfl, _, rfl, .cons ⟨_, rfl, ?_⟩ (.cons ⟨_, rfl, ?_⟩ .nil)⟩
    · exact ⟨rfl, rfl, rfl, rfl, _, rfl, .cons ⟨rfl, rfl⟩ .nil⟩
    · exact ⟨rfl, rfl, rfl, rfl, rfl⟩
  | primaryKey => exact ⟨_, rfl, _, rfl, rfl⟩
  | foreignKeys => exact ⟨_, rfl, _, rfl, .cons ⟨_, rfl, by decide, rfl, rfl, rfl, rfl, rfl⟩ .nil⟩

/-- The crawl of the shop goes by the report. -/
theorem goesBy_shop : GoesBy shopPlan shopConnection shopReport (fun _ => true) shopTypes := by
  have haccepted : accepted shopPlan.vendor (fun _ => true) shopReport.names = ["main"] := by decide +kernel
  refine ⟨rfl, by decide, fun _ => rfl, ?_, ?_, by rw [haccepted]; nofun⟩
  · rw [haccepted]
    refine ⟨rfl, rfl, fun _ _ => rfl, fun schema hschema table htable part => ?_⟩
    obtain rfl := List.mem_singleton.mp hschema
    obtain rfl := List.mem_singleton.mp htable
    exact told_shopOrders part
  · intro schema _
    refine ⟨List.nodup_singleton _, fun table htable => ?_, fun table htable => ?_⟩
    · obtain rfl := List.mem_singleton.mp htable
      exact ⟨by decide, by decide, by decide, by decide, by decide, by decide⟩
    · obtain rfl := List.mem_singleton.mp htable
      intro column hcolumn t ht
      rcases List.mem_cons.mp hcolumn with rfl | hcolumn
      · obtain rfl := Option.some.inj ht
        exact ⟨.identity (.builtin "int"), by decide⟩
      · obtain rfl := List.mem_singleton.mp hcolumn
        obtain rfl := Option.some.inj ht
        exact ⟨.identity (.builtin "str"), by decide⟩

/-- The types of the shop are resolved, with a new database in the atlas. -/
theorem resolveTypes_shop : (resolveTypes shopPlan.vendor shopPlan.codes shopPlan.source
    { atlas := (Atlas.create {} { content := .dbms none }).1, notes := ({} : Notes) }).1 = .ok shopTypes := by
  rfl

/-- The shop is mirrored. -/
theorem run_mirrors_shop :
    let atlas := (Atlas.create {} { content := .dbms none }).1
    GoesBy shopPlan shopConnection shopReport (fun _ => true) shopTypes ∧
      (resolveTypes shopPlan.vendor shopPlan.codes shopPlan.source { atlas, notes := ({} : Notes) }).1 =
        .ok shopTypes ∧ atlas.IsLeaf 0 none (.dbms none) ∧
      ∃ after frozen, run shopPlan 0 { atlas, notes := {} } = (.ok (), after) ∧
        after.atlas.freeze 0 = (.ok (), frozen) ∧ frozen.document 0 =
          shopReport.document none none shopTypes (accepted shopPlan.vendor (fun _ => true) shopReport.names) := by
  intro atlas
  have hleaf : atlas.IsLeaf 0 none (.dbms none) := ⟨{ content := .dbms none }, rfl, rfl, rfl, rfl, rfl⟩
  exact ⟨goesBy_shop, resolveTypes_shop, hleaf, run_mirrors goesBy_shop resolveTypes_shop hleaf⟩

/-- The shop tells of two named indexes, but the one without columns is not in the tree that is frozen. -/
theorem run_shop_bare :
    let before : Survey Notes := { atlas := (Atlas.create {} { content := .dbms none }).1, notes := {} }
    let after := (run shopPlan 0 before).2.atlas
    GoesBy shopPlan shopConnection shopReport (fun _ => true) shopTypes ∧
      (shopReport.tables "main").flatMap (fun table => table.indexes.map IndexReport.name) =
        [some "by_note", some "bare"] ∧
      (run shopPlan 0 before).1.isOk = true ∧ (after.freeze 0).1.isOk = true ∧
      (after.tables 0).flatMap (fun table => (after.freeze 0).2.names table .index) = [some "by_note"] := by
  intro before after
  exact ⟨goesBy_shop, rfl, by decide +revert +kernel⟩

end Crawl

end SchemaAtlas
