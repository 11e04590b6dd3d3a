import Mathlib.Data.List.Nodup
import SchemaAtlas.Proofs.Crawl.Rows

/-!
# Tables as they are reported

A source that lists tables as they are reported has them read into the trees of their reports: first the
parts of a table, one listing each, then the tables of a schema, and then the schemas one after the other.
-/

namespace SchemaAtlas

/-- The kind of the nodes that a part of a table is read into. -/
def TablePart.kind : TablePart → NodeKind
  | .columns => .column
  | .indexes => .index
  | .primaryKey => .primaryKeyColumn
  | .foreignKeys => .foreignKey

/-- Different parts are read into nodes of different kinds. -/
theorem TablePart.kind_injective {part other : TablePart} (h : part.kind = other.kind) : part = other := by
  cases part <;> cases other <;> first | rfl | cases h

namespace TableReport

/-- The trees of a part of a table: of all columns and columns of the primary key, and of the listed indexes
and foreign keys. -/
def partTrees (report : TableReport) (mappers : Registry) (mapping : TypeMapping) : TablePart → List Tree
  | .columns => (report.columns.zipIdx 1).map fun entry => entry.1.tree mappers mapping entry.2
  | .indexes => (report.indexes.filter IndexReport.isListed).map IndexReport.tree
  | .primaryKey => (report.primaryKey.zipIdx 1).map fun entry => primaryKeyTree entry.2 entry.1
  | .foreignKeys => (report.foreignKeys.filter KeyReport.isListed).map KeyReport.tree

/-- The tree of a table. -/
def tree (report : TableReport) (mappers : Registry) (mapping : TypeMapping) : Tree :=
  .node (some report.name) .table (Crawl.parts.flatMap (report.partTrees mappers mapping))

/-- The trees of a part are of the kind of the part. -/
theorem kind_of_mem_partTrees {report : TableReport} {mappers : Registry} {mapping : TypeMapping}
    {part : TablePart} {tree : Tree} (h : tree ∈ report.partTrees mappers mapping part) : tree.kind = part.kind := by
  cases part <;> obtain ⟨_, -, rfl⟩ := List.mem_map.mp h <;> rfl

/-! ## Names -/

/-- The listed indexes of a table have different names, if its named indexes have. -/
theorem nodup_listed {indexes : List IndexReport} (h : (indexes.filterMap IndexReport.name).Nodup) :
    ((indexes.filter IndexReport.isListed).map IndexReport.name).Nodup := by
  induction indexes with
  | nil => exact List.nodup_nil
  | cons index indexes ih =>
    cases hname : index.name with
    | none =>
      rw [List.filterMap_cons_none hname] at h
      have hlisted : index.isListed = false := by simp [IndexReport.isListed, hname]
      rw [List.filter_cons, hlisted]
      exact ih h
    | some name =>
      rw [List.filterMap_cons_some hname, List.nodup_cons] at h
      rw [List.filter_cons]
      split
      · rw [List.map_cons, List.nodup_cons]
        refine ⟨fun hmem => h.1 ?_, ih h.2⟩
        obtain ⟨other, hother, heq⟩ := List.mem_map.mp hmem
        exact List.mem_filterMap.mpr ⟨other, (List.mem_filter.mp hother).1, heq.trans hname⟩
      · exact ih h.2

/-- So have its foreign keys with columns, if its foreign keys have. -/
theorem nodup_listedKeys {keys : List KeyReport} (h : (keys.map KeyReport.name).Nodup) :
    ((keys.filter KeyReport.isListed).map fun key => some key.name).Nodup := by
  rw [← Function.comp_def some, ← List.map_map]
  exact (h.sublist (List.filter_sublist.map _)).map fun _ _ => Option.some.inj

end TableReport

/-! ## Groups -/

/-- Items that give nothing may be left out. -/
theorem flatMap_filter {α β : Type} {f : α → List β} {p : α → Bool} (h : ∀ item, p item = false → f item = [])
    (items : List α) : (items.filter p).flatMap f = items.flatMap f := by
  induction items with
  | nil => rfl
  | cons item items ih =>
    rw [List.flatMap_cons, List.filter_cons, ← ih]
    cases hitem : p item with
    | true => rfl
    | false => rw [h item hitem]; rfl

/-- The rows of indexes of different names form the trees of the listed ones. -/
theorem groups_indexes {indexes : List IndexReport} (hnodup : (indexes.filterMap IndexReport.name).Nodup) :
    Member.groups ((indexes.flatMap IndexReport.slots).filterMap id) =
      (indexes.filter IndexReport.isListed).map IndexReport.tree := by
  have hslots : (indexes.flatMap IndexReport.slots).filterMap id =
      (indexes.filter IndexReport.isListed).flatMap IndexReport.members := by
    rw [List.filterMap_flatMap, ← flatMap_filter (p := IndexReport.isListed)]
    · refine List.flatMap_congr fun index hindex => ?_
      rw [index.filterMap_slots, if_pos (List.mem_filter.mp hindex).2]
    · intro index hindex
      rw [index.filterMap_slots, hindex]
      rfl
  rw [hslots]
  exact Member.groups_flatMap_of_nodup (fun index _ member hmember => (IndexReport.of_mem_members hmember).1)
    (TableReport.nodup_listed hnodup) fun index hindex => index.group?_members (List.mem_filter.mp hindex).2

/-- The rows of foreign keys of different names form the trees of those with columns. -/
theorem groups_foreignKeys {keys : List KeyReport} (hnodup : (keys.map KeyReport.name).Nodup) :
    Member.groups (keys.flatMap KeyReport.members) = (keys.filter KeyReport.isListed).map KeyReport.tree := by
  rw [← flatMap_filter (p := KeyReport.isListed)]
  · exact Member.groups_flatMap_of_nodup (fun key _ member hmember => (KeyReport.of_mem_members hmember).1)
      (TableReport.nodup_listedKeys hnodup) fun key hkey => key.group?_members (List.mem_filter.mp hkey).2
  · intro key hkey
    rw [KeyReport.isListed, Bool.not_eq_false', List.isEmpty_iff] at hkey
    rw [KeyReport.members, hkey]
    rfl

namespace Crawl

variable {plan : Plan} {before between after : Survey Notes} {levels : Nat} {report : TableReport}

/-- For every type that the columns of a table are mapped to, exactly one mapper keeps it. -/
def IsMapped (plan : Plan) (mapping : TypeMapping) (report : TableReport) : Prop :=
  ∀ column ∈ report.columns, ∀ t, mapping.lookup column.typeName = some t →
    ∃ m, plan.mappers.filter (Mapper.keeps t) = [m]

/-- The rows of a part of a table draw its trees, if there is no child of the kind of the part. -/
theorem draws_part {table : NodeId} {part : TablePart} {rows : List Row} {name : Option String}
    (hlisted : report.Listed rows part) (hdistinct : report.Distinct)
    (hmapped : IsMapped plan before.notes.mapping report) (htable : before.atlas.IsOpen table name .table)
    (hsound : before.atlas.Sound table) (hnone : before.atlas.names table part.kind = []) :
    Draws (rowsOf plan table part) table 1 rows (report.partTrees plan.mappers before.notes.mapping part) before := by
  cases part with
  | columns =>
    refine draws_rows htable.lt hlisted ?_
    rintro v column done between hmem hrow hdone
    rw [← hdone.mapping]
    have hcolumn : column.1 ∈ report.columns := by
      rw [← List.zipIdx_map_fst 1 report.columns]
      exact List.mem_map_of_mem hmem
    refine draws_column hrow (hdone.atlas.isOpen htable) fun t ht => ?_
    rw [hdone.mapping] at ht
    obtain ⟨m, hm⟩ := hmapped column.1 hcolumn t ht
    exact ⟨m, (Registry.identityFor_eq_ok_iff plan.mappers t m).mpr hm⟩
  | indexes =>
    obtain ⟨blocks, rfl, hblocks⟩ := hlisted
    have hrows : List.Forall₂ (SlotRow (indexRows table) table "INDEX_NAME" .index) blocks.flatten
        (report.indexes.flatMap IndexReport.slots) := by
      rw [List.flatMap_def]
      exact List.rel_flatten (List.forall₂_map_right_iff.mpr (hblocks.imp fun _ _ hblock => slotRows_index hblock))
    rw [TableReport.partTrees, ← groups_indexes hdistinct.indexes]
    exact draws_slots htable rfl hsound hnone rfl hrows
  | primaryKey =>
    refine draws_rows htable.lt hlisted ?_
    rintro v column done between - hrow hdone
    exact draws_primaryKeyColumn hrow (hdone.atlas.isOpen htable)
  | foreignKeys =>
    obtain ⟨blocks, rfl, hblocks⟩ := hlisted
    have hrows : List.Forall₂ (MemberRow (foreignKeyRows table) table "FK_NAME" .foreignKey) blocks.flatten
        (report.foreignKeys.flatMap KeyReport.members) := by
      rw [List.flatMap_def]
      exact List.rel_flatten (List.forall₂_map_right_iff.mpr
        (hblocks.imp fun _ _ hblock => memberRows_foreignKey hblock))
    rw [TableReport.partTrees, ← groups_foreignKeys hdistinct.foreignKeys]
    exact draws_members htable rfl hsound hnone rfl hrows

/-- A listing whose rows draw trees is read into them. -/
theorem ingest_drawn {call : Call} {parent : NodeId} {way : Survey.Ingestion Notes NodeId} {rows : List Row}
    {trees : List Tree} (what : String)
    (hanswer : plan.source (Event.calls before.events) call = .ok { rows })
    (hdraws : Draws way parent levels rows trees (Survey.opened call before)) :
    Keeping.Succeeds (Survey.ingest plan.source call parent what way) before fun _ =>
      Drawn parent levels trees before := by
  obtain ⟨count, after, hrows, hdrawn⟩ := hdraws 0
  refine ⟨count, Survey.closed call after, ?_, hdrawn.mapping, hdrawn.atlas⟩
  rw [Survey.ingest_apply, Survey.consume_accepted hanswer, hrows]
  rfl

/-- So is a part of a table. -/
theorem readPart_drawn {space : Namespace} {table : NodeId} {part : TablePart} {name : Option String} {content : Content}
    {rows : List Row} {trees : List Tree} (htable : before.atlas.IsOpen table name content)
    (hanswer : plan.source (Event.calls before.events) (.part part space.catalog space.schema name) = .ok { rows })
    (hdraws : Draws (rowsOf plan table part) table 1 rows trees
      (Survey.opened (.part part space.catalog space.schema name) before)) :
    Keeping.Succeeds (readPart plan space table part) before fun _ => Drawn table 1 trees before := by
  apply Keeping.Succeeds.of_get
  rw [htable.nameOf]
  exact (ingest_drawn (partLabel part) hanswer hdraws).bind fun _ after hafter => ⟨(), after, rfl, hafter⟩

/-- A source lists the tables of a schema as they are reported, whatever was called before. -/
structure Lists (plan : Plan) (schema : String) (tables : List TableReport) : Prop where
  listing : ∃ rows, (∀ earlier, plan.source earlier (.tables (plan.vendor.catalogName (some schema))
      (plan.vendor.schemaName (some schema))) = .ok { rows }) ∧
    List.Forall₂ (fun row (table : TableReport) => ∃ v, row = .ok v ∧ v.field "TABLE_NAME" = .ok (.text table.name))
      rows tables
  parts : ∀ table ∈ tables, ∀ part, ∃ rows, (∀ earlier, plan.source earlier
      (.part part (plan.vendor.catalogName (some schema)) (plan.vendor.schemaName (some schema)) (some table.name)) =
        .ok { rows }) ∧ table.Listed rows part

/-- Where the tables of a schema of a name are looked up. -/
def spaceOf (plan : Plan) (schema : String) : Namespace :=
  ⟨plan.vendor.catalogName (some schema), plan.vendor.schemaName (some schema)⟩

/-- The tables of a schema are looked up under its name. -/
theorem namespaceOf_apply {schema : NodeId} {label : Option String} {content : Content} (plan : Plan)
    (hschema : before.atlas.IsOpen schema label content) :
    namespaceOf plan schema before = (.ok ⟨plan.vendor.catalogName label, plan.vendor.schemaName label⟩, before) := by
  simp [namespaceOf, Keeping.bind_apply, hschema.nameOf]

/-- The parts of a table are read into their trees, if there are no children of their kinds. -/
theorem readParts_drawn {schema : String} {tables : List TableReport} {table : NodeId}
    (hlists : Lists plan schema tables) (hreport : report ∈ tables) (hdistinct : report.Distinct)
    (hmapped : IsMapped plan before.notes.mapping report) (chosen : List TablePart) (hnodup : chosen.Nodup)
    (htable : before.atlas.IsOpen table (some report.name) .table) (hsound : before.atlas.Sound table)
    (hnone : ∀ part ∈ chosen, before.atlas.names table part.kind = []) :
    Keeping.Succeeds (readParts plan (spaceOf plan schema) table chosen) before fun _ =>
      Drawn table 1 (chosen.flatMap (report.partTrees plan.mappers before.notes.mapping)) before := by
  induction chosen generalizing before with
  | nil => exact ⟨(), before, rfl, Drawn.refl table 1 before⟩
  | cons part rest ih =>
    obtain ⟨rows, hanswer, hlisted⟩ := hlists.parts report hreport part
    have hpart : Keeping.Succeeds (readPart plan (spaceOf plan schema) table part) before fun _ =>
        Drawn table 1 (report.partTrees plan.mappers before.notes.mapping part) before :=
      readPart_drawn htable (hanswer _)
        (draws_part hlisted hdistinct hmapped htable hsound (hnone part List.mem_cons_self))
    refine hpart.bind fun _ between hbetween => ?_
    rw [List.nodup_cons] at hnodup
    rw [← hbetween.mapping] at hmapped
    have hothers : ∀ other ∈ rest, between.atlas.names table other.kind = [] := by
      intro other hother
      rw [hbetween.atlas.names_eq htable.lt hsound, hnone other (List.mem_cons_of_mem _ hother), List.nil_append,
        List.map_eq_nil_iff, List.filter_eq_nil_iff]
      intro tree htree hkind
      rw [TableReport.kind_of_mem_partTrees htree, beq_iff_eq] at hkind
      exact hnodup.1 (TablePart.kind_injective hkind ▸ hother)
    refine (ih hmapped hnodup.2 (hbetween.atlas.isOpen htable) (hbetween.atlas.sound htable.lt hsound)
      hothers).imp fun _ after hafter => ?_
    rw [hbetween.mapping] at hafter
    exact hbetween.trans hafter htable.lt

/-! ## One leaf after the other -/

/-- Leaves have their names. -/
theorem map_nameOf {ι : Type} {atlas : Atlas} {nameOf : ι → Option String} {content : Content} {ids : List NodeId}
    {items : List ι} (h : List.Forall₂ (fun id item => atlas.IsLeaf id (nameOf item) content) ids items) :
    ids.map atlas.nameOf = items.map nameOf := by
  induction h with
  | nil => rfl
  | cons hfirst _ ih => rw [List.map_cons, List.map_cons, hfirst.isOpen.nameOf, ih]

/-- Leaves of different names are different. -/
theorem nodup_of_names {ι : Type} {atlas : Atlas} {nameOf : ι → String} {content : Content} {ids : List NodeId}
    {items : List ι} (h : List.Forall₂ (fun id item => atlas.IsLeaf id (some (nameOf item)) content) ids items)
    (hnodup : (items.map nameOf).Nodup) : ids.Nodup := by
  refine List.Nodup.of_map atlas.nameOf ?_
  have hsome := hnodup.map (f := some) fun _ _ => Option.some.inj
  rw [List.map_map] at hsome
  rw [map_nameOf h]
  exact hsome

/-- A node of another content is none of some leaves. -/
theorem not_mem_leaves {ι : Type} {atlas : Atlas} {nameOf : ι → Option String} {id : NodeId} {label : Option String}
    {content other : Content} {ids : List NodeId} {items : List ι} (hopen : atlas.IsOpen id label content)
    (h : List.Forall₂ (fun id item => atlas.IsLeaf id (nameOf item) other) ids items) (hne : content ≠ other) :
    id ∉ ids := by
  intro hmem
  obtain ⟨node, hnode, -, hcontent, -⟩ := hopen
  have hall := Atlas.forall_of_forall₂ h (p := fun id => ∃ name, atlas.IsLeaf id name other)
    fun _ item _ hleaf => ⟨nameOf item, hleaf⟩
  obtain ⟨_, leaf, hleaf, -, hother, -⟩ := hall id hmem
  obtain rfl := Option.some.inj (hnode.symm.trans hleaf)
  exact hne (hcontent.symm.trans hother)

/-- Leaves stay leaves where another node changes. -/
theorem leaves_frame {ι : Type} {first second : Atlas} {nameOf : ι → Option String} {content : Content} {id : NodeId}
    {others : List NodeId} {items : List ι}
    (hsame : ∀ other, other < first.nodes.size → other ∉ [id] → second.node? other = first.node? other)
    (hnot : id ∉ others)
    (hleaves : List.Forall₂ (fun id item => first.IsLeaf id (nameOf item) content) others items) :
    List.Forall₂ (fun id item => second.IsLeaf id (nameOf item) content) others items := by
  have hkept : ∀ other ∈ others, second.node? other = first.node? other := by
    intro other hother
    have hlt := Atlas.forall_of_forall₂ hleaves (fun _ _ _ hleaf => hleaf.isOpen.lt) other hother
    exact hsame other hlt fun hmem => hnot (List.mem_singleton.mp hmem ▸ hother)
  exact ((List.forall₂_and_left others items).mpr ⟨hkept, hleaves⟩).imp fun _ _ hleaf => hleaf.2.frame hleaf.1

/-- Leaves are filled one after the other, if each of them is. -/
theorem each_filled {ι : Type} {step : NodeId → Step Unit} {run : List NodeId → Step Unit} {nameOf : ι → String}
    {content : Content} {treeOf : ι → Tree} {ids : List NodeId} {items : List ι}
    (hnil : run [] = pure ()) (hcons : ∀ id rest, run (id :: rest) = step id >>= fun _ => run rest)
    (hleaves : List.Forall₂ (fun id item => before.atlas.IsLeaf id (some (nameOf item)) content) ids items)
    (hnodup : ids.Nodup)
    (hstep : ∀ id, ∀ item ∈ items, ∀ between : Survey Notes, between.notes.mapping = before.notes.mapping →
      between.atlas.IsLeaf id (some (nameOf item)) content →
      Keeping.Succeeds (step id) between fun _ => Filled [id] levels [treeOf item] between) :
    Keeping.Succeeds (run ids) before fun _ => Filled ids levels (items.map treeOf) before := by
  induction items generalizing ids before with
  | nil =>
    cases hleaves
    exact ⟨(), before, by rw [hnil]; rfl, rfl, .nil levels before.atlas⟩
  | cons item items ih =>
    obtain _ | ⟨hfirst, hrest⟩ := hleaves
    rename_i id ids
    rw [List.nodup_cons] at hnodup
    have hlt : ∀ other ∈ ids, other < before.atlas.nodes.size :=
      Atlas.forall_of_forall₂ hrest fun _ _ _ hleaf => hleaf.isOpen.lt
    rw [hcons]
    refine (hstep id item List.mem_cons_self before rfl hfirst).bind fun _ between hbetween => ?_
    have hleaves := leaves_frame hbetween.atlas.same hnodup.1 hrest
    refine (ih hleaves hnodup.2 ?_).imp fun _ after hafter => ?_
    · intro other further hfurther s hs
      exact hstep other further (List.mem_cons_of_mem _ hfurther) s (hs.trans hbetween.mapping)
    · refine ⟨hafter.mapping.trans hbetween.mapping, hbetween.atlas.append hafter.atlas ?_ ?_⟩
      · intro other hother
        rw [List.mem_singleton.mp hother]
        exact hnodup.1
      · intro other hother
        rcases List.mem_cons.mp hother with rfl | hother
        · exact hfirst.isOpen.lt
        · exact hlt other hother

/-! ## Tables and schemas -/

/-- A new table is read into the tree of its report. -/
theorem readTable_filled {schema : String} {tables : List TableReport} {table : NodeId}
    (hlists : Lists plan schema tables) (hreport : report ∈ tables) (hdistinct : report.Distinct)
    (hmapped : IsMapped plan before.notes.mapping report)
    (htable : before.atlas.IsLeaf table (some report.name) .table) :
    Keeping.Succeeds (readParts plan (spaceOf plan schema) table parts) before fun _ =>
      Filled [table] 2 [report.tree plan.mappers before.notes.mapping] before :=
  (readParts_drawn hlists hreport hdistinct hmapped parts (by decide) htable.isOpen htable.sound
    fun part _ => htable.names part.kind).imp fun _ _ hafter => hafter.filled htable

/-- The tree of a schema. -/
def schemaTree (mappers : Registry) (mapping : TypeMapping) (schema : String) (tables : List TableReport) : Tree :=
  .node (some schema) .schema (tables.map fun table => table.tree mappers mapping)

/-- What the tables of a schema must be like to be read: they have different names, each of them reports
nothing twice, and the types of their columns have mappers. -/
structure Readable (plan : Plan) (mapping : TypeMapping) (tables : List TableReport) : Prop where
  names : (tables.map TableReport.name).Nodup
  distinct : ∀ table ∈ tables, table.Distinct
  mapped : ∀ table ∈ tables, IsMapped plan mapping table

/-- The rows of the tables of a schema draw them without their parts. -/
theorem draws_tables {schema : NodeId} {name : Option String} {tables : List TableReport} {rows : List Row}
    (hschema : before.atlas.IsOpen schema name .schema)
    (hrows : List.Forall₂ (fun row (table : TableReport) =>
      ∃ v, row = .ok v ∧ v.field "TABLE_NAME" = .ok (.text table.name)) rows tables) (levels : Nat) :
    Draws (tableRows schema) schema levels rows
      (tables.map fun table => .node (some table.name) .table []) before := by
  refine draws_rows hschema.lt hrows ?_
  intro v table done between _ hrow hdone
  exact draws_leaf (hdone.atlas.isOpen hschema) rfl rfl rfl fun s hs => hs.setFrom hrow rfl

/-- A new schema is read into the tree of its tables. -/
theorem readSchema_filled {schema : NodeId} {name : String} {tables : List TableReport}
    (hlists : Lists plan name tables) (hreadable : Readable plan before.notes.mapping tables)
    (hschema : before.atlas.IsLeaf schema (some name) .schema) :
    Keeping.Succeeds (readSchema plan schema) before fun _ =>
      Filled [schema] 3 [schemaTree plan.mappers before.notes.mapping name tables] before := by
  obtain ⟨rows, hanswer, hrows⟩ := hlists.listing
  have hspace : namespaceOf plan schema before = (.ok (spaceOf plan name), before) :=
    namespaceOf_apply plan hschema.isOpen
  rw [Keeping.Succeeds, readSchema, Keeping.bind_of_ok hspace]
  have htables : Keeping.Succeeds (Survey.ingest plan.source (.tables (spaceOf plan name).catalog
      (spaceOf plan name).schema) schema "tables" (tableRows schema)) before fun _ =>
        Drawn schema 1 (tables.map fun table => .node (some table.name) .table []) before := by
    have hopened (call : Call) : (Survey.opened call before).atlas.IsOpen schema (some name) .schema :=
      hschema.isOpen
    exact ingest_drawn "tables" (hanswer _) (draws_tables (hopened _) hrows 1)
  refine htables.bind fun _ between hbetween => .of_get ?_
  have hleaves : List.Forall₂ (fun id (table : TableReport) => between.atlas.IsLeaf id (some table.name) .table)
      (between.atlas.collection schema .table) tables := hbetween.leaves hschema
  have hmapping := hbetween.mapping
  have heach : Keeping.Succeeds (readEach plan (spaceOf plan name) (between.atlas.collection schema .table)) between
      fun _ => Filled (between.atlas.collection schema .table) 2
        (tables.map fun table => table.tree plan.mappers before.notes.mapping) between := by
    refine each_filled rfl (fun _ _ => rfl) hleaves (nodup_of_names hleaves hreadable.names) ?_
    intro id table htable s hs hleaf
    rw [← hmapping, ← hs]
    refine readTable_filled hlists htable (hreadable.distinct table htable) ?_ hleaf
    rw [hs, hmapping]
    exact hreadable.mapped table htable
  exact heach.imp fun _ after hafter => hafter.below hbetween hschema fun _ => rfl

/-- New schemas are read one after the other. -/
theorem readSchemas_filled {tablesOf : String → List TableReport} {names : List String} {ids : List NodeId}
    (hleaves : List.Forall₂ (fun id name => before.atlas.IsLeaf id (some name) .schema) ids names)
    (hnodup : names.Nodup) (hlists : ∀ name ∈ names, Lists plan name (tablesOf name))
    (hreadable : ∀ name ∈ names, Readable plan before.notes.mapping (tablesOf name)) :
    Keeping.Succeeds (readSchemas plan ids) before fun _ => Filled ids 3
      (names.map fun name => schemaTree plan.mappers before.notes.mapping name (tablesOf name)) before := by
  refine each_filled rfl (fun _ _ => rfl) hleaves (nodup_of_names hleaves (by rwa [List.map_id'])) ?_
  intro id name hname s hs hleaf
  rw [← hs]
  exact readSchema_filled (hlists name hname) (by rw [hs]; exact hreadable name hname) hleaf

end Crawl

end SchemaAtlas
