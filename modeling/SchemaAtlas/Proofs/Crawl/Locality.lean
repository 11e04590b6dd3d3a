import SchemaAtlas.Proofs.Atlas.Site
import SchemaAtlas.Proofs.Crawl.Course
import SchemaAtlas.Proofs.Crawl.Tables

/-!
# A schema is read as if it were alone

What is read into a schema or a table depends on its name, on the type mapping and on the answers of its own
listings. So the tables of a schema are read as below a lone leaf: with the same outcome, the same calls and
the same tree, wherever the schema stands and whatever else was read before it.
-/

namespace SchemaAtlas.Crawl

/-- A survey has the nodes and events that another one has below a lone leaf, behind those it had before, and
both have the type mapping of before. -/
structure Follows (site : Site) (before lone survey : Survey Notes) : Prop where
  atlas : site.Grown lone.atlas survey.atlas
  events : survey.events = before.events ++ lone.events
  lone : lone.notes.mapping = before.notes.mapping
  mapping : survey.notes.mapping = before.notes.mapping

/-- At first there is only the leaf. -/
theorem follows_alone (site : Site) {before : Survey Notes} (hatlas : before.atlas = site.atlas) :
    Follows site before { atlas := site.alone, notes := { mapping := before.notes.mapping } } before :=
  ⟨hatlas ▸ site.grown_alone, (List.append_nil _).symm, rfl, rfl⟩

/-- A step at a site does what another one does below the lone leaf. -/
abbrev Local {α β : Type} (site : Site) (before : Survey Notes) (R : α → β → Prop) (step : Step α)
    (other : Step β) : Prop :=
  Keeping.Alike (Follows site before) R step other

section

variable {site : Site} {before : Survey Notes} {id place : NodeId}

/-! ## Edits -/

/-- Notes other than the type mapping do not count. -/
theorem local_note {change : Notes → Notes} (hmapping : ∀ notes, (change notes).mapping = notes.mapping) :
    Local site before Eq (Survey.note change) (Survey.note change) := by
  exact Keeping.Alike.modify fun h =>
    ⟨h.atlas, h.events, (hmapping _).trans h.lone, (hmapping _).trans h.mapping⟩

/-- A warning is one. -/
theorem local_warn (text : String) : Local site before Eq (warn text) (warn text) :=
  local_note fun _ => rfl

/-- A child is added. -/
theorem local_add (id : NodeId) (kind : NodeKind) :
    Local site before site.Takes (Survey.add id kind) (Survey.add (site.place id) kind) := by
  intro lone survey h
  have hadd := h.atlas.add id kind
  simp only [Survey.add, Keeping.bind_apply, Keeping.get_apply, Keeping.settle_apply]
  generalize lone.atlas.add id kind = outcome at hadd
  generalize survey.atlas.add (site.place id) kind = other at hadd
  cases hadd with
  | error f => exact ⟨.error f, h⟩
  | ok hresult => exact ⟨.ok hresult.2, hresult.1, h.events, h.lone, h.mapping⟩

/-- A field of a node below the leaf is set. -/
theorem local_set (hid : site.Takes id place) (field : String) (given : Entry) :
    Local site before Eq (Survey.set id field given) (Survey.set place field given) := by
  intro lone survey h
  obtain ⟨hpos, rfl⟩ := hid
  have hassign := h.atlas.assign hpos field given
  simp only [Survey.set, Keeping.bind_apply, Keeping.get_apply, Keeping.settle_apply]
  generalize lone.atlas.assign id field given = outcome at hassign
  generalize survey.atlas.assign (site.place id) field given = other at hassign
  cases hassign with
  | error f => exact ⟨.error f, h⟩
  | ok hgrown => exact ⟨.ok rfl, hgrown, h.events, h.lone, h.mapping⟩

/-- So is a field that a row tells. -/
theorem local_setFrom (hid : site.Takes id place) (field : String) (row : Value) (column : String) :
    Local site before Eq (Survey.setFrom id field row column) (Survey.setFrom place field row column) :=
  (Keeping.Alike.settle _).then fun _ => local_set hid field _

/-- A child is found by its name. -/
theorem local_childNamed (id : NodeId) (kind : NodeKind) (name : Value) :
    Local site before (Option.Rel site.Takes) (Survey.childNamed id kind name)
      (Survey.childNamed (site.place id) kind name) := by
  refine Keeping.Alike.of_get fun {lone survey} h => ?_
  cases name with
  | null => exact ⟨.ok (h.atlas.childNamed id kind none), h⟩
  | text s => exact ⟨.ok (h.atlas.childNamed id kind (some s)), h⟩
  | _ => exact ⟨.ok .none, h⟩

/-! ## Rows -/

/-- A column is told in the same words. -/
theorem local_whichColumn (table column : NodeId) :
    Local site before Eq (whichColumn table column) (whichColumn (site.place table) (site.place column)) := by
  refine Keeping.Alike.of_get fun {lone survey} h => ⟨.ok ?_, h⟩
  rw [h.atlas.nameOf, h.atlas.nameOf]

/-- The mark of automatic values is read. -/
theorem local_mark (table : NodeId) (hid : site.Takes id place) (row : Value) :
    Local site before Eq
      (match row.field "IS_AUTOINCREMENT" with
      | .ok mark => Survey.setValue id "auto_increment" (.bool (readsAsSet mark))
      | .error (.fault .missingKey _) => do
        warn ("Unable to determine IS_AUTOINCREMENT " ++ (← whichColumn table id))
      | .error f => throw f : Step Unit)
      (match row.field "IS_AUTOINCREMENT" with
      | .ok mark => Survey.setValue place "auto_increment" (.bool (readsAsSet mark))
      | .error (.fault .missingKey _) => do
        warn ("Unable to determine IS_AUTOINCREMENT " ++ (← whichColumn (site.place table) place))
      | .error f => throw f : Step Unit) := by
  split
  · exact local_set hid _ _
  · obtain ⟨-, rfl⟩ := hid
    exact (local_whichColumn table id).then fun text => local_warn _
  · exact Keeping.Alike.throw _

/-- A column is filled. -/
theorem local_fillColumn {plan other : Plan} (hmappers : other.mappers = plan.mappers) (table : NodeId)
    (hid : site.Takes id place) (row : Value) :
    Local site before Eq (fillColumn plan table id row) (fillColumn other (site.place table) place row) := by
  refine (local_setFrom hid _ row _).then fun _ => ?_
  refine (local_setFrom hid _ row _).then fun _ => ?_
  refine (Keeping.Alike.settle _).then fun nullable => ?_
  refine (local_set hid _ _).then fun _ => ?_
  refine (Keeping.Alike.settle _).then fun typeName => ?_
  refine (local_set hid _ _).then fun _ => ?_
  refine (Keeping.Alike.settle _).then fun size => ?_
  refine (local_set hid _ _).then fun _ => ?_
  refine (Keeping.Alike.settle _).then fun digits => ?_
  refine (local_set hid _ _).then fun _ => ?_
  refine Keeping.Alike.of_get fun {lone survey} h => ?_
  rw [h.mapping, h.lone, hmappers]
  cases mappedType before.notes.mapping typeName with
  | some t =>
    refine Keeping.Alike.then (Keeping.Alike.settle _) (fun mapper => ?_) _ _ h
    refine (local_set hid _ _).then fun _ => ?_
    exact (local_set hid _ _).then fun _ => local_mark table hid row
  | none =>
    have htext : Local site before Eq (whichColumn table id) (whichColumn (site.place table) place) := by
      rw [hid.2]
      exact local_whichColumn table id
    refine Keeping.Alike.then htext (fun text => ?_) _ _ h
    exact (local_warn _).then fun _ => local_mark table hid row

/-- The child that a row belongs to is found or made. -/
theorem local_groupOf (table : NodeId) (kind : NodeKind) (field : String) (row : Value) :
    Local site before site.Takes (groupOf table kind field row) (groupOf (site.place table) kind field row) := by
  refine (Keeping.Alike.settle _).then fun name => ?_
  refine (local_childNamed table kind name).bind fun found other hfound => ?_
  cases hfound with
  | some hid => exact Keeping.Alike.pure hid
  | none => exact local_add table kind

/-- A node has a name or has none. -/
theorem local_isUnnamed (id : NodeId) :
    Local site before Eq (isUnnamed id) (isUnnamed (site.place id)) := by
  refine Keeping.Alike.of_get fun {lone survey} h => ⟨.ok ?_, h⟩
  rw [h.atlas.nameOf]

/-- A column is put under an index. -/
theorem local_fillIndexColumn (id : NodeId) (row : Value) :
    Local site before Eq (fillIndexColumn id row) (fillIndexColumn (site.place id) row) := by
  refine (local_add id .indexColumn).bind fun column place hcolumn => ?_
  refine (local_setFrom hcolumn _ row _).then fun _ => ?_
  refine (local_setFrom hcolumn _ row _).then fun _ => ?_
  exact (Keeping.Alike.settle _).then fun order => local_set hcolumn _ _

/-- A row is added to an index. -/
theorem local_fillIndex (hid : site.Takes id place) (row : Value) :
    Local site before Eq (fillIndex id row) (fillIndex place row) := by
  obtain rfl := hid.2
  refine (local_isUnnamed id).then fun unnamed => ?_
  cases unnamed with
  | false => exact local_fillIndexColumn id row
  | true =>
    refine (local_setFrom hid _ row _).then fun _ => ?_
    refine (Keeping.Alike.settle _).then fun nonUnique => ?_
    exact (local_set hid _ _).then fun _ => local_fillIndexColumn id row

/-- A pair of columns is put under a foreign key. -/
theorem local_fillForeignKeyColumn (id : NodeId) (row : Value) :
    Local site before Eq (fillForeignKeyColumn id row) (fillForeignKeyColumn (site.place id) row) := by
  refine (local_add id .foreignKeyColumn).bind fun column place hcolumn => ?_
  refine (local_setFrom hcolumn _ row _).then fun _ => ?_
  refine (local_setFrom hcolumn _ row _).then fun _ => ?_
  refine (Keeping.Alike.settle _).then fun schema => ?_
  refine (local_set hcolumn _ _).then fun _ => ?_
  exact (local_setFrom hcolumn _ row _).then fun _ => local_setFrom hcolumn _ row _

/-- A row is added to a foreign key. -/
theorem local_fillForeignKey (hid : site.Takes id place) (row : Value) :
    Local site before Eq (fillForeignKey id row) (fillForeignKey place row) := by
  obtain rfl := hid.2
  refine (local_isUnnamed id).then fun unnamed => ?_
  cases unnamed with
  | false => exact local_fillForeignKeyColumn id row
  | true => exact (local_setFrom hid _ row _).then fun _ => local_fillForeignKeyColumn id row

/-- A way of ingesting rows at a site does what another one does below the lone leaf. -/
structure LocalWay (site : Site) (before : Survey Notes) (way other : Survey.Ingestion Notes NodeId) : Prop where
  accepts : ∀ row, Local site before Eq (way.accepts row) (other.accepts row)
  child : ∀ row, Local site before site.Takes (way.child row) (other.child row)
  fill : ∀ {id place} row, site.Takes id place → Local site before Eq (way.fill id row) (other.fill place row)

/-- Rows become tables. -/
theorem local_tableRows (id : NodeId) : LocalWay site before (tableRows id) (tableRows (site.place id)) where
  accepts _ := Keeping.Alike.pure rfl
  child _ := local_add id .table
  fill row hid := local_setFrom hid _ row _

/-- Rows become the nodes of a part of a table. -/
theorem local_rowsOf {plan other : Plan} (hmappers : other.mappers = plan.mappers) (table : NodeId)
    (part : TablePart) : LocalWay site before (rowsOf plan table part) (rowsOf other (site.place table) part) := by
  cases part with
  | columns =>
    exact {
      accepts := fun _ => Keeping.Alike.pure rfl
      child := fun _ => local_add table .column
      fill := fun row hid => local_fillColumn hmappers table hid row }
  | indexes =>
    exact {
      accepts := fun _ => (Keeping.Alike.settle _).then fun _ => Keeping.Alike.pure rfl
      child := local_groupOf table .index "INDEX_NAME"
      fill := fun row hid => local_fillIndex hid row }
  | primaryKey =>
    exact {
      accepts := fun _ => Keeping.Alike.pure rfl
      child := fun _ => local_add table .primaryKeyColumn
      fill := fun row hid => (local_setFrom hid _ row _).then fun _ => local_setFrom hid _ row _ }
  | foreignKeys =>
    exact {
      accepts := fun _ => Keeping.Alike.pure rfl
      child := local_groupOf table .foreignKey "FK_NAME"
      fill := fun row hid => local_fillForeignKey hid row }

/-- Rows are ingested one after the other. -/
theorem LocalWay.rows {way other : Survey.Ingestion Notes NodeId} (h : LocalWay site before way other) (count : Nat)
    (rows : List Row) : Local site before Eq (way.rows count rows) (other.rows count rows) := by
  induction rows generalizing count with
  | nil => exact Keeping.Alike.pure rfl
  | cons row rest ih =>
    cases row with
    | error f => exact Keeping.Alike.throw f
    | ok row =>
      refine (h.accepts row).then fun accepted => ?_
      cases accepted with
      | false => exact ih count
      | true => exact (h.child row).bind fun id place hid => (h.fill row hid).then fun _ => ih (count + 1)

/-! ## Listings -/

/-- A listing is consumed, if it is answered as it is below the lone leaf. -/
theorem local_consume {source other : Source} {call : Call} {body otherBody : List Row → Step Nat}
    (hsource : ∀ earlier, other (Event.calls before.events ++ earlier) call = source earlier call)
    (hbody : ∀ rows, Local site before Eq (body rows) (otherBody rows)) :
    Local site before Eq (Survey.consume source call body) (Survey.consume other call otherBody) := by
  intro lone survey h
  have hcalls : Event.calls survey.events = Event.calls before.events ++ Event.calls lone.events := by
    rw [h.events, Event.calls, List.filterMap_append]
    rfl
  cases hanswer : source (Event.calls lone.events) call with
  | error f =>
    have hother : other (Event.calls survey.events) call = .error f := by rw [hcalls, hsource, hanswer]
    rw [Survey.consume_refused hanswer, Survey.consume_refused hother]
    refine ⟨.error f, h.atlas, ?_, h.lone, h.mapping⟩
    rw [Survey.called, Survey.called, h.events, List.append_assoc]
  | ok listing =>
    have hother : other (Event.calls survey.events) call = .ok listing := by rw [hcalls, hsource, hanswer]
    rw [Survey.consume_accepted hanswer, Survey.consume_accepted hother]
    have hopened : Follows site before (Survey.opened call lone) (Survey.opened call survey) := by
      refine ⟨h.atlas, ?_, h.lone, h.mapping⟩
      rw [Survey.opened, Survey.opened, h.events, List.append_assoc]
    obtain ⟨houtcome, hread⟩ := hbody listing.rows _ _ hopened
    rw [houtcome.eq]
    refine ⟨.refl _, hread.atlas, ?_, hread.lone, hread.mapping⟩
    rw [Survey.closed, Survey.closed, hread.events, List.append_assoc]

/-- It is ingested as well. -/
theorem local_ingest {source other : Source} {call : Call} (id : NodeId) (what : String)
    {way otherWay : Survey.Ingestion Notes NodeId}
    (hsource : ∀ earlier, other (Event.calls before.events ++ earlier) call = source earlier call)
    (hway : LocalWay site before way otherWay) :
    Local site before Eq (Survey.ingest source call id what way)
      (Survey.ingest other call (site.place id) what otherWay) := by
  intro lone survey h
  have hconsume := local_consume hsource (hway.rows 0) lone survey h
  simp only [Survey.ingest_apply]
  obtain ⟨houtcome, hstate⟩ := hconsume
  generalize Survey.consume source call (way.rows 0) lone = first at houtcome hstate
  generalize Survey.consume other call (otherWay.rows 0) survey = second at houtcome hstate
  obtain ⟨outcome, lone⟩ := first
  obtain ⟨otherOutcome, survey⟩ := second
  obtain rfl := houtcome.eq
  cases otherOutcome with
  | ok count => exact ⟨.ok rfl, hstate⟩
  | error f =>
    have htold : Survey.unreadable survey.atlas (site.place id) what f = Survey.unreadable lone.atlas id what f := by
      unfold Survey.unreadable
      cases hnode : lone.atlas.node? id with
      | none => rw [hstate.atlas.missing hnode]
      | some node =>
        obtain ⟨moved, hmoved, hsame⟩ := hstate.atlas.moved hnode
        rw [show survey.atlas.node? (site.place id) = some moved from hmoved]
        simp only [hsame.title]
    refine ⟨?_, hstate⟩
    change SameOutcome Eq (.error (Survey.unreadable lone.atlas id what f))
      (.error (Survey.unreadable survey.atlas (site.place id) what f))
    rw [htold]
    exact .error _

/-- What a step at a site goes by agrees with what another one goes by below the lone leaf: the vendor, the type
mappers, and the answers of the listings of a namespace. -/
structure Agrees (before : Survey Notes) (space : Namespace) (plan other : Plan) : Prop where
  vendor : other.vendor = plan.vendor
  mappers : other.mappers = plan.mappers
  tables : ∀ earlier, other.source (Event.calls before.events ++ earlier) (.tables space.catalog space.schema) =
    plan.source earlier (.tables space.catalog space.schema)
  parts : ∀ earlier part table, other.source (Event.calls before.events ++ earlier)
    (.part part space.catalog space.schema table) = plan.source earlier (.part part space.catalog space.schema table)

variable {space : Namespace} {plan other : Plan} (h : Agrees before space plan other)

include h

/-- A part of a table is read. -/
theorem local_readPart (table : NodeId) (part : TablePart) :
    Local site before Eq (readPart plan space table part) (readPart other space (site.place table) part) := by
  refine Keeping.Alike.of_get fun {lone survey} hstate => ?_
  rw [hstate.atlas.nameOf]
  refine Keeping.Alike.then ?_ (fun _ => Keeping.Alike.pure rfl) _ _ hstate
  exact local_ingest table _ (fun earlier => h.parts earlier part _) (local_rowsOf h.mappers table part)

/-- Parts of a table are read. -/
theorem local_readParts (table : NodeId) (some : List TablePart) :
    Local site before Eq (readParts plan space table some) (readParts other space (site.place table) some) := by
  induction some with
  | nil => exact Keeping.Alike.pure rfl
  | cons part rest ih => exact (local_readPart h table part).then fun _ => ih

/-- Tables are read. -/
theorem local_readEach (tables : List NodeId) :
    Local site before Eq (readEach plan space tables) (readEach other space (tables.map site.place)) := by
  induction tables with
  | nil => exact Keeping.Alike.pure rfl
  | cons table rest ih => exact (local_readParts h table parts).then fun _ => ih

omit h in
/-- The tables of the schema at the site are read. -/
theorem local_readSchema (site : Site) (h : Agrees before ⟨plan.vendor.catalogName site.name, plan.vendor.schemaName site.name⟩
    plan other) : Local site before Eq (readSchema plan 0) (readSchema other site.root) := by
  have hspace : Local site before (fun space other =>
      space = ⟨plan.vendor.catalogName site.name, plan.vendor.schemaName site.name⟩ ∧ other = space)
      (namespaceOf plan 0) (namespaceOf other site.root) := by
    refine Keeping.Alike.of_get fun {lone survey} hstate => ⟨.ok ?_, hstate⟩
    have hname : survey.atlas.nameOf site.root = lone.atlas.nameOf 0 := hstate.atlas.nameOf 0
    rw [hname, hstate.atlas.root.nameOf, h.vendor]
    exact ⟨rfl, rfl⟩
  refine hspace.bind fun space otherSpace hsame => ?_
  obtain ⟨rfl, rfl⟩ := hsame
  refine Keeping.Alike.then (local_ingest 0 _ h.tables (local_tableRows 0)) fun _ => ?_
  refine Keeping.Alike.of_get fun {lone survey} hstate => ?_
  have htables : survey.atlas.collection site.root .table =
      (lone.atlas.collection 0 .table).map site.place := hstate.atlas.collection 0 .table
  rw [htables]
  exact local_readEach h _ _ _ hstate

end

/-- A plan with the source as it answers after the calls of a survey. -/
def Plan.since (plan : Plan) (before : Survey Notes) : Plan :=
  { plan with source := fun earlier => plan.source (Event.calls before.events ++ earlier) }

/-- It agrees with the plan. -/
theorem agrees_since (plan : Plan) (before : Survey Notes) (space : Namespace) :
    Agrees before space (plan.since before) plan :=
  ⟨rfl, rfl, fun _ => rfl, fun _ _ _ => rfl⟩

/-! ## Schemas alone -/

/-- The survey of a lone schema. -/
def loneSchema (mapping : TypeMapping) (name : String) : Survey Notes where
  atlas := (Atlas.create {} { name := some name, content := .schema }).1
  notes := { mapping }

/-- A tree is the one into which a schema of a name is read wherever it stands, with the outcome of reading it
alone. -/
structure ReadsAs (plan : Plan) (mapping : TypeMapping) (levels : Nat) (name : String) (tree : Tree) : Prop where
  root : tree.name = some name
  read : ∀ {other : Plan} {before : Survey Notes} {schema : NodeId},
    before.atlas.IsLeaf schema (some name) .schema → before.notes.mapping = mapping →
    Agrees before (spaceOf plan name) plan other →
    (readSchema other schema before).1 = (readSchema plan 0 (loneSchema mapping name)).1 ∧
      Filled [schema] levels [tree] before (readSchema other schema before).2

/-- A schema is read as if it were alone. -/
theorem readSchema_alone (plan : Plan) (mapping : TypeMapping) (levels : Nat) (name : String) :
    ∃ tree, ReadsAs plan mapping levels name tree := by
  have hmade : (loneSchema mapping name).atlas.IsLeaf 0 (some name) .schema := ⟨_, rfl, rfl, rfl, rfl, rfl⟩
  have hproper : (loneSchema mapping name).atlas.Proper :=
    (Atlas.evolves_create {} rfl rfl rfl Atlas.proper_empty).2
  have hafter : (readSchema plan 0 (loneSchema mapping name)).2.atlas.Proper :=
    (keeps_readSchema allows_evolves Survey.keeps_record plan 0 _ hproper).2
  -- The lone schema follows itself, so that it keeps its name.
  have hsame : Agrees (loneSchema mapping name) (spaceOf plan name) plan plan :=
    ⟨rfl, rfl, fun _ => rfl, fun _ _ _ => rfl⟩
  have hself := local_readSchema ⟨_, 0, _, _, hmade⟩ hsame (loneSchema mapping name) (loneSchema mapping name)
    ⟨Site.grown_alone _, rfl, rfl, rfl⟩
  obtain ⟨root, hroot, hname, -⟩ := hself.state.atlas.root
  obtain ⟨tree, -, hstands⟩ := hafter.formed.exists_stands hroot levels
  refine ⟨tree, ?_, ?_⟩
  · obtain ⟨-, node, hnode, htree, -⟩ := hstands.root
    obtain rfl := Option.some.inj (hroot.symm.trans hnode)
    exact htree.symm.trans hname
  · rintro other before schema hschema rfl hagrees
    have hlocal := local_readSchema ⟨_, schema, _, _, hschema⟩ hagrees
      (loneSchema before.notes.mapping name) before (follows_alone _ rfl)
    exact ⟨hlocal.outcome.eq, hlocal.state.mapping, hlocal.state.atlas.fills hstands⟩

end SchemaAtlas.Crawl
