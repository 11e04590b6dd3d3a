import SchemaAtlas.Crawl.Basic
import SchemaAtlas.Proofs.Atlas.Typing
import SchemaAtlas.Proofs.Catalog.Discipline

/-!
# How a crawl fails

A crawl fails in one of its listings. Failures of this library that come from the types or from the names pass through,
as do failures of discovery from the parts of a table; any other failure is told as a failure of discovery that it is
the cause of. Whatever a crawl does with rows keeps what notes, added children and set fields keep.
-/

namespace SchemaAtlas

/-- What is kept by added children other than columns, and by set fields other than those that tell the type of a
column. -/
structure Crawl.SparesColumns (R : Survey Notes → Survey Notes → Prop) : Prop where
  add : ∀ parent kind, kind ≠ .column → Keeping.Keeps R (Survey.add parent kind)
  set : ∀ id field given, field ∉ Typing.fields → Keeping.Keeps R (Survey.set id field given)

/-- What notes keep besides that leave the type mapping. -/
structure Crawl.Spares (R : Survey Notes → Survey Notes → Prop) : Prop extends Crawl.SparesColumns R where
  note : ∀ change, (∀ notes : Notes, (change notes).mapping = notes.mapping) → Keeping.Keeps R (Survey.note change)

/-- What is kept by warnings, added children and set fields. -/
structure Crawl.Builds (R : Survey Notes → Survey Notes → Prop) : Prop where
  warn : ∀ text, Keeping.Keeps R (Crawl.warn text)
  add : ∀ parent kind, Keeping.Keeps R (Survey.add parent kind)
  set : ∀ id field given, Keeping.Keeps R (Survey.set id field given)

/-- What all notes, added children and set fields keep is kept by those that leave the type mapping and spare
columns. -/
theorem Survey.Allows.spares {R : Survey Crawl.Notes → Survey Crawl.Notes → Prop} (h : Allows R) :
    Crawl.Spares R where
  note change _ := h.note change
  add parent kind _ := h.add parent kind
  set id field given _ := h.set id field given

/-- It is kept by warnings, added children and set fields. -/
theorem Survey.Allows.builds {R : Survey Crawl.Notes → Survey Crawl.Notes → Prop} (h : Allows R) : Crawl.Builds R where
  warn _ := h.note _
  add := h.add
  set := h.set

/-- What these keep is kept by those that spare columns. -/
theorem Crawl.Builds.sparesColumns {R : Survey Notes → Survey Notes → Prop} (h : Builds R) : SparesColumns R where
  add parent kind _ := h.add parent kind
  set id field given _ := h.set id field given

/-- Setting a field that does not tell the type of a column to a field of a row keeps this, also if the row lacks it. -/
theorem Crawl.SparesColumns.setFrom {R : Survey Notes → Survey Notes → Prop} [IsPreorder (Survey Notes) R]
    (h : SparesColumns R) (id : NodeId) {field : String} (hfield : field ∉ Typing.fields) (row : Value)
    (column : String) : Keeping.Keeps R (Survey.setFrom id field row column) :=
  (Keeping.Keeps.settle _).bind fun _ => h.set id field _ hfield

/-- So does setting any field to a field of a row. -/
theorem Crawl.Builds.setFrom {R : Survey Notes → Survey Notes → Prop} [IsPreorder (Survey Notes) R] (h : Builds R)
    (id : NodeId) (field : String) (row : Value) (column : String) :
    Keeping.Keeps R (Survey.setFrom id field row column) :=
  (Keeping.Keeps.settle _).bind fun _ => h.set id field _

namespace Crawl

open Survey (Quiet Orderly)

/-! ## What steps on rows keep

Each of them keeps whatever notes, added children and set fields keep. Columns apart, it is enough that these keep it
where they spare the types of columns, and names apart, that warnings do among notes. -/

/-- What is done with the rows of a listing of names. -/
def nameRows (plan : Plan) (dbms : NodeId) (nameOf : Value → Except Failure Value) : List Row → Step Unit :=
  Survey.eachRow fun row => do considerName plan dbms (← Keeping.settle (nameOf row))

/-- Making a schema keeps what is kept beside columns. -/
theorem keeps_addSchema {R : Survey Notes → Survey Notes → Prop} [IsPreorder (Survey Notes) R] (h : SparesColumns R)
    (dbms : NodeId) (name : Value) : Keeping.Keeps R (addSchema dbms name) := by
  refine (Survey.keeps_childNamed dbms .schema name).bind ?_
  intro found
  cases found with
  | some _ => exact Keeping.Keeps.pure ()
  | none => exact (h.add dbms .schema nofun).bind fun schema => h.set schema "name" _ (by decide)

section

variable {R : Survey Notes → Survey Notes → Prop} [IsPreorder (Survey Notes) R] (h : Spares R)

include h

/-- Asking the filter keeps what notes keep besides. -/
theorem keeps_passes (plan : Plan) (name : Value) : Keeping.Keeps R (passes plan name) := by
  unfold passes
  cases plan.filter with
  | none => exact Keeping.Keeps.pure true
  | some filter =>
    refine Keeping.Keeps.bind (h.note _ ?_) fun _ => Keeping.Keeps.settle _
    exact fun _ => rfl

/-- So does deciding on a name. -/
theorem keeps_isAccepted (plan : Plan) (name : Value) : Keeping.Keeps R (isAccepted plan name) := by
  unfold isAccepted
  split
  · exact Keeping.Keeps.pure false
  · refine (Keeping.Keeps.settle _).bind ?_
    intro excluded
    cases excluded with
    | false => exact keeps_passes h plan name
    | true => exact Keeping.Keeps.pure false

omit [IsPreorder (Survey Notes) R] in
/-- So does discarding a name. -/
theorem keeps_discard (name : Value) : Keeping.Keeps R (discard name) :=
  h.note _ fun _ => by split <;> rfl

/-- So does whatever becomes of a name. -/
theorem keeps_considerName (plan : Plan) (dbms : NodeId) (name : Value) :
    Keeping.Keeps R (considerName plan dbms name) := by
  refine (keeps_isAccepted h plan name).bind ?_
  intro accepted
  cases accepted with
  | true => exact keeps_addSchema h.toSparesColumns dbms name
  | false => exact keeps_discard h name

/-- So do the rows of a listing of names. -/
theorem keeps_nameRows (plan : Plan) (dbms : NodeId) (nameOf : Value → Except Failure Value)
    (rows : List Row) : Keeping.Keeps R (nameRows plan dbms nameOf rows) :=
  Survey.keeps_eachRow (fun _ => (Keeping.Keeps.settle _).bind fun name => keeps_considerName h plan dbms name) rows

end

section

variable {R : Survey Notes → Survey Notes → Prop} [IsPreorder (Survey Notes) R] (h : SparesColumns R)

include h

/-- Finding the child that a row belongs to keeps what is kept beside columns. -/
theorem keeps_groupOf (table : NodeId) (kind : NodeKind) (hkind : kind ≠ .column) (field : String) (row : Value) :
    Keeping.Keeps R (groupOf table kind field row) := by
  refine (Keeping.Keeps.settle _).bind fun name => ?_
  refine (Survey.keeps_childNamed table kind name).bind ?_
  intro found
  cases found with
  | some id => exact Keeping.Keeps.pure id
  | none => exact h.add table kind hkind

omit h in
/-- So does asking whether a node has a name. -/
theorem keeps_isUnnamed (id : NodeId) : Keeping.Keeps R (isUnnamed id) :=
  Keeping.Keeps.get.bind fun _ => Keeping.Keeps.pure _

/-- So does adding to an index. -/
theorem keeps_fillIndex (index : NodeId) (row : Value) : Keeping.Keeps R (fillIndex index row) := by
  have hcolumn : Keeping.Keeps R (do
      let column ← Survey.add index .indexColumn
      Survey.setFrom column "name" row "COLUMN_NAME"
      Survey.setFrom column "ordinal_position" row "ORDINAL_POSITION"
      let order ← Keeping.settle (row.field "ASC_OR_DESC" >>= sortOrderOfMark)
      Survey.setValue column "order_type" (.text order.text) : Step Unit) := by
    refine (h.add index .indexColumn nofun).bind fun column => ?_
    refine (h.setFrom column (by decide) row _).bind fun _ => ?_
    refine (h.setFrom column (by decide) row _).bind fun _ => ?_
    exact (Keeping.Keeps.settle _).bind fun order => h.set column _ _ (by decide)
  refine (keeps_isUnnamed index).bind ?_
  intro unnamed
  cases unnamed with
  | false => exact hcolumn
  | true =>
    refine (h.setFrom index (by decide) row _).bind fun _ => ?_
    refine (Keeping.Keeps.settle _).bind fun nonUnique => ?_
    exact (h.set index _ _ (by decide)).bind fun _ => hcolumn

/-- So does adding to a foreign key. -/
theorem keeps_fillForeignKey (key : NodeId) (row : Value) : Keeping.Keeps R (fillForeignKey key row) := by
  have hcolumn : Keeping.Keeps R (do
      let column ← Survey.add key .foreignKeyColumn
      Survey.setFrom column "name" row "FKCOLUMN_NAME"
      Survey.setFrom column "ordinal_position" row "KEY_SEQ"
      Survey.setValue column "foreign_schema_name" (← Keeping.settle (row.fieldOrNull "PKTABLE_SCHEM"))
      Survey.setFrom column "foreign_table_name" row "PKTABLE_NAME"
      Survey.setFrom column "foreign_column_name" row "PKCOLUMN_NAME" : Step Unit) := by
    refine (h.add key .foreignKeyColumn nofun).bind fun column => ?_
    refine (h.setFrom column (by decide) row _).bind fun _ => ?_
    refine (h.setFrom column (by decide) row _).bind fun _ => ?_
    refine (Keeping.Keeps.settle _).bind fun schema => ?_
    refine (h.set column _ _ (by decide)).bind fun _ => ?_
    exact (h.setFrom column (by decide) row _).bind fun _ => h.setFrom column (by decide) row _
  refine (keeps_isUnnamed key).bind ?_
  intro unnamed
  cases unnamed with
  | false => exact hcolumn
  | true => exact (h.setFrom key (by decide) row _).bind fun _ => hcolumn

/-- So do the rows of a schema, which become tables. -/
theorem keeps_tableRows (schema : NodeId) : (tableRows schema).Keeps R where
  accepts _ := Keeping.Keeps.pure true
  child _ := h.add schema .table nofun
  fill table row := h.setFrom table (by decide) row _

/-- So do the rows of a part of a table, which become nodes, if these are no columns. -/
theorem keeps_rowsBeside (plan : Plan) (table : NodeId) {part : TablePart} (hpart : part ≠ .columns) :
    (rowsOf plan table part).Keeps R := by
  cases part with
  | columns => exact absurd rfl hpart
  | indexes =>
    exact {
      accepts := fun _ => (Keeping.Keeps.settle _).bind fun _ => Keeping.Keeps.pure _
      child := keeps_groupOf h table .index nofun "INDEX_NAME"
      fill := keeps_fillIndex h }
  | primaryKey =>
    exact {
      accepts := fun _ => Keeping.Keeps.pure true
      child := fun _ => h.add table .primaryKeyColumn nofun
      fill := fun column row =>
        (h.setFrom column (by decide) row _).bind fun _ => h.setFrom column (by decide) row _ }
  | foreignKeys =>
    exact {
      accepts := fun _ => Keeping.Keeps.pure true
      child := keeps_groupOf h table .foreignKey nofun "FK_NAME"
      fill := keeps_fillForeignKey h }

end

section

variable {R : Survey Notes → Survey Notes → Prop} [IsPreorder (Survey Notes) R] (h : Builds R)

include h

omit h in
/-- Telling a column's place keeps what is kept in any case. -/
theorem keeps_whichColumn (table column : NodeId) : Keeping.Keeps R (whichColumn table column) :=
  Keeping.Keeps.get.bind fun _ => Keeping.Keeps.pure _

/-- So does reading the mark of automatic values, also if the row has none. -/
theorem keeps_mark (table column : NodeId) (row : Value) :
    Keeping.Keeps R (match row.field "IS_AUTOINCREMENT" with
      | .ok mark => Survey.setValue column "auto_increment" (.bool (readsAsSet mark))
      | .error (.fault .missingKey _) => do
        warn ("Unable to determine IS_AUTOINCREMENT " ++ (← whichColumn table column))
      | .error f => throw f : Step Unit) := by
  split
  · exact h.set column _ _
  · exact (keeps_whichColumn table column).bind fun _ => h.warn _
  · exact Keeping.Keeps.throw _

/-- So does filling a column. -/
theorem keeps_fillColumn (plan : Plan) (table column : NodeId) (row : Value) :
    Keeping.Keeps R (fillColumn plan table column row) := by
  refine (h.setFrom column _ row _).bind fun _ => ?_
  refine (h.setFrom column _ row _).bind fun _ => ?_
  refine (Keeping.Keeps.settle _).bind fun nullable => ?_
  refine (h.set column _ _).bind fun _ => ?_
  refine (Keeping.Keeps.settle _).bind fun typeName => ?_
  refine (h.set column _ _).bind fun _ => ?_
  refine (Keeping.Keeps.settle _).bind fun size => ?_
  refine (h.set column _ _).bind fun _ => ?_
  refine (Keeping.Keeps.settle _).bind fun digits => ?_
  refine (h.set column _ _).bind fun _ => ?_
  refine Keeping.Keeps.get.bind fun survey => ?_
  cases mappedType survey.notes.mapping typeName with
  | some t =>
    refine (Keeping.Keeps.settle _).bind fun mapper => ?_
    refine (h.set column _ _).bind fun _ => ?_
    exact (h.set column _ _).bind fun _ => keeps_mark h table column row
  | none =>
    refine (keeps_whichColumn table column).bind fun _ => ?_
    exact (h.warn _).bind fun _ => keeps_mark h table column row

/-- So do the rows of every part of a table. -/
theorem keeps_rowsOf (plan : Plan) (table : NodeId) (part : TablePart) :
    (rowsOf plan table part).Keeps R := by
  by_cases hpart : part = .columns
  · subst hpart
    exact {
      accepts := fun _ => Keeping.Keeps.pure true
      child := fun _ => h.add table .column
      fill := keeps_fillColumn h plan table }
  · exact keeps_rowsBeside h.sparesColumns plan table hpart

end

/-! ## How failures are told -/

/-- A failure that passes is told as it is; any other is told as a failure of discovery whose cause it is. -/
def PassedOn (passes : Failure → Bool) (f told : Failure) : Prop :=
  if passes f then told = f else ∃ text, told = .becauseOf .discovery text f

/-- A failure that passes is passed on as it is. -/
theorem PassedOn.refl {passes : Failure → Bool} {f : Failure} (h : passes f = true) : PassedOn passes f f := by
  simp [PassedOn, h]

/-- A failure of discovery is one of this library's own. -/
theorem isOwn_of_isDiscovery {f : Failure} (h : f.isDiscovery = true) : f.isOwn = true := by
  cases f with
  | own => rfl
  | _ => cases h

/-- Where only failures of this library pass, only such failures are told. -/
theorem isOwn_of_passedOn {passes : Failure → Bool} (hpasses : ∀ f, passes f = true → f.isOwn = true)
    {f told : Failure} (h : PassedOn passes f told) : told.isOwn = true := by
  unfold PassedOn at h
  split at h
  · rename_i hf
    rw [h]
    exact hpasses f hf
  · obtain ⟨text, rfl⟩ := h
    rfl

/-- Explaining a failure changes nothing, and passes on the failures of this library. -/
theorem explainedBy_spec (dbms : NodeId) (what : String) (f : Failure) (survey : Survey Notes) :
    ∃ told, explainedBy dbms what f survey = (.ok told, survey) ∧ PassedOn Failure.isOwn f told := by
  cases hown : f.isOwn with
  | true =>
    refine ⟨f, ?_, .refl hown⟩
    simp [explainedBy, hown]
  | false =>
    simp only [explainedBy, PassedOn, hown, Bool.false_eq_true, if_false]
    exact ⟨_, rfl, _, rfl⟩

/-- An outcome is told: what succeeds does, and a failure is passed on. -/
inductive Conveys {α : Type} (passes : Failure → Bool) : Except Failure α → Except Failure α → Prop where
  | success {a} : Conveys passes (.ok a) (.ok a)
  | failure {f told} : PassedOn passes f told → Conveys passes (.error f) (.error told)

/-- A step whose failures are explained leaves what the step leaves, and tells what comes of it. -/
theorem explained_conveys {α : Type} (dbms : NodeId) (what : String) (step : Step α) (before : Survey Notes) :
    ∃ outcome, explained (explainedBy dbms what) step before = (outcome, (step before).2) ∧
      Conveys Failure.isOwn (step before).1 outcome := by
  rw [explained, Keeping.bind_apply, Keeping.attempt_apply]
  generalize step before = result
  obtain ⟨outcome, after⟩ := result
  cases outcome with
  | ok a => exact ⟨.ok a, rfl, .success⟩
  | error f =>
    obtain ⟨told, htold, hpassed⟩ := explainedBy_spec dbms what f after
    exact ⟨.error told, Keeping.bind_of_ok htold _, .failure hpassed⟩

/-- A step whose failures are explained succeeds only if the step does. -/
theorem explained_eq_ok {α : Type} {dbms : NodeId} {what : String} {step : Step α} {before after : Survey Notes}
    {a : α} (h : explained (explainedBy dbms what) step before = (.ok a, after)) : step before = (.ok a, after) := by
  obtain ⟨outcome, hrun, hconveys⟩ := explained_conveys dbms what step before
  obtain ⟨rfl, rfl⟩ := Prod.mk.inj (hrun.symm.trans h)
  rcases hstep : step before with ⟨raw, between⟩
  rw [hstep] at hconveys
  cases hconveys
  rfl

/-- So do children that are read. -/
theorem ingest_eq_ok {γ : Type} {source : Source} {call : Call} {parent : NodeId} {what : String}
    {way : Survey.Ingestion Notes γ} {before after : Survey Notes} {count : Nat}
    (h : Survey.ingest source call parent what way before = (.ok count, after)) :
    Survey.consume source call (way.rows 0) before = (.ok count, after) := by
  rw [Survey.ingest_apply] at h
  generalize Survey.consume source call (way.rows 0) before = result at h ⊢
  obtain ⟨outcome, between⟩ := result
  cases outcome with
  | ok _ => exact h
  | error f => cases h

/-- A failure of reading the children of a node is passed on, as it is if it is one of discovery. -/
theorem passedOn_unreadable {atlas : Atlas} {parent : NodeId} (hparent : parent < atlas.nodes.size) (what : String)
    (f : Failure) : PassedOn Failure.isDiscovery f (Survey.unreadable atlas parent what f) := by
  obtain ⟨node, hnode⟩ := Atlas.exists_of_lt hparent
  cases hdiscovery : f.isDiscovery with
  | true => simpa [Survey.unreadable, hdiscovery] using PassedOn.refl hdiscovery
  | false =>
    simp only [PassedOn, Survey.unreadable, hdiscovery, hnode, Bool.false_eq_true, if_false]
    exact ⟨_, rfl⟩

/-- Reading children leaves what consuming their listing leaves, and tells what comes of it, provided the parent is a
node. -/
theorem ingest_conveys {γ : Type} (source : Source) (call : Call) {parent : NodeId} (what : String)
    (way : Survey.Ingestion Notes γ) {before : Survey Notes}
    (hparent : parent < (Survey.consume source call (way.rows 0) before).2.atlas.nodes.size) :
    ∃ outcome, Survey.ingest source call parent what way before =
        (outcome, (Survey.consume source call (way.rows 0) before).2) ∧
      Conveys Failure.isDiscovery (Survey.consume source call (way.rows 0) before).1 outcome := by
  refine ⟨_, Survey.ingest_apply .., ?_⟩
  cases (Survey.consume source call (way.rows 0) before).1 with
  | ok count => exact .success
  | error f => exact .failure (passedOn_unreadable hparent what f)

/-! ## The listings of a crawl -/

/-- How a crawl fails: one of its listings breaks, the types that were listed or declared are not as they
should be, or no name is accepted. -/
inductive Fails (plan : Plan) (dbms : NodeId) : Survey Notes → Failure → Survey Notes → Prop where
  | types {between f told} : (resolveTypes plan.vendor plan.codes plan.source between).1 = .error f →
      PassedOn Failure.isOwn f told →
      Fails plan dbms between told (resolveTypes plan.vendor plan.codes plan.source between).2
  | schemas {between f told} :
      Survey.Breaks plan.source .schemas (nameRows plan dbms (schemaName plan.vendor)) between f →
      PassedOn Failure.isOwn f told →
      Fails plan dbms between told
        (Survey.consume plan.source .schemas (nameRows plan dbms (schemaName plan.vendor)) between).2
  | catalogs {between f told} :
      Survey.Breaks plan.source .catalogs (nameRows plan dbms catalogName) between f →
      PassedOn Failure.isOwn f told →
      Fails plan dbms between told
        (Survey.consume plan.source .catalogs (nameRows plan dbms catalogName) between).2
  | noSchema {between} : between.atlas.collection dbms .schema = [] →
      Fails plan dbms between (noSchema between.notes.discarded) between
  | tables {between f told schema} {space : Namespace} :
      Survey.Breaks plan.source (.tables space.catalog space.schema) ((tableRows schema).rows 0) between f →
      PassedOn Failure.isDiscovery f told →
      Fails plan dbms between told
        (Survey.consume plan.source (.tables space.catalog space.schema) ((tableRows schema).rows 0) between).2
  | part {between f told table name part} {space : Namespace} :
      Survey.Breaks plan.source (.part part space.catalog space.schema name) ((rowsOf plan table part).rows 0)
        between f →
      PassedOn Failure.isDiscovery f told →
      Fails plan dbms between told
        (Survey.consume plan.source (.part part space.catalog space.schema name)
          ((rowsOf plan table part).rows 0) between).2

/-- What a crawl fails with is one of this library's own failures. -/
theorem Fails.isOwn {plan : Plan} {dbms : NodeId} {between after : Survey Notes} {told : Failure}
    (h : Fails plan dbms between told after) : told.isOwn = true := by
  cases h with
  | types _ hpassed => exact isOwn_of_passedOn (fun _ hown => hown) hpassed
  | schemas _ hpassed => exact isOwn_of_passedOn (fun _ hown => hown) hpassed
  | catalogs _ hpassed => exact isOwn_of_passedOn (fun _ hown => hown) hpassed
  | noSchema => rfl
  | tables _ hpassed => exact isOwn_of_passedOn (fun _ => isOwn_of_isDiscovery) hpassed
  | part _ hpassed => exact isOwn_of_passedOn (fun _ => isOwn_of_isDiscovery) hpassed

end Crawl

end SchemaAtlas
