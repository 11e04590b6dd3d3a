import SchemaAtlas.Proofs.Crawl.Filling
import SchemaAtlas.Proofs.Crawl.Groups

/-!
# Columns are resolved row by row

A table that had no columns gets one for each row of their listing, as the row says, up to the first row that cannot be
read. That row decides how reading the columns fails, and leaves a column behind the others that is filled in part.
-/

namespace SchemaAtlas.Crawl

variable {plan : Plan} {space : Namespace} {table : NodeId} {name : Option String} {before between after : Survey Notes}
  {row : Value} {rows : List Value} {lines : List ColumnLine}

/-! ## The columns of some rows -/

/-- Some columns were put under a table, with their warnings. -/
structure Columned (table : NodeId) (name : Option String) (lines : List ColumnLine) (before after : Survey Notes) :
    Prop where
  drawn : Drawn table 1 (lines.map ColumnLine.leaf) before after
  log : after.notes.log = before.notes.log ++ lines.flatMap (ColumnLine.warnings name)

/-- Some columns were put under a table, and a further one behind them that may not be filled to its end. -/
structure HalfColumned (table : NodeId) (name : Option String) (lines : List ColumnLine) (last : Option String)
    (facts : ColumnFacts) (before after : Survey Notes) : Prop where
  drawn : Drawn table 1 (lines.map ColumnLine.leaf ++ [.node last (.column facts) []]) before after
  log : ∃ said, after.notes.log = before.notes.log ++ lines.flatMap (ColumnLine.warnings name) ++ said

/-- No rows give no columns. -/
theorem Columned.refl (table : NodeId) (name : Option String) (survey : Survey Notes) :
    Columned table name [] survey survey :=
  ⟨.refl table 1 survey, (List.append_nil _).symm⟩

/-- A column that was written to its end is a column of its row. -/
theorem Columned.of_written {line : ColumnLine}
    (h : Written before table before.notes.log line.name line.facts (line.warnings name) after) :
    Columned table name [line] before after :=
  ⟨h.planted.drawn 1, by rw [h.log, List.flatMap_singleton]⟩

/-- Columns follow each other. -/
theorem Columned.trans {line : ColumnLine} (hfirst : Columned table name [line] before between)
    (hmore : Columned table name lines between after) (htable : table < before.atlas.nodes.size) :
    Columned table name (line :: lines) before after where
  drawn := hfirst.drawn.trans hmore.drawn htable
  log := by
    rw [hmore.log, hfirst.log, List.append_assoc, List.flatMap_singleton]
    rfl

/-- A column that is filled in part may follow others. -/
theorem Columned.half {last : Option String} {facts : ColumnFacts} {said : List LogEntry}
    (hfirst : Columned table name lines before between) (htable : table < before.atlas.nodes.size)
    (hlast : Written between table between.notes.log last facts said after) :
    HalfColumned table name lines last facts before after where
  drawn := hfirst.drawn.trans (hlast.planted.drawn 1) htable
  log := ⟨said, by rw [hlast.log, hfirst.log]⟩

/-- Some columns were written to their ends, one after the other. -/
inductive Wrote (table : NodeId) (name : Option String) : List ColumnLine → Survey Notes → Survey Notes → Prop
  | none {survey : Survey Notes} : Wrote table name [] survey survey
  | more {line : ColumnLine} {lines : List ColumnLine} {before between after : Survey Notes}
    (hline : Written before table before.notes.log line.name line.facts (line.warnings name) between)
    (hlines : Wrote table name lines between after) : Wrote table name (line :: lines) before after

/-- Columns that were written are columns of their rows. -/
theorem Wrote.columned (h : Wrote table name lines before after) : Columned table name lines before after := by
  induction h with
  | none => exact .refl table name _
  | more hline _ ih => exact (Columned.of_written hline).trans ih hline.planted.lt

/-! ## Items that are read one after the other -/

section

variable {α β γ : Type} {read : β → Except Failure γ} {items : List β} {results : List γ} {item : β} {f : Failure}

/-- Some items can be read, and the next one cannot. -/
def Stops (read : β → Except Failure γ) (items : List β) (results : List γ) (item : β) (f : Failure) : Prop :=
  ∃ done rest, items = done ++ item :: rest ∧ List.Forall₂ (fun item result => read item = .ok result) done results ∧
    read item = .error f

/-- Items of which one cannot be read are not read to their end, but stop with its failure. -/
theorem mapM_of_stops (h : Stops read items results item f) : items.mapM read = .error f := by
  obtain ⟨done, rest, rfl, hdone, hitem⟩ := h
  induction hdone with
  | nil => simp [List.mapM_cons, hitem, bind, Except.bind]
  | cons hfirst _ ih => simp only [List.cons_append, List.mapM_cons, hfirst, ih, bind, Except.bind]

/-- Items are read to their end exactly if each of them is read. -/
theorem mapM_eq_ok_iff :
    items.mapM read = .ok results ↔ List.Forall₂ (fun item result => read item = .ok result) items results := by
  induction items generalizing results with
  | nil =>
    constructor
    · rintro ⟨⟩
      exact .nil
    · rintro ⟨⟩
      rfl
  | cons item items ih =>
    simp only [List.mapM_cons, ColumnLine.bind_eq_ok_iff, ih]
    constructor
    · rintro ⟨result, hresult, results, hresults, ⟨⟩⟩
      exact .cons hresult hresults
    · rintro (_ | ⟨hresult, hresults⟩)
      exact ⟨_, hresult, _, hresults, rfl⟩

/-- One more item may be read in front of them. -/
theorem Stops.cons {first : β} {result : γ} (hfirst : read first = .ok result) (h : Stops read items results item f) :
    Stops read (first :: items) (result :: results) item f := by
  obtain ⟨done, rest, rfl, hdone, hitem⟩ := h
  exact ⟨first :: done, rest, rfl, .cons hfirst hdone, hitem⟩

/-- Items that are made of others stop where these do. -/
theorem Stops.of_map {make : α → β} {sources : List α} (h : Stops read (sources.map make) results item f) :
    ∃ source, item = make source ∧ Stops (fun source => read (make source)) sources results source f := by
  obtain ⟨done, rest, hsources, hdone, hitem⟩ := h
  obtain ⟨first, more, rfl, rfl, hmore⟩ := List.map_eq_append_iff.mp hsources
  obtain ⟨source, others, rfl, rfl, -⟩ := List.map_eq_cons_iff.mp hmore
  exact ⟨source, rfl, first, others, rfl, List.forall₂_map_left_iff.mp hdone, hitem⟩

end

/-! ## Rows of columns -/

/-- What a row says of a column, unless it cannot be reached or read. -/
def ColumnLine.ofRow (mappers : Registry) (mapping : TypeMapping) (row : Row) : Except Failure ColumnLine :=
  row >>= ColumnLine.read mappers mapping

/-- A row gives its column, or one that is filled in part. -/
theorem columnRow_ends (htable : before.atlas.IsOpen table name .table) (count : Nat) :
    Keeping.EndsAs (ColumnLine.read plan.mappers before.notes.mapping row)
      ((columnRows plan table).rows count [.ok row]) before
      (fun line => Written before table before.notes.log line.name line.facts (line.warnings name))
      (HalfWritten before table before.notes.log) := by
  refine .of_eq (Survey.Ingestion.rows_single rfl count) ?_
  have hname : before.atlas.nameOf table = name := htable.nameOf
  have hadded : Keeping.Succeeds (Survey.add table .column) before fun id s => id = before.atlas.nodes.size ∧
      Planted before table .column { content := .new .column, parent := some table } s ∧ s.notes = before.notes := by
    obtain ⟨node, hnode, -, hcontent, hfrozen⟩ := htable
    have hkind : node.kind.collections.any (·.1 == NodeKind.column) = true := by rw [Node.kind, hcontent]; rfl
    exact ⟨_, _, Survey.add_apply hnode hkind hfrozen, rfl, ⟨Atlas.lt_of_node? hnode, rfl, rfl⟩, rfl⟩
  refine hadded.endsAs ?_
  rintro _ s ⟨rfl, hs, hnotes⟩
  have hfill := fillColumn_ends plan row hs
  rw [hnotes, hname] at hfill
  exact hfill.andThen fun _ _ s h => ⟨_, s, rfl, h⟩

/-- How the rows of columns stop: the rows before one that cannot be reached or read have given their columns, and one
that can be reached has given a column that is filled in part. -/
def Halts (mappers : Registry) (mapping : TypeMapping) (rows : List Row) (table : NodeId) (name : Option String)
    (before after : Survey Notes) : Prop :=
  ∃ lines row f between, Stops (ColumnLine.ofRow mappers mapping) rows lines row f ∧
    Wrote table name lines before between ∧
    match row with
    | .ok _ => HalfWritten between table between.notes.log after
    | .error _ => after = between

/-- Rows give their columns up to the first one that cannot be reached or read. -/
theorem columnRows_ends (plan : Plan) (rows : List Row) (htable : before.atlas.IsOpen table name .table) (count : Nat) :
    Keeping.EndsAs (rows.mapM (ColumnLine.ofRow plan.mappers before.notes.mapping))
      ((columnRows plan table).rows count rows) before (fun lines => Wrote table name lines before)
      (Halts plan.mappers before.notes.mapping rows table name before) := by
  induction rows generalizing before count with
  | nil => exact ⟨count, before, rfl, .none⟩
  | cons row rows ih =>
    rw [List.mapM_cons]
    cases row with
    | error f => exact ⟨before, rfl, [], .error f, f, before, ⟨[], rows, rfl, .nil, rfl⟩, .none, rfl⟩
    | ok row =>
      rw [← List.singleton_append, Survey.Ingestion.rows_append]
      refine ((columnRow_ends htable count).imp (fun _ _ h => And.intro h) fun f s hf h => ?_).bind ?_
      · exact ⟨[], .ok row, f, before, ⟨[], rows, rfl, .nil, hf⟩, .none, h⟩
      · rintro line count s ⟨hline, hs⟩
        rw [← hs.planted.mapping] at hline ⊢
        have hopen : s.atlas.IsOpen table name .table := (Columned.of_written hs).drawn.atlas.isOpen htable
        refine .map ((ih hopen count).imp (fun lines t _ h => .more hs h) ?_)
        rintro f t - ⟨lines, other, g, between, hstops, hwrote, hlast⟩
        exact ⟨line :: lines, other, g, between, hstops.cons hline, .more hs hwrote, hlast⟩

/-! ## Reading the columns of a table -/

/-- What is told of a row that cannot be read: that a code for nullable columns is unknown or that a type has not exactly
one mapper, or, of any other failure, that reading the columns failed. -/
inductive Aborts (mappers : Registry) (mapping : TypeMapping) (table : Option String) (row : Value) :
    Failure → Failure → Prop
  | nullable {code : Value} (hcode : row.field "NULLABLE" = .ok code)
    (hunknown : ∀ n ∈ [0, 1, 2], code.equalsInteger n = false) :
    Aborts mappers mapping table row (unknownNullable code) (unknownNullable code)
  | unresolved {v : Value} {t : TypeName} (htype : row.field "TYPE_NAME" = .ok v)
    (hmapped : mappedType mapping v = some t) (hcount : (mappers.filter (Mapper.keeps t)).length ≠ 1) :
    Aborts mappers mapping table row (Registry.notUnique (mappers.filter (Mapper.keeps t)).length t)
      (Registry.notUnique (mappers.filter (Mapper.keeps t)).length t)
  | unread {f : Failure} (hplain : f.isOwn = false) : Aborts mappers mapping table row f
      (.becauseOf .discovery s!"Failed to read columns of Table '{displayName table}': {f.message}" f)

/-- The failure of a row that cannot be read is told so. -/
theorem aborts_unreadable {mappers : Registry} {mapping : TypeMapping} {f : Failure}
    (h : ColumnLine.Offends mappers mapping row f) (htable : after.atlas.IsOpen table name .table) :
    Aborts mappers mapping name row f (Survey.unreadable after.atlas table (partLabel .columns) f) := by
  cases h with
  | nullable hcode hunknown => exact .nullable hcode hunknown
  | unresolved htype hmapped hcount => exact .unresolved htype hmapped hcount
  | unread hplain =>
    have hother : f.isDiscovery = false :=
      Bool.eq_false_iff.mpr fun hdiscovery => by rw [isOwn_of_isDiscovery hdiscovery] at hplain; cases hplain
    obtain ⟨node, hnode, hname, hcontent, -⟩ := htable
    have hkind : node.kind = .table := by rw [Node.kind, hcontent]; rfl
    have hquote (text : String) : text ++ "'" ++ ": " = text ++ "': " := String.append_assoc ..
    have htext : s!"Failed to read {partLabel .columns} of {node.title}: {f.message}" =
        s!"Failed to read columns of Table '{displayName name}': {f.message}" := by
      rw [Node.title, hkind, hname]
      simp [partLabel, NodeKind.name, toString, ← String.append_assoc, hquote]
    simp only [Survey.unreadable, hother, Bool.false_eq_true, if_false, hnode, htext]
    exact .unread hplain

/-- The trees stand at the columns of a table. -/
def Columns (table : NodeId) (trees : List Tree) (before after : Survey Notes) : Prop :=
  List.Forall₂ (after.atlas.Stands (Atlas.New before.atlas after.atlas) 1) (after.atlas.collection table .column) trees

/-- What comes of reading the columns of a table that had none. -/
structure ReadsColumns (plan : Plan) (rows : List Value) (table : NodeId) (name : Option String)
    (before : Survey Notes) (outcome : Except Failure Unit) (after : Survey Notes) : Prop where
  /-- It succeeds exactly if every row says something of a column. -/
  succeeds : outcome = .ok () ↔
    ∀ row ∈ rows, ∃ line : ColumnLine, line.Told plan.mappers before.notes.mapping row
  /-- Then these are the columns, in the order of the rows, and what they do not say is warned about. -/
  columns : ∀ lines, List.Forall₂ (fun row (line : ColumnLine) => line.Told plan.mappers before.notes.mapping row)
    rows lines → Columned table name lines before after ∧ Columns table (lines.map ColumnLine.leaf) before after
  /-- Else the first row that does not say so decides how it fails. The rows before it have given their columns, and
  there is one more, filled in part. -/
  stops : outcome ≠ .ok () → ∃ done row rest lines f told last facts, rows = done ++ row :: rest ∧
    List.Forall₂ (fun row (line : ColumnLine) => line.Told plan.mappers before.notes.mapping row) done lines ∧
    (¬∃ line : ColumnLine, line.Told plan.mappers before.notes.mapping row) ∧
    ColumnLine.read plan.mappers before.notes.mapping row = .error f ∧
    Aborts plan.mappers before.notes.mapping name row f told ∧ outcome = .error told ∧
    HalfColumned table name lines last facts before after ∧
    Columns table (lines.map ColumnLine.leaf ++ [.node last (.column facts) []]) before after

/-- Reading the columns of a table that is answered with some rows begins with these. -/
theorem columnRows_ends_answered (plan : Plan) (space : Namespace) (rows : List Value)
    (htable : before.atlas.IsOpen table name .table) :
    Keeping.EndsAs (rows.mapM (ColumnLine.read plan.mappers before.notes.mapping))
      ((columnRows plan table).rows 0 (rows.map .ok))
      (Survey.opened (.part .columns space.catalog space.schema name) before)
      (fun lines => Wrote table name lines (Survey.opened (.part .columns space.catalog space.schema name) before))
      (Halts plan.mappers before.notes.mapping (rows.map .ok) table name
        (Survey.opened (.part .columns space.catalog space.schema name) before)) := by
  have hopen : (Survey.opened (.part .columns space.catalog space.schema name) before).atlas.IsOpen table name .table :=
    htable
  have hends := columnRows_ends plan (rows.map .ok) hopen 0
  rwa [List.mapM_map] at hends

/-- Rows that can be read to their end are read into their columns. -/
theorem readPart_columned (htable : before.atlas.IsOpen table name .table)
    (hanswer : Answers plan space .columns name before rows)
    (hall : rows.mapM (ColumnLine.read plan.mappers before.notes.mapping) = .ok lines) :
    Keeping.Succeeds (readPart plan space table .columns) before fun _ => Columned table name lines before := by
  have hends := columnRows_ends_answered plan space rows htable
  rw [hall] at hends
  obtain ⟨count, read, hread, hwrote⟩ := hends
  have hcolumned := hwrote.columned
  exact ⟨(), _, readPart_apply htable hanswer hread, ⟨hcolumned.drawn.mapping, hcolumned.drawn.atlas⟩, hcolumned.log⟩

/-- Other rows are read up to the first one that cannot be read. -/
theorem readPart_halfColumned {f : Failure} (htable : before.atlas.IsOpen table name .table)
    (hanswer : Answers plan space .columns name before rows)
    (hall : rows.mapM (ColumnLine.read plan.mappers before.notes.mapping) = .error f) :
    ∃ lines row last facts after, Stops (ColumnLine.read plan.mappers before.notes.mapping) rows lines row f ∧
      readPart plan space table .columns before =
        (.error (Survey.unreadable after.atlas table (partLabel .columns) f), after) ∧
      HalfColumned table name lines last facts before after := by
  have hends := columnRows_ends_answered plan space rows htable
  rw [hall] at hends
  obtain ⟨read, hread, lines, item, g, between, hstops, hwrote, hlast⟩ := hends
  obtain ⟨row, rfl, hrow⟩ := hstops.of_map
  obtain rfl : f = g := Except.error.inj (hall.symm.trans (mapM_of_stops hrow))
  obtain ⟨last, facts, said, hwritten⟩ := hlast
  have hhalf := hwrote.columned.half htable.lt hwritten
  exact ⟨lines, row, last, facts, Survey.closed (.part .columns space.catalog space.schema name) read, hrow,
    readPart_apply htable hanswer hread, ⟨hhalf.drawn.mapping, hhalf.drawn.atlas⟩, hhalf.log⟩

/-- The columns of a table are resolved row by row, up to the first row that does not say something of a column. -/
theorem readPart_columns (htable : before.atlas.IsOpen table name .table)
    (hanswer : Answers plan space .columns name before rows) (hnone : before.atlas.collection table .column = []) :
    ReadsColumns plan rows table name before (readPart plan space table .columns before).1
      (readPart plan space table .columns before).2 := by
  have hcolumns {trees : List Tree} {after : Survey Notes} (h : Drawn table 1 trees before after)
      (hkinds : ∀ tree ∈ trees, tree.kind = .column) : Columns table trees before after := by
    have hadded := h.atlas.collection_added htable.lt hnone
    rwa [List.filter_eq_self.mpr fun tree htree => beq_iff_eq.mpr (hkinds tree htree)] at hadded
  have hleaves : ∀ lines : List ColumnLine, ∀ tree ∈ lines.map ColumnLine.leaf, tree.kind = .column := by
    intro lines tree htree
    obtain ⟨line, -, rfl⟩ := List.mem_map.mp htree
    rfl
  have htold {lines : List ColumnLine} : rows.mapM (ColumnLine.read plan.mappers before.notes.mapping) = .ok lines ↔
      List.Forall₂ (fun row (line : ColumnLine) => line.Told plan.mappers before.notes.mapping row) rows lines := by
    simp only [mapM_eq_ok_iff, ColumnLine.read_eq_ok_iff]
  cases hall : rows.mapM (ColumnLine.read plan.mappers before.notes.mapping) with
  | ok lines =>
    obtain ⟨_, after, hrun, hcolumned⟩ := readPart_columned htable hanswer hall
    rw [hrun]
    refine ⟨iff_of_true rfl ?_, fun others hothers => ?_, fun hfails => absurd rfl hfails⟩
    · exact Atlas.forall_of_forall₂ (htold.mp hall) fun _ line _ hline => ⟨line, hline⟩
    · obtain rfl : lines = others := Except.ok.inj (hall.symm.trans (htold.mpr hothers))
      exact ⟨hcolumned, hcolumns hcolumned.drawn (hleaves lines)⟩
  | error f =>
    obtain ⟨lines, row, last, facts, after, hstops, hrun, hhalf⟩ := readPart_halfColumned htable hanswer hall
    obtain ⟨done, rest, hrows, hdone, hrow⟩ := hstops
    have hnot : ¬∃ line : ColumnLine, line.Told plan.mappers before.notes.mapping row := by
      rintro ⟨line, hline⟩
      cases hrow.symm.trans (ColumnLine.read_eq_ok_iff.mpr hline)
    have haborts := aborts_unreadable (ColumnLine.offends_of_read hrow) (hhalf.drawn.atlas.isOpen htable)
    rw [hrun]
    refine ⟨iff_of_false nofun fun hevery => hnot (hevery row (by simp [hrows])), fun others hothers => ?_, fun _ => ?_⟩
    · cases hall.symm.trans (htold.mpr hothers)
    · refine ⟨done, row, rest, lines, f, _, last, facts, hrows, ?_, hnot, hrow, haborts, rfl, hhalf, ?_⟩
      · exact hdone.imp fun _ _ hline => ColumnLine.read_eq_ok_iff.mp hline
      · refine hcolumns hhalf.drawn (List.forall_mem_append.mpr ⟨hleaves lines, ?_⟩)
        exact List.forall_mem_singleton.mpr rfl

/-! ## An unknown code -/

/-- A row of a column that does not tell whether values are counted up. -/
def codedRow (column : String) (position : Int) (code : Value) (typeName : String) : Value :=
  .record [("COLUMN_NAME", .text column), ("ORDINAL_POSITION", .int position), ("NULLABLE", code),
    ("TYPE_NAME", .text typeName)]

/-- Rows of columns, the last one of which has an unknown code. -/
def codedRows : List Value :=
  [codedRow "id" 1 (.int 0) "INT", codedRow "note" 2 (.bool true) "TEXT", codedRow "odd" 3 (.int 3) "INT"]

/-- A crawl of a source that lists these rows. -/
def codedPlan : Plan where
  vendor := .sqlite
  source _ _ := .ok { rows := codedRows.map .ok }

/-- A table that stands alone, in a crawl that has one type name mapped. -/
def codedTable : Survey Notes :=
  { loneTable "t" with notes := { mapping := [("INT", .builtin "int")] } }

/-- The columns are read up to the row with the unknown code, which is told. -/
theorem readPart_columns_coded :
    ReadsColumns codedPlan codedRows 0 (some "t") codedTable
      (readPart codedPlan ⟨none, some "main"⟩ 0 .columns codedTable).1
      (readPart codedPlan ⟨none, some "main"⟩ 0 .columns codedTable).2 ∧
    (readPart codedPlan ⟨none, some "main"⟩ 0 .columns codedTable).1.isOk = false := by
  have hleaf : codedTable.atlas.IsLeaf 0 (some "t") .table := ⟨_, rfl, rfl, rfl, rfl, rfl⟩
  exact ⟨readPart_columns hleaf.isOpen rfl rfl, by decide +kernel⟩

end SchemaAtlas.Crawl
