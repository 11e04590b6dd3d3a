import SchemaAtlas.Crawl.Tables
import SchemaAtlas.Proofs.Crawl.Grouping

/-!
# What the rows of indexes and foreign keys say

A row of an index or a foreign key names its group, and says what stands in one column of it. It may say that by any
values that the fields of the nodes take. Every such row is a member of the group of its name: the first row of an
index says whether it is unique, and every row puts its column under the index or foreign key.
-/

namespace SchemaAtlas

/-- What a row says of a column of an index, and whether the index is unique. -/
structure IndexLine where
  unique : Bool
  column : Option String
  position : Option Int
  order : SortOrder

/-- A row says so. -/
structure IndexLine.Told (line : IndexLine) (row : Value) : Prop where
  unique : ∃ mark, row.field "NON_UNIQUE" = .ok mark ∧ line.unique = !Crawl.readsAsSet mark
  column : ∃ v, row.field "COLUMN_NAME" = .ok v ∧ Field.optional Field.text v = .ok line.column
  position : ∃ v, row.field "ORDINAL_POSITION" = .ok v ∧ Field.optional Field.integer v = .ok line.position
  order : (row.field "ASC_OR_DESC" >>= Crawl.sortOrderOfMark) = .ok line.order

/-- The tree of the column. -/
def IndexLine.leaf (line : IndexLine) : Tree :=
  .node line.column (.indexColumn line.position line.order) []

/-- What the row is in the group of an index. -/
def IndexLine.member (line : IndexLine) (index : Option String) : Member where
  name := index
  content := .index line.unique
  leaf := line.leaf

/-- What a row says of a column of a foreign key. -/
structure KeyLine where
  column : Option String
  facts : ReferenceFacts

/-- A row says so. -/
structure KeyLine.Told (line : KeyLine) (row : Value) : Prop where
  column : ∃ v, row.field "FKCOLUMN_NAME" = .ok v ∧ Field.optional Field.text v = .ok line.column
  position : ∃ v, row.field "KEY_SEQ" = .ok v ∧ Field.optional Field.integer v = .ok line.facts.position
  schema : ∃ v, row.fieldOrNull "PKTABLE_SCHEM" = .ok v ∧ Field.optional Field.text v = .ok line.facts.schemaName
  table : ∃ v, row.field "PKTABLE_NAME" = .ok v ∧ Field.optional Field.text v = .ok line.facts.tableName
  referred : ∃ v, row.field "PKCOLUMN_NAME" = .ok v ∧ Field.optional Field.text v = .ok line.facts.columnName

/-- The tree of the column. -/
def KeyLine.leaf (line : KeyLine) : Tree :=
  .node line.column (.foreignKeyColumn line.facts) []

/-- What the row is in the group of a foreign key. -/
def KeyLine.member (line : KeyLine) (key : Option String) : Member where
  name := key
  content := .foreignKey
  leaf := line.leaf

/-- An index takes every flag. -/
theorem Node.assign_unique (name : Option String) (old unique : Bool) (parent : Option NodeId) :
    assign { name, content := .index old, parent } "unique" (.value (.bool unique)) =
      .ok { name, content := .index unique, parent } :=
  rfl

namespace Crawl

variable {table : NodeId} {before : Survey Notes} {row : Value} {name : Option String}

/-- A name is what the field of a name makes of it. -/
theorem text_ofName (name : Option String) : Field.optional Field.text (.ofName name) = .ok name := by
  cases name <;> rfl

/-- A planted node takes a name. -/
theorem Planted.setName {parent : NodeId} {kind : NodeKind} {leaf : Node} {between : Survey Notes} {v : Value}
    {column : String} (h : Planted before parent kind leaf between) (hfrozen : leaf.frozen = false)
    (hrow : row.field column = .ok v) (hname : Field.optional Field.text v = .ok name) :
    Keeping.Succeeds (Survey.setFrom before.atlas.nodes.size "name" row column) between fun _ =>
      Planted before parent kind { leaf with name } :=
  h.setFrom hrow (by rw [Node.assign_name hfrozen, hname])

/-- Whether a node is unnamed is read off the atlas. -/
theorem isUnnamed_apply (id : NodeId) (s : Survey Notes) : isUnnamed id s = (.ok (s.atlas.nameOf id).isNone, s) :=
  rfl

/-- An open node that has no name stays as it is when it is told that it has none. -/
theorem setFrom_unnamed {id : NodeId} {content : Content} {column : String} (h : before.atlas.IsOpen id none content)
    (hrow : row.field column = .ok .null) : Survey.setFrom id "name" row column before = (.ok (), before) := by
  obtain ⟨node, hnode, hname, -, hfrozen⟩ := h
  have hassign : before.atlas.assign id "name" (.value .null) = .ok before.atlas := by
    rw [Atlas.assign_eq hnode, Node.assign_name hfrozen, Field.optional_null]
    have hsame : ({ node with name := none } : Node) = node := by rw [← hname]
    simp only [hsame, Except.map]
    rw [Atlas.update_self hnode]
  rw [Survey.setFrom, Keeping.bind_apply, Keeping.settle_apply, hrow]
  simp only [Survey.setValue, Survey.set, Keeping.bind_apply, Keeping.get_apply, Keeping.settle_apply, hassign]
  rfl

/-! ## Indexes -/

/-- What a row adds to an index besides its name. -/
def fillIndexColumn (index : NodeId) (row : Value) : Step Unit := do
  let column ← Survey.add index .indexColumn
  Survey.setFrom column "name" row "COLUMN_NAME"
  Survey.setFrom column "ordinal_position" row "ORDINAL_POSITION"
  let order ← Keeping.settle (row.field "ASC_OR_DESC" >>= sortOrderOfMark)
  Survey.setValue column "order_type" (.text order.text)

/-- A row puts the tree of its column under an index. -/
theorem fillIndexColumn_drawn {line : IndexLine} {index : NodeId} {unique : Bool} (hrow : line.Told row)
    (hindex : before.atlas.IsOpen index name (.index unique)) :
    Keeping.Succeeds (fillIndexColumn index row) before fun _ => Drawn index 0 [line.leaf] before := by
  obtain ⟨column, hcolumn, hname⟩ := hrow.column
  obtain ⟨position, hposition, hnumber⟩ := hrow.position
  refine (add_planted hindex rfl).bind ?_
  rintro _ s ⟨rfl, hs⟩
  refine (hs.setName rfl hcolumn hname).bind fun _ s hs => ?_
  refine (hs.setFrom hposition (Node.assign_read rfl rfl rfl rfl rfl hnumber)).bind fun _ s hs => ?_
  refine .of_settle hrow.order ?_
  exact (hs.set (Node.assign_orderType ..)).imp fun _ _ hafter => hafter.drawn 0

/-- A row of an index counts if the index has a name. -/
theorem accepts_indexRow {v : Value} (h : row.field "INDEX_NAME" = .ok v) (s : Survey Notes) :
    (indexRows table).accepts row s = (.ok !v.isNull, s) := by
  change (Keeping.settle (row.field "INDEX_NAME") >>= fun name => pure !name.isNull : Step Bool) s = _
  rw [h]
  rfl

/-- A row of an index that has a name puts its column under the index. -/
theorem groupRow_index {line : IndexLine} {name : String} (hindex : row.field "INDEX_NAME" = .ok (.text name))
    (hrow : line.Told row) : GroupRow (indexRows table) table "INDEX_NAME" row (line.member (some name)) := by
  refine ⟨hindex, accepts_indexRow hindex, ?_, ?_⟩
  · intro s t ht
    obtain ⟨mark, hmark, hunique⟩ := hrow.unique
    have hunnamed : isUnnamed s.atlas.nodes.size t = (.ok true, t) := by rw [isUnnamed_apply, ht.nameOf]; rfl
    change Keeping.Succeeds (fillIndex s.atlas.nodes.size row) t _
    rw [Keeping.Succeeds, fillIndex, Keeping.bind_of_ok hunnamed]
    refine (ht.setName rfl hindex rfl).bind fun _ s hs => ?_
    refine .of_settle hmark ?_
    rw [← hunique]
    refine (hs.set (Node.assign_unique ..)).bind fun _ head hhead => ?_
    exact (fillIndexColumn_drawn hrow hhead.isOpen).imp fun _ after hafter => ⟨head, hhead, hafter⟩
  · intro s index held hheld hopen
    obtain ⟨unique, rfl⟩ : ∃ unique, held = .index unique := by
      cases held <;> first | exact ⟨_, rfl⟩ | cases hheld
    have hnamed : isUnnamed index s = (.ok false, s) := by rw [isUnnamed_apply, hopen.nameOf]; rfl
    change Keeping.Succeeds (fillIndex index row) s _
    rw [Keeping.Succeeds, fillIndex, Keeping.bind_of_ok hnamed]
    exact fillIndexColumn_drawn hrow hopen

/-! ## Foreign keys -/

/-- What a row adds to a foreign key besides its name. -/
def fillForeignKeyColumn (key : NodeId) (row : Value) : Step Unit := do
  let column ← Survey.add key .foreignKeyColumn
  Survey.setFrom column "name" row "FKCOLUMN_NAME"
  Survey.setFrom column "ordinal_position" row "KEY_SEQ"
  Survey.setValue column "foreign_schema_name" (← Keeping.settle (row.fieldOrNull "PKTABLE_SCHEM"))
  Survey.setFrom column "foreign_table_name" row "PKTABLE_NAME"
  Survey.setFrom column "foreign_column_name" row "PKCOLUMN_NAME"

/-- A row puts the tree of its column under a foreign key. -/
theorem fillForeignKeyColumn_drawn {line : KeyLine} {key : NodeId} (hrow : line.Told row)
    (hkey : before.atlas.IsOpen key name .foreignKey) :
    Keeping.Succeeds (fillForeignKeyColumn key row) before fun _ => Drawn key 0 [line.leaf] before := by
  obtain ⟨column, hcolumn, hname⟩ := hrow.column
  obtain ⟨position, hposition, hnumber⟩ := hrow.position
  obtain ⟨schema, hschema, hschemaName⟩ := hrow.schema
  obtain ⟨referred, htable, htableName⟩ := hrow.table
  obtain ⟨target, htarget, htargetName⟩ := hrow.referred
  refine (add_planted hkey rfl).bind ?_
  rintro _ s ⟨rfl, hs⟩
  refine (hs.setName rfl hcolumn hname).bind fun _ s hs => ?_
  refine (hs.setFrom hposition (Node.assign_read rfl rfl rfl rfl rfl hnumber)).bind fun _ s hs => ?_
  refine .of_settle hschema ?_
  refine (hs.set (Node.assign_read rfl rfl rfl rfl rfl hschemaName)).bind fun _ s hs => ?_
  refine (hs.setFrom htable (Node.assign_read rfl rfl rfl rfl rfl htableName)).bind fun _ s hs => ?_
  refine Keeping.Succeeds.imp (hs.setFrom htarget (Node.assign_read rfl rfl rfl rfl rfl htargetName)) ?_
  exact fun _ _ hafter => hafter.drawn 0

/-- A row of a foreign key puts its column under the foreign key, which may have no name. -/
theorem groupRow_foreignKey {line : KeyLine} (hkey : row.field "FK_NAME" = .ok (.ofName name)) (hrow : line.Told row) :
    GroupRow (foreignKeyRows table) table "FK_NAME" row (line.member name) := by
  refine ⟨hkey, fun _ => rfl, ?_, ?_⟩
  · intro s t ht
    have hunnamed : isUnnamed s.atlas.nodes.size t = (.ok true, t) := by rw [isUnnamed_apply, ht.nameOf]; rfl
    change Keeping.Succeeds (fillForeignKey s.atlas.nodes.size row) t _
    rw [Keeping.Succeeds, fillForeignKey, Keeping.bind_of_ok hunnamed]
    refine (ht.setName rfl hkey (text_ofName name)).bind fun _ head hhead => ?_
    exact (fillForeignKeyColumn_drawn hrow hhead.isOpen).imp fun _ after hafter => ⟨head, hhead, hafter⟩
  · intro s key held hheld hopen
    obtain rfl : held = .foreignKey := by
      cases held <;> first | rfl | cases hheld
    have hnamed : isUnnamed key s = (.ok name.isNone, s) := by rw [isUnnamed_apply, hopen.nameOf]; rfl
    change Keeping.Succeeds (fillForeignKey key row) s _
    rw [Keeping.Succeeds, fillForeignKey, Keeping.bind_of_ok hnamed]
    cases name with
    | none =>
      have hsame := setFrom_unnamed hopen hkey
      simp only [Option.isNone_none, if_true]
      rw [Keeping.bind_of_ok hsame]
      exact fillForeignKeyColumn_drawn hrow hopen
    | some name => exact fillForeignKeyColumn_drawn hrow hopen

end Crawl

end SchemaAtlas
