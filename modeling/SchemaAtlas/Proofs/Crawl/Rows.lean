import SchemaAtlas.Proofs.Crawl.Filling
import SchemaAtlas.Proofs.Crawl.Lines
import SchemaAtlas.Proofs.Session.Listing

/-!
# The trees that rows are drawn as

Each row of a listing says what a report says, and is drawn as the tree of that report: a column or a column
of a primary key as a leaf, an index or a foreign key as a node with a leaf for each of its columns.
-/

namespace SchemaAtlas

/-- What is known of a column at a position, with the type that its type name is mapped to. -/
def ColumnReport.facts (report : ColumnReport) (mappers : Registry) (mapping : TypeMapping) (position : Nat) :
    ColumnFacts where
  position := some position
  nullable := report.nullable
  typeName := some report.typeName
  size := report.size
  digits := report.scale
  databaseType := mapping.lookup report.typeName
  mapper := (mapping.lookup report.typeName).bind fun t => (mappers.identityFor t).toOption
  autoIncrement := report.increments == some true

/-- What the row of a column at a position says. -/
def ColumnReport.line (report : ColumnReport) (mappers : Registry) (mapping : TypeMapping) (position : Nat) :
    ColumnLine where
  name := some report.name
  position := some position
  nullable := report.nullable
  typeName := some report.typeName
  size := report.size
  digits := report.scale
  resolved := (mapping.lookup report.typeName).bind fun t => (mappers.identityFor t).toOption.map fun m => (t, m)
  increments := report.increments

section

variable {report : ColumnReport} {mappers : Registry} {mapping : TypeMapping} {position : Nat}
  (hmapper : ∀ t, mapping.lookup report.typeName = some t → ∃ m, mappers.identityFor t = .ok m)

include hmapper

/-- If its type has a mapper, that is all that is known of the column. -/
theorem ColumnReport.facts_line :
    (report.line mappers mapping position).facts = report.facts mappers mapping position := by
  have hincrements : report.increments.getD false = (report.increments == some true) := by
    rcases report.increments with - | - | - <;> rfl
  rw [ColumnLine.facts, ColumnReport.facts, line, hincrements]
  cases hlookup : mapping.lookup report.typeName with
  | none => rfl
  | some t =>
    obtain ⟨m, hm⟩ := hmapper t hlookup
    simp [hm, Except.toOption]

/-- A row that says what the report says is told so. -/
theorem ColumnReport.IsRow.told {row : Value} (h : report.IsRow position row) :
    (report.line mappers mapping position).Told mappers mapping row where
  name := ⟨_, h.name, rfl⟩
  position := ⟨_, h.ordinal, rfl⟩
  nullable := by
    refine ⟨_, h.nullable, ?_⟩
    rw [line]
    cases report.nullable <;> simp [Value.equalsInteger]
  type := by
    refine ⟨_, h.typeName, rfl, ?_⟩
    rw [line, Crawl.mappedType]
    cases hlookup : mapping.lookup report.typeName with
    | none => exact .unmapped
    | some t =>
      obtain ⟨m, hm⟩ := hmapper t hlookup
      rw [Option.bind_some, hm]
      exact .mapped ((mappers.identityFor_eq_ok_iff t m).mp hm)
  size := ⟨_, h.size, by rw [line]; cases report.size <;> rfl⟩
  digits := ⟨_, h.digits, by rw [line]; cases report.scale <;> rfl⟩
  increments := by
    rw [h.increments, line]
    rcases report.increments with - | - | - <;> rfl

end

/-- The tree of a column at a position. -/
def ColumnReport.tree (report : ColumnReport) (mappers : Registry) (mapping : TypeMapping) (position : Nat) : Tree :=
  .node (some report.name) (.column (report.facts mappers mapping position)) []

/-- The tree of a column of an index. -/
def IndexReport.leaf (report : IndexReport) (position : Nat) (column : Option String) : Tree :=
  .node (report.shown position column)
    (.indexColumn (some position) (report.order (report.shown position column))) []

/-- What the row of a column of an index says. -/
def IndexReport.line (report : IndexReport) (position : Nat) (column : Option String) : IndexLine where
  unique := report.unique
  column := report.shown position column
  position := some position
  order := report.order (report.shown position column)

/-- A row that says what the report says is told so. -/
theorem IndexReport.IsRow.told {report : IndexReport} {position : Nat} {column : Option String} {row : Value}
    (h : report.IsRow position column row) : (report.line position column).Told row where
  unique := ⟨_, h.nonUnique, (Bool.not_not report.unique).symm⟩
  column := ⟨_, h.name, Crawl.text_ofName _⟩
  position := ⟨_, h.ordinal, rfl⟩
  order := by
    rw [h.order, line]
    cases report.order (report.shown position column) <;> rfl

/-- What the row of a column of an index is in the listing, which is grouped by the names of the indexes. -/
def IndexReport.member (report : IndexReport) (position : Nat) (column : Option String) : Member where
  name := report.name
  content := .index report.unique
  leaf := report.leaf position column

/-- What the rows of an index are. -/
def IndexReport.members (report : IndexReport) : List Member :=
  (report.columns.zipIdx 1).map fun (column, position) => report.member position column

/-- They have the name of the index and its content. -/
theorem IndexReport.of_mem_members {report : IndexReport} {member : Member} (h : member ∈ report.members) :
    member.name = report.name ∧ member.content = .index report.unique := by
  obtain ⟨column, -, rfl⟩ := List.mem_map.mp h
  exact ⟨rfl, rfl⟩

/-- What the rows of an index are, if it has a name; else they do not count. -/
def IndexReport.slots (report : IndexReport) : List (Option Member) :=
  report.members.map fun member => member.name.map fun _ => member

/-- The tree of an index. -/
def IndexReport.tree (report : IndexReport) : Tree :=
  .node report.name (.index report.unique) ((report.columns.zipIdx 1).map fun (column, position) =>
    report.leaf position column)

/-- The members of a listed index form its tree. -/
theorem IndexReport.group?_members {report : IndexReport} (h : report.isListed = true) :
    Member.group? report.members report.name = some report.tree := by
  have hcolumns : report.columns ≠ [] := by
    rintro hnil
    simp [isListed, hnil] at h
  rw [Member.group?_of_named (by simpa [members] using hcolumns) fun member => of_mem_members, members, List.map_map]
  rfl

/-- The rows of an index that count are its members, if it is listed, and else there are none. -/
theorem IndexReport.filterMap_slots (report : IndexReport) :
    report.slots.filterMap id = if report.isListed then report.members else [] := by
  have hslots : report.slots.filterMap id = report.members.filterMap fun member => report.name.map fun _ => member := by
    rw [slots, List.filterMap_map]
    refine List.filterMap_congr fun member hmember => ?_
    rw [Function.comp, (of_mem_members hmember).1]
    rfl
  rw [hslots, isListed]
  cases report.name with
  | none => simp
  | some name => cases hcolumns : report.columns <;> simp [members, hcolumns]

/-- The tree of a column of a primary key. -/
def primaryKeyTree (position : Nat) (column : String) : Tree :=
  .node (some column) (.primaryKeyColumn (some position)) []

/-- The tree of a column of a foreign key. -/
def KeyReport.leaf (report : KeyReport) (position : Nat) (pair : String × String) : Tree :=
  .node (some pair.1) (.foreignKeyColumn {
    position := some position
    schemaName := report.schema
    tableName := some report.table
    columnName := some pair.2 }) []

/-- What the row of a pair of columns of a foreign key says. -/
def KeyReport.line (report : KeyReport) (position : Nat) (pair : String × String) : KeyLine where
  column := some pair.1
  facts := {
    position := some position
    schemaName := report.schema
    tableName := some report.table
    columnName := some pair.2 }

/-- A row that says what the report says is told so. -/
theorem KeyReport.IsRow.told {report : KeyReport} {position : Nat} {pair : String × String} {row : Value}
    (h : report.IsRow position pair row) : (report.line position pair).Told row where
  column := ⟨_, h.name, rfl⟩
  position := ⟨_, h.ordinal, rfl⟩
  schema := ⟨_, h.schema, Crawl.text_ofName _⟩
  table := ⟨_, h.table, rfl⟩
  referred := ⟨_, h.referred, rfl⟩

/-- What the row of a pair of columns of a foreign key is in the listing, which is grouped by the names of the
foreign keys. -/
def KeyReport.member (report : KeyReport) (position : Nat) (pair : String × String) : Member where
  name := some report.name
  content := .foreignKey
  leaf := report.leaf position pair

/-- What the rows of a foreign key are. -/
def KeyReport.members (report : KeyReport) : List Member :=
  (report.columns.zipIdx 1).map fun (pair, position) => report.member position pair

/-- They have the name of the foreign key. -/
theorem KeyReport.of_mem_members {report : KeyReport} {member : Member} (h : member ∈ report.members) :
    member.name = some report.name ∧ member.content = .foreignKey := by
  obtain ⟨pair, -, rfl⟩ := List.mem_map.mp h
  exact ⟨rfl, rfl⟩

/-- The tree of a foreign key. -/
def KeyReport.tree (report : KeyReport) : Tree :=
  .node (some report.name) .foreignKey ((report.columns.zipIdx 1).map fun (pair, position) =>
    report.leaf position pair)

/-- The members of a foreign key with columns form its tree. -/
theorem KeyReport.group?_members {report : KeyReport} (h : report.isListed = true) :
    Member.group? report.members (some report.name) = some report.tree := by
  have hcolumns : report.columns ≠ [] := by
    rintro hnil
    simp [isListed, hnil] at h
  rw [Member.group?_of_named (by simpa [members] using hcolumns) fun member => of_mem_members, members, List.map_map]
  rfl

namespace Crawl

variable {plan : Plan} {table : NodeId} {before : Survey Notes}

/-- A column is filled from its row with what its report says. -/
theorem fillColumn_planted {report : ColumnReport} {position : Nat} {row : Value} {survey : Survey Notes}
    (hrow : report.IsRow position row)
    (h : Planted before table .column { content := .new .column, parent := some table } survey)
    (hmapper : ∀ t, before.notes.mapping.lookup report.typeName = some t → ∃ m, plan.mappers.identityFor t = .ok m) :
    Keeping.Succeeds (fillColumn plan table before.atlas.nodes.size row) survey fun _ =>
      Planted before table .column
        { name := some report.name, parent := some table
          content := .column (report.facts plan.mappers before.notes.mapping position) } := by
  have hfill := fillColumn_ends plan row h
  rw [ColumnLine.read_eq_ok_iff.mpr (hrow.told hmapper), Keeping.EndsAs, ColumnReport.facts_line hmapper] at hfill
  exact hfill.imp fun _ _ hwritten => hwritten.planted

/-- The row of a column draws its tree. -/
theorem draws_column {report : ColumnReport} {position : Nat} {row : Value} {name : Option String}
    (hrow : report.IsRow position row) (htable : before.atlas.IsOpen table name .table)
    (hmapper : ∀ t, before.notes.mapping.lookup report.typeName = some t → ∃ m, plan.mappers.identityFor t = .ok m) :
    Draws (columnRows plan table) table 1 [.ok row]
      [report.tree plan.mappers before.notes.mapping position] before :=
  draws_leaf htable rfl rfl rfl fun _ hs => fillColumn_planted hrow hs hmapper

/-- The row of a column of a primary key draws its tree. -/
theorem draws_primaryKeyColumn {position : Nat} {column : String} {row : Value} {name : Option String}
    (hrow : IsPrimaryKeyRow position column row) (htable : before.atlas.IsOpen table name .table) :
    Draws (primaryKeyRows table) table 1 [.ok row] [primaryKeyTree position column] before := by
  refine draws_leaf htable rfl rfl rfl fun s hs => ?_
  exact (hs.setFrom hrow.name rfl).bind fun _ s hs => hs.setFrom hrow.ordinal rfl

/-! ## Indexes -/

/-- The rows of an index are its members if it has a name, and else none of them counts. -/
theorem slotRows_index {report : IndexReport} {block : List Row} (hblock : report.Listed block) :
    List.Forall₂ (SlotRow (indexRows table) table "INDEX_NAME" .index) block report.slots := by
  rw [IndexReport.slots, IndexReport.members, List.map_map, List.forall₂_map_right_iff]
  refine hblock.imp fun row column hcolumn => ?_
  obtain ⟨v, rfl, hrow⟩ := hcolumn
  have hindex := hrow.index
  cases hname : report.name with
  | none =>
    rw [hname] at hindex
    have hslot : SlotRow (indexRows table) table "INDEX_NAME" .index (.ok v) none :=
      ⟨v, rfl, accepts_indexRow hindex⟩
    simpa only [Function.comp, IndexReport.member, hname, Option.map_none] using hslot
  | some name =>
    rw [hname] at hindex
    have hmember : (report.line column.2 column.1).member (some name) = report.member column.2 column.1 := by
      rw [IndexReport.member, hname]
      rfl
    have hslot : SlotRow (indexRows table) table "INDEX_NAME" .index (.ok v)
        (some (report.member column.2 column.1)) := ⟨rfl, v, rfl, hmember ▸ groupRow_index hindex hrow.told⟩
    simpa only [Function.comp, IndexReport.member, hname, Option.map_some] using hslot

/-- The rows of a foreign key are its members. -/
theorem memberRows_foreignKey {report : KeyReport} {block : List Row} (hblock : report.Listed block) :
    List.Forall₂ (MemberRow (foreignKeyRows table) table "FK_NAME" .foreignKey) block report.members := by
  rw [KeyReport.members, List.forall₂_map_right_iff]
  refine hblock.imp fun row pair hpair => ?_
  obtain ⟨v, rfl, hrow⟩ := hpair
  have hkey : v.field "FK_NAME" = .ok (.ofName (some report.name)) := hrow.key
  exact ⟨rfl, v, rfl, groupRow_foreignKey hkey hrow.told⟩

end Crawl

end SchemaAtlas
