import SchemaAtlas.Proofs.Crawl.Unnamed

/-!
# Indexes and foreign keys are grouped by name

The rows of a listing of indexes or of foreign keys come in any order. A table that had no indexes gets one index for
each name, in the order in which the names first come, and so it gets foreign keys. The first row of a name says
whether its index is unique; each of its rows gives one column, and the columns stand in the order of the rows. Rows of
indexes without a name do not count, while a foreign key may well have none.
-/

namespace SchemaAtlas.Crawl

variable {plan : Plan} {space : Namespace} {table : NodeId} {name : Option String} {kind : NodeKind}
  {members : List Member} {before after : Survey Notes}

/-- What a row of a listing of indexes is: it has no name and does not count, or it says what stands in a column of the
index of its name. -/
inductive IndexRow (row : Value) : Option Member → Prop
  | unnamed (hname : row.field "INDEX_NAME" = .ok .null) : IndexRow row none
  | named {index : String} {line : IndexLine} (hname : row.field "INDEX_NAME" = .ok (.text index))
      (htold : line.Told row) : IndexRow row (some (line.member (some index)))

/-- What a row of a listing of foreign keys is: it says what stands in a column of the foreign key of its name, which
may be absent. -/
inductive KeyRow (row : Value) : Member → Prop
  | told (key : Option String) {line : KeyLine} (hname : row.field "FK_NAME" = .ok (.ofName key))
      (htold : line.Told row) : KeyRow row (line.member key)

/-- A source answers the call for a part of a table by some rows. -/
def Answers (plan : Plan) (space : Namespace) (part : TablePart) (name : Option String) (before : Survey Notes)
    (rows : List Value) : Prop :=
  plan.source (Event.calls before.events) (.part part space.catalog space.schema name) = .ok { rows := rows.map .ok }

/-- A table that had no children of a kind gets the groups that some members form. -/
structure Grouped (kind : NodeKind) (members : List Member) (table : NodeId) (before after : Survey Notes) : Prop where
  /-- The groups are put under the table, and all else stays as it is. -/
  drawn : Drawn table 1 (Member.groups members) before after
  /-- They are its children of the kind. -/
  children : List.Forall₂ (after.atlas.Stands (Atlas.New before.atlas after.atlas) 1)
    (after.atlas.collection table kind) (Member.groups members)
  /-- There is one for each name, in the order in which the names first come. -/
  names : after.atlas.names table kind = (members.map Member.name).eraseDups
  /-- A group has its content from the first member of its name, and a leaf from each of them, in their order. -/
  groups : ∀ group, group ∈ Member.groups members ↔ ∃ first rest,
    members.filter (·.name == group.name) = first :: rest ∧
      group = .node group.name first.content ((first :: rest).map Member.leaf)
  /-- The leaf of every member stands under a group, once for each of them. -/
  leaves : ((Member.groups members).flatMap Tree.children).Perm (members.map Member.leaf)

/-- Members that are drawn under a table are grouped. -/
theorem grouped_of_drawn (hkinds : ∀ member ∈ members, member.content.kind = kind)
    (htable : table < before.atlas.nodes.size) (hsound : before.atlas.Sound table)
    (hnone : before.atlas.collection table kind = []) (h : Drawn table 1 (Member.groups members) before after) :
    Grouped kind members table before after := by
  have hall : (Member.groups members).filter (·.kind == kind) = Member.groups members :=
    List.filter_eq_self.mpr fun tree htree => beq_iff_eq.mpr (Member.kind_of_mem_groups hkinds htree)
  refine ⟨h, ?_, ?_, fun group => Member.mem_groups_iff, Member.leaves_groups members⟩
  · have hadded := h.atlas.collection_added htable hnone
    rwa [hall] at hadded
  · rw [h.atlas.names_eq htable hsound, hall, Member.names_groups, Atlas.names, hnone]
    rfl

/-- A part of a table is read as the rows are of the listing that answers the call for it, with its cursor open; a failure
of them, or of closing it, is told as one of reading that part. -/
theorem readPart_listed {part : TablePart} {listing : Listing} {read : Survey Notes} {outcome : Except Failure Nat}
    (hanswer : plan.source (Event.calls before.events)
      (.part part space.catalog space.schema (before.atlas.nameOf table)) = .ok listing)
    (hread : (rowsOf plan table part).rows 0 listing.rows
      (Survey.opened (.part part space.catalog space.schema (before.atlas.nameOf table)) before) = (outcome, read)) :
    readPart plan space table part before = (match Survey.closing listing.closeFailure outcome with
      | .ok _ => .ok ()
      | .error f => .error (Survey.unreadable read.atlas table (partLabel part) f),
        Survey.closed (.part part space.catalog space.schema (before.atlas.nameOf table)) read) := by
  rw [readPart, Keeping.bind_of_ok (Keeping.get_apply _)]
  simp only [readPart.discard, Keeping.bind_apply, Survey.ingest_apply, Survey.consume_accepted hanswer, hread]
  cases Survey.closing listing.closeFailure outcome <;> rfl

/-- So it is where the listing closes without a failure. -/
theorem readPart_apply {part : TablePart} {rows : List Value} {content : Content} {read : Survey Notes}
    {outcome : Except Failure Nat} (htable : before.atlas.IsOpen table name content)
    (hanswer : Answers plan space part name before rows)
    (hread : (rowsOf plan table part).rows 0 (rows.map .ok)
      (Survey.opened (.part part space.catalog space.schema name) before) = (outcome, read)) :
    readPart plan space table part before = (match outcome with
      | .ok _ => .ok ()
      | .error f => .error (Survey.unreadable read.atlas table (partLabel part) f),
        Survey.closed (.part part space.catalog space.schema name) read) := by
  obtain rfl : before.atlas.nameOf table = name := htable.nameOf
  rw [readPart_listed hanswer hread]
  cases outcome <;> rfl

/-- Rows of indexes and of foreign keys are read into groups by their names, in whatever order they come. -/
theorem readPart_groups (plan : Plan) (space : Namespace) (htable : before.atlas.IsOpen table name .table)
    (hsound : before.atlas.Sound table) :
    (∀ rows slots, Answers plan space .indexes name before rows → List.Forall₂ IndexRow rows slots →
      before.atlas.collection table .index = [] →
      Keeping.Succeeds (readPart plan space table .indexes) before fun _ =>
        Grouped .index (slots.filterMap id) table before) ∧
    ∀ rows members, Answers plan space .foreignKeys name before rows → List.Forall₂ KeyRow rows members →
      before.atlas.collection table .foreignKey = [] →
      Keeping.Succeeds (readPart plan space table .foreignKeys) before fun _ =>
        Grouped .foreignKey members table before := by
  have hopen (call : Call) : (Survey.opened call before).atlas.IsOpen table name .table := htable
  have hsound' (call : Call) : (Survey.opened call before).atlas.Sound table := hsound
  constructor
  · intro rows slots hanswer hrows hnone
    have hslots : List.Forall₂ (SlotRow (indexRows table) table "INDEX_NAME" .index) (rows.map .ok) slots := by
      rw [List.forall₂_map_left_iff]
      refine hrows.imp fun row slot hrow => ?_
      cases hrow with
      | unnamed hname => exact ⟨row, rfl, accepts_indexRow hname⟩
      | named hname htold => exact ⟨rfl, row, rfl, groupRow_index hname htold⟩
    have hnames : before.atlas.names table .index = [] := by rw [Atlas.names, hnone]; rfl
    have hdrawn := readPart_drawn htable hanswer (draws_slots (hopen _) rfl (hsound' _) hnames rfl hslots)
    refine hdrawn.imp fun _ after => grouped_of_drawn ?_ htable.lt hsound hnone
    intro member hmember
    obtain ⟨_, hslot, rfl⟩ := List.mem_filterMap.mp hmember
    have hkinds := Atlas.forall_of_forall₂ hslots.flip (p := fun slot => ∀ member, slot = some member →
      member.content.kind = .index) fun slot row _ hrow member hsome => by subst hsome; exact hrow.kind
    exact hkinds _ hslot member rfl
  · intro rows members hanswer hrows hnone
    have hmembers : List.Forall₂ (MemberRow (foreignKeyRows table) table "FK_NAME" .foreignKey) (rows.map .ok)
        members := by
      rw [List.forall₂_map_left_iff]
      refine hrows.imp fun row member hrow => ?_
      cases hrow with
      | told key hname htold => exact ⟨rfl, row, rfl, groupRow_foreignKey hname htold⟩
    have hnames : before.atlas.names table .foreignKey = [] := by rw [Atlas.names, hnone]; rfl
    have hdrawn := readPart_drawn htable hanswer (draws_members (hopen _) rfl (hsound' _) hnames rfl hmembers)
    have hkinds := Atlas.forall_of_forall₂ hmembers.flip fun _ _ _ hrow => hrow.kind
    exact hdrawn.imp fun _ after => grouped_of_drawn hkinds htable.lt hsound hnone

/-! ## Rows in disorder -/

/-- A row of a listing of indexes. -/
def indexRow (index : Value) (nonUnique : Bool) (column : String) (position : Int) : Value :=
  .record [("INDEX_NAME", index), ("NON_UNIQUE", .bool nonUnique), ("COLUMN_NAME", .text column),
    ("ORDINAL_POSITION", .int position), ("ASC_OR_DESC", .text "a")]

/-- A row of a listing of foreign keys that does not tell of a schema. -/
def keyRow (key : Value) (column : String) (position : Int) (target : String) : Value :=
  .record [("FK_NAME", key), ("FKCOLUMN_NAME", .text column), ("KEY_SEQ", .int position),
    ("PKTABLE_NAME", .text "u"), ("PKCOLUMN_NAME", .text target)]

/-- Rows of two indexes, the second one of which comes between those of the first, and a row without a name. -/
def mixedIndexRows : List Value :=
  [indexRow (.text "ix_b") true "x" 1, indexRow (.text "ix_a") false "y" 1, indexRow .null true "z" 0,
    indexRow (.text "ix_b") false "w" 2]

/-- Rows of a foreign key without a name, between which a row of another one comes. -/
def mixedKeyRows : List Value :=
  [keyRow .null "x" 1 "id", keyRow (.text "fk") "y" 1 "id", keyRow .null "z" 2 "no"]

/-- A crawl of a source that lists these rows. -/
def mixedPlan : Plan where
  vendor := .sqlite
  source _
    | .part .indexes .. => .ok { rows := mixedIndexRows.map .ok }
    | .part .foreignKeys .. => .ok { rows := mixedKeyRows.map .ok }
    | _ => .ok { rows := [] }

/-- What the row of an index says. -/
def indexLine (unique : Bool) (column : String) (position : Int) : IndexLine :=
  { unique, column := some column, position := some position, order := .ascending }

/-- A row of an index says so. -/
theorem told_indexRow (index : Value) (unique : Bool) (column : String) (position : Int) :
    (indexLine unique column position).Told (indexRow index (!unique) column position) where
  unique := ⟨_, rfl, (Bool.not_not unique).symm⟩
  column := ⟨_, rfl, rfl⟩
  position := ⟨_, rfl, rfl⟩
  order := rfl

/-- What the row of a foreign key says. -/
def keyLine (column : String) (position : Int) (target : String) : KeyLine where
  column := some column
  facts := { position := some position, tableName := some "u", columnName := some target }

/-- A row of a foreign key says so. -/
theorem told_keyRow (key : Value) (column : String) (position : Int) (target : String) :
    (keyLine column position target).Told (keyRow key column position target) where
  column := ⟨_, rfl, rfl⟩
  position := ⟨_, rfl, rfl⟩
  schema := ⟨_, rfl, rfl⟩
  table := ⟨_, rfl, rfl⟩
  referred := ⟨_, rfl, rfl⟩

/-- These rows are read into the groups of their names. -/
theorem readPart_groups_mixed :
    Keeping.Succeeds (readPart mixedPlan ⟨none, some "main"⟩ 0 .indexes) (loneTable "t") (fun _ =>
      Grouped .index [(indexLine false "x" 1).member (some "ix_b"), (indexLine true "y" 1).member (some "ix_a"),
        (indexLine true "w" 2).member (some "ix_b")] 0 (loneTable "t")) ∧
    Keeping.Succeeds (readPart mixedPlan ⟨none, some "main"⟩ 0 .foreignKeys) (loneTable "t") (fun _ =>
      Grouped .foreignKey [(keyLine "x" 1 "id").member none, (keyLine "y" 1 "id").member (some "fk"),
        (keyLine "z" 2 "no").member none] 0 (loneTable "t")) := by
  have hleaf : (loneTable "t").atlas.IsLeaf 0 (some "t") .table := ⟨_, rfl, rfl, rfl, rfl, rfl⟩
  have hread := readPart_groups mixedPlan ⟨none, some "main"⟩ hleaf.isOpen hleaf.sound
  constructor
  · refine hread.1 mixedIndexRows [some _, some _, none, some _] rfl ?_ rfl
    refine .cons (.named rfl (told_indexRow ..)) (.cons (.named rfl (told_indexRow ..)) ?_)
    exact .cons (.unnamed rfl) (.cons (.named rfl (told_indexRow ..)) .nil)
  · refine hread.2 mixedKeyRows _ rfl ?_ rfl
    refine .cons (.told none rfl (told_keyRow ..)) (.cons (.told (some "fk") rfl (told_keyRow ..)) ?_)
    exact .cons (.told none rfl (told_keyRow ..)) .nil

end SchemaAtlas.Crawl
