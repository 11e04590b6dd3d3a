import SchemaAtlas.Proofs.Atlas.Forest

/-!
# What is known of the types of columns

Three fields of a column tell its type and how that is resolved. An edit leaves what is known of the types of columns,
unless it adds a column or sets one of these fields. And no edit keeps a table from taking columns: tables that take
columns go on to do so, and new tables take them.
-/

namespace SchemaAtlas

/-- What is known of the type of a column. -/
structure Typing where
  typeName : Option String
  databaseType : Option TypeName
  mapper : Option Mapper

/-- The fields of a column that tell it. -/
def Typing.fields : List String :=
  ["type_name", "database_type", "type_mapper"]

/-- What is known of the type of a column of some facts. -/
def ColumnFacts.typing (facts : ColumnFacts) : Typing :=
  ⟨facts.typeName, facts.databaseType, facts.mapper⟩

/-- What is known of the type of a node, if it is a column. -/
def Content.typing? : Content → Option Typing
  | .column facts => some facts.typing
  | _ => none

/-- A new node of another kind is no column. -/
theorem Content.typing?_new {kind : NodeKind} (h : kind ≠ .column) : (new kind).typing? = none := by
  cases kind <;> first | rfl | exact absurd rfl h

/-- Setting another field leaves what is known of the type. -/
theorem Content.typing?_set? {content result : Content} {field : String} {given : Entry}
    (hfield : field ∉ Typing.fields) (h : content.set? field given = some (.ok result)) :
    result.typing? = content.typing? := by
  unfold set? at h
  split at h
  all_goals first
    | exact absurd (by decide) hfield
    | (simp only [Option.some.injEq] at h
       obtain ⟨a, rfl⟩ := exists_of_map_eq_ok h
       rfl)
    | simp at h

/-- So it is for nodes. -/
theorem Node.typing?_set {node next : Node} {field : String} {given : Entry} (hfield : field ∉ Typing.fields)
    (h : node.set field given = .ok next) : next.content.typing? = node.content.typing? := by
  unfold set at h
  split at h
  · cases h
  · split at h
    · split at h <;> cases h
      rfl
    · split at h <;> cases h
      exact Content.typing?_set? hfield ‹_›

namespace Atlas

/-! ## Types of columns -/

/-- What is known of the type of the column at a place. -/
def typing? (atlas : Atlas) (id : NodeId) : Option Typing :=
  (atlas.node? id).bind fun node => node.content.typing?

/-- There is no column where there is no node. -/
theorem typing?_eq_none {atlas : Atlas} {id : NodeId} (h : atlas.nodes.size ≤ id) : atlas.typing? id = none := by
  cases hnode : atlas.node? id with
  | none => rw [typing?, hnode]; rfl
  | some node => exact absurd (lt_of_node? hnode) (Nat.not_lt_of_le h)

/-- An atlas grows without a change of what is known of the types of columns. -/
structure SparesTypes (before after : Atlas) : Prop where
  size : before.nodes.size ≤ after.nodes.size
  typing : ∀ id, after.typing? id = before.typing? id

instance : IsPreorder Atlas SparesTypes where
  refl _ := ⟨Nat.le_refl _, fun _ => rfl⟩
  trans _ _ _ hfirst hsecond :=
    ⟨Nat.le_trans hfirst.size hsecond.size, fun id => (hsecond.typing id).trans (hfirst.typing id)⟩

/-- A plant shows its own content, and no other content changes. -/
theorem typing?_plant (atlas : Atlas) {parent : NodeId} (kind : NodeKind) (leaf : Node)
    (hparent : parent < atlas.nodes.size) (id : NodeId) :
    (atlas.plant parent kind leaf).typing? id =
      if id = atlas.nodes.size then leaf.content.typing? else atlas.typing? id := by
  rw [typing?, typing?, node?_plant atlas kind leaf hparent]
  split
  · rfl
  · split
    · cases atlas.node? id <;> rfl
    · rfl

/-- Adding a child other than a column spares the types of columns. -/
theorem sparesTypes_of_add {atlas : Atlas} {parent : NodeId} {kind : NodeKind} {result : Atlas × NodeId}
    (hkind : kind ≠ .column) (h : atlas.add parent kind = .ok result) : atlas.SparesTypes result.1 := by
  refine ⟨(grows_of_add h).size, fun id => ?_⟩
  obtain ⟨node, hnode, -, -, rfl⟩ := (add_eq_ok_iff atlas parent kind result).mp h
  rw [attach_eq_plant atlas kind (lt_of_node? hnode), typing?_plant atlas kind _ (lt_of_node? hnode)]
  split
  · rename_i hid
    rw [typing?_eq_none (Nat.le_of_eq hid.symm), Content.typing?_new hkind]
  · rfl

/-- So does setting another field. -/
theorem sparesTypes_of_assign {atlas after : Atlas} {id : NodeId} {field : String} {given : Entry}
    (hfield : field ∉ Typing.fields) (h : atlas.assign id field given = .ok after) : atlas.SparesTypes after := by
  refine ⟨(grows_of_assign h).size, fun other => ?_⟩
  obtain ⟨node, next, hnode, -, -, hset, rfl⟩ := (assign_eq_ok_iff atlas id field given after).mp h
  rw [typing?, typing?, node?_update]
  split
  · rename_i hid
    subst hid
    rw [hnode]
    exact Node.typing?_set hfield hset
  · rfl

/-! ## Tables that take columns -/

/-- A node is a table that is not frozen. -/
def TakesColumns (atlas : Atlas) (id : NodeId) : Prop :=
  ∃ name, atlas.IsOpen id name .table

/-- All tables of a schema take columns. -/
def Receptive (atlas : Atlas) (schema : NodeId) : Prop :=
  ∀ table ∈ atlas.collection schema .table, atlas.TakesColumns table

/-- Tables go on to take columns, new tables take columns, and so do all tables of new schemas. -/
structure StaysReceptive (before after : Atlas) : Prop where
  lasts : ∀ id, before.TakesColumns id → after.TakesColumns id
  tables : ∀ id, ∀ table ∈ after.collection id .table, table ∈ before.collection id .table ∨ after.TakesColumns table
  schemas : ∀ id, ∀ schema ∈ after.collection id .schema,
    schema ∈ before.collection id .schema ∨ after.Receptive schema

/-- The tables of a schema go on to take columns. -/
theorem StaysReceptive.receptive {before after : Atlas} (h : before.StaysReceptive after) {schema : NodeId}
    (hschema : before.Receptive schema) : after.Receptive schema := fun table htable =>
  (h.tables schema table htable).elim (fun hold => h.lasts table (hschema table hold)) id

instance : IsPreorder Atlas StaysReceptive where
  refl _ := ⟨fun _ h => h, fun _ _ h => .inl h, fun _ _ h => .inl h⟩
  trans _ _ _ hfirst hsecond :=
    { lasts := fun id h => hsecond.lasts id (hfirst.lasts id h)
      tables := fun id table htable => (hsecond.tables id table htable).elim
        (fun hbetween => (hfirst.tables id table hbetween).imp_right (hsecond.lasts table)) .inr
      schemas := fun id schema hschema => (hsecond.schemas id schema hschema).elim
        (fun hbetween => (hfirst.schemas id schema hbetween).imp_right hsecond.receptive) .inr }

/-- A child that is in the atlas after a node was attached is the node, or was a child before. -/
theorem mem_collection_attach {atlas : Atlas} {parent id child : NodeId} {kind sort : NodeKind}
    (hparent : parent < atlas.nodes.size) (h : child ∈ (atlas.attach parent kind).1.collection id sort) :
    child ∈ atlas.collection id sort ∨ child = atlas.nodes.size ∧ sort = kind := by
  obtain ⟨next, hnext, hmem⟩ := mem_collection_iff.mp h
  obtain ⟨-, rfl⟩ | ⟨node, hnode, rfl⟩ := node?_attach_cases hparent hnext
  · cases hmem
  · rcases List.mem_append.mp hmem with hold | hadded
    · exact .inl (mem_collection_iff.mpr ⟨node, hnode, hold⟩)
    · split at hadded
      · obtain ⟨rfl, rfl⟩ := Prod.mk.inj (List.mem_singleton.mp hadded)
        exact .inr ⟨rfl, rfl⟩
      · cases hadded

/-- Adding a child leaves tables receptive. -/
theorem staysReceptive_of_add {atlas : Atlas} {parent : NodeId} {kind : NodeKind} {result : Atlas × NodeId}
    (h : atlas.add parent kind = .ok result) : atlas.StaysReceptive result.1 := by
  obtain ⟨node, hnode, -, -, rfl⟩ := (add_eq_ok_iff atlas parent kind result).mp h
  have hparent := lt_of_node? hnode
  have hnew : (atlas.attach parent kind).1.node? atlas.nodes.size =
      some { content := .new kind, parent := some parent } := by
    rw [node?_attach atlas kind hparent, if_pos rfl]
  constructor
  case lasts =>
    rintro id ⟨name, table, htable, hname, hcontent, hfrozen⟩
    exact ⟨name, _, node?_attach_old kind hparent htable, hname, hcontent, hfrozen⟩
  case tables =>
    intro id table htable
    refine (mem_collection_attach hparent htable).imp_right ?_
    rintro ⟨rfl, rfl⟩
    exact ⟨none, _, hnew, rfl, rfl, rfl⟩
  case schemas =>
    intro id schema hschema
    refine (mem_collection_attach hparent hschema).imp_right ?_
    rintro ⟨rfl, rfl⟩ table htable
    rw [collection, hnew] at htable
    cases htable

/-- So does setting a field. -/
theorem staysReceptive_of_assign {atlas after : Atlas} {id : NodeId} {field : String} {given : Entry}
    (h : atlas.assign id field given = .ok after) : atlas.StaysReceptive after := by
  obtain ⟨node, next, hnode, -, -, hset, rfl⟩ := (assign_eq_ok_iff atlas id field given after).mp h
  obtain ⟨hkind, -, hfrozen, hchildren⟩ := Node.sameFrame_set hset
  have hcollection (other : NodeId) (kind : NodeKind) :
      (atlas.update id fun _ => next).collection other kind = atlas.collection other kind := by
    rw [collection, collection, node?_update]
    by_cases hid : id = other
    · subst hid
      simp only [hnode, if_true, Option.map_some, Node.collection, hchildren]
    · rw [if_neg hid]
  refine ⟨?_, fun other table htable => .inl ?_, fun other schema hschema => .inl ?_⟩
  · rintro other ⟨name, table, htable, hname, hcontent, hthawed⟩
    by_cases hid : id = other
    · subst hid
      obtain rfl : node = table := Option.some.inj (hnode.symm.trans htable)
      refine ⟨next.name, next, by rw [node?_update, if_pos rfl, hnode]; rfl, rfl, ?_, hfrozen.trans hthawed⟩
      rw [Node.kind, Node.kind, hcontent] at hkind
      cases hnext : next.content <;> rw [hnext] at hkind <;> first | rfl | cases hkind
    · exact ⟨name, table, by rw [node?_update, if_neg hid, htable], hname, hcontent, hthawed⟩
  · rwa [hcollection] at htable
  · rwa [hcollection] at hschema

end Atlas

end SchemaAtlas
