import SchemaAtlas.Proofs.Atlas.Siblings
import SchemaAtlas.Proofs.Crawl.Course
import SchemaAtlas.Proofs.Crawl.Document
import SchemaAtlas.Proofs.Crawl.Grouping

/-!
# Foreign keys without names

A foreign key that is reported without a name is listed under one that is invented for it: the table, the
constrained columns and the table that is referred to, joined by underscores. Keys for which the same name is
invented are read into one foreign key with the columns of all of them. That happens where keys differ only in
the schema that they refer to or in the columns there, and where underscores in names make the joined texts
alike.
-/

namespace SchemaAtlas

/-- A foreign key that a connection reports without a name: the table it refers to, and its pairs of columns. -/
structure UnnamedKey where
  schema : Option String := none
  table : String
  columns : List (String × String)

namespace UnnamedKey

/-- A connection tells of a foreign key what the report says, under no name or an empty one. -/
structure Told (key : UnnamedKey) (fields : List (String × Value)) : Prop where
  unnamed : ((fields.lookup "name").getD .null).isTrue = false
  schema : (fields.lookup "referred_schema").getD .null = .ofName key.schema
  table : fields.lookup "referred_table" = some (.text key.table)
  columns : fields.lookup "constrained_columns" = some (.list (key.columns.map fun pair => .text pair.1))
  referred : fields.lookup "referred_columns" = some (.list (key.columns.map fun pair => .text pair.2))

/-- The constrained columns of a key. -/
def constrained (key : UnnamedKey) : List String :=
  key.columns.map Prod.fst

/-- The names that go into the invented name: the constrained columns and the table that is referred to. -/
def parts (key : UnnamedKey) : List String :=
  key.constrained ++ [key.table]

/-- These names in one text. -/
def stem (key : UnnamedKey) : String :=
  "_".intercalate key.parts

/-- No name that goes into the invented name has an underscore. -/
def IsPlain (key : UnnamedKey) : Prop :=
  ∀ part ∈ key.parts, '_' ∉ part.toList

/-- The name that is invented for a key of a table. -/
def invented (table : String) (key : UnnamedKey) : String :=
  table ++ "_" ++ "_".intercalate key.constrained ++ "_" ++ key.table ++ "_fkey"

/-- A key of a table under the name that is invented for it. -/
def named (table : String) (key : UnnamedKey) : KeyReport where
  name := key.invented table
  schema := key.schema
  table := key.table
  columns := key.columns

/-- The keys of a table for which a name is invented. -/
def sharing (table : String) (keys : List UnnamedKey) (name : String) : List UnnamedKey :=
  keys.filter fun key => key.invented table == name

/-- The foreign key that the keys of one name are read into, with the columns of each of them. -/
def merged (table : String) (keys : List UnnamedKey) (name : String) : Tree :=
  .node (some name) .foreignKey ((sharing table keys name).flatMap fun key => (key.named table).tree.children)

/-- The names that are invented for the keys of a table, each once. -/
def inventedNames (table : String) (keys : List UnnamedKey) : List String :=
  (keys.map (invented table)).eraseDups

/-- The foreign keys that the keys of a table are read into, one for each name. -/
def mergedKeys (table : String) (keys : List UnnamedKey) : List Tree :=
  (inventedNames table keys).map (merged table keys)

variable {key other : UnnamedKey} {table name : String} {keys : List UnnamedKey}

/-! ## Invented names -/

/-- The names of a key with columns stand between its table and an ending. -/
theorem invented_eq (h : key.columns ≠ []) : key.invented table = table ++ "_" ++ key.stem ++ "_fkey" := by
  have hconstrained : key.constrained ≠ [] := by simpa [constrained] using h
  rw [stem, parts, String.intercalate_append_of_ne_nil hconstrained (by simp), String.intercalate_singleton]
  simp only [invented, String.append_assoc]

/-- The same name is invented for two keys of a table exactly if their names make one text. -/
theorem invented_eq_iff (h : key.columns ≠ []) (hother : other.columns ≠ []) :
    key.invented table = other.invented table ↔ key.stem = other.stem := by
  rw [invented_eq h, invented_eq hother]
  simp only [String.append_left_inj, String.append_right_inj]

/-- The names that are invented for some keys are different exactly if these make different texts. -/
theorem nodup_invented_iff (h : ∀ key ∈ keys, key.columns ≠ []) :
    (keys.map (invented table)).Nodup ↔ (keys.map stem).Nodup := by
  rw [List.Nodup, List.pairwise_map, List.pairwise_map]
  exact List.Pairwise.iff_of_mem fun hkey hother => not_congr (invented_eq_iff (h _ hkey) (h _ hother))

/-- The names that go into invented names are the same if the constrained columns are and the tables that are
referred to have one name. -/
theorem parts_eq_iff : key.parts = other.parts ↔ key.constrained = other.constrained ∧ key.table = other.table := by
  constructor
  · intro h
    obtain ⟨hconstrained, htable⟩ := List.append_inj' h rfl
    exact ⟨hconstrained, List.singleton_inj.mp htable⟩
  · rintro ⟨hconstrained, htable⟩
    rw [parts, parts, hconstrained, htable]

/-- Where no name has an underscore, the text tells the names. -/
theorem stem_eq_iff (h : key.IsPlain) (hother : other.IsPlain) : key.stem = other.stem ↔ key.parts = other.parts := by
  have hsplit {some : UnnamedKey} (hplain : some.IsPlain) :
      some.stem.toList.splitOn '_' = some.parts.map String.toList := by
    rw [stem, String.toList_intercalate]
    refine List.splitOn_intercalate '_' ?_ (by simp [parts])
    intro text htext
    obtain ⟨part, hpart, rfl⟩ := List.mem_map.mp htext
    exact hplain part hpart
  constructor
  · intro heq
    have hparts := hsplit h
    rw [heq, hsplit hother] at hparts
    exact (List.map_injective_iff.mpr (fun _ _ => String.toList_injective) hparts).symm
  · exact fun heq => congrArg ("_".intercalate ·) heq

end UnnamedKey

namespace Reflection

/-- Texts are texts. -/
theorem textsOf_texts (position : Nat) (texts : List String) : textsOf position (texts.map .text) = .ok texts := by
  induction texts generalizing position with
  | nil => rfl
  | cons text texts ih => rw [List.map_cons, textsOf, ih]; rfl

/-- A key without a name is listed under the name that is invented for it. -/
theorem foreignKeyName_unnamed {key : UnnamedKey} {fields : List (String × Value)} (h : key.Told fields)
    (table : String) :
    foreignKeyName (.text table) (.record fields) (.list (key.columns.map fun pair => .text pair.1)) =
      .ok (.text (key.invented table)) := by
  have htexts : textsOf 0 (key.columns.map fun pair => .text pair.1) = .ok key.constrained := by
    rw [← textsOf_texts 0 key.constrained, UnnamedKey.constrained, List.map_map]
    rfl
  simp only [foreignKeyName, Value.fieldOrNull, h.unnamed, bind, Except.bind, Bool.false_eq_true, if_false,
    inventedName, joined, Value.items, htexts, Except.map, Value.field, h.table]
  rfl

/-- The rows of a key without a name say what is told of it, under the name that is invented for it. -/
theorem foreignKeyRows_unnamed {key : UnnamedKey} {fields : List (String × Value)} (h : key.Told fields)
    (table : String) : (key.named table).Listed (foreignKeyRows (.text table) (.record fields)) :=
  foreignKeyRows_listed (foreignKeyName_unnamed h table) h.schema h.table h.columns h.referred

end Reflection

namespace UnnamedKey

variable {key : UnnamedKey} {table name : String} {keys : List UnnamedKey}

/-! ## Keys of one name -/

/-- The groups of the rows of keys with columns are the foreign keys that they are read into. -/
theorem groups_members (h : ∀ key ∈ keys, key.columns ≠ []) :
    Member.groups (keys.flatMap fun key => (key.named table).members) = mergedKeys table keys := by
  have hsome : ∀ key ∈ keys, (key.named table).members ≠ [] := by
    intro key hkey
    simpa [KeyReport.members, named] using h key hkey
  have hname : ∀ key ∈ keys, ∀ member ∈ (key.named table).members, member.name = some (key.invented table) :=
    fun key _ member hmember => (KeyReport.of_mem_members hmember).1
  have hnames : (keys.map fun key => some (key.invented table)).eraseDups = (inventedNames table keys).map some := by
    rw [inventedNames, ← Crawl.eraseDups_map (f := some) fun _ _ => Option.some.inj, List.map_map]
    rfl
  rw [Member.groups_flatMap hname hsome, hnames, List.filterMap_map, mergedKeys, ← List.filterMap_eq_map]
  refine List.filterMap_congr fun name hmem => ?_
  obtain ⟨key, hkey, hinvented⟩ := List.mem_map.mp (List.mem_eraseDups.mp hmem)
  have hshares : key ∈ sharing table keys name := List.mem_filter.mpr ⟨hkey, beq_iff_eq.mpr hinvented⟩
  have hsharing : (keys.filter fun key => some (key.invented table) == some name) = sharing table keys name := rfl
  rw [Function.comp, hsharing, Member.group?_of_named, List.map_flatMap]
  · simp only [KeyReport.members, List.map_map]
    rfl
  · exact fun hnil => hsome key hkey (List.flatMap_eq_nil_iff.mp hnil key hshares)
  · intro member hmember
    obtain ⟨other, hother, hmember⟩ := List.mem_flatMap.mp hmember
    obtain ⟨hname, hcontent⟩ := KeyReport.of_mem_members hmember
    exact ⟨hname.trans (congrArg some (beq_iff_eq.mp (List.mem_filter.mp hother).2)), hcontent⟩

/-- They are foreign keys. -/
theorem kind_of_mem_mergedKeys {tree : Tree} (h : tree ∈ mergedKeys table keys) : tree.kind = .foreignKey := by
  obtain ⟨name, -, rfl⟩ := List.mem_map.mp h
  rfl

/-- They have the names that were invented. -/
theorem names_mergedKeys (table : String) (keys : List UnnamedKey) :
    (mergedKeys table keys).map Tree.name = (inventedNames table keys).map some := by
  rw [mergedKeys, List.map_map]
  rfl

/-- The columns of a foreign key that keys are read into differ in name if those of the keys do. -/
theorem distinct_merged :
    (merged table keys name).Distinct 1 ↔ ((sharing table keys name).flatMap constrained).Nodup := by
  have hkind : ∀ child ∈ (sharing table keys name).flatMap fun key => (key.named table).tree.children,
      child.kind = .foreignKeyColumn := by
    intro child hchild
    obtain ⟨key, -, hmem⟩ := List.mem_flatMap.mp hchild
    obtain ⟨pair, -, rfl⟩ := List.mem_map.mp hmem
    rfl
  have hnames (key : UnnamedKey) : (key.named table).tree.children.map Tree.name = key.constrained.map some := by
    rw [constrained, List.map_map]
    change ((key.columns.zipIdx 1).map _).map Tree.name = _
    rw [List.map_map]
    exact map_zipIdx_fst (fun pair => some pair.1) key.columns
  rw [merged, Tree.distinct_iff_of_kind hkind, List.map_flatMap]
  simp only [hnames, ← List.map_flatMap, Tree.Distinct, implies_true, and_true]
  exact List.nodup_map_iff fun _ _ => Option.some.inj

end UnnamedKey

namespace Crawl

variable {plan : Plan} {connection : Connection} {space : Namespace} {table : String} {id : NodeId}
  {keys : List UnnamedKey} {before after : Survey Notes}

/-- A connection tells of the foreign keys of a table, none of which it names, what the reports say. -/
def TellsUnnamed (connection : Connection) (space : Namespace) (table : String) (keys : List UnnamedKey) : Prop :=
  ∃ items, connection.inspect (.part .foreignKeys (some table) (Reflection.lookupName space.catalog space.schema)) =
      .ok (.list items) ∧
    List.Forall₂ (fun item (key : UnnamedKey) => ∃ fields, item = .record fields ∧ key.Told fields) items keys

/-- The rows of the foreign keys are listed key by key, each under the name that is invented for it. -/
def ListsUnnamed (plan : Plan) (space : Namespace) (table : String) (keys : List UnnamedKey)
    (blocks : List (List Row)) : Prop :=
  (∀ earlier, plan.source earlier (.part .foreignKeys space.catalog space.schema (some table)) =
      .ok { rows := blocks.flatten }) ∧
    List.Forall₂ (fun block (key : UnnamedKey) => (key.named table).Listed block) blocks keys

/-- A connection that tells of foreign keys without names lists them under the names that are invented. -/
theorem listsUnnamed_of_tells (hsource : plan.source = Reflection.source plan.vendor connection)
    (htold : TellsUnnamed connection space table keys) : ∃ blocks, ListsUnnamed plan space table keys blocks := by
  obtain ⟨items, hanswer, hitems⟩ := htold
  have hlisted : ∃ blocks, Reflection.rowsOf (.ok (.list items)) (fun _ item =>
      Reflection.foreignKeyRows (.text table) item) = blocks.flatten ∧
        List.Forall₂ (fun block (key : UnnamedKey) => (key.named table).Listed block) blocks keys := by
    refine Reflection.rowsOf_blocks hitems fun item key hitem => ?_
    obtain ⟨fields, rfl, hkey⟩ := hitem
    exact Reflection.foreignKeyRows_unnamed hkey table
  obtain ⟨blocks, hrows, hblocks⟩ := hlisted
  refine ⟨blocks, fun earlier => ?_, hblocks⟩
  rw [hsource, ← hrows]
  change Except.ok _ = _
  simp only [Reflection.callRows, hanswer]
  rfl

/-- The rows of foreign keys without names draw one foreign key for each name that is invented. -/
theorem draws_unnamed {blocks : List (List Row)} {label : Option String} (hcolumns : ∀ key ∈ keys, key.columns ≠ [])
    (hblocks : List.Forall₂ (fun block (key : UnnamedKey) => (key.named table).Listed block) blocks keys)
    (htable : before.atlas.IsOpen id label .table) (hsound : before.atlas.Sound id)
    (hnone : before.atlas.names id .foreignKey = []) :
    Draws (foreignKeyRows id) id 1 blocks.flatten (UnnamedKey.mergedKeys table keys) before := by
  rw [← UnnamedKey.groups_members hcolumns]
  refine draws_members htable rfl hsound hnone rfl ?_
  rw [List.flatMap_def]
  exact List.rel_flatten (List.forall₂_map_right_iff.mpr (hblocks.imp fun _ _ hblock => memberRows_foreignKey hblock))

/-- What comes of reading the foreign keys of a table, each of which has columns and none of which has a name. -/
structure ReadsUnnamed (plan : Plan) (space : Namespace) (table : String) (keys : List UnnamedKey) (id : NodeId)
    (before after : Survey Notes) : Prop where
  /-- The rows of each key carry the name that is invented for it. -/
  listed : ∃ blocks, ListsUnnamed plan space table keys blocks
  /-- Two keys have one name exactly if their columns and the names of their tables make one text. -/
  shared : ∀ key ∈ keys, ∀ other ∈ keys, key.invented table = other.invented table ↔ key.stem = other.stem
  /-- Without underscores these must be the same. The schemas that the keys refer to do not matter. -/
  plain : ∀ key ∈ keys, ∀ other ∈ keys, key.IsPlain → other.IsPlain →
    (key.invented table = other.invented table ↔ key.constrained = other.constrained ∧ key.table = other.table)
  /-- The table gets one foreign key for each name, with the columns of all keys of the name. -/
  drawn : Drawn id 1 (UnnamedKey.mergedKeys table keys) before after
  /-- There is one foreign key for each key exactly if no two keys have one name. -/
  apart : (after.atlas.collection id .foreignKey).length = keys.length ↔ (keys.map UnnamedKey.stem).Nodup
  /-- The foreign keys make freezing fail exactly if a column is constrained twice among the keys of one name. -/
  freezes : (after.atlas.freeze id).1 = .ok () ↔ (before.atlas.freeze id).1 = .ok () ∧
    ∀ name ∈ UnnamedKey.inventedNames table keys,
      ((UnnamedKey.sharing table keys name).flatMap UnnamedKey.constrained).Nodup

section

variable (hdrawn : Drawn id 1 (UnnamedKey.mergedKeys table keys) before after)
  (hlt : id < before.atlas.nodes.size) (hsound : before.atlas.Sound id)
  (hnone : before.atlas.names id .foreignKey = [])

include hdrawn hlt hsound hnone

/-- The foreign keys of the table have the names that were invented. -/
theorem names_unnamed :
    after.atlas.names id .foreignKey = (UnnamedKey.inventedNames table keys).map some := by
  have hall : (UnnamedKey.mergedKeys table keys).filter (·.kind == .foreignKey) = UnnamedKey.mergedKeys table keys :=
    List.filter_eq_self.mpr fun tree htree => beq_iff_eq.mpr (UnnamedKey.kind_of_mem_mergedKeys htree)
  rw [hdrawn.atlas.names_eq hlt hsound, hnone, hall, UnnamedKey.names_mergedKeys, List.nil_append]

/-- The names of its other children stay, and no two foreign keys have one name. -/
theorem nodup_names_unnamed :
    (∀ kind, (after.atlas.names id kind).Nodup) ↔ ∀ kind, (before.atlas.names id kind).Nodup := by
  refine forall_congr' fun kind => ?_
  by_cases hkind : kind = .foreignKey
  · subst hkind
    rw [names_unnamed hdrawn hlt hsound hnone, hnone]
    exact iff_of_true ((nodup_eraseDups _).map fun _ _ => Option.some.inj) List.nodup_nil
  · have hother : (UnnamedKey.mergedKeys table keys).filter (·.kind == kind) = [] :=
      List.filter_eq_nil_iff.mpr fun tree htree hof =>
        hkind ((beq_iff_eq.mp hof).symm.trans (UnnamedKey.kind_of_mem_mergedKeys htree))
    rw [hdrawn.atlas.names_eq hlt hsound, hother, List.map_nil, List.append_nil]

/-- The table gets a foreign key for each of its keys exactly if these make different texts. -/
theorem length_unnamed (hcolumns : ∀ key ∈ keys, key.columns ≠ []) :
    (after.atlas.collection id .foreignKey).length = keys.length ↔ (keys.map UnnamedKey.stem).Nodup := by
  have hlength := congrArg List.length (names_unnamed hdrawn hlt hsound hnone)
  rw [Atlas.names, List.length_map, List.length_map] at hlength
  rw [hlength, UnnamedKey.inventedNames, ← List.length_map (f := UnnamedKey.invented table), length_eraseDups_eq_iff]
  exact UnnamedKey.nodup_invented_iff hcolumns

/-- The foreign keys make freezing the table fail exactly if a column is constrained twice among the keys of one
name. -/
theorem freezes_unnamed (hbefore : before.atlas.Proper) (hafter : after.atlas.Proper) :
    (after.atlas.freeze id).1 = .ok () ↔ (before.atlas.freeze id).1 = .ok () ∧
      ∀ name ∈ UnnamedKey.inventedNames table keys,
        ((UnnamedKey.sharing table keys name).flatMap UnnamedKey.constrained).Nodup := by
  obtain ⟨node, hnode⟩ := Atlas.exists_of_lt hlt
  obtain ⟨added, hnext, -⟩ := hdrawn.atlas.children node hnode
  have hheight : ∀ tree ∈ UnnamedKey.mergedKeys table keys, tree.kind.height ≤ 1 := by
    intro tree htree
    rw [UnnamedKey.kind_of_mem_mergedKeys htree]
    exact Nat.le_refl 1
  rw [(Atlas.froze_freeze hafter.formed hafter.settled hnext).returns,
    (Atlas.froze_freeze hbefore.formed hbefore.settled hnode).returns,
    hdrawn.atlas.distinctBelow_iff hbefore.formed hafter.formed hnode hheight
      (nodup_names_unnamed hdrawn hlt hsound hnone), UnnamedKey.mergedKeys, List.forall_mem_map]
  simp only [UnnamedKey.distinct_merged]

end

/-- The foreign keys of a table that a connection reports without names are read, one foreign key for each name
that is invented for them. -/
theorem readPart_unnamed (hsource : plan.source = Reflection.source plan.vendor connection)
    (htold : TellsUnnamed connection space table keys) (hcolumns : ∀ key ∈ keys, key.columns ≠ [])
    (hproper : before.atlas.Proper) (htable : before.atlas.IsOpen id (some table) .table)
    (hsound : before.atlas.Sound id) (hnone : before.atlas.names id .foreignKey = []) :
    ∃ after, readPart plan space id .foreignKeys before = (.ok (), after) ∧
      ReadsUnnamed plan space table keys id before after := by
  obtain ⟨blocks, hlists⟩ := listsUnnamed_of_tells hsource htold
  have hread : Keeping.Succeeds (readPart plan space id .foreignKeys) before fun _ =>
      Drawn id 1 (UnnamedKey.mergedKeys table keys) before :=
    readPart_drawn htable (hlists.1 _) (draws_unnamed hcolumns hlists.2 htable hsound hnone)
  obtain ⟨_, after, hrun, hdrawn⟩ := hread
  have hafter := (keeps_readPart allows_evolves Survey.keeps_record plan space id .foreignKeys before hproper).2
  rw [hrun] at hafter
  refine ⟨after, hrun, ?_⟩
  exact {
    listed := ⟨blocks, hlists⟩
    shared := fun key hkey other hother => UnnamedKey.invented_eq_iff (hcolumns key hkey) (hcolumns other hother)
    plain := by
      intro key hkey other hother hplain hplain'
      rw [UnnamedKey.invented_eq_iff (hcolumns key hkey) (hcolumns other hother),
        UnnamedKey.stem_eq_iff hplain hplain', UnnamedKey.parts_eq_iff]
    drawn := hdrawn
    apart := length_unnamed hdrawn htable.lt hsound hnone hcolumns
    freezes := freezes_unnamed hdrawn htable.lt hsound hnone hproper hafter }

/-! ## Two schemas -/

/-- A table of a name that stands alone. -/
def loneTable (name : String) : Survey Notes :=
  { atlas := (Atlas.create {} { name := some name, content := .table }).1, notes := {} }

/-- Two keys of one column that refer to tables of one name in two schemas. -/
def twinKeys : List UnnamedKey :=
  [{ schema := some "a", table := "u", columns := [("x", "id")] },
    { schema := some "b", table := "u", columns := [("x", "id")] }]

/-- A connection that tells of these keys. -/
def twinConnection : Connection where
  inspect
    | .part .foreignKeys .. => .ok (.list (["a", "b"].map fun schema => .record
        [("constrained_columns", .list [.text "x"]), ("referred_schema", .text schema), ("referred_table", .text "u"),
          ("referred_columns", .list [.text "id"])]))
    | _ => .ok (.list [])

/-- A crawl of that connection. -/
def twinPlan : Plan where
  vendor := .sqlite
  source := Reflection.source .sqlite twinConnection

/-- The connection tells of the keys, wherever they are looked up. -/
theorem tellsUnnamed_twin (space : Namespace) (table : String) :
    TellsUnnamed twinConnection space table twinKeys :=
  ⟨_, rfl, .cons ⟨_, rfl, rfl, rfl, rfl, rfl, rfl⟩ (.cons ⟨_, rfl, rfl, rfl, rfl, rfl, rfl⟩ .nil)⟩

/-- The keys are read. -/
theorem readPart_unnamed_twin :
    TellsUnnamed twinConnection ⟨none, some "main"⟩ "t" twinKeys ∧ (∀ key ∈ twinKeys, key.columns ≠ []) ∧
      (loneTable "t").atlas.Proper ∧ (loneTable "t").atlas.IsOpen 0 (some "t") .table ∧
      (loneTable "t").atlas.Sound 0 ∧ (loneTable "t").atlas.names 0 .foreignKey = [] ∧
      ∃ after, readPart twinPlan ⟨none, some "main"⟩ 0 .foreignKeys (loneTable "t") = (.ok (), after) ∧
        ReadsUnnamed twinPlan ⟨none, some "main"⟩ "t" twinKeys 0 (loneTable "t") after := by
  have htold := tellsUnnamed_twin ⟨none, some "main"⟩ "t"
  have hcolumns : ∀ key ∈ twinKeys, key.columns ≠ [] := by decide
  have hproper : (loneTable "t").atlas.Proper := (Atlas.evolves_create {} rfl rfl rfl Atlas.proper_empty).2
  have hleaf : (loneTable "t").atlas.IsLeaf 0 (some "t") .table := ⟨_, rfl, rfl, rfl, rfl, rfl⟩
  exact ⟨htold, hcolumns, hproper, hleaf.isOpen, hleaf.sound, hleaf.names .foreignKey,
    readPart_unnamed rfl htold hcolumns hproper hleaf.isOpen hleaf.sound (hleaf.names .foreignKey)⟩

/-- They differ in the schema that they refer to, and yet their rows carry one name, there is one foreign key for
both of them, and freezing the table fails. -/
theorem readPart_merges_twins :
    let listing := twinPlan.source [] (.part .foreignKeys none (some "main") (some "t"))
    let after := (readPart twinPlan ⟨none, some "main"⟩ 0 .foreignKeys (loneTable "t")).2.atlas
    TellsUnnamed twinConnection ⟨none, some "main"⟩ "t" twinKeys ∧
      (∀ key ∈ twinKeys, key.columns ≠ [] ∧ key.constrained.Nodup) ∧
      twinKeys.Pairwise (fun key other =>
        (key.constrained, key.schema, key.table) ≠ (other.constrained, other.schema, other.table)) ∧
      (listing.map fun listing => listing.rows.map fun row => row >>= fun row => row.field "FK_NAME") =
        .ok [.ok (.text "t_x_u_fkey"), .ok (.text "t_x_u_fkey")] ∧
      after.names 0 .foreignKey = [some "t_x_u_fkey"] ∧ (after.freeze 0).1.isOk = false := by
  intro listing after
  exact ⟨tellsUnnamed_twin _ _, by decide, by decide, rfl, by decide +revert +kernel, by decide +revert +kernel⟩

end Crawl

end SchemaAtlas
