import Mathlib.Data.List.Nodup
import SchemaAtlas.Atlas.Reference
import SchemaAtlas.Proofs.Atlas.Clash

/-!
# What a foreign key refers to

Below a frozen database siblings differ in name, and every column of a foreign key stands in just one schema. So
at most one table of the database is the one that such a column names, and at most one column of it. They are what
following the column comes to, and following it comes to nothing just where there are none. In which order schemas,
tables and columns were added makes no difference: in a rearranged database, following the column comes to the same.
-/

namespace SchemaAtlas

/-- Columns of foreign keys are kept by foreign keys, these by tables, tables by schemas, and schemas by databases. -/
theorem NodeKind.eq_of_collects {kind child : NodeKind} (h : kind.collections.any (·.1 == child) = true) :
    (child = .foreignKeyColumn → kind = .foreignKey) ∧ (child = .foreignKey → kind = .table) ∧
      (child = .table → kind = .schema) ∧ (child = .schema → kind = .dbms) ∧ child ≠ .dbms := by
  cases kind <;> cases child <;> revert h <;> decide

namespace Atlas

variable {atlas : Atlas} {dbms column : NodeId}

/-! ## Looking up by name -/

/-- Where siblings differ in name, the child that is found is the one that has the name. -/
theorem Formed.childNamed_eq_some_iff (hformed : atlas.Formed) {id child : NodeId} {kind : NodeKind}
    (hnames : (atlas.names id kind).Nodup) (name : Option String) :
    atlas.childNamed id kind name = some child ↔ child ∈ atlas.collection id kind ∧ atlas.nameOf child = name := by
  have hnamed {other : NodeId} (hother : other ∈ atlas.collection id kind) :
      ((atlas.node? other).any fun node => node.name == name) = true ↔ atlas.nameOf other = name := by
    obtain ⟨node, hnode, hkept⟩ := mem_collection_iff.mp hother
    obtain ⟨-, below, hbelow, -⟩ := hformed.child hnode hkept
    simp [nameOf, hbelow]
  rw [childNamed, firstNamed]
  generalize hfound : (atlas.collection id kind).find? (fun other =>
    (atlas.node? other).any fun node => node.name == name) = found
  cases found with
  | none =>
    have hnone := List.find?_eq_none.mp hfound
    simp only [reduceCtorEq, false_iff]
    rintro ⟨hmem, hname⟩
    exact hnone child hmem ((hnamed hmem).mpr hname)
  | some first =>
    have hfirst := List.mem_of_find?_eq_some hfound
    have hname := (hnamed hfirst).mp (by simpa using List.find?_some hfound)
    rw [Option.some.injEq]
    constructor
    · rintro rfl
      exact ⟨hfirst, hname⟩
    · rintro ⟨hmem, hsame⟩
      exact List.inj_on_of_nodup_map hnames hfirst hmem (hname.trans hsame.symm)

/-! ## Where a column of a foreign key stands -/

/-- What has the facts of a column of a foreign key is one. -/
theorem node?_of_reference {facts : ReferenceFacts} (h : atlas.reference? column = some facts) :
    ∃ node, atlas.node? column = some node ∧ node.content = .foreignKeyColumn facts := by
  rw [reference?] at h
  split at h
  · rename_i hcontent
    obtain ⟨node, hnode, hsame⟩ := Option.map_eq_some_iff.mp hcontent
    obtain rfl := Option.some.inj h
    exact ⟨node, hnode, hsame⟩
  · cases h

/-- A schema of a database has a column of a foreign key somewhere below it. -/
def StandsIn (atlas : Atlas) (dbms column schema : NodeId) : Prop :=
  schema ∈ atlas.collection dbms .schema ∧ atlas.Below schema column

/-- The nodes between a database and a column of one of its foreign keys. -/
structure Climbs (atlas : Atlas) (dbms schema table key column : NodeId) : Prop where
  schemaIn : schema ∈ atlas.collection dbms .schema
  tableIn : table ∈ atlas.collection schema .table
  keyIn : key ∈ atlas.collection table .foreignKey
  columnIn : column ∈ atlas.collection key .foreignKeyColumn

/-- A node below a database that is no database is kept by another one there. -/
theorem Formed.exists_keeper (hformed : atlas.Formed) {top : Node} (htop : atlas.node? dbms = some top)
    (hkind : top.kind = .dbms) {id : NodeId} (hbelow : atlas.Below dbms id) {node : Node}
    (hnode : atlas.node? id = some node) (hlow : node.kind ≠ .dbms) :
    ∃ keeper up, atlas.Below dbms keeper ∧ atlas.node? keeper = some up ∧ id ∈ atlas.collection keeper node.kind ∧
      up.kind.collections.any (·.1 == node.kind) = true := by
  obtain rfl | ⟨keeper, habove, kind, hmem⟩ := hbelow.cases_tail
  · obtain rfl : top = node := Option.some.inj (htop.symm.trans hnode)
    exact absurd hkind hlow
  · obtain ⟨up, hup, hkept⟩ := mem_collection_iff.mp hmem
    obtain ⟨hcollects, same, hsame, rfl, -⟩ := hformed.child hup hkept
    obtain rfl : node = same := Option.some.inj (hnode.symm.trans hsame)
    exact ⟨keeper, up, habove, hup, hmem, hcollects⟩

/-- A column of a foreign key below a database is reached through a schema, a table and the foreign key. -/
theorem Formed.exists_climbs (hformed : atlas.Formed) {top node : Node} (htop : atlas.node? dbms = some top)
    (hkind : top.kind = .dbms) (hbelow : atlas.Below dbms column) (hnode : atlas.node? column = some node)
    (hcolumn : node.kind = .foreignKeyColumn) : ∃ schema table key, atlas.Climbs dbms schema table key column := by
  obtain ⟨key, keyNode, hkeyBelow, hkeyNode, hcolumnMem, hcollects⟩ :=
    hformed.exists_keeper htop hkind hbelow hnode (by simp [hcolumn])
  have hkeyKind := (NodeKind.eq_of_collects hcollects).1 hcolumn
  obtain ⟨table, tableNode, htableBelow, htableNode, hkeyMem, hcollects⟩ :=
    hformed.exists_keeper htop hkind hkeyBelow hkeyNode (by simp [hkeyKind])
  have htableKind := (NodeKind.eq_of_collects hcollects).2.1 hkeyKind
  obtain ⟨schema, schemaNode, hschemaBelow, hschemaNode, htableMem, hcollects⟩ :=
    hformed.exists_keeper htop hkind htableBelow htableNode (by simp [htableKind])
  have hschemaKind := (NodeKind.eq_of_collects hcollects).2.2.1 htableKind
  obtain ⟨home, homeNode, hhomeBelow, hhomeNode, hschemaMem, hcollects⟩ :=
    hformed.exists_keeper htop hkind hschemaBelow hschemaNode (by simp [hschemaKind])
  have hhomeKind := (NodeKind.eq_of_collects hcollects).2.2.2.1 hschemaKind
  -- The database at the end is the one from which the way went down, as no node keeps databases.
  obtain rfl | ⟨above, -, kind, hmem⟩ := hhomeBelow.cases_tail
  · rw [hcolumn] at hcolumnMem
    rw [hkeyKind] at hkeyMem
    rw [htableKind] at htableMem
    rw [hschemaKind] at hschemaMem
    exact ⟨schema, table, key, hschemaMem, htableMem, hkeyMem, hcolumnMem⟩
  · obtain ⟨up, hup, hkept⟩ := mem_collection_iff.mp hmem
    obtain ⟨hcollects, same, hsame, rfl, -⟩ := hformed.child hup hkept
    obtain rfl : homeNode = same := Option.some.inj (hhomeNode.symm.trans hsame)
    exact absurd hhomeKind (NodeKind.eq_of_collects hcollects).2.2.2.2

/-- The schema on the way has the column below it. -/
theorem Climbs.standsIn {schema table key : NodeId} (h : atlas.Climbs dbms schema table key column) :
    atlas.StandsIn dbms column schema :=
  ⟨h.schemaIn, .head ⟨_, h.tableIn⟩ (.head ⟨_, h.keyIn⟩ (.single ⟨_, h.columnIn⟩))⟩

/-- A column stands in one schema of a database. -/
theorem Formed.standsIn_unique (hformed : atlas.Formed) {top : Node} (htop : atlas.node? dbms = some top)
    {schema other : NodeId} (hschema : atlas.StandsIn dbms column schema)
    (hother : atlas.StandsIn dbms column other) : other = schema :=
  hformed.eq_of_below htop ⟨_, hother.1⟩ ⟨_, hschema.1⟩ hother.2 hschema.2

/-- A child knows the node that keeps it. -/
theorem Formed.parentOf_eq (hformed : atlas.Formed) {id child : NodeId} {kind : NodeKind}
    (hchild : child ∈ atlas.collection id kind) : atlas.parentOf child = some id := by
  obtain ⟨node, hnode, hkept⟩ := mem_collection_iff.mp hchild
  obtain ⟨-, below, hbelow, -, hknows⟩ := hformed.child hnode hkept
  rw [parentOf, hbelow, Option.bind_some, hknows]

/-! ## What a column names -/

/-- A reference from a schema of a database points into a schema: into its own one if it names none, an empty name or
the name of its own one, and otherwise into the one that has the name. -/
def PointsInto (atlas : Atlas) (dbms own : NodeId) (facts : ReferenceFacts) (schema : NodeId) : Prop :=
  if facts.schemaName = none ∨ facts.schemaName = some "" ∨ facts.schemaName = atlas.nameOf own then schema = own
  else schema ∈ atlas.collection dbms .schema ∧ atlas.nameOf schema = facts.schemaName

/-- A table of the database is the one that a column names. -/
def NamesTable (atlas : Atlas) (dbms column : NodeId) (facts : ReferenceFacts) (table : NodeId) : Prop :=
  ∃ own schema, atlas.StandsIn dbms column own ∧ atlas.PointsInto dbms own facts schema ∧
    table ∈ atlas.collection schema .table ∧ atlas.nameOf table = facts.tableName

/-- A column of that table is the one that a column names. -/
def NamesColumn (atlas : Atlas) (dbms column : NodeId) (facts : ReferenceFacts) (found : NodeId) : Prop :=
  ∃ table, atlas.NamesTable dbms column facts table ∧ found ∈ atlas.collection table .column ∧
    atlas.nameOf found = facts.columnName

/-- A reference points into a schema of the database. -/
theorem PointsInto.mem {own schema : NodeId} {facts : ReferenceFacts} (h : atlas.PointsInto dbms own facts schema)
    (hown : own ∈ atlas.collection dbms .schema) : schema ∈ atlas.collection dbms .schema := by
  rw [PointsInto] at h
  split at h
  · exact h ▸ hown
  · exact h.1

/-- The schema that is looked up for a reference is the one into which it points. -/
theorem Formed.referredSchema_eq_some_iff (hformed : atlas.Formed) (hnames : (atlas.names dbms .schema).Nodup)
    (own schema : NodeId) (facts : ReferenceFacts) :
    atlas.referredSchema dbms own facts = some schema ↔ atlas.PointsInto dbms own facts schema := by
  rw [referredSchema, PointsInto]
  cases facts.schemaName with
  | none => simp [eq_comm]
  | some name =>
    by_cases hown : name = "" ∨ atlas.nameOf own = some name
    · have hpoints : some name = none ∨ some name = some "" ∨ some name = atlas.nameOf own :=
        .inr (hown.imp (congrArg some) Eq.symm)
      have hlooked : (name.isEmpty || atlas.nameOf own == some name) = true := by simpa using hown
      rw [if_pos hpoints]
      simp only [hlooked, if_true, Option.some.injEq]
      exact eq_comm
    · have hpoints : ¬(some name = none ∨ some name = some "" ∨ some name = atlas.nameOf own) := by
        simpa [eq_comm] using hown
      have hlooked : ¬(name.isEmpty || atlas.nameOf own == some name) = true := by simpa using hown
      rw [if_neg hpoints]
      simp only [if_neg hlooked]
      exact hformed.childNamed_eq_some_iff hnames (some name)

/-- The table that is looked up for a column is the one that it names. -/
theorem Formed.referredTable_eq_some_iff (hformed : atlas.Formed) {top : Node} (htop : atlas.node? dbms = some top)
    (hdistinct : atlas.DistinctBelow dbms) {schema table key : NodeId}
    (hclimbs : atlas.Climbs dbms schema table key column) {facts : ReferenceFacts}
    (hfacts : atlas.reference? column = some facts) (found : NodeId) :
    atlas.referredTable column = some found ↔ atlas.NamesTable dbms column facts found := by
  have hlookup : atlas.referredTable column =
      (atlas.referredSchema dbms schema facts).bind fun target => atlas.childNamed target .table facts.tableName := by
    rw [referredTable, hfacts]
    change (atlas.parentOf column).bind _ = _
    rw [hformed.parentOf_eq hclimbs.columnIn]
    change (atlas.parentOf key).bind _ = _
    rw [hformed.parentOf_eq hclimbs.keyIn]
    change (atlas.parentOf table).bind _ = _
    rw [hformed.parentOf_eq hclimbs.tableIn]
    change (atlas.parentOf schema).bind _ = _
    rw [hformed.parentOf_eq hclimbs.schemaIn]
    rfl
  have htable {target : NodeId} (htarget : target ∈ atlas.collection dbms .schema) :
      atlas.childNamed target .table facts.tableName = some found ↔
        found ∈ atlas.collection target .table ∧ atlas.nameOf found = facts.tableName :=
    hformed.childNamed_eq_some_iff (hdistinct target (.single ⟨_, htarget⟩) .table) facts.tableName
  rw [hlookup, Option.bind_eq_some_iff]
  constructor
  · rintro ⟨target, hschema, hfound⟩
    have hpoints := (hformed.referredSchema_eq_some_iff (hdistinct dbms .refl .schema) ..).mp hschema
    exact ⟨schema, target, hclimbs.standsIn, hpoints, (htable (hpoints.mem hclimbs.schemaIn)).mp hfound⟩
  · rintro ⟨own, target, hstands, hpoints, hfound⟩
    obtain rfl := hformed.standsIn_unique htop hclimbs.standsIn hstands
    exact ⟨target, (hformed.referredSchema_eq_some_iff (hdistinct dbms .refl .schema) ..).mpr hpoints,
      (htable (hpoints.mem hclimbs.schemaIn)).mpr hfound⟩

/-- The column that is looked up for a column is the one that it names. -/
theorem Formed.referredColumn_eq_some_iff (hformed : atlas.Formed) {top : Node} (htop : atlas.node? dbms = some top)
    (hdistinct : atlas.DistinctBelow dbms) {schema table key : NodeId}
    (hclimbs : atlas.Climbs dbms schema table key column) {facts : ReferenceFacts}
    (hfacts : atlas.reference? column = some facts) (found : NodeId) :
    atlas.referredColumn column = some found ↔ atlas.NamesColumn dbms column facts found := by
  have htable := hformed.referredTable_eq_some_iff htop hdistinct hclimbs hfacts
  have hlookup : atlas.referredColumn column =
      (atlas.referredTable column).bind fun target => atlas.childNamed target .column facts.columnName := by
    rw [referredColumn, hfacts]
    rfl
  have hcolumn {target : NodeId} (htarget : atlas.NamesTable dbms column facts target) :
      atlas.childNamed target .column facts.columnName = some found ↔
        found ∈ atlas.collection target .column ∧ atlas.nameOf found = facts.columnName := by
    obtain ⟨own, schema, hstands, hpoints, hmem, -⟩ := htarget
    have hbelow : atlas.Below dbms target := .head ⟨_, hpoints.mem hstands.1⟩ (.single ⟨_, hmem⟩)
    exact hformed.childNamed_eq_some_iff (hdistinct target hbelow .column) facts.columnName
  rw [hlookup, Option.bind_eq_some_iff]
  constructor
  · rintro ⟨target, hfound, hchild⟩
    have htarget := (htable target).mp hfound
    exact ⟨target, htarget, (hcolumn htarget).mp hchild⟩
  · rintro ⟨target, htarget, hchild⟩
    exact ⟨target, (htable target).mpr htarget, (hcolumn htarget).mpr hchild⟩

/-- Following a column of a foreign key looks up the table and the column that it refers to. -/
theorem findReferred_eq {facts : ReferenceFacts} (hfacts : atlas.reference? column = some facts) :
    atlas.findReferredTable column = .ok (atlas.referredTable column) ∧
      atlas.findReferredColumn column = .ok (atlas.referredColumn column) := by
  obtain ⟨node, hnode, hcontent⟩ := node?_of_reference hfacts
  have hkind : node.kind = .foreignKeyColumn := congrArg Content.kind hcontent
  have hfound : atlas.node column = .ok node := by rw [Atlas.node, hnode]
  constructor
  · rw [findReferredTable, hfound]
    exact if_pos (beq_iff_eq.mpr hkind)
  · rw [findReferredColumn, hfound]
    exact if_pos (beq_iff_eq.mpr hkind)

/-! ## What following it comes to -/

/-- What following a column of a foreign key below a database comes to. -/
structure Follows (atlas : Atlas) (dbms column : NodeId) (facts : ReferenceFacts) : Prop where
  /-- The column stands in one schema of the database. -/
  own : ∃! schema, atlas.StandsIn dbms column schema
  /-- The table that is found is the one that it names, which is one of the database. -/
  foundTable : ∀ found, atlas.findReferredTable column = .ok (some found) ↔ atlas.NamesTable dbms column facts found
  member : ∀ found, atlas.NamesTable dbms column facts found → found ∈ atlas.tables dbms
  /-- There is at most one such table, and none is found just where there is none. -/
  tableUnique : ∀ found other, atlas.NamesTable dbms column facts found → atlas.NamesTable dbms column facts other →
    found = other
  noTable : atlas.findReferredTable column = .ok none ↔ ¬∃ found, atlas.NamesTable dbms column facts found
  /-- So it is for the column that is found. -/
  foundColumn : ∀ found, atlas.findReferredColumn column = .ok (some found) ↔ atlas.NamesColumn dbms column facts found
  columnUnique : ∀ found other, atlas.NamesColumn dbms column facts found →
    atlas.NamesColumn dbms column facts other → found = other
  noColumn : atlas.findReferredColumn column = .ok none ↔ ¬∃ found, atlas.NamesColumn dbms column facts found

/-- What is looked up is unique, and it is missing just where nothing fits, if just what fits is found. -/
theorem unique_of_found_iff {found : Option NodeId} {Fits : NodeId → Prop} (h : ∀ id, found = some id ↔ Fits id) :
    (∀ id other, Fits id → Fits other → id = other) ∧ (found = none ↔ ¬∃ id, Fits id) := by
  refine ⟨fun id other hid hother => ?_, ?_⟩
  · exact Option.some.inj (((h id).mpr hid).symm.trans ((h other).mpr hother))
  · rw [Option.eq_none_iff_forall_ne_some, not_exists]
    exact forall_congr' fun id => not_congr (h id)

/-- Below a database whose siblings differ in name, following a column of a foreign key comes to this. -/
theorem Formed.follows (hformed : atlas.Formed) {top : Node} (htop : atlas.node? dbms = some top)
    (hkind : top.kind = .dbms) (hdistinct : atlas.DistinctBelow dbms) (hbelow : atlas.Below dbms column)
    {facts : ReferenceFacts} (hfacts : atlas.reference? column = some facts) : Follows atlas dbms column facts := by
  obtain ⟨node, hnode, hcontent⟩ := node?_of_reference hfacts
  have hcolumn : node.kind = .foreignKeyColumn := congrArg Content.kind hcontent
  obtain ⟨schema, table, key, hclimbs⟩ := hformed.exists_climbs htop hkind hbelow hnode hcolumn
  have htable := hformed.referredTable_eq_some_iff htop hdistinct hclimbs hfacts
  have hfound := hformed.referredColumn_eq_some_iff htop hdistinct hclimbs hfacts
  obtain ⟨htableUnique, hnoTable⟩ := unique_of_found_iff htable
  obtain ⟨hcolumnUnique, hnoColumn⟩ := unique_of_found_iff hfound
  obtain ⟨hfindTable, hfindColumn⟩ := findReferred_eq hfacts
  constructor
  case own => exact ⟨schema, hclimbs.standsIn, fun other => hformed.standsIn_unique htop hclimbs.standsIn⟩
  case foundTable => simpa [hfindTable] using htable
  case member =>
    rintro found ⟨own, home, hstands, hpoints, hmem, -⟩
    exact List.mem_flatMap.mpr ⟨home, hpoints.mem hstands.1, hmem⟩
  case tableUnique => exact htableUnique
  case noTable => simpa [hfindTable] using hnoTable
  case foundColumn => simpa [hfindColumn] using hfound
  case columnUnique => exact hcolumnUnique
  case noColumn => simpa [hfindColumn] using hnoColumn

/-! ## Rearranged databases -/

/-- A database is another one but for the order in which siblings stand: every node at or below it has its place in the
other one, with the same name and content, and its children of each kind have the places of the children there. -/
structure Rearranges (before after : Atlas) (dbms : NodeId) (place : NodeId → NodeId) : Prop where
  node : ∀ id, before.Below dbms id → ∃ node moved, before.node? id = some node ∧ after.node? (place id) = some moved ∧
    moved.name = node.name ∧ moved.content = node.content
  collection : ∀ id kind, before.Below dbms id →
    (after.collection (place id) kind).Perm ((before.collection id kind).map place)

namespace Rearranges

variable {before after : Atlas} {place : NodeId → NodeId} (h : before.Rearranges after dbms place)

include h

/-- A node has its name in its place. -/
theorem nameOf {id : NodeId} (hid : before.Below dbms id) : after.nameOf (place id) = before.nameOf id := by
  obtain ⟨node, moved, hnode, hmoved, hname, -⟩ := h.node id hid
  rw [Atlas.nameOf, Atlas.nameOf, hnode, hmoved]
  exact hname

/-- What it refers to is there what it was. -/
theorem reference? {id : NodeId} (hid : before.Below dbms id) : after.reference? (place id) = before.reference? id := by
  obtain ⟨node, moved, hnode, hmoved, -, hcontent⟩ := h.node id hid
  rw [Atlas.reference?, Atlas.reference?, hnode, hmoved, Option.map_some, Option.map_some, hcontent]

/-- The children of a place are the places of the children. -/
theorem mem_collection {id child : NodeId} (hid : before.Below dbms id) (kind : NodeKind) :
    child ∈ after.collection (place id) kind ↔ ∃ old ∈ before.collection id kind, place old = child := by
  rw [(h.collection id kind hid).mem_iff, List.mem_map]

/-- What stands below a node has its place below the place of the node. -/
theorem below {id other : NodeId} (hid : before.Below dbms id) (hother : before.Below id other) :
    after.Below (place id) (place other) := by
  induction hother with
  | refl => exact .refl
  | tail hprevious hlast ih =>
    obtain ⟨kind, hmem⟩ := hlast
    exact ih.tail ⟨kind, (h.mem_collection (hid.trans hprevious) kind).mpr ⟨_, hmem, rfl⟩⟩

variable {column own : NodeId} {facts : ReferenceFacts} (hown : before.StandsIn dbms column own)
  (hunique : ∀ other, after.StandsIn (place dbms) (place column) other → other = place own)

include hown

/-- The schema into which a reference points has the place of the one into which it pointed. -/
theorem pointsInto_iff {schema : NodeId} : after.PointsInto (place dbms) (place own) facts schema ↔
    ∃ old, before.PointsInto dbms own facts old ∧ place old = schema := by
  have hname := h.nameOf (.single ⟨_, hown.1⟩ : before.Below dbms own)
  simp only [PointsInto, hname]
  split
  · simp [eq_comm]
  · rw [h.mem_collection .refl]
    constructor
    · rintro ⟨⟨old, hmem, rfl⟩, hsame⟩
      exact ⟨old, ⟨hmem, (h.nameOf (.single ⟨_, hmem⟩)).symm.trans hsame⟩, rfl⟩
    · rintro ⟨old, ⟨hmem, hsame⟩, rfl⟩
      exact ⟨⟨old, hmem, rfl⟩, (h.nameOf (.single ⟨_, hmem⟩)).trans hsame⟩

include hunique

/-- The table that a column names has the place of the one that it named. -/
theorem namesTable_iff {found : NodeId} : after.NamesTable (place dbms) (place column) facts found ↔
    ∃ old, before.NamesTable dbms column facts old ∧ place old = found := by
  have htable {schema old : NodeId} (hschema : schema ∈ before.collection dbms .schema)
      (hmem : old ∈ before.collection schema .table) : after.nameOf (place old) = before.nameOf old :=
    h.nameOf (.head ⟨_, hschema⟩ (.single ⟨_, hmem⟩))
  constructor
  · rintro ⟨other, schema, hstands, hpoints, hmem, hname⟩
    obtain rfl := hunique other hstands
    obtain ⟨home, hhome, rfl⟩ := (h.pointsInto_iff hown).mp hpoints
    have hhomeMem := hhome.mem hown.1
    obtain ⟨old, hold, rfl⟩ := (h.mem_collection (.single ⟨_, hhomeMem⟩) .table).mp hmem
    exact ⟨old, ⟨own, home, hown, hhome, hold, (htable hhomeMem hold).symm.trans hname⟩, rfl⟩
  · rintro ⟨old, ⟨other, home, hstands, hhome, hold, hname⟩, rfl⟩
    have hother := hunique (place other) ⟨(h.mem_collection .refl .schema).mpr ⟨other, hstands.1, rfl⟩,
      h.below (.single ⟨_, hstands.1⟩) hstands.2⟩
    have hhomeMem := hhome.mem hstands.1
    have hpoints := (h.pointsInto_iff hstands).mpr ⟨home, hhome, rfl⟩
    rw [hother] at hpoints
    exact ⟨place own, place home, hother ▸ ⟨(h.mem_collection .refl .schema).mpr ⟨other, hstands.1, rfl⟩,
      h.below (.single ⟨_, hstands.1⟩) hstands.2⟩, hpoints,
      (h.mem_collection (.single ⟨_, hhomeMem⟩) .table).mpr ⟨old, hold, rfl⟩, (htable hhomeMem hold).trans hname⟩

/-- So does the column that it names. -/
theorem namesColumn_iff {found : NodeId} : after.NamesColumn (place dbms) (place column) facts found ↔
    ∃ old, before.NamesColumn dbms column facts old ∧ place old = found := by
  have hbelow {table : NodeId} (htable : before.NamesTable dbms column facts table) : before.Below dbms table := by
    obtain ⟨other, home, hstands, hhome, hmem, -⟩ := htable
    exact .head ⟨_, hhome.mem hstands.1⟩ (.single ⟨_, hmem⟩)
  constructor
  · rintro ⟨table, htable, hmem, hname⟩
    obtain ⟨old, hold, rfl⟩ := (h.namesTable_iff hown hunique).mp htable
    obtain ⟨child, hchild, rfl⟩ := (h.mem_collection (hbelow hold) .column).mp hmem
    have hsame := h.nameOf ((hbelow hold).tail ⟨_, hchild⟩)
    exact ⟨child, ⟨old, hold, hchild, hsame.symm.trans hname⟩, rfl⟩
  · rintro ⟨child, ⟨old, hold, hchild, hname⟩, rfl⟩
    have hsame := h.nameOf ((hbelow hold).tail ⟨_, hchild⟩)
    exact ⟨place old, (h.namesTable_iff hown hunique).mpr ⟨old, hold, rfl⟩,
      (h.mem_collection (hbelow hold) .column).mpr ⟨child, hchild, rfl⟩, hsame.trans hname⟩

end Rearranges

/-- What is found fits in its place if what fits there are the places of what fits. -/
theorem map_of_found_iff {found moved : Option NodeId} {place : NodeId → NodeId} {Fits FitsThere : NodeId → Prop}
    (h : ∀ id, found = some id ↔ Fits id) (hthere : ∀ id, moved = some id ↔ FitsThere id)
    (hplaces : ∀ id, FitsThere id ↔ ∃ old, Fits old ∧ place old = id) : moved = found.map place := by
  refine Option.ext fun id => ?_
  rw [hthere, hplaces, Option.map_eq_some_iff]
  exact exists_congr fun old => and_congr_left fun _ => (h old).symm

/-- After whatever edits, following a column of a foreign key of a frozen database comes to the table and the column
that it names, and it comes to the same in every database that other edits made of the same nodes in another order. -/
theorem edited_follows (edits : List Edit) {dbms column : NodeId} {top : Node} {facts : ReferenceFacts}
    (htop : (edited {} edits).node? dbms = some top) (hkind : top.kind = .dbms) (hfrozen : top.frozen = true)
    (hbelow : (edited {} edits).Below dbms column) (hfacts : (edited {} edits).reference? column = some facts) :
    Follows (edited {} edits) dbms column facts ∧
      ∀ (others : List Edit) (place : NodeId → NodeId), (edited {} others).IsFrozen (place dbms) →
        (edited {} edits).Rearranges (edited {} others) dbms place →
          (edited {} others).findReferredTable (place column) =
            ((edited {} edits).findReferredTable column).map (Option.map place) ∧
          (edited {} others).findReferredColumn (place column) =
            ((edited {} edits).findReferredColumn column).map (Option.map place) := by
  have hproper := (evolves_edited {} edits proper_empty).2
  have hdistinct : (edited {} edits).DistinctBelow dbms := fun id hid =>
    (hproper.settled.below ⟨top, htop, hfrozen⟩ hid).2
  have hfollows := hproper.formed.follows htop hkind hdistinct hbelow hfacts
  refine ⟨hfollows, fun others place hthere hplaces => ?_⟩
  have hotherProper := (evolves_edited {} others proper_empty).2
  have hotherDistinct : (edited {} others).DistinctBelow (place dbms) := fun id hid =>
    (hotherProper.settled.below hthere hid).2
  obtain ⟨node, moved, hnode, hmoved, -, hcontent⟩ := hplaces.node dbms .refl
  obtain rfl : top = node := Option.some.inj (htop.symm.trans hnode)
  have hmovedKind : moved.kind = .dbms := (congrArg Content.kind hcontent).trans hkind
  have hmovedFacts := (hplaces.reference? hbelow).trans hfacts
  have hotherFollows := hotherProper.formed.follows hmoved hmovedKind hotherDistinct (hplaces.below .refl hbelow)
    hmovedFacts
  obtain ⟨own, hown, -⟩ := hfollows.own
  have hhome := hplaces.below (.single ⟨_, hown.1⟩) hown.2
  have hunique (other : NodeId) (hother : (edited {} others).StandsIn (place dbms) (place column) other) :
      other = place own :=
    hotherProper.formed.standsIn_unique hmoved
      ⟨(hplaces.mem_collection .refl .schema).mpr ⟨own, hown.1, rfl⟩, hhome⟩ hother
  obtain ⟨htable, hcolumn⟩ := findReferred_eq hfacts
  obtain ⟨hotherTable, hotherColumn⟩ := findReferred_eq hmovedFacts
  have hfoundTable := hfollows.foundTable
  have hfoundColumn := hfollows.foundColumn
  have hthereTable := hotherFollows.foundTable
  have hthereColumn := hotherFollows.foundColumn
  simp only [htable, hcolumn, hotherTable, hotherColumn, Except.ok.injEq] at *
  exact ⟨congrArg Except.ok (map_of_found_iff hfoundTable hthereTable fun _ => hplaces.namesTable_iff hown hunique),
    congrArg Except.ok (map_of_found_iff hfoundColumn hthereColumn fun _ => hplaces.namesColumn_iff hown hunique)⟩

/-- Edits that add a child and name it. -/
def named (parent : NodeId) (kind : NodeKind) (id : NodeId) (name : String) : List Edit :=
  [.add parent kind, .assign id "name" (.value (.text name))]

/-- Edits that add a foreign key with a column to a table, which names a column of another schema, and then freeze the
database. -/
def referring (table : NodeId) : List Edit :=
  [.add table .foreignKey, .add 8 .foreignKeyColumn, .assign 9 "foreign_schema_name" (.value (.text "b")),
    .assign 9 "foreign_table_name" (.value (.text "t")), .assign 9 "foreign_column_name" (.value (.text "id")),
    .freeze 0]

/-- Edits that make a database of two schemas. -/
def shelved : List Edit :=
  .create .dbms [] :: named 0 .schema 1 "a" ++ named 0 .schema 2 "b" ++ named 1 .table 3 "orders" ++
    named 2 .table 4 "u" ++ named 2 .table 5 "t" ++ named 5 .column 6 "x" ++ named 5 .column 7 "id" ++ referring 3

/-- Edits that make it in another order. -/
def reshelved : List Edit :=
  .create .dbms [] :: named 0 .schema 1 "b" ++ named 1 .table 2 "t" ++ named 1 .table 3 "u" ++
    named 2 .column 4 "id" ++ named 2 .column 5 "x" ++ named 0 .schema 6 "a" ++ named 6 .table 7 "orders" ++ referring 7

/-- The places that the nodes have then. -/
def reshelvedAt (id : NodeId) : NodeId :=
  [0, 6, 1, 7, 3, 2, 5, 4, 8, 9].getD id 0

/-- The second database is the first one but for the order. -/
theorem rearranges_reshelved : (edited {} shelved).Rearranges (edited {} reshelved) 0 reshelvedAt := by
  have hnames : ∀ id < 10, ((edited {} reshelved).node? (reshelvedAt id)).map (fun node => (node.name, node.content)) =
      ((edited {} shelved).node? id).map fun node => (node.name, node.content) := by decide +kernel
  have hchildren : ∀ id < 10, ∀ kind ∈ NodeKind.all, ((edited {} reshelved).collection (reshelvedAt id) kind).Perm
      (((edited {} shelved).collection id kind).map reshelvedAt) := by decide +kernel
  have hnode {id : NodeId} (hid : (edited {} shelved).Below 0 id) :
      ∃ node, (edited {} shelved).node? id = some node ∧ id < 10 := by
    obtain ⟨root, hroot⟩ := Option.isSome_iff_exists.mp
      (by decide +kernel : ((edited {} shelved).node? 0).isSome)
    obtain ⟨node, hnode, -⟩ := (evolves_edited {} shelved proper_empty).2.formed.height_le_of_below hroot hid
    have hsize : (edited {} shelved).nodes.size = 10 := by decide +kernel
    exact ⟨node, hnode, hsize ▸ lt_of_node? hnode⟩
  constructor
  case node =>
    intro id hid
    obtain ⟨node, hfound, hlt⟩ := hnode hid
    have hsame := hnames id hlt
    rw [hfound, Option.map_some, Option.map_eq_some_iff] at hsame
    obtain ⟨moved, hmoved, hshown⟩ := hsame
    exact ⟨node, moved, hfound, hmoved, (Prod.mk.inj hshown).1, (Prod.mk.inj hshown).2⟩
  case collection =>
    intro id kind hid
    obtain ⟨-, -, hlt⟩ := hnode hid
    exact hchildren id hlt kind (by cases kind <;> decide)

/-- There, the table and the column are found, wherever they were added. -/
theorem edited_follows_reshelved :
    let facts : ReferenceFacts := { schemaName := some "b", tableName := some "t", columnName := some "id" }
    ((∃ top, (edited {} shelved).node? 0 = some top ∧ top.kind = .dbms ∧ top.frozen = true) ∧
      (edited {} shelved).Below 0 9 ∧ (edited {} shelved).reference? 9 = some facts ∧
      (edited {} reshelved).IsFrozen (reshelvedAt 0) ∧
      (edited {} shelved).Rearranges (edited {} reshelved) 0 reshelvedAt) ∧
    Follows (edited {} shelved) 0 9 facts ∧
      (edited {} shelved).findReferredTable 9 = .ok (some 5) ∧ (edited {} shelved).findReferredColumn 9 = .ok (some 7) ∧
      (edited {} reshelved).findReferredTable 9 = .ok (some 2) ∧
      (edited {} reshelved).findReferredColumn 9 = .ok (some 4) := by
  intro facts
  have hschema : (edited {} shelved).IsChild 0 1 := ⟨.schema, by decide +kernel⟩
  have htable : (edited {} shelved).IsChild 1 3 := ⟨.table, by decide +kernel⟩
  have hkey : (edited {} shelved).IsChild 3 8 := ⟨.foreignKey, by decide +kernel⟩
  have hbelow : (edited {} shelved).Below 0 9 :=
    .head hschema (.head htable (.head hkey (.single ⟨.foreignKeyColumn, by decide +kernel⟩)))
  have hroot : ((edited {} shelved).node? 0).any (fun top => top.kind == .dbms && top.frozen) = true := by
    decide +kernel
  obtain ⟨top, htop, hshown⟩ := (Option.any_eq_true ..).mp hroot
  obtain ⟨hkind, hfrozen⟩ : top.kind = .dbms ∧ top.frozen = true := by simpa using hshown
  have hthere : (edited {} reshelved).IsFrozen (reshelvedAt 0) :=
    (Option.any_eq_true Node.frozen _).mp (by decide +kernel)
  have hfacts : (edited {} shelved).reference? 9 = some facts := by decide +kernel
  obtain ⟨hfollows, hrearranged⟩ := edited_follows shelved htop hkind hfrozen hbelow hfacts
  have hfoundTable : (edited {} shelved).findReferredTable 9 = .ok (some 5) :=
    (findReferred_eq hfacts).1.trans (congrArg Except.ok (by decide +kernel))
  have hfoundColumn : (edited {} shelved).findReferredColumn 9 = .ok (some 7) :=
    (findReferred_eq hfacts).2.trans (congrArg Except.ok (by decide +kernel))
  obtain ⟨htable, hcolumn⟩ := hrearranged reshelved reshelvedAt hthere rearranges_reshelved
  rw [hfoundTable] at htable
  rw [hfoundColumn] at hcolumn
  exact ⟨⟨⟨top, htop, hkind, hfrozen⟩, hbelow, hfacts, hthere, rearranges_reshelved⟩, hfollows, hfoundTable,
    hfoundColumn, htable, hcolumn⟩

end Atlas

end SchemaAtlas
