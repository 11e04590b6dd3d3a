import SchemaAtlas.Proofs.Crawl.Tables

/-!
# The documents of reports

The document of a table is told from its report alone: its columns in order and counted from one, its listed
indexes and foreign keys with their columns, and the columns of its primary key. It is the document of the
tree that the table is read into, and where nothing is reported twice the tree has no two siblings of a name.
-/

namespace SchemaAtlas

/-! ## Documents -/

/-- The document of a column at a position. -/
def ColumnReport.document (report : ColumnReport) (mapping : TypeMapping) (position : Nat) : Value :=
  .record [("name", .text report.name), ("ordinal_position", .int position), ("nullable", .bool report.nullable),
    ("type_name", .text report.typeName), ("column_size", .ofInteger report.size),
    ("decimal_digits", .ofInteger report.scale),
    ("database_type", .ofName ((mapping.lookup report.typeName).map TypeName.full)),
    ("auto_increment", .bool (report.increments == some true))]

/-- The document of an index: its columns are called as they are shown. -/
def IndexReport.document (report : IndexReport) : Value :=
  .record [("name", .ofName report.name), ("unique", .bool report.unique),
    ("columns", .list ((report.columns.zipIdx 1).map fun (column, position) =>
      .record [("name", .ofName (report.shown position column)), ("ordinal_position", .int position),
        ("order_type", .text (report.order (report.shown position column)).text)]))]

/-- The document of a column of a primary key. -/
def primaryKeyDocument (position : Nat) (column : String) : Value :=
  .record [("name", .text column), ("ordinal_position", .int position)]

/-- The document of a foreign key. -/
def KeyReport.document (report : KeyReport) : Value :=
  .record [("name", .text report.name),
    ("columns", .list ((report.columns.zipIdx 1).map fun (pair, position) =>
      .record [("name", .text pair.1), ("ordinal_position", .int position),
        ("foreign_schema_name", .ofName report.schema), ("foreign_table_name", .text report.table),
        ("foreign_column_name", .text pair.2)]))]

/-- The document of a table: the indexes and foreign keys that are listed, and all of the rest. -/
def TableReport.document (report : TableReport) (mapping : TypeMapping) : Value :=
  .record [("name", .text report.name),
    ("columns", .list ((report.columns.zipIdx 1).map fun (column, position) => column.document mapping position)),
    ("indexes", .list ((report.indexes.filter IndexReport.isListed).map IndexReport.document)),
    ("primary_key_columns", .list ((report.primaryKey.zipIdx 1).map fun (column, position) =>
      primaryKeyDocument position column)),
    ("foreign_keys", .list ((report.foreignKeys.filter KeyReport.isListed).map KeyReport.document))]

variable {mappers : Registry} {mapping : TypeMapping}

/-- The trees of one kind below a table are the trees of the part of the kind. -/
theorem TableReport.collection_tree (report : TableReport) (part : TablePart) :
    (report.tree mappers mapping).collection part.kind = report.partTrees mappers mapping part := by
  have hfilter (other : TablePart) : (report.partTrees mappers mapping other).filter (·.kind == part.kind) =
      if other = part then report.partTrees mappers mapping other else [] := by
    split
    · rename_i heq
      subst heq
      rw [List.filter_eq_self]
      intro tree htree
      rw [kind_of_mem_partTrees htree, beq_self_eq_true]
    · rename_i hne
      rw [List.filter_eq_nil_iff]
      intro tree htree hkind
      rw [kind_of_mem_partTrees htree, beq_iff_eq] at hkind
      exact hne (TablePart.kind_injective hkind)
  change (Crawl.parts.flatMap (report.partTrees mappers mapping)).filter _ = _
  simp only [Crawl.parts, List.flatMap_cons, List.flatMap_nil, List.filter_append, hfilter]
  cases part <;> simp

/-- The document of a tree with one collection lists the documents of the items that its children are told
from. -/
theorem Tree.documentLevels_map {ι : Type} {name : Option String} {content : Content} {items : List ι}
    {treeOf : ι → Tree} {documentOf : ι → Value} {kind : NodeKind} {label : String} {levels : Nat}
    (hcollections : content.kind.collections = [(kind, label)]) (hkind : ∀ item, (treeOf item).kind = kind)
    (hdocument : ∀ item, (treeOf item).documentLevels levels = documentOf item) :
    (Tree.node name content (items.map treeOf)).documentLevels (levels + 1) =
      .record (("name", .ofName name) :: content.fields ++ [(label, .list (items.map documentOf))]) := by
  have hroot : (Tree.node name content (items.map treeOf)).kind.collections = [(kind, label)] := hcollections
  have hchildren : (Tree.node name content (items.map treeOf)).collection kind = items.map treeOf := by
    apply List.filter_eq_self.mpr
    intro child hchild
    obtain ⟨item, -, rfl⟩ := List.mem_map.mp hchild
    rw [hkind item, beq_self_eq_true]
  have hdocuments : Tree.documentLevels levels ∘ treeOf = documentOf := funext hdocument
  rw [Tree.documentLevels, hroot]
  simp only [List.map_cons, List.map_nil, hchildren, List.map_map, hdocuments]
  rfl

/-- The document of an index is the document of its tree. -/
theorem IndexReport.documentLevels_tree (report : IndexReport) : report.tree.documentLevels 1 = report.document :=
  Tree.documentLevels_map rfl (fun _ => rfl) fun _ => rfl

/-- The document of a foreign key is the document of its tree. -/
theorem KeyReport.documentLevels_tree (report : KeyReport) : report.tree.documentLevels 1 = report.document :=
  Tree.documentLevels_map rfl (fun _ => rfl) fun _ => rfl

/-- The document of a table is the document of its tree. -/
theorem TableReport.documentLevels_tree (report : TableReport) :
    (report.tree mappers mapping).documentLevels 2 = report.document mapping := by
  have hkind : (report.tree mappers mapping).kind = .table := rfl
  have hcolumns : (report.tree mappers mapping).collection .column = report.partTrees mappers mapping .columns :=
    report.collection_tree .columns
  have hindexes : (report.tree mappers mapping).collection .index = report.partTrees mappers mapping .indexes :=
    report.collection_tree .indexes
  have hprimaryKey : (report.tree mappers mapping).collection .primaryKeyColumn =
      report.partTrees mappers mapping .primaryKey := report.collection_tree .primaryKey
  have hforeignKeys : (report.tree mappers mapping).collection .foreignKey =
      report.partTrees mappers mapping .foreignKeys := report.collection_tree .foreignKeys
  have hindex : Tree.documentLevels 1 ∘ IndexReport.tree = IndexReport.document :=
    funext IndexReport.documentLevels_tree
  have hkey : Tree.documentLevels 1 ∘ KeyReport.tree = KeyReport.document :=
    funext KeyReport.documentLevels_tree
  rw [Tree.documentLevels, hkind]
  simp only [NodeKind.collections, List.map_cons, List.map_nil, hcolumns, hindexes, hprimaryKey, hforeignKeys,
    partTrees, List.map_map, hindex, hkey]
  rfl

/-- The document of a schema. -/
def schemaDocument (mapping : TypeMapping) (schema : String) (tables : List TableReport) : Value :=
  .record [("name", .text schema), ("tables", .list (tables.map fun table => table.document mapping))]

/-- The document of a schema is the document of its tree. -/
theorem documentLevels_schemaTree (schema : String) (tables : List TableReport) :
    (Crawl.schemaTree mappers mapping schema tables).documentLevels 3 = schemaDocument mapping schema tables :=
  Tree.documentLevels_map rfl (fun _ => rfl) TableReport.documentLevels_tree

/-! ## Distinct siblings -/

/-- A leaf has no siblings below it that could be of one name. -/
theorem Tree.distinct_leaf (name : Option String) (content : Content) (levels : Nat) :
    (Tree.node name content []).Distinct levels := by
  cases levels with
  | zero => trivial
  | succ levels => exact ⟨fun _ => List.nodup_nil, fun _ hmem => absurd hmem List.not_mem_nil⟩

/-- Trees whose children have different names and are distinct are distinct. -/
theorem Tree.distinct_of_nodup {name : Option String} {content : Content} {children : List Tree} {levels : Nat}
    (hnodup : (children.map Tree.name).Nodup) (hchildren : ∀ child ∈ children, child.Distinct levels) :
    (Tree.node name content children).Distinct (levels + 1) :=
  ⟨fun _ => hnodup.sublist ((List.filter_sublist).map _), hchildren⟩

/-- A tree with children of one kind is distinct exactly if they have different names and are distinct. -/
theorem Tree.distinct_iff_of_kind {name : Option String} {content : Content} {children : List Tree} {levels : Nat}
    {kind : NodeKind} (hkind : ∀ child ∈ children, child.kind = kind) :
    (Tree.node name content children).Distinct (levels + 1) ↔
      (children.map Tree.name).Nodup ∧ ∀ child ∈ children, child.Distinct levels := by
  refine ⟨fun h => ⟨?_, h.2⟩, fun h => distinct_of_nodup h.1 h.2⟩
  have hall : (Tree.node name content children).collection kind = children :=
    List.filter_eq_self.mpr fun child hchild => beq_iff_eq.mpr (hkind child hchild)
  have hnodup := h.1 kind
  rwa [hall] at hnodup

/-- An index that reports no column twice has distinct columns. -/
theorem IndexReport.distinct_tree {report : IndexReport} (h : report.shownColumns.Nodup) :
    report.tree.Distinct 1 := by
  refine Tree.distinct_of_nodup ?_ fun _ _ => trivial
  rw [List.map_map]
  exact h

/-- Names that are given to items one by one are different if the items' names are. -/
theorem nodup_zipIdx {α : Type} {nameOf : α → String} {items : List α} (h : (items.map nameOf).Nodup) :
    ((items.zipIdx 1).map fun entry => some (nameOf entry.1)).Nodup := by
  rw [map_zipIdx_fst fun item => some (nameOf item), ← Function.comp_def, ← List.map_map]
  exact h.map fun _ _ => Option.some.inj

/-- A foreign key that reports no column twice has distinct columns. -/
theorem KeyReport.distinct_tree {report : KeyReport} (h : (report.columns.map Prod.fst).Nodup) :
    report.tree.Distinct 1 := by
  refine Tree.distinct_of_nodup ?_ fun _ _ => trivial
  rw [List.map_map]
  exact nodup_zipIdx h

/-- The trees of a part of a table have different names, if nothing is reported twice. -/
theorem TableReport.nodup_partTrees {report : TableReport} (h : report.Distinct) (part : TablePart) :
    ((report.partTrees mappers mapping part).map Tree.name).Nodup := by
  cases part with
  | columns =>
    rw [partTrees, List.map_map]
    exact nodup_zipIdx h.columns
  | indexes =>
    rw [partTrees, List.map_map]
    exact nodup_listed h.indexes
  | primaryKey =>
    rw [partTrees, List.map_map]
    exact @nodup_zipIdx String id _ (by rw [List.map_id]; exact h.primaryKey)
  | foreignKeys =>
    rw [partTrees, List.map_map]
    exact nodup_listedKeys h.foreignKeys

/-- The trees of a part of a table are distinct, if nothing is reported twice. -/
theorem TableReport.distinct_partTrees {report : TableReport} (h : report.Distinct) (part : TablePart) :
    ∀ tree ∈ report.partTrees mappers mapping part, tree.Distinct 1 := by
  intro tree htree
  cases part with
  | columns =>
    obtain ⟨_, -, rfl⟩ := List.mem_map.mp htree
    exact Tree.distinct_leaf _ _ 1
  | indexes =>
    obtain ⟨index, hindex, rfl⟩ := List.mem_map.mp htree
    obtain ⟨hmem, hlisted⟩ := List.mem_filter.mp hindex
    refine IndexReport.distinct_tree (h.indexColumns index hmem ?_)
    rw [IndexReport.isListed, Bool.and_eq_true] at hlisted
    exact hlisted.1
  | primaryKey =>
    obtain ⟨_, -, rfl⟩ := List.mem_map.mp htree
    exact Tree.distinct_leaf _ _ 1
  | foreignKeys =>
    obtain ⟨key, hkey, rfl⟩ := List.mem_map.mp htree
    exact KeyReport.distinct_tree (h.keyColumns key (List.mem_filter.mp hkey).1)

/-- A table that reports nothing twice has distinct siblings below it. -/
theorem TableReport.distinct_tree {report : TableReport} (h : report.Distinct) :
    (report.tree mappers mapping).Distinct 2 := by
  have hchild : ∀ child ∈ (report.tree mappers mapping).children, ∃ part,
      child ∈ report.partTrees mappers mapping part := by
    intro child hmem
    obtain ⟨part, -, hpart⟩ := List.mem_flatMap.mp hmem
    exact ⟨part, hpart⟩
  constructor
  · intro kind
    by_cases hkind : ∃ part : TablePart, part.kind = kind
    · obtain ⟨part, rfl⟩ := hkind
      rw [collection_tree]
      exact nodup_partTrees h part
    · have hnone : (report.tree mappers mapping).collection kind = [] := by
        refine List.filter_eq_nil_iff.mpr fun child hmem hof => hkind ?_
        obtain ⟨part, hpart⟩ := hchild child hmem
        exact ⟨part, (kind_of_mem_partTrees hpart).symm.trans (beq_iff_eq.mp hof)⟩
      rw [hnone]
      exact List.nodup_nil
  · intro child hmem
    obtain ⟨part, hpart⟩ := hchild child hmem
    exact distinct_partTrees h part child hpart

end SchemaAtlas
