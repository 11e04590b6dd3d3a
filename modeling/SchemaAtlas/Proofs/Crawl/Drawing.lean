import SchemaAtlas.Crawl.Tables
import SchemaAtlas.Proofs.Catalog.Discipline
import SchemaAtlas.Proofs.Catalog.Planting

/-!
# Drawing trees from rows

Rows are ingested block by block, and each block draws the trees that belong to it. A block of one row
draws a leaf.
-/

namespace SchemaAtlas

namespace Survey

variable {Notes γ : Type}

/-- Rows are ingested in two portions as in one. -/
theorem Ingestion.rows_append (way : Ingestion Notes γ) (count : Nat) (first rest : List Row) :
    way.rows count (first ++ rest) = way.rows count first >>= fun count => way.rows count rest := by
  induction first generalizing count with
  | nil => rfl
  | cons row first ih =>
    cases row with
    | error f => rfl
    | ok row =>
      simp only [List.cons_append, Ingestion.rows, bind_assoc]
      congr 1
      funext accepted
      cases accepted with
      | false => exact ih count
      | true => simp only [if_true, bind_assoc, ih]

/-- A row that counts is ingested by filling its child. -/
theorem Ingestion.rows_single {way : Ingestion Notes γ} {row : Value} {s : Survey Notes}
    (haccepts : way.accepts row s = (.ok true, s)) (count : Nat) :
    way.rows count [.ok row] s = (do way.fill (← way.child row) row; pure (count + 1)) s := by
  rw [Ingestion.rows, Keeping.bind_of_ok haccepts]
  rfl

end Survey

namespace Crawl

variable {parent : NodeId} {levels : Nat} {trees : List Tree} {before between after : Survey Notes}

/-- A node was planted in a survey, and the type mapping stayed as it was. -/
structure Planted (before : Survey Notes) (parent : NodeId) (kind : NodeKind) (leaf : Node) (after : Survey Notes) :
    Prop where
  lt : parent < before.atlas.nodes.size
  mapping : after.notes.mapping = before.notes.mapping
  atlas : after.atlas = before.atlas.plant parent kind leaf

/-- A child that is added is planted as a new node. -/
theorem add_planted {kind : NodeKind} {name : Option String} {content : Content}
    (hparent : before.atlas.IsOpen parent name content)
    (hkind : content.kind.collections.any (·.1 == kind) = true) :
    Keeping.Succeeds (Survey.add parent kind) before fun id after => id = before.atlas.nodes.size ∧
      Planted before parent kind { content := .new kind, parent := some parent } after := by
  obtain ⟨node, hnode, -, rfl, hfrozen⟩ := hparent
  exact ⟨_, _, Survey.add_apply hnode hkind hfrozen, rfl, Atlas.lt_of_node? hnode, rfl, rfl⟩

/-- A planted node has its name. -/
theorem Planted.nameOf {kind : NodeKind} {leaf : Node} (h : Planted before parent kind leaf after) :
    after.atlas.nameOf before.atlas.nodes.size = leaf.name := by
  rw [Atlas.nameOf, h.atlas, Atlas.node?_plant before.atlas kind leaf h.lt, if_pos rfl]
  rfl

/-- Its parent keeps its name. -/
theorem Planted.nameOf_parent {kind : NodeKind} {leaf : Node} (h : Planted before parent kind leaf after) :
    after.atlas.nameOf parent = before.atlas.nameOf parent := by
  obtain ⟨node, hnode⟩ := Atlas.exists_of_lt h.lt
  rw [Atlas.nameOf, Atlas.nameOf, h.atlas, Atlas.node?_plant_parent hnode, hnode]
  rfl

/-- Setting a field of a planted node plants the node with the field, or changes nothing if the node refuses it. -/
theorem Planted.set_apply {kind : NodeKind} {leaf : Node} (h : Planted before parent kind leaf between)
    (field : String) (given : Entry) :
    Survey.set before.atlas.nodes.size field given between = match leaf.assign field given with
      | .ok next => (.ok (), { between with atlas := before.atlas.plant parent kind next })
      | .error f => (.error f, between) := by
  have hleaf : between.atlas.node? before.atlas.nodes.size = some leaf := by
    rw [h.atlas, Atlas.node?_plant before.atlas kind leaf h.lt, if_pos rfl]
  rw [Survey.set, Keeping.bind_of_ok (Keeping.get_apply _), Keeping.bind_apply, Keeping.settle_apply,
    Atlas.assign_eq hleaf]
  cases leaf.assign field given with
  | ok next => simp only [Except.map, Keeping.modify_apply, h.atlas, Atlas.update_plant before.atlas kind leaf next h.lt]
  | error f => rfl

/-- Setting a field of a planted node plants the node with the field. -/
theorem Planted.set {kind : NodeKind} {leaf next : Node} {field : String} {given : Entry}
    (h : Planted before parent kind leaf between) (hnext : leaf.assign field given = .ok next) :
    Keeping.Succeeds (Survey.set before.atlas.nodes.size field given) between fun _ =>
      Planted before parent kind next := by
  refine ⟨(), { between with atlas := before.atlas.plant parent kind next }, ?_, h.lt, h.mapping, rfl⟩
  rw [h.set_apply, hnext]

/-- So does setting it to a field of a row. -/
theorem Planted.setFrom {kind : NodeKind} {leaf next : Node} {field column : String} {row v : Value}
    (h : Planted before parent kind leaf between) (hrow : row.field column = .ok v)
    (hnext : leaf.assign field (.value v) = .ok next) :
    Keeping.Succeeds (Survey.setFrom before.atlas.nodes.size field row column) between fun _ =>
      Planted before parent kind next := by
  obtain ⟨a, after, hset, hafter⟩ := h.set hnext
  refine ⟨a, after, ?_, hafter⟩
  rw [Survey.setFrom, Keeping.bind_apply, Keeping.settle_apply, hrow]
  exact hset

/-- A planted node of a name and a content is open. -/
theorem Planted.isOpen {name : Option String} {content : Content}
    (h : Planted before parent content.kind { name, content, parent := some parent } after) :
    after.atlas.IsOpen before.atlas.nodes.size name content := by
  rw [h.atlas]
  exact (Atlas.isLeaf_plant before.atlas name content h.lt).isOpen

/-- Some trees were put under a node, and the type mapping stayed as it was. -/
structure Drawn (parent : NodeId) (levels : Nat) (trees : List Tree) (before after : Survey Notes) : Prop where
  mapping : after.notes.mapping = before.notes.mapping
  atlas : Atlas.Extends parent levels trees before.atlas after.atlas

/-- Nothing is drawn where the atlas and the type mapping stay as they are. -/
theorem Drawn.of_same (parent : NodeId) (levels : Nat) (hatlas : after.atlas = before.atlas)
    (hmapping : after.notes.mapping = before.notes.mapping) : Drawn parent levels [] before after :=
  ⟨hmapping, by rw [hatlas]; exact .refl parent levels before.atlas⟩

/-- Nothing draws no trees. -/
theorem Drawn.refl (parent : NodeId) (levels : Nat) (survey : Survey Notes) :
    Drawn parent levels [] survey survey :=
  .of_same parent levels rfl rfl

/-- Trees are drawn one after the other. -/
theorem Drawn.trans {more : List Tree} (hfirst : Drawn parent levels trees before between)
    (hsecond : Drawn parent levels more between after) (hparent : parent < before.atlas.nodes.size) :
    Drawn parent levels (trees ++ more) before after :=
  ⟨hsecond.mapping.trans hfirst.mapping, hfirst.atlas.trans hsecond.atlas hparent⟩

/-- Some leaves were filled into trees, and the type mapping stayed as it was. -/
structure Filled (ids : List NodeId) (levels : Nat) (trees : List Tree) (before after : Survey Notes) : Prop where
  mapping : after.notes.mapping = before.notes.mapping
  atlas : Atlas.Fills ids levels trees before.atlas after.atlas

/-- A leaf under which trees are drawn is filled. -/
theorem Drawn.filled {name : Option String} {content : Content} (h : Drawn parent levels trees before after)
    (hleaf : before.atlas.IsLeaf parent name content) :
    Filled [parent] (levels + 1) [.node name content trees] before after :=
  ⟨h.mapping, h.atlas.fills hleaf⟩

/-- The children that were drawn as leaves under a leaf are leaves. -/
theorem Drawn.leaves {ι : Type} {nameOf : ι → Option String} {name : Option String} {content child : Content}
    {items : List ι} (h : Drawn parent (levels + 1) (items.map fun item => .node (nameOf item) child []) before after)
    (hleaf : before.atlas.IsLeaf parent name content) :
    List.Forall₂ (fun id item => after.atlas.IsLeaf id (nameOf item) child)
      (after.atlas.collection parent child.kind) items := by
  have hkind : ∀ tree ∈ items.map (fun item => Tree.node (nameOf item) child []), tree.kind = child.kind := by
    intro tree htree
    obtain ⟨item, -, rfl⟩ := List.mem_map.mp htree
    rfl
  have hall := h.atlas.collection hleaf hkind
  rw [List.forall₂_map_right_iff] at hall
  exact hall.imp fun id item hstands => h.atlas.isLeaf hstands

/-- A leaf under which leaves are drawn, which then are filled, is filled. -/
theorem Filled.below {ι : Type} {treeOf : ι → Tree} {name : Option String} {content : Content} {kind : NodeKind}
    {low : Nat} {items : List ι}
    (h : Filled (between.atlas.collection parent kind) levels (items.map treeOf) between after)
    (hdrawn : Drawn parent low (items.map fun item => (treeOf item).bare) before between)
    (hleaf : before.atlas.IsLeaf parent name content) (hkind : ∀ item, (treeOf item).kind = kind) :
    Filled [parent] (levels + 1) [.node name content (items.map treeOf)] before after := by
  have hbare : before.atlas.Extends parent low ((items.map treeOf).map Tree.bare) between.atlas := by
    rw [List.map_map]
    exact hdrawn.atlas
  refine ⟨h.mapping.trans hdrawn.mapping, Atlas.Extends.fills_below hbare hleaf ?_ h.atlas⟩
  intro tree htree
  obtain ⟨item, -, rfl⟩ := List.mem_map.mp htree
  exact hkind item

/-- What is planted as a leaf is drawn. -/
theorem Planted.drawn {name : Option String} {content : Content}
    (h : Planted before parent content.kind { name, content, parent := some parent } after) (levels : Nat) :
    Drawn parent levels [.node name content []] before after := by
  refine ⟨h.mapping, ?_⟩
  rw [h.atlas]
  exact Atlas.extends_plant before.atlas name content h.lt levels

/-- A way of ingesting rows draws trees from some rows: it succeeds, and these are the trees it draws. -/
def Draws (way : Survey.Ingestion Notes NodeId) (parent : NodeId) (levels : Nat) (rows : List Row)
    (trees : List Tree) (before : Survey Notes) : Prop :=
  ∀ count, Keeping.Succeeds (way.rows count rows) before fun _ => Drawn parent levels trees before

variable {way : Survey.Ingestion Notes NodeId}

/-- Blocks of rows draw their trees one after the other, each in a survey in which the blocks before it have
drawn theirs. -/
theorem draws_blocks {ι : Type} {Block : List Row → ι → Prop} {treesOf : ι → List Tree} {items : List ι}
    {blocks : List (List Row)} (hparent : parent < before.atlas.nodes.size)
    (hblocks : List.Forall₂ Block blocks items)
    (hdraws : ∀ done item rest block between, items = done ++ item :: rest → Block block item →
      Drawn parent levels (done.flatMap treesOf) before between →
      Draws way parent levels block (treesOf item) between) :
    Draws way parent levels blocks.flatten (items.flatMap treesOf) before := by
  suffices h : ∀ (blocks : List (List Row)) (rest done : List ι) (between : Survey Notes) (count : Nat),
      items = done ++ rest → List.Forall₂ Block blocks rest →
      Drawn parent levels (done.flatMap treesOf) before between →
      Keeping.Succeeds (way.rows count blocks.flatten) between fun _ =>
        Drawn parent levels (items.flatMap treesOf) before by
    exact fun count => h blocks items [] before count rfl hblocks (Drawn.refl parent levels before)
  intro blocks rest
  induction rest generalizing blocks with
  | nil =>
    rintro done between count hitems ⟨⟩ hdone
    rw [List.append_nil] at hitems
    subst hitems
    exact ⟨count, between, rfl, hdone⟩
  | cons item rest ih =>
    rintro done between count hitems (_ | ⟨hblock, hrest⟩) hdone
    rw [List.flatten_cons, Survey.Ingestion.rows_append]
    refine (hdraws done item rest _ between hitems hblock hdone count).bind fun count next hnext => ?_
    refine ih _ (done ++ [item]) next count (by rw [hitems, List.append_assoc]; rfl) hrest ?_
    rw [List.flatMap_append, List.flatMap_singleton]
    exact hdone.trans hnext hparent

/-- Rows draw their trees one after the other. -/
theorem draws_rows {ι : Type} {RowOf : Value → ι → Prop} {treeOf : ι → Tree} {items : List ι} {rows : List Row}
    (hparent : parent < before.atlas.nodes.size)
    (hrows : List.Forall₂ (fun row item => ∃ v, row = .ok v ∧ RowOf v item) rows items)
    (hdraws : ∀ v item done between, item ∈ items → RowOf v item → Drawn parent levels done before between →
      Draws way parent levels [.ok v] [treeOf item] between) :
    Draws way parent levels rows (items.map treeOf) before := by
  have hblocks : List.Forall₂ (fun block item => ∃ v, block = [.ok v] ∧ RowOf v item)
      (rows.map fun row => [row]) items := by
    rw [List.forall₂_map_left_iff]
    apply hrows.imp
    rintro row item ⟨v, rfl, hv⟩
    exact ⟨v, rfl, hv⟩
  have hflat : (rows.map fun row => [row]).flatten = rows := by rw [← List.flatMap_def, List.flatMap_singleton']
  have htrees : (items.flatMap fun item => [treeOf item]) = items.map treeOf := List.map_eq_flatMap.symm
  rw [← hflat, ← htrees]
  refine draws_blocks hparent hblocks ?_
  rintro done item rest _ between hitems ⟨v, rfl, hv⟩ hdone
  exact hdraws v item _ between (by rw [hitems]; exact List.mem_append_right _ List.mem_cons_self) hv hdone

/-- A row whose child is new and is filled as a leaf draws the leaf. -/
theorem draws_leaf {name label : Option String} {content parentContent : Content} {row : Value}
    (hparent : before.atlas.IsOpen parent name parentContent)
    (hkind : parentContent.kind.collections.any (·.1 == content.kind) = true)
    (haccepts : way.accepts row before = (.ok true, before))
    (hchild : way.child row = Survey.add parent content.kind)
    (hfill : ∀ s, Planted before parent content.kind { content := .new content.kind, parent := some parent } s →
      Keeping.Succeeds (way.fill before.atlas.nodes.size row) s fun _ =>
        Planted before parent content.kind { name := label, content, parent := some parent }) :
    Draws way parent levels [.ok row] [.node label content []] before := by
  intro count
  rw [Keeping.Succeeds, Survey.Ingestion.rows_single haccepts, hchild]
  refine (add_planted hparent hkind).bind ?_
  rintro _ s ⟨rfl, hs⟩
  exact (hfill s hs).bind fun _ after hafter => ⟨_, after, rfl, hafter.drawn levels⟩

end Crawl

end SchemaAtlas
