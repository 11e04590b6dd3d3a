import SchemaAtlas.Proofs.Atlas.Tree

/-!
# How an atlas is extended by trees

New trees are put under a node behind the children it has; all nodes of such a tree are new. Extensions of
one node follow each other. A leaf that has been extended is a tree, and trees that stand at different
nodes are filled one after the other without touching each other.
-/

namespace SchemaAtlas.Atlas

variable {before between after : Atlas} {parent : NodeId} {levels : Nat} {trees : List Tree}

/-- The new places of an atlas that comes after another. -/
def New (before after : Atlas) (id : NodeId) : Prop :=
  before.nodes.size ≤ id ∧ id < after.nodes.size

/-- Some trees, all of new nodes, are put under a node; the other nodes stay as they are. -/
structure Extends (parent : NodeId) (levels : Nat) (trees : List Tree) (before after : Atlas) : Prop where
  size : before.nodes.size ≤ after.nodes.size
  same : ∀ id, id < before.nodes.size → id ≠ parent → after.node? id = before.node? id
  children : ∀ node, before.node? parent = some node → ∃ added,
    after.node? parent = some { node with children := node.children ++ added } ∧
      List.Forall₂ (fun child tree => child.1 = tree.kind ∧
        after.Stands (New before after) levels child.2 tree) added trees
  thawed : ∀ id node, New before after id → after.node? id = some node → node.frozen = false

/-- Nothing is an extension by no trees. -/
theorem Extends.refl (parent : NodeId) (levels : Nat) (atlas : Atlas) :
    atlas.Extends parent levels [] atlas where
  size := Nat.le_refl _
  same _ _ _ := rfl
  children node hnode := ⟨[], by rw [List.append_nil, hnode], List.Forall₂.nil⟩
  thawed id node hnew _ := absurd hnew.2 (Nat.not_lt_of_le hnew.1)

/-- Extensions of one node follow each other. -/
theorem Extends.trans {more : List Tree} (hfirst : Extends parent levels trees before between)
    (hsecond : Extends parent levels more between after) (hparent : parent < before.nodes.size) :
    Extends parent levels (trees ++ more) before after where
  size := Nat.le_trans hfirst.size hsecond.size
  same id hid hne := (hsecond.same id (Nat.lt_of_lt_of_le hid hfirst.size) hne).trans (hfirst.same id hid hne)
  children node hnode := by
    obtain ⟨added, hbetween, htrees⟩ := hfirst.children node hnode
    obtain ⟨further, hafter, hmore⟩ := hsecond.children _ hbetween
    refine ⟨added ++ further, ?_, List.rel_append ?_ ?_⟩
    · rw [hafter, List.append_assoc]
    · refine htrees.imp fun child tree hchild => ⟨hchild.1, hchild.2.frame fun id hid => ⟨?_, ?_⟩⟩
      · exact ⟨hid.1, Nat.lt_of_lt_of_le hid.2 hsecond.size⟩
      · exact hsecond.same id hid.2 (Nat.ne_of_gt (Nat.lt_of_lt_of_le hparent hid.1))
    · refine hmore.imp fun child tree hchild => ⟨hchild.1, hchild.2.frame fun id hid => ⟨?_, rfl⟩⟩
      exact ⟨Nat.le_trans hfirst.size hid.1, hid.2⟩
  thawed id node hnew hnode := by
    by_cases hid : id < between.nodes.size
    · rw [hsecond.same id hid (Nat.ne_of_gt (Nat.lt_of_lt_of_le hparent hnew.1))] at hnode
      exact hfirst.thawed id node ⟨hnew.1, hid⟩ hnode
    · exact hsecond.thawed id node ⟨Nat.le_of_not_lt hid, hnew.2⟩ hnode

/-- A node of a name and a content that is not frozen. -/
def IsOpen (atlas : Atlas) (id : NodeId) (name : Option String) (content : Content) : Prop :=
  ∃ node, atlas.node? id = some node ∧ node.name = name ∧ node.content = content ∧ node.frozen = false

/-- An open node is a node. -/
theorem IsOpen.lt {atlas : Atlas} {id : NodeId} {name : Option String} {content : Content}
    (h : atlas.IsOpen id name content) : id < atlas.nodes.size := by
  obtain ⟨node, hnode, -⟩ := h
  exact lt_of_node? hnode

/-- An open node has its name. -/
theorem IsOpen.nameOf {atlas : Atlas} {id : NodeId} {name : Option String} {content : Content}
    (h : atlas.IsOpen id name content) : atlas.nameOf id = name := by
  obtain ⟨node, hnode, hname, -⟩ := h
  rw [Atlas.nameOf, hnode, ← hname]
  rfl

/-- A node that is extended stays open. -/
theorem Extends.isOpen {name : Option String} {content : Content} (h : Extends parent levels trees before after)
    (hopen : before.IsOpen parent name content) : after.IsOpen parent name content := by
  obtain ⟨node, hnode, hname, hcontent, hfrozen⟩ := hopen
  obtain ⟨added, hafter, -⟩ := h.children node hnode
  exact ⟨_, hafter, hname, hcontent, hfrozen⟩

/-- A childless node of a name and a content that is not frozen. -/
def IsLeaf (atlas : Atlas) (id : NodeId) (name : Option String) (content : Content) : Prop :=
  ∃ node, atlas.node? id = some node ∧ node.name = name ∧ node.content = content ∧ node.frozen = false ∧
    node.children = []

/-- A leaf is open. -/
theorem IsLeaf.isOpen {atlas : Atlas} {id : NodeId} {name : Option String} {content : Content}
    (h : atlas.IsLeaf id name content) : atlas.IsOpen id name content := by
  obtain ⟨node, hnode, hname, hcontent, hfrozen, -⟩ := h
  exact ⟨node, hnode, hname, hcontent, hfrozen⟩

/-- A leaf is a tree of itself, on any level. -/
theorem IsLeaf.stands {atlas : Atlas} {id : NodeId} {name : Option String} {content : Content}
    (h : atlas.IsLeaf id name content) {region : NodeId → Prop} (hregion : region id) (levels : Nat) :
    atlas.Stands region levels id (.node name content []) := by
  obtain ⟨node, hnode, hname, hcontent, -, hchildren⟩ := h
  cases levels with
  | zero => exact ⟨hregion, node, hnode, hname, hcontent⟩
  | succ levels =>
    refine ⟨hregion, node, hnode, hname, hcontent, ?_⟩
    rw [hchildren]
    exact List.Forall₂.nil

/-- A leaf that stays as it is stays a leaf. -/
theorem IsLeaf.frame {atlas other : Atlas} {id : NodeId} {name : Option String} {content : Content}
    (h : atlas.IsLeaf id name content) (hsame : other.node? id = atlas.node? id) : other.IsLeaf id name content := by
  obtain ⟨node, hnode, hrest⟩ := h
  exact ⟨node, hsame.trans hnode, hrest⟩

/-! ## Filling leaves -/

/-- Trees stand at nodes that were there before, with new nodes below them; other nodes stay as they
are. -/
structure Fills (ids : List NodeId) (levels : Nat) (trees : List Tree) (before after : Atlas) : Prop where
  size : before.nodes.size ≤ after.nodes.size
  same : ∀ id, id < before.nodes.size → id ∉ ids → after.node? id = before.node? id
  trees : List.Forall₂ (after.Stands (fun id => id ∈ ids ∨ New before after id) levels) ids trees
  thawed : ∀ id node, id ∈ ids ∨ New before after id → after.node? id = some node → node.frozen = false

/-- No nodes are filled by nothing. -/
theorem Fills.nil (levels : Nat) (atlas : Atlas) : atlas.Fills [] levels [] atlas where
  size := Nat.le_refl _
  same _ _ _ := rfl
  trees := List.Forall₂.nil
  thawed _ _ hid _ := hid.elim (fun hmem => absurd hmem List.not_mem_nil)
    fun hnew => absurd hnew.2 (Nat.not_lt_of_le hnew.1)

/-- A leaf is filled by extending it. -/
theorem Extends.fills {name : Option String} {content : Content}
    (h : Extends parent levels trees before after) (hleaf : before.IsLeaf parent name content) :
    Fills [parent] (levels + 1) [.node name content trees] before after where
  size := h.size
  same id hid hne := h.same id hid (fun heq => hne (List.mem_singleton.mpr heq))
  trees := by
    obtain ⟨node, hnode, hname, hcontent, -, hchildren⟩ := hleaf
    obtain ⟨added, hafter, htrees⟩ := h.children node hnode
    refine List.Forall₂.cons ⟨.inl List.mem_cons_self, _, hafter, hname, hcontent, ?_⟩ List.Forall₂.nil
    rw [hchildren, List.nil_append]
    exact htrees.imp fun child tree hchild =>
      ⟨hchild.1, hchild.2.frame fun id hid => ⟨.inr hid, rfl⟩⟩
  thawed := by
    rintro id node (hmem | hnew) hnode
    · obtain rfl : id = parent := List.mem_singleton.mp hmem
      obtain ⟨leaf, hleaf, -, -, hfrozen, -⟩ := hleaf
      obtain ⟨added, hafter, -⟩ := h.children leaf hleaf
      obtain rfl := Option.some.inj (hafter.symm.trans hnode)
      exact hfrozen
    · exact h.thawed id node hnew hnode

/-- Different nodes are filled one after the other. -/
theorem Fills.append {first second : List NodeId} {more : List Tree}
    (hfirst : Fills first levels trees before between) (hsecond : Fills second levels more between after)
    (hdisjoint : ∀ id ∈ first, id ∉ second)
    (hids : ∀ id ∈ first ++ second, id < before.nodes.size) :
    Fills (first ++ second) levels (trees ++ more) before after := by
  have hkept : ∀ id, id ∈ first ∨ New before between id → after.node? id = between.node? id := by
    rintro id (hmem | hnew)
    · have hlt := hids id (List.mem_append_left _ hmem)
      exact hsecond.same id (Nat.lt_of_lt_of_le hlt hfirst.size) (hdisjoint id hmem)
    · refine hsecond.same id hnew.2 fun hmem => ?_
      exact absurd (hids id (List.mem_append_right _ hmem)) (Nat.not_lt_of_le hnew.1)
  refine ⟨Nat.le_trans hfirst.size hsecond.size, ?_, List.rel_append ?_ ?_, ?_⟩
  · intro id hid hne
    rw [List.mem_append, not_or] at hne
    exact (hsecond.same id (Nat.lt_of_lt_of_le hid hfirst.size) hne.2).trans (hfirst.same id hid hne.1)
  · refine hfirst.trees.imp fun _ _ hstands => hstands.frame fun id hid => ⟨?_, hkept id hid⟩
    exact hid.imp (List.mem_append_left _) fun hnew => ⟨hnew.1, Nat.lt_of_lt_of_le hnew.2 hsecond.size⟩
  · refine hsecond.trees.imp fun _ _ hstands => hstands.frame fun id hid => ⟨?_, rfl⟩
    exact hid.imp (List.mem_append_right _) fun hnew => ⟨Nat.le_trans hfirst.size hnew.1, hnew.2⟩
  · intro id node hid hnode
    by_cases hearly : id ∈ first ∨ New before between id
    · exact hfirst.thawed id node hearly ((hkept id hearly).symm.trans hnode)
    · rw [not_or] at hearly
      refine hsecond.thawed id node ?_ hnode
      rcases hid with hmem | hnew
      · exact .inl ((List.mem_append.mp hmem).resolve_left hearly.1)
      · refine .inr ⟨Nat.le_of_not_lt fun hlt => hearly.2 ⟨hnew.1, hlt⟩, hnew.2⟩

/-- What follows for the items of a list from the items that they correspond to. -/
theorem forall_of_forall₂ {α β : Type} {R : α → β → Prop} {p : α → Prop} {first : List α} {second : List β}
    (h : List.Forall₂ R first second) (hp : ∀ a b, b ∈ second → R a b → p a) : ∀ a ∈ first, p a := by
  induction h with
  | nil => exact fun _ hmem => absurd hmem List.not_mem_nil
  | @cons a b first second hfirst _ ih =>
    intro item hitem
    rcases List.mem_cons.mp hitem with rfl | hrest
    · exact hp item b List.mem_cons_self hfirst
    · exact ih (fun a b hb => hp a b (List.mem_cons_of_mem _ hb)) item hrest

/-- Where there was no child of a kind, the children of the kind are those that an extension adds. -/
theorem Extends.collection_added {kind : NodeKind} (h : Extends parent levels trees before after)
    (hparent : parent < before.nodes.size) (hnone : before.collection parent kind = []) :
    List.Forall₂ (after.Stands (New before after) levels) (after.collection parent kind)
      (trees.filter (·.kind == kind)) := by
  obtain ⟨node, hnode⟩ := exists_of_lt hparent
  obtain ⟨added, hafter, htrees⟩ := h.children node hnode
  have hcollection := forall₂_collection htrees kind
  rw [Atlas.collection, hnode] at hnone
  rw [Atlas.collection, hafter]
  simp only [Node.collection, List.map_eq_nil_iff] at hnone
  simpa only [Node.collection, List.filter_append, hnone, List.nil_append] using hcollection

/-- The children that an extension of a leaf adds are all of its children. -/
theorem Extends.collection {name : Option String} {content : Content} {kind : NodeKind}
    (h : Extends parent levels trees before after) (hleaf : before.IsLeaf parent name content)
    (hkind : ∀ tree ∈ trees, tree.kind = kind) :
    List.Forall₂ (after.Stands (New before after) levels) (after.collection parent kind) trees := by
  have hnone : before.collection parent kind = [] := by
    obtain ⟨node, hnode, -, -, -, hchildren⟩ := hleaf
    simp only [Atlas.collection, hnode, Node.collection, hchildren, List.filter_nil, List.map_nil]
  have hall : trees.filter (·.kind == kind) = trees :=
    List.filter_eq_self.mpr fun tree htree => beq_iff_eq.mpr (hkind tree htree)
  have hadded := h.collection_added hleaf.isOpen.lt hnone
  rwa [hall] at hadded

/-- A new childless tree is a leaf. -/
theorem Extends.isLeaf (h : Extends parent levels trees before after) {low : Nat} {id : NodeId}
    {name : Option String} {content : Content}
    (hstands : after.Stands (New before after) (low + 1) id (.node name content [])) :
    after.IsLeaf id name content := by
  obtain ⟨hnew, node, hnode, hname, hcontent, hchildren⟩ := hstands
  exact ⟨node, hnode, hname, hcontent, h.thawed id node hnew hnode, List.forall₂_nil_right_iff.mp hchildren⟩

/-- A node that was given childless trees, whose roots then were filled, is extended by the filled trees. -/
theorem Extends.below {low : Nat} {ids : List NodeId} (h : Extends parent low (trees.map Tree.bare) before between)
    (hparent : parent < before.nodes.size)
    (hids : ∀ node, before.node? parent = some node → ∃ added,
      between.node? parent = some { node with children := node.children ++ added } ∧ added.map Prod.snd = ids)
    (hnew : ∀ id ∈ ids, New before between id) (hfills : Fills ids levels trees between after) :
    Extends parent levels trees before after := by
  have hparent' : parent ∉ ids := fun hmem => absurd hparent (Nat.not_lt_of_le (hnew parent hmem).1)
  have hwide : ∀ id, id ∈ ids ∨ New between after id → New before after id := by
    rintro id (hmem | hlater)
    · exact ⟨(hnew id hmem).1, Nat.lt_of_lt_of_le (hnew id hmem).2 hfills.size⟩
    · exact ⟨Nat.le_trans h.size hlater.1, hlater.2⟩
  refine ⟨Nat.le_trans h.size hfills.size, ?_, ?_, ?_⟩
  · intro id hid hne
    refine (hfills.same id (Nat.lt_of_lt_of_le hid h.size) fun hmem => ?_).trans (h.same id hid hne)
    exact absurd hid (Nat.not_lt_of_le (hnew id hmem).1)
  · intro node hnode
    obtain ⟨added, hbetween, hadded⟩ := h.children node hnode
    obtain ⟨others, hothers, rfl⟩ := hids node hnode
    obtain rfl : added = others := by
      have hnodes := Option.some.inj (hbetween.symm.trans hothers)
      exact List.append_cancel_left (congrArg Node.children hnodes)
    refine ⟨added, (hfills.same parent (lt_of_node? hbetween) hparent').trans hbetween, ?_⟩
    rw [List.forall₂_map_right_iff] at hadded
    have htrees := hfills.trees
    rw [List.forall₂_map_left_iff] at htrees
    refine List.Forall₂.mp ?_ hadded htrees
    exact fun child tree hchild hstands =>
      ⟨hchild.1, hstands.frame fun id hid => ⟨hwide id hid, rfl⟩⟩
  · intro id node hplace hnode
    by_cases hearly : id ∈ ids ∨ New between after id
    · exact hfills.thawed id node hearly hnode
    · rw [not_or] at hearly
      have hlt : id < between.nodes.size :=
        Nat.lt_of_not_le fun hle => hearly.2 ⟨hle, hplace.2⟩
      rw [hfills.same id hlt hearly.1] at hnode
      exact h.thawed id node ⟨hplace.1, hlt⟩ hnode

/-- A leaf that was given leaves of a kind, which then were filled, is filled. -/
theorem Extends.fills_below {name : Option String} {content : Content} {low : Nat} {kind : NodeKind}
    (h : Extends parent low (trees.map Tree.bare) before between) (hleaf : before.IsLeaf parent name content)
    (hkind : ∀ tree ∈ trees, tree.kind = kind)
    (hfills : Fills (between.collection parent kind) levels trees between after) :
    Fills [parent] (levels + 1) [.node name content trees] before after := by
  have hbare : ∀ tree ∈ trees.map Tree.bare, tree.kind = kind := by
    intro tree htree
    obtain ⟨full, hfull, rfl⟩ := List.mem_map.mp htree
    exact hkind full hfull
  have hnew : ∀ id ∈ between.collection parent kind, New before between id :=
    forall_of_forall₂ (h.collection hleaf hbare) fun _ _ _ hchild => hchild.root.1
  have hextends : Extends parent levels trees before after := by
    obtain ⟨leaf, hnode, -, -, -, hchildren⟩ := hleaf
    refine h.below (lt_of_node? hnode) ?_ hnew hfills
    intro node hnode'
    obtain rfl : leaf = node := Option.some.inj (hnode.symm.trans hnode')
    obtain ⟨added, hbetween, hadded⟩ := h.children leaf hnode
    refine ⟨added, hbetween, ?_⟩
    have hfirsts : ∀ child ∈ added, child.1 = kind :=
      forall_of_forall₂ hadded fun _ tree htree hchild => hchild.1.trans (hbare tree htree)
    have hkept : added.filter (fun child => child.1 == kind) = added := by
      rw [List.filter_eq_self]
      intro child hchild
      rw [hfirsts child hchild, beq_self_eq_true]
    rw [Atlas.collection, hbetween]
    simp only [Node.collection, hchildren, List.nil_append, hkept]
  exact hextends.fills hleaf

/-! ## New leaves -/

/-- A new node is put under another and then set as a whole. -/
def plant (atlas : Atlas) (parent : NodeId) (kind : NodeKind) (leaf : Node) : Atlas :=
  (atlas.attach parent kind).1.update atlas.nodes.size fun _ => leaf

/-- A plant is one more node. -/
@[simp] theorem size_plant (atlas : Atlas) (parent : NodeId) (kind : NodeKind) (leaf : Node) :
    (atlas.plant parent kind leaf).nodes.size = atlas.nodes.size + 1 := by
  rw [plant, size_update, size_attach]

/-- It is the last child of its parent; other nodes stay as they are. -/
theorem node?_plant (atlas : Atlas) (kind : NodeKind) (leaf : Node) (hparent : parent < atlas.nodes.size)
    (id : NodeId) :
    (atlas.plant parent kind leaf).node? id =
      if id = atlas.nodes.size then some leaf
      else if id = parent then
        (atlas.node? id).map fun node =>
          { node with children := node.children ++ [(kind, atlas.nodes.size)] }
      else atlas.node? id := by
  rw [plant, node?_update, node?_attach atlas kind hparent]
  by_cases hid : id = atlas.nodes.size
  · simp [hid]
  · simp [hid, Ne.symm hid]

/-- A plant that is set again is the plant of what it is set to. -/
theorem update_plant (atlas : Atlas) (kind : NodeKind) (leaf next : Node) (hparent : parent < atlas.nodes.size) :
    ((atlas.plant parent kind leaf).update atlas.nodes.size fun _ => next) = atlas.plant parent kind next := by
  refine ext_node? fun id => ?_
  rw [node?_update, node?_plant atlas kind leaf hparent, node?_plant atlas kind next hparent]
  by_cases hid : id = atlas.nodes.size
  · simp [hid]
  · simp [hid, Ne.symm hid]

/-- A child that is put under a node is the plant of a new node. -/
theorem attach_eq_plant (atlas : Atlas) (kind : NodeKind) (hparent : parent < atlas.nodes.size) :
    (atlas.attach parent kind).1 = atlas.plant parent kind { content := .new kind, parent := some parent } := by
  refine ext_node? fun id => ?_
  rw [node?_attach atlas kind hparent, node?_plant atlas kind _ hparent]

/-- The parent of a plant has it as its last child. -/
theorem node?_plant_parent {atlas : Atlas} {node : Node} (h : atlas.node? parent = some node) (kind : NodeKind)
    (leaf : Node) :
    (atlas.plant parent kind leaf).node? parent =
      some { node with children := node.children ++ [(kind, atlas.nodes.size)] } := by
  rw [node?_plant atlas kind leaf (lt_of_node? h), if_neg (Nat.ne_of_lt (lt_of_node? h)), if_pos rfl, h]
  rfl

/-- A plant of a name and a content is a leaf. -/
theorem isLeaf_plant (atlas : Atlas) (name : Option String) (content : Content)
    (hparent : parent < atlas.nodes.size) :
    (atlas.plant parent content.kind { name, content, parent := some parent }).IsLeaf atlas.nodes.size name
      content :=
  ⟨_, (node?_plant atlas content.kind _ hparent _).trans (if_pos rfl), rfl, rfl, rfl, rfl⟩

/-- It extends its parent by a leaf. -/
theorem extends_plant (atlas : Atlas) (name : Option String) (content : Content)
    (hparent : parent < atlas.nodes.size) (levels : Nat) :
    atlas.Extends parent levels [.node name content []]
      (atlas.plant parent content.kind { name, content, parent := some parent }) := by
  refine ⟨?_, ?_, ?_, ?_⟩
  · rw [size_plant]
    exact Nat.le_succ _
  · intro id hid hother
    rw [node?_plant atlas _ _ hparent, if_neg (Nat.ne_of_lt hid), if_neg hother]
  · intro node hnode
    refine ⟨_, node?_plant_parent hnode _ _, List.Forall₂.cons ⟨rfl, ?_⟩ List.Forall₂.nil⟩
    refine (isLeaf_plant atlas name content hparent).stands ⟨Nat.le_refl _, ?_⟩ levels
    rw [size_plant]
    exact Nat.lt_succ_self _
  · intro id node hnew hnode
    have hid : id = atlas.nodes.size := by
      rw [New, size_plant] at hnew
      exact Nat.le_antisymm (Nat.le_of_lt_succ hnew.2) hnew.1
    rw [node?_plant atlas _ _ hparent, if_pos hid] at hnode
    rw [← Option.some.inj hnode]

/-- If it is then extended itself, it extends its parent by a tree. -/
theorem extends_group {atlas after : Atlas} {name : Option String} {content : Content} {leaves : List Tree}
    (hparent : parent < atlas.nodes.size)
    (h : Extends atlas.nodes.size levels leaves
      (atlas.plant parent content.kind { name, content, parent := some parent }) after) :
    atlas.Extends parent (levels + 1) [.node name content leaves] after := by
  refine Extends.below (extends_plant atlas name content hparent 0) hparent ?_ ?_
    (h.fills (isLeaf_plant atlas name content hparent))
  · intro node hnode
    exact ⟨_, node?_plant_parent hnode _ _, rfl⟩
  · intro id hid
    rw [List.mem_singleton.mp hid]
    refine ⟨Nat.le_refl _, ?_⟩
    rw [size_plant]
    exact Nat.lt_succ_self _

/-! ## The names of children -/

/-- The names of the children of a kind. -/
def names (atlas : Atlas) (parent : NodeId) (kind : NodeKind) : List (Option String) :=
  (atlas.collection parent kind).map atlas.nameOf

/-- A child of a name is found exactly if the name is one of the children's. -/
theorem childNamed_eq_none_iff (atlas : Atlas) (parent : NodeId) (kind : NodeKind) (name : String) :
    atlas.childNamed parent kind (some name) = none ↔ some name ∉ atlas.names parent kind := by
  simp only [childNamed, firstNamed, names, List.find?_eq_none, List.mem_map, not_exists, not_and]
  refine forall_congr' fun id => forall_congr' fun _ => not_congr ?_
  cases hnode : atlas.node? id <;> simp [nameOf, hnode]

/-- The children of a node are nodes made after it. -/
def Sound (atlas : Atlas) (parent : NodeId) : Prop :=
  ∀ node, atlas.node? parent = some node → ∀ child ∈ node.children,
    parent < child.2 ∧ child.2 < atlas.nodes.size

/-- A leaf has no children. -/
theorem IsLeaf.sound {atlas : Atlas} {id : NodeId} {name : Option String} {content : Content}
    (h : atlas.IsLeaf id name content) : atlas.Sound id := by
  obtain ⟨leaf, hleaf, -, -, -, hchildren⟩ := h
  intro node hnode child hchild
  obtain rfl : leaf = node := Option.some.inj (hleaf.symm.trans hnode)
  rw [hchildren] at hchild
  cases hchild

/-- A leaf has no names below it. -/
theorem IsLeaf.names {atlas : Atlas} {id : NodeId} {name : Option String} {content : Content}
    (h : atlas.IsLeaf id name content) (kind : NodeKind) : atlas.names id kind = [] := by
  obtain ⟨leaf, hleaf, -, -, -, hchildren⟩ := h
  simp [Atlas.names, Atlas.collection, hleaf, Node.collection, hchildren]

/-- The children that an extension adds are made after their parent. -/
theorem Extends.sound (h : Extends parent levels trees before after) (hparent : parent < before.nodes.size)
    (hsound : before.Sound parent) : after.Sound parent := by
  intro next hnext child hchild
  obtain ⟨node, hnode⟩ := exists_of_lt hparent
  obtain ⟨added, hafter, htrees⟩ := h.children node hnode
  obtain rfl := Option.some.inj (hafter.symm.trans hnext)
  rcases List.mem_append.mp hchild with hold | hnew
  · obtain ⟨hlow, hhigh⟩ := hsound node hnode child hold
    exact ⟨hlow, Nat.lt_of_lt_of_le hhigh h.size⟩
  · have hplace : New before after child.2 :=
      forall_of_forall₂ htrees (fun _ _ _ hstands => hstands.2.root.1) child hnew
    exact ⟨Nat.lt_of_lt_of_le hparent hplace.1, hplace.2⟩

/-- Nodes have the names of the trees that stand at them. -/
theorem map_nameOf_of_stands {atlas : Atlas} {region : NodeId → Prop} {ids : List NodeId}
    (h : List.Forall₂ (atlas.Stands region levels) ids trees) : ids.map atlas.nameOf = trees.map Tree.name := by
  induction h with
  | nil => rfl
  | cons hfirst _ ih =>
    obtain ⟨-, node, hnode, hname, -⟩ := hfirst.root
    rw [List.map_cons, List.map_cons, ih, nameOf, hnode, ← hname]
    rfl

/-- An extension adds the names of its trees. -/
theorem Extends.names_eq (h : Extends parent levels trees before after) (hparent : parent < before.nodes.size)
    (hsound : before.Sound parent) (kind : NodeKind) :
    after.names parent kind = before.names parent kind ++ (trees.filter (·.kind == kind)).map Tree.name := by
  obtain ⟨node, hnode⟩ := exists_of_lt hparent
  obtain ⟨added, hafter, htrees⟩ := h.children node hnode
  simp only [names, Atlas.collection, hafter, hnode, Node.collection, List.filter_append, List.map_append,
    List.map_map]
  congr 1
  · apply List.map_congr_left
    intro child hchild
    obtain ⟨hlow, hhigh⟩ := hsound node hnode child (List.mem_filter.mp hchild).1
    simp only [Function.comp, nameOf, h.same child.2 hhigh (Nat.ne_of_gt hlow)]
  · rw [← map_nameOf_of_stands (forall₂_collection htrees kind), List.map_map]

end SchemaAtlas.Atlas
