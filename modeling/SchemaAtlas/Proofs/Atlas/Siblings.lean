import SchemaAtlas.Proofs.Atlas.Forest

/-!
# Where siblings differ in name

Whether siblings differ in name at and below a node is read off the tree that stands there, and it depends on
the nodes there alone. So they do so after trees were put under a node if they did before, if the names of the
trees are new, and if they do in each of the trees.
-/

namespace SchemaAtlas.Atlas

variable {before after atlas : Atlas} {region : NodeId → Prop} {levels : Nat}

/-! ## Children -/

/-- The children of a node are those that it keeps. -/
theorem isChild_iff {id child : NodeId} {node : Node} (hnode : atlas.node? id = some node) :
    atlas.IsChild id child ↔ ∃ entry ∈ node.children, entry.2 = child := by
  simp only [IsChild, mem_collection_iff, hnode, Option.some.injEq, exists_eq_left', Prod.exists, exists_eq_right]

/-- Siblings differ in name at and below a node if its children of each kind do and siblings do below them. -/
theorem distinctBelow_iff_children {id : NodeId} {node : Node} (hnode : atlas.node? id = some node) :
    atlas.DistinctBelow id ↔
      (∀ kind, (atlas.names id kind).Nodup) ∧ ∀ child ∈ node.children, atlas.DistinctBelow child.2 := by
  have hchildren : (∀ kind, ∀ child ∈ atlas.collection id kind, atlas.DistinctBelow child) ↔
      ∀ child, atlas.IsChild id child → atlas.DistinctBelow child :=
    ⟨fun h child hchild => hchild.elim fun kind hmem => h kind child hmem,
      fun h kind child hmem => h child ⟨kind, hmem⟩⟩
  rw [Atlas.distinctBelow_iff, forall_and, hchildren]
  simp only [isChild_iff hnode, forall_exists_index, and_imp, forall_apply_eq_imp_iff₂]

/-! ## Trees -/

/-- Something holds of all items of a list if what corresponds to it holds of the corresponding ones. -/
theorem forall_iff_of_forall₂ {α β : Type} {R : α → β → Prop} {p : α → Prop} {q : β → Prop} {first : List α}
    {second : List β} (h : List.Forall₂ R first second)
    (hiff : ∀ a ∈ first, ∀ b ∈ second, R a b → (p a ↔ q b)) : (∀ a ∈ first, p a) ↔ ∀ b ∈ second, q b := by
  have hall := (List.forall₂_and_left first second).mpr ⟨fun a ha => ha, h⟩
  constructor
  · intro hp
    have hback := (List.forall₂_and_left second first).mpr ⟨fun b hb => hb, hall.flip⟩
    exact forall_of_forall₂ hback fun b a ha hab => (hiff a ha b hab.1 hab.2.2).mp (hp a ha)
  · intro hq
    exact forall_of_forall₂ hall fun a b hb hab => (hiff a hab.1 b hb hab.2).mpr (hq b hb)

/-- Siblings differ in name at and below a node at which a tree stands if they do in the tree. -/
theorem Stands.distinctBelow_iff {id : NodeId} {tree : Tree} (h : atlas.Stands region levels id tree)
    (hformed : atlas.Formed) (hheight : tree.kind.height ≤ levels) :
    atlas.DistinctBelow id ↔ tree.Distinct levels := by
  induction levels generalizing id tree with
  | zero =>
    obtain ⟨-, node, hnode, -, hcontent⟩ := h
    have hkind : node.kind = tree.kind := congrArg Content.kind hcontent
    have hnone := hformed.collection_of_height hnode (hkind ▸ hheight)
    rw [Atlas.distinctBelow_iff]
    simp [names, hnone, Tree.Distinct]
  | succ levels ih =>
    obtain ⟨-, node, hnode, -, hcontent, hchildren⟩ := h
    have hkind : node.kind = tree.kind := congrArg Content.kind hcontent
    have hnames (kind : NodeKind) : atlas.names id kind = (tree.collection kind).map Tree.name := by
      rw [names, collection, hnode]
      exact map_nameOf_of_stands (forall₂_collection hchildren kind)
    have hlower : ∀ child ∈ node.children, ∀ low, atlas.node? child.2 = some low → low.kind.height ≤ levels := by
      intro child hchild low hlow
      obtain ⟨same, hsame, hlt⟩ := hformed.node?_of_isChild hnode ((isChild_iff hnode).mpr ⟨child, hchild, rfl⟩)
      obtain rfl : low = same := Option.some.inj (hlow.symm.trans hsame)
      rw [hkind] at hlt
      omega
    rw [distinctBelow_iff_children hnode, Tree.Distinct]
    simp only [hnames]
    refine and_congr_right fun _ => forall_iff_of_forall₂ hchildren ?_
    intro child hchild sub _ hsub
    obtain ⟨-, hstands⟩ := hsub
    obtain ⟨-, below, hbelow, -, hcontent'⟩ := hstands.root
    have hkind' : below.kind = sub.kind := congrArg Content.kind hcontent'
    exact ih hstands (hkind' ▸ hlower child hchild below hbelow)

/-! ## What stays as it is -/

/-- What stands below a node stands there still, and nothing else does, if the nodes there stay as they are. -/
theorem below_congr {id : NodeId} (h : ∀ other, before.Below id other → after.node? other = before.node? other) :
    after.Below id = before.Below id := by
  have hchild {other : NodeId} (hother : before.Below id other) : after.IsChild other = before.IsChild other := by
    funext child
    simp only [IsChild, collection, h other hother]
  funext other
  refine propext ⟨fun hbelow => ?_, fun hbelow => ?_⟩
  · induction hbelow with
    | refl => exact .refl
    | tail _ hlast ih => exact ih.tail (hchild ih ▸ hlast)
  · induction hbelow with
    | refl => exact .refl
    | tail hold hlast ih => exact ih.tail (hchild hold ▸ hlast)

/-- Siblings differ in name at and below a node as before if the nodes there stay as they are. -/
theorem distinctBelow_congr {id : NodeId}
    (h : ∀ other, before.Below id other → after.node? other = before.node? other) :
    after.DistinctBelow id ↔ before.DistinctBelow id := by
  rw [DistinctBelow, DistinctBelow, below_congr h]
  refine forall_congr' fun other => forall_congr' fun hbelow => forall_congr' fun kind => ?_
  have hcollection : after.collection other kind = before.collection other kind := by
    rw [collection, collection, h other hbelow]
  rw [names, names, hcollection, List.map_congr_left]
  intro child hchild
  rw [nameOf, nameOf, h child (hbelow.tail ⟨kind, hchild⟩)]

/-- Siblings differ in name at and below a node that was extended by trees if they did before and do in each of
the trees, where its children keep having different names. -/
theorem Extends.distinctBelow_iff {parent : NodeId} {trees : List Tree} (h : Extends parent levels trees before after)
    (hbefore : before.Formed) (hafter : after.Formed) {node : Node} (hnode : before.node? parent = some node)
    (hheight : ∀ tree ∈ trees, tree.kind.height ≤ levels)
    (hnames : (∀ kind, (after.names parent kind).Nodup) ↔ ∀ kind, (before.names parent kind).Nodup) :
    after.DistinctBelow parent ↔ before.DistinctBelow parent ∧ ∀ tree ∈ trees, tree.Distinct levels := by
  obtain ⟨added, hnext, htrees⟩ := h.children node hnode
  have hold : ∀ child ∈ node.children, after.DistinctBelow child.2 ↔ before.DistinctBelow child.2 := by
    intro child hchild
    refine distinctBelow_congr fun other hother => ?_
    -- What stands below a child stands lower than the parent, which therefore is none of it.
    obtain ⟨low, hlow, hlt⟩ := hbefore.node?_of_isChild hnode ((isChild_iff hnode).mpr ⟨child, hchild, rfl⟩)
    obtain ⟨last, hlast, hle⟩ := hbefore.height_le_of_below hlow hother
    refine h.same other (lt_of_node? hlast) ?_
    rintro rfl
    obtain rfl : node = last := Option.some.inj (hnode.symm.trans hlast)
    omega
  have hnew : (∀ child ∈ added, after.DistinctBelow child.2) ↔ ∀ tree ∈ trees, tree.Distinct levels :=
    forall_iff_of_forall₂ htrees fun child _ tree htree hstands =>
      hstands.2.distinctBelow_iff hafter (hheight tree htree)
  rw [distinctBelow_iff_children hnext, distinctBelow_iff_children hnode, hnames, List.forall_mem_append, hnew,
    and_assoc]
  exact and_congr_right fun _ => and_congr_left fun _ => forall₂_congr hold

end SchemaAtlas.Atlas
