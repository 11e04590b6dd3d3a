import Mathlib.Order.Defs.Unbundled
import SchemaAtlas.Atlas.Basic

/-!
# What edits do to an atlas

An edit that succeeds adds one node behind the others, as the last child of its parent, or changes the
fields of one node. No edit takes a node away, and none leads to a child that is no node.
-/

namespace SchemaAtlas

namespace Node

/-- Setting a field changes neither the kind of a node nor its place in the tree. -/
structure SameFrame (node next : Node) : Prop where
  kind : next.kind = node.kind
  parent : next.parent = node.parent
  frozen : next.frozen = node.frozen
  children : next.children = node.children

/-- A field that is set leaves the frame of the node. -/
theorem sameFrame_set {node next : Node} {field : String} {given : Entry}
    (h : node.set field given = .ok next) : node.SameFrame next := by
  unfold set at h
  split at h
  · cases h
  · split at h
    · split at h
      · cases h
        exact ⟨rfl, rfl, rfl, rfl⟩
      · cases h
    · split at h
      · rename_i content hcontent
        cases h
        exact ⟨Content.kind_set? hcontent, rfl, rfl, rfl⟩
      · cases h
      · cases h

end Node

namespace Atlas

/-! ## The nodes after an edit -/

/-- The nodes are at the places below the number of nodes. -/
theorem node?_isSome_iff (atlas : Atlas) (id : NodeId) :
    (atlas.node? id).isSome ↔ id < atlas.nodes.size := by
  simp [node?]

/-- At such a place there is one. -/
theorem exists_of_lt {atlas : Atlas} {id : NodeId} (h : id < atlas.nodes.size) : ∃ node, atlas.node? id = some node :=
  Option.isSome_iff_exists.mp ((node?_isSome_iff atlas id).mpr h)

/-- A node stands at one of the places. -/
theorem lt_of_node? {atlas : Atlas} {id : NodeId} {node : Node} (h : atlas.node? id = some node) :
    id < atlas.nodes.size := by
  rw [← node?_isSome_iff, h]
  rfl

/-- Atlases with the same nodes at all places are the same. -/
theorem ext_node? {atlas other : Atlas} (h : ∀ id, atlas.node? id = other.node? id) : atlas = other :=
  congrArg Atlas.mk (Array.ext_getElem? h)

/-- Changing a node adds none. -/
@[simp] theorem size_update (atlas : Atlas) (id : NodeId) (change : Node → Node) :
    (atlas.update id change).nodes.size = atlas.nodes.size := by
  simp [update]

/-- A child that is put under a node is one more node. -/
@[simp] theorem size_attach (atlas : Atlas) (parent : NodeId) (kind : NodeKind) :
    (atlas.attach parent kind).1.nodes.size = atlas.nodes.size + 1 := by
  simp [attach, create, update]

/-- A child that is put under a node is new, and is the last one of its parent; other nodes stay as they
were. -/
theorem node?_attach (atlas : Atlas) {parent : NodeId} (kind : NodeKind) (h : parent < atlas.nodes.size)
    (id : NodeId) :
    (atlas.attach parent kind).1.node? id =
      if id = atlas.nodes.size then some { content := .new kind, parent := some parent }
      else if id = parent then
        (atlas.node? id).map fun node =>
          { node with children := node.children ++ [(kind, atlas.nodes.size)] }
      else atlas.node? id := by
  simp only [attach, create, update, node?, Array.getElem?_modify, Array.getElem?_push]
  by_cases hnew : id = atlas.nodes.size
  · subst hnew
    simp [Nat.ne_of_lt h]
  · by_cases hparent : parent = id
    · subst hparent
      simp [hnew]
    · simp [hnew, hparent, Ne.symm hparent]

/-- A node takes a child of a kind that its kind has, unless it is frozen. -/
theorem add_eq_ok_iff (atlas : Atlas) (parent : NodeId) (kind : NodeKind) (result : Atlas × NodeId) :
    atlas.add parent kind = .ok result ↔
      ∃ node, atlas.node? parent = some node ∧ node.kind.collections.any (·.1 == kind) = true ∧
        node.frozen = false ∧ atlas.attach parent kind = result := by
  unfold add Atlas.node
  cases atlas.node? parent with
  | none => simp [bind, Except.bind]
  | some node =>
    simp only [bind, Except.bind, Option.some.injEq, exists_eq_left']
    cases node.kind.collections.any (·.1 == kind) <;> cases node.frozen <;> simp

/-- A field is set on a node that is not frozen, unless it is a position that was set. -/
theorem assign_eq_ok_iff (atlas : Atlas) (id : NodeId) (field : String) (given : Entry) (result : Atlas) :
    atlas.assign id field given = .ok result ↔
      ∃ node next, atlas.node? id = some node ∧ node.frozen = false ∧ setsAgain node field = false ∧
        node.set field given = .ok next ∧ atlas.update id (fun _ => next) = result := by
  unfold assign Atlas.node
  cases atlas.node? id with
  | none => simp [bind, Except.bind]
  | some node =>
    simp only [bind, Except.bind, Option.some.injEq]
    cases hfrozen : node.frozen <;> cases hagain : setsAgain node field <;>
      cases hset : node.set field given <;> simp [hfrozen, hagain, hset, Except.map]

/-! ## Trees -/

/-- All children of nodes are nodes. -/
def Closed (atlas : Atlas) : Prop :=
  ∀ id node, atlas.node? id = some node → ∀ child ∈ node.children, child.2 < atlas.nodes.size

/-- An atlas without nodes has no children. -/
theorem closed_empty : Closed {} := by
  intro id node hnode
  exact absurd (lt_of_node? hnode) (Nat.not_lt_zero id)

/-- A node without children can be made in any atlas. -/
theorem Closed.create {atlas : Atlas} (h : atlas.Closed) {node : Node} (hnode : node.children = []) :
    (atlas.create node).1.Closed := by
  intro id other hother child hchild
  have hsize : (atlas.create node).1.nodes.size = atlas.nodes.size + 1 := by simp [Atlas.create]
  rw [hsize]
  by_cases hid : id < atlas.nodes.size
  · rw [node?_create_of_lt atlas node hid] at hother
    exact Nat.lt_succ_of_lt (h id other hother child hchild)
  · have hlast : id = atlas.nodes.size := by
      have hlt := lt_of_node? hother
      rw [hsize] at hlt
      exact Nat.le_antisymm (Nat.le_of_lt_succ hlt) (Nat.le_of_not_lt hid)
    have hmade := node?_create atlas node
    rw [hlast] at hother
    obtain rfl : node = other := Option.some.inj (hmade.symm.trans hother)
    rw [hnode] at hchild
    cases hchild

/-- The children of a kind are nodes. -/
theorem Closed.lt_of_mem_collection {atlas : Atlas} (h : atlas.Closed) {parent : NodeId} {kind : NodeKind}
    {id : NodeId} (hmem : id ∈ atlas.collection parent kind) : id < atlas.nodes.size := by
  unfold collection at hmem
  split at hmem
  · rename_i node hnode
    simp only [Node.collection, List.mem_map, List.mem_filter] at hmem
    obtain ⟨child, ⟨hchild, -⟩, rfl⟩ := hmem
    exact h parent node hnode child hchild
  · cases hmem

/-- An atlas grows into another if it keeps its nodes, and its children stay nodes. -/
structure Grows (before after : Atlas) : Prop where
  size : before.nodes.size ≤ after.nodes.size
  closed : before.Closed → after.Closed

instance : IsPreorder Atlas Grows where
  refl _ := ⟨Nat.le_refl _, id⟩
  trans _ _ _ hfirst hsecond :=
    ⟨Nat.le_trans hfirst.size hsecond.size, fun hclosed => hsecond.closed (hfirst.closed hclosed)⟩

/-- Adding a child grows the atlas. -/
theorem grows_of_add {atlas : Atlas} {parent : NodeId} {kind : NodeKind} {result : Atlas × NodeId}
    (h : atlas.add parent kind = .ok result) : atlas.Grows result.1 := by
  obtain ⟨node, hnode, -, -, rfl⟩ := (add_eq_ok_iff atlas parent kind result).mp h
  refine ⟨Nat.le_of_lt (by rw [size_attach]; exact Nat.lt_succ_self _), ?_⟩
  intro hclosed id other hother child hchild
  rw [size_attach]
  rw [node?_attach atlas kind (lt_of_node? hnode)] at hother
  split at hother
  · obtain rfl := Option.some.inj hother
    cases hchild
  · split at hother
    · obtain ⟨old, hold, rfl⟩ := Option.map_eq_some_iff.mp hother
      rcases List.mem_append.mp hchild with hchild | hchild
      · exact Nat.lt_succ_of_lt (hclosed id old hold child hchild)
      · rw [List.mem_singleton.mp hchild]
        exact Nat.lt_succ_self _
    · exact Nat.lt_succ_of_lt (hclosed id other hother child hchild)

/-- Setting a field grows the atlas by nothing. -/
theorem grows_of_assign {atlas result : Atlas} {id : NodeId} {field : String} {given : Entry}
    (h : atlas.assign id field given = .ok result) : atlas.Grows result := by
  obtain ⟨node, next, hnode, -, -, hset, rfl⟩ := (assign_eq_ok_iff atlas id field given result).mp h
  refine ⟨Nat.le_of_eq (size_update ..).symm, ?_⟩
  intro hclosed place other hother child hchild
  rw [size_update]
  rw [node?_update] at hother
  split at hother
  · rename_i hplace
    subst hplace
    rw [hnode] at hother
    obtain rfl : next = other := Option.some.inj hother
    rw [(Node.sameFrame_set hset).children] at hchild
    exact hclosed id node hnode child hchild
  · exact hclosed place other hother child hchild

end Atlas

end SchemaAtlas
