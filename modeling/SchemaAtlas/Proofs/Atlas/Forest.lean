import Mathlib.Logic.Relation
import SchemaAtlas.Proofs.Atlas.Extension

/-!
# The trees of an atlas

The nodes of an atlas form trees: every child of a node is a node of the kind of its collection, knows the
node above it, and stands there once. Adding nodes keeps this, and whatever leaves the kinds of nodes and
their places does.
-/

namespace SchemaAtlas

/-- A node of a kind without levels below it has no collections. -/
theorem NodeKind.collections_eq_nil {kind : NodeKind} (h : kind.height ≤ 0) : kind.collections = [] := by
  cases kind <;> first | rfl | simp [height] at h

/-- What is known of a node's place: its kind, the node above it and its children. -/
def Node.shape (node : Node) : NodeKind × Option NodeId × List (NodeKind × NodeId) :=
  (node.kind, node.parent, node.children)

namespace Atlas

/-! ## Children and descendants -/

/-- A node has another as a child, in the collection of some kind. -/
def IsChild (atlas : Atlas) (parent child : NodeId) : Prop :=
  ∃ kind, child ∈ atlas.collection parent kind

/-- A node is another one or stands somewhere below it. -/
def Below (atlas : Atlas) : NodeId → NodeId → Prop :=
  Relation.ReflTransGen atlas.IsChild

/-- The siblings of every collection at and below a node have different names. -/
def DistinctBelow (atlas : Atlas) (id : NodeId) : Prop :=
  ∀ other, atlas.Below id other → ∀ kind, (atlas.names other kind).Nodup

/-- The children of a kind are those that a node keeps with the kind. -/
theorem mem_collection_iff {atlas : Atlas} {parent id : NodeId} {kind : NodeKind} :
    id ∈ atlas.collection parent kind ↔
      ∃ node, atlas.node? parent = some node ∧ (kind, id) ∈ node.children := by
  unfold collection
  cases hnode : atlas.node? parent with
  | none => simp
  | some node => simp [Node.collection]

/-- Siblings differ in name at and below a node if those of the node do and those below its children. -/
theorem distinctBelow_iff {atlas : Atlas} {id : NodeId} :
    atlas.DistinctBelow id ↔
      ∀ kind, (atlas.names id kind).Nodup ∧ ∀ child ∈ atlas.collection id kind, atlas.DistinctBelow child := by
  constructor
  · intro h kind
    refine ⟨h id .refl kind, ?_⟩
    intro child hchild other hother
    exact h other (.head ⟨kind, hchild⟩ hother)
  · intro h other hother
    obtain rfl | ⟨child, ⟨kind, hchild⟩, hbelow⟩ := hother.cases_head
    · exact fun kind => (h kind).1
    · exact (h kind).2 child hchild other hbelow

/-! ## Well-formed trees -/

/-- The nodes form trees. Every child is a node of the kind it is kept with, which its parent's kind has;
it knows its parent, which keeps it once, and whatever knows a parent is kept by it. -/
structure Formed (atlas : Atlas) : Prop where
  child : ∀ {parent node kind id}, atlas.node? parent = some node → (kind, id) ∈ node.children →
    node.kind.collections.any (·.1 == kind) = true ∧
      ∃ child, atlas.node? id = some child ∧ child.kind = kind ∧ child.parent = some parent
  held : ∀ {id child parent}, atlas.node? id = some child → child.parent = some parent →
    ∃ node, atlas.node? parent = some node ∧ (child.kind, id) ∈ node.children
  once : ∀ {id node}, atlas.node? id = some node → (node.children.map Prod.snd).Nodup

/-- An atlas without nodes is well formed. -/
theorem formed_empty : Formed {} := by
  have hnone (id : NodeId) : ({} : Atlas).node? id = none := rfl
  constructor <;> intros <;> simp_all

/-- A node that knows its parent is in one collection of one node, and once there. -/
theorem Formed.count_collection {atlas : Atlas} (h : atlas.Formed) {id parent : NodeId} {node : Node}
    (hnode : atlas.node? id = some node) (hparent : node.parent = some parent) (other : NodeId)
    (kind : NodeKind) :
    (atlas.collection other kind).count id = if other = parent ∧ kind = node.kind then 1 else 0 := by
  have hmem : id ∈ atlas.collection other kind ↔ other = parent ∧ kind = node.kind := by
    rw [mem_collection_iff]
    constructor
    · rintro ⟨up, hup, hchild⟩
      obtain ⟨-, child, hid, hkind, hknows⟩ := h.child hup hchild
      obtain rfl : node = child := Option.some.inj (hnode.symm.trans hid)
      exact ⟨Option.some.inj (hknows.symm.trans hparent), hkind.symm⟩
    · rintro ⟨rfl, rfl⟩
      exact h.held hnode hparent
  have hnodup : (atlas.collection other kind).Nodup := by
    unfold collection
    cases hother : atlas.node? other with
    | none => exact List.nodup_nil
    | some up => exact (h.once hother).sublist (List.filter_sublist.map Prod.snd)
  rw [hnodup.count]
  simp only [hmem]

/-- The children of a kind that a node's kind does not have are none. -/
theorem Formed.collection_eq_nil {atlas : Atlas} (h : atlas.Formed) {id : NodeId} {node : Node}
    (hnode : atlas.node? id = some node) {kind : NodeKind}
    (hkind : node.kind.collections.any (·.1 == kind) = false) : atlas.collection id kind = [] := by
  rw [List.eq_nil_iff_forall_not_mem]
  intro child hchild
  obtain ⟨other, hother, hmem⟩ := mem_collection_iff.mp hchild
  obtain rfl : node = other := Option.some.inj (hnode.symm.trans hother)
  rw [(h.child hnode hmem).1] at hkind
  cases hkind

/-- A node without levels below it has no children. -/
theorem Formed.collection_of_height {atlas : Atlas} (h : atlas.Formed) {id : NodeId} {node : Node}
    (hnode : atlas.node? id = some node) (hheight : node.kind.height ≤ 0) (kind : NodeKind) :
    atlas.collection id kind = [] :=
  h.collection_eq_nil hnode (by rw [NodeKind.collections_eq_nil hheight, List.any_nil])

/-- A child is a node, whose kind stands lower. -/
theorem Formed.node?_of_isChild {atlas : Atlas} (h : atlas.Formed) {id child : NodeId} {node : Node}
    (hnode : atlas.node? id = some node) (hchild : atlas.IsChild id child) :
    ∃ below, atlas.node? child = some below ∧ below.kind.height < node.kind.height := by
  obtain ⟨kind, hmem⟩ := hchild
  obtain ⟨other, hother, hkept⟩ := mem_collection_iff.mp hmem
  obtain rfl : node = other := Option.some.inj (hnode.symm.trans hother)
  obtain ⟨hhas, below, hbelow, rfl, -⟩ := h.child hnode hkept
  obtain ⟨⟨kind, label⟩, hlisted, hsame⟩ := List.any_eq_true.mp hhas
  obtain rfl := beq_iff_eq.mp hsame
  exact ⟨below, hbelow, NodeKind.height_lt node.kind below.kind label hlisted⟩

/-- What stands below a node stands no higher. -/
theorem Formed.height_le_of_below {atlas : Atlas} (h : atlas.Formed) {id other : NodeId} {node : Node}
    (hnode : atlas.node? id = some node) (hbelow : atlas.Below id other) :
    ∃ next, atlas.node? other = some next ∧ next.kind.height ≤ node.kind.height := by
  induction hbelow with
  | refl => exact ⟨node, hnode, Nat.le_refl _⟩
  | tail _ hchild ih =>
    obtain ⟨middle, hmiddle, hle⟩ := ih
    obtain ⟨next, hnext, hlt⟩ := h.node?_of_isChild hmiddle hchild
    exact ⟨next, hnext, by omega⟩

/-! ## What leaves the trees -/

/-- Every node keeps its kind and its place. -/
def SameShape (before after : Atlas) : Prop :=
  ∀ id, (after.node? id).map Node.shape = (before.node? id).map Node.shape

instance : IsPreorder Atlas SameShape where
  refl _ _ := rfl
  trans _ _ _ hfirst hsecond id := (hsecond id).trans (hfirst id)

namespace SameShape

variable {before after : Atlas} (h : before.SameShape after)

include h

/-- What keeps its shape is the same seen from either side. -/
theorem symm : after.SameShape before :=
  fun id => (h id).symm

/-- A node is still there, in its place. -/
theorem node? {id : NodeId} {node : Node} (hnode : before.node? id = some node) :
    ∃ next, after.node? id = some next ∧ next.kind = node.kind ∧ next.parent = node.parent ∧
      next.children = node.children := by
  have hid := h id
  rw [hnode, Option.map_some, Option.map_eq_some_iff] at hid
  obtain ⟨next, hnext, hshape⟩ := hid
  simp only [Node.shape, Prod.mk.injEq] at hshape
  exact ⟨next, hnext, hshape⟩

/-- The children of a kind are the same. -/
theorem collection (id : NodeId) (kind : NodeKind) : after.collection id kind = before.collection id kind := by
  unfold Atlas.collection
  cases hnode : before.node? id with
  | none =>
    have hid := h id
    rw [hnode, Option.map_none, Option.map_eq_none_iff] at hid
    rw [hid]
  | some node =>
    obtain ⟨next, hnext, -, -, hchildren⟩ := h.node? hnode
    rw [hnext]
    simp only [Node.collection, hchildren]

/-- The nodes below a node are the same. -/
theorem below (id : NodeId) : after.Below id = before.Below id := by
  have hchild : after.IsChild = before.IsChild := by
    funext parent child
    simp only [IsChild, h.collection]
  rw [Below, Below, hchild]

/-- The trees are as well formed as before. -/
theorem formed (hformed : before.Formed) : after.Formed where
  child := by
    intro parent node kind id hnode hmem
    obtain ⟨old, hold, hkind, -, hchildren⟩ := h.symm.node? hnode
    rw [← hchildren] at hmem
    obtain ⟨hhas, child, hchild, rfl, hparent⟩ := hformed.child hold hmem
    obtain ⟨next, hnext, hkind', hparent', -⟩ := h.node? hchild
    exact ⟨by rw [← hkind]; exact hhas, next, hnext, hkind', by rw [hparent', hparent]⟩
  held := by
    intro id child parent hchild hparent
    obtain ⟨old, hold, hkind, hparent', -⟩ := h.symm.node? hchild
    obtain ⟨node, hnode, hmem⟩ := hformed.held hold (hparent'.trans hparent)
    obtain ⟨next, hnext, -, -, hchildren⟩ := h.node? hnode
    exact ⟨next, hnext, by rw [hchildren, ← hkind]; exact hmem⟩
  once := by
    intro id node hnode
    obtain ⟨old, hold, -, -, hchildren⟩ := h.symm.node? hnode
    rw [← hchildren]
    exact hformed.once hold

end SameShape

/-- Setting a field keeps every node in its place. -/
theorem sameShape_of_assign {atlas after : Atlas} {id : NodeId} {field : String} {given : Entry}
    (h : atlas.assign id field given = .ok after) : atlas.SameShape after := by
  obtain ⟨node, next, hnode, -, -, hset, rfl⟩ := (assign_eq_ok_iff atlas id field given after).mp h
  obtain ⟨hkind, hparent, -, hchildren⟩ := Node.sameFrame_set hset
  intro other
  rw [node?_update]
  split
  · rename_i hother
    subst hother
    simp [hnode, Node.shape, hkind, hparent, hchildren]
  · rfl

/-! ## What adds to the trees -/

/-- A node that was there stays, with one more child if it is the one that the child is put under. -/
theorem node?_attach_old {atlas : Atlas} {parent id : NodeId} {node : Node} (kind : NodeKind)
    (hparent : parent < atlas.nodes.size) (hnode : atlas.node? id = some node) :
    (atlas.attach parent kind).1.node? id =
      some { node with children := node.children ++ if id = parent then [(kind, atlas.nodes.size)] else [] } := by
  rw [node?_attach atlas kind hparent, if_neg (Nat.ne_of_lt (lt_of_node? hnode)), hnode]
  split <;> simp

/-- A node after a child was put under another is the child, or was there. -/
theorem node?_attach_cases {atlas : Atlas} {parent id : NodeId} {next : Node} {kind : NodeKind}
    (hparent : parent < atlas.nodes.size) (hnext : (atlas.attach parent kind).1.node? id = some next) :
    (id = atlas.nodes.size ∧ next = { content := .new kind, parent := some parent }) ∨
      ∃ node, atlas.node? id = some node ∧ next = { node with
        children := node.children ++ if id = parent then [(kind, atlas.nodes.size)] else [] } := by
  by_cases hnew : id = atlas.nodes.size
  · left
    rw [node?_attach atlas kind hparent, if_pos hnew] at hnext
    exact ⟨hnew, (Option.some.inj hnext).symm⟩
  · right
    have hlt : id < atlas.nodes.size := by
      have hsize := lt_of_node? hnext
      rw [size_attach] at hsize
      exact Nat.lt_of_le_of_ne (Nat.le_of_lt_succ hsize) hnew
    obtain ⟨node, hnode⟩ := exists_of_lt hlt
    rw [node?_attach_old kind hparent hnode] at hnext
    exact ⟨node, hnode, (Option.some.inj hnext).symm⟩

/-- A child that is put under a node of a fitting kind keeps the trees well formed. -/
theorem Formed.attach {atlas : Atlas} (h : atlas.Formed) {parent : NodeId} {node : Node} {kind : NodeKind}
    (hnode : atlas.node? parent = some node) (hkind : node.kind.collections.any (·.1 == kind) = true) :
    (atlas.attach parent kind).1.Formed := by
  have hparent := lt_of_node? hnode
  have hnew : (atlas.attach parent kind).1.node? atlas.nodes.size =
      some { content := .new kind, parent := some parent } := by
    rw [node?_attach atlas kind hparent, if_pos rfl]
  constructor
  case child =>
    intro up next sort id hnext hmem
    obtain ⟨-, rfl⟩ | ⟨old, hold, rfl⟩ := node?_attach_cases hparent hnext
    · cases hmem
    · rcases List.mem_append.mp hmem with hkept | hadded
      · obtain ⟨hhas, child, hchild, hsort, hup⟩ := h.child hold hkept
        exact ⟨hhas, _, node?_attach_old kind hparent hchild, hsort, hup⟩
      · split at hadded
        · rename_i hup
          subst hup
          obtain rfl : node = old := Option.some.inj (hnode.symm.trans hold)
          obtain ⟨rfl, rfl⟩ : sort = kind ∧ id = atlas.nodes.size := by simpa using hadded
          exact ⟨hkind, _, hnew, Content.kind_new sort, rfl⟩
        · cases hadded
  case held =>
    intro id child up hchild hup
    obtain ⟨rfl, rfl⟩ | ⟨old, hold, rfl⟩ := node?_attach_cases hparent hchild
    · obtain rfl : parent = up := Option.some.inj hup
      refine ⟨_, node?_attach_old kind hparent hnode, ?_⟩
      simp [Node.kind, Content.kind_new]
    · obtain ⟨above, habove, hmem⟩ := h.held hold hup
      exact ⟨_, node?_attach_old kind hparent habove, List.mem_append_left _ hmem⟩
  case once =>
    intro id next hnext
    obtain ⟨-, rfl⟩ | ⟨old, hold, rfl⟩ := node?_attach_cases hparent hnext
    · exact List.nodup_nil
    · have hfresh : ∀ child sort, (sort, child) ∈ old.children → child ≠ atlas.nodes.size := by
        intro child sort hkept
        obtain ⟨-, below, hbelow, -⟩ := h.child hold hkept
        exact Nat.ne_of_lt (lt_of_node? hbelow)
      have honce := h.once hold
      split
      · simpa [List.nodup_append, honce] using hfresh
      · simpa using honce

/-- A node after a node was made is that node, or was there. -/
theorem node?_create_cases {atlas : Atlas} {made next : Node} {id : NodeId}
    (hnext : (atlas.create made).1.node? id = some next) :
    (id = atlas.nodes.size ∧ next = made) ∨ atlas.node? id = some next := by
  by_cases hlt : id < atlas.nodes.size
  · right
    rwa [node?_create_of_lt atlas made hlt] at hnext
  · left
    have hid : id = atlas.nodes.size := by
      have hsize := lt_of_node? hnext
      simp only [create, Array.size_push] at hsize
      exact Nat.le_antisymm (Nat.le_of_lt_succ hsize) (Nat.le_of_not_lt hlt)
    subst hid
    exact ⟨rfl, Option.some.inj (hnext.symm.trans (node?_create atlas made))⟩

/-- A node without parent and children keeps the trees well formed. -/
theorem Formed.create {atlas : Atlas} (h : atlas.Formed) {made : Node} (hparent : made.parent = none)
    (hchildren : made.children = []) : (atlas.create made).1.Formed := by
  have hold {id : NodeId} {node : Node} (hnode : atlas.node? id = some node) :
      (atlas.create made).1.node? id = some node := by
    rw [node?_create_of_lt atlas made (lt_of_node? hnode), hnode]
  constructor
  case child =>
    intro up next kind id hnext hmem
    obtain ⟨-, rfl⟩ | hnode := node?_create_cases hnext
    · rw [hchildren] at hmem
      cases hmem
    · obtain ⟨hhas, child, hchild, hkind, hup⟩ := h.child hnode hmem
      exact ⟨hhas, child, hold hchild, hkind, hup⟩
  case held =>
    intro id child up hchild hup
    obtain ⟨-, rfl⟩ | hnode := node?_create_cases hchild
    · rw [hparent] at hup
      cases hup
    · obtain ⟨node, hnode, hmem⟩ := h.held hnode hup
      exact ⟨node, hold hnode, hmem⟩
  case once =>
    intro id next hnext
    obtain ⟨-, rfl⟩ | hnode := node?_create_cases hnext
    · rw [hchildren]
      exact List.nodup_nil
    · exact h.once hnode

/-! ## The children of one node -/

/-- The children of a node are different nodes. -/
def Apart (parent : NodeId) (atlas : Atlas) : Prop :=
  ∀ node, atlas.node? parent = some node →
    (node.children.map Prod.snd).Nodup ∧ ∀ child ∈ node.children, child.2 < atlas.nodes.size

/-- A leaf has no children. -/
theorem IsLeaf.apart {atlas : Atlas} {id : NodeId} {name : Option String} {content : Content}
    (h : atlas.IsLeaf id name content) : Apart id atlas := by
  obtain ⟨leaf, hleaf, -, -, -, hchildren⟩ := h
  intro node hnode
  obtain rfl := Option.some.inj (hleaf.symm.trans hnode)
  rw [hchildren]
  exact ⟨List.nodup_nil, nofun⟩

/-- The children of a kind are different nodes. -/
theorem Apart.nodup_collection {atlas : Atlas} {parent : NodeId} (h : Apart parent atlas) (kind : NodeKind) :
    (atlas.collection parent kind).Nodup := by
  unfold collection
  cases hnode : atlas.node? parent with
  | none => exact List.nodup_nil
  | some node => exact (h node hnode).1.sublist (List.filter_sublist.map Prod.snd)

/-- They are nodes. -/
theorem Apart.lt_of_mem_collection {atlas : Atlas} {parent id : NodeId} {kind : NodeKind} (h : Apart parent atlas)
    (hmem : id ∈ atlas.collection parent kind) : id < atlas.nodes.size := by
  obtain ⟨node, hnode, hchild⟩ := mem_collection_iff.mp hmem
  exact (h node hnode).2 (kind, id) hchild

/-- The children of a node stay different nodes. -/
def StaysApart (parent : NodeId) (before after : Atlas) : Prop :=
  Apart parent before → Apart parent after

instance (parent : NodeId) : IsPreorder Atlas (StaysApart parent) where
  refl _ h := h
  trans _ _ _ hfirst hsecond h := hsecond (hfirst h)

/-- They do so when a child is added. -/
theorem staysApart_of_add {atlas : Atlas} {id parent : NodeId} {kind : NodeKind} {result : Atlas × NodeId}
    (h : atlas.add id kind = .ok result) : StaysApart parent atlas result.1 := by
  obtain ⟨node, hnode, -, -, rfl⟩ := (add_eq_ok_iff atlas id kind result).mp h
  intro hapart next hnext
  rw [size_attach]
  obtain ⟨-, rfl⟩ | ⟨old, hold, rfl⟩ := node?_attach_cases (lt_of_node? hnode) hnext
  · exact ⟨List.nodup_nil, nofun⟩
  · obtain ⟨honce, hlt⟩ := hapart old hold
    split
    · constructor
      · rw [List.map_append, List.nodup_append]
        refine ⟨honce, List.pairwise_singleton _ _, ?_⟩
        rintro child hchild _ hadded rfl
        obtain ⟨kept, hkept, rfl⟩ := List.mem_map.mp hchild
        exact Nat.ne_of_lt (hlt kept hkept) (List.mem_singleton.mp hadded)
      · intro child hchild
        rcases List.mem_append.mp hchild with hkept | hadded
        · exact Nat.lt_succ_of_lt (hlt child hkept)
        · rw [List.mem_singleton.mp hadded]
          exact Nat.lt_succ_self _
    · rw [List.append_nil]
      exact ⟨honce, fun child hchild => Nat.lt_succ_of_lt (hlt child hchild)⟩

/-- They do so when a field is set. -/
theorem staysApart_of_assign {atlas after : Atlas} {id parent : NodeId} {field : String} {given : Entry}
    (h : atlas.assign id field given = .ok after) : StaysApart parent atlas after := by
  obtain ⟨node, next, hnode, -, -, hset, rfl⟩ := (assign_eq_ok_iff atlas id field given after).mp h
  intro hapart other hother
  rw [size_update]
  rw [node?_update] at hother
  split at hother
  · rename_i hsame
    subst hsame
    rw [hnode] at hother
    obtain rfl := Option.some.inj hother
    rw [(Node.sameFrame_set hset).children]
    exact hapart node hnode
  · exact hapart other hother

end Atlas

end SchemaAtlas
