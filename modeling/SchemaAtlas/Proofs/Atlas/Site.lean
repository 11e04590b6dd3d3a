import Mathlib.Data.List.Forall2
import SchemaAtlas.Proofs.Atlas.Forest
import SchemaAtlas.Proofs.Failure.Simulation

/-!
# What grows below a leaf

A leaf of an atlas is a site for a tree. The same leaf can stand alone in an atlas of its own. Edits below the
lone leaf have their counterparts below the site: its nodes go behind the nodes that the atlas of the site
had, and nothing else there changes. So the tree that grows does not depend on where it grows.
-/

namespace SchemaAtlas

/-- Items that are all related to something are related to the items of a list. -/
theorem exists_forall₂ {α β : Type} {R : α → β → Prop} {items : List α} (h : ∀ a ∈ items, ∃ b, R a b) :
    ∃ others, List.Forall₂ R items others := by
  induction items with
  | nil => exact ⟨[], .nil⟩
  | cons item items ih =>
    obtain ⟨other, hother⟩ := h item List.mem_cons_self
    obtain ⟨others, hothers⟩ := ih fun a ha => h a (List.mem_cons_of_mem _ ha)
    exact ⟨other :: others, .cons hother hothers⟩

/-- Nothing changes but some nodes, which keep their names, and what is new. -/
structure Atlas.Confined (ids : List NodeId) (before after : Atlas) : Prop where
  size : before.nodes.size ≤ after.nodes.size
  same : ∀ id, id < before.nodes.size → id ∉ ids → after.node? id = before.node? id
  name : ∀ id, id < before.nodes.size → after.nameOf id = before.nameOf id

namespace Atlas.Confined

variable {before between after : Atlas} {ids others : List NodeId}

/-- Nothing changes where nothing is done. -/
theorem refl (atlas : Atlas) : atlas.Confined [] atlas :=
  ⟨Nat.le_refl _, fun _ _ _ => rfl, fun _ _ => rfl⟩

/-- What changes one after the other changes altogether. -/
theorem append (hfirst : before.Confined ids between) (hsecond : between.Confined others after) :
    before.Confined (ids ++ others) after where
  size := Nat.le_trans hfirst.size hsecond.size
  same id hlt hne := by
    rw [List.mem_append, not_or] at hne
    exact (hsecond.same id (Nat.lt_of_lt_of_le hlt hfirst.size) hne.2).trans (hfirst.same id hlt hne.1)
  name id hlt := (hsecond.name id (Nat.lt_of_lt_of_le hlt hfirst.size)).trans (hfirst.name id hlt)

/-- What changes at most some nodes changes at most more. -/
theorem mono (h : before.Confined ids after) (hsub : ids ⊆ others) : before.Confined others after :=
  ⟨h.size, fun id hlt hne => h.same id hlt fun hmem => hne (hsub hmem), h.name⟩

/-- A node that is not changed has the same children. -/
theorem collection (h : before.Confined ids after) {id : NodeId} (hlt : id < before.nodes.size) (hne : id ∉ ids)
    (kind : NodeKind) : after.collection id kind = before.collection id kind := by
  rw [Atlas.collection, Atlas.collection, h.same id hlt hne]

/-- They have the same names. -/
theorem names (h : before.Confined ids after) {id : NodeId} (hlt : id < before.nodes.size) (hne : id ∉ ids)
    {kind : NodeKind} (hchildren : ∀ child ∈ before.collection id kind, child < before.nodes.size) :
    after.names id kind = before.names id kind := by
  rw [Atlas.names, Atlas.names, h.collection hlt hne]
  exact List.map_congr_left fun child hchild => h.name child (hchildren child hchild)

end Atlas.Confined

/-- A leaf of an atlas. -/
structure Site where
  atlas : Atlas
  root : NodeId
  name : Option String
  content : Content
  leaf : atlas.IsLeaf root name content

/-- A node is the same as another one, with its children in other places. -/
structure Node.Moved (place : NodeId → NodeId) (node moved : Node) : Prop where
  name : moved.name = node.name
  content : moved.content = node.content
  frozen : moved.frozen = node.frozen
  children : moved.children = node.children.map fun child => (child.1, place child.2)

namespace Node.Moved

variable {place : NodeId → NodeId} {node moved : Node} (h : node.Moved place moved)

include h

/-- It is of the same kind. -/
theorem kind : moved.kind = node.kind :=
  congrArg Content.kind h.content

/-- Messages call it the same. -/
theorem title : moved.title = node.title := by
  rw [Node.title, Node.title, h.kind, h.name]

/-- It takes the same fields. -/
theorem set (field : String) (given : Entry) :
    SameOutcome (fun next other => node.SameFrame next ∧ next.Moved place other) (node.set field given)
      (moved.set field given) := by
  have htold : moved.isTold field = node.isTold field := by rw [Node.isTold, Node.isTold, h.kind]
  unfold Node.set
  rw [htold, h.content, h.kind]
  split
  · exact .error _
  · split
    · split
      · exact .ok ⟨⟨rfl, rfl, rfl, rfl⟩, rfl, rfl, h.frozen, h.children⟩
      · exact .error _
    · split
      · rename_i content hcontent
        exact .ok ⟨⟨Content.kind_set? hcontent, rfl, rfl, rfl⟩, h.name, rfl, h.frozen, h.children⟩
      · exact .error _
      · exact .error _

end Node.Moved

namespace Site

variable (site : Site)

/-- The leaf alone. -/
def alone : Atlas :=
  (Atlas.create {} { name := site.name, content := site.content }).1

/-- The place at the site of a node below the lone leaf. -/
def place : NodeId → NodeId
  | 0 => site.root
  | id + 1 => site.atlas.nodes.size + id

/-- The site stands in its atlas. -/
theorem root_lt : site.root < site.atlas.nodes.size :=
  site.leaf.isOpen.lt

/-- Nodes below the leaf come behind the nodes that the atlas of the site had. -/
theorem le_place {id : NodeId} (hid : 0 < id) : site.atlas.nodes.size ≤ site.place id := by
  cases id with
  | zero => exact absurd hid (Nat.lt_irrefl 0)
  | succ id => exact Nat.le_add_right _ id

/-- The other nodes that the atlas had stand in no such place. -/
theorem ne_place {other : NodeId} (hlt : other < site.atlas.nodes.size) (hne : other ≠ site.root) (id : NodeId) :
    other ≠ site.place id := by
  cases id with
  | zero => exact hne
  | succ id => exact Nat.ne_of_lt (Nat.lt_of_lt_of_le hlt (site.le_place id.succ_pos))

/-- Different nodes have different places. -/
theorem place_injective : Function.Injective site.place := by
  have hnew (id : NodeId) : site.root ≠ site.place (id + 1) :=
    Nat.ne_of_lt (Nat.lt_of_lt_of_le site.root_lt (site.le_place id.succ_pos))
  rintro (_ | id) (_ | other) h
  · rfl
  · exact absurd h (hnew other)
  · exact absurd h.symm (hnew id)
  · exact congrArg Nat.succ (Nat.add_left_cancel h)

/-- A node below the lone leaf takes a place at the site. -/
def Takes (id place : NodeId) : Prop :=
  0 < id ∧ place = site.place id

/-- What grew below the lone leaf has grown at the site, and nothing else. -/
structure Grown (lone atlas : Atlas) : Prop where
  root : lone.IsOpen 0 site.name site.content
  size : atlas.nodes.size + 1 = site.atlas.nodes.size + lone.nodes.size
  same : ∀ id, id < site.atlas.nodes.size → id ≠ site.root → atlas.node? id = site.atlas.node? id
  node : ∀ id, Option.Rel (Node.Moved site.place) (lone.node? id) (atlas.node? (site.place id))
  thawed : ∀ {id node}, lone.node? id = some node → node.frozen = false
  below : ∀ {id node child}, lone.node? id = some node → child ∈ node.children → 0 < child.2

/-- At first there is only the leaf. -/
theorem grown_alone : site.Grown site.alone site.atlas := by
  obtain ⟨leaf, hleaf, hname, hcontent, hfrozen, hchildren⟩ := site.leaf
  have hnone (id : NodeId) : site.alone.node? (id + 1) = none := rfl
  have hmade : site.alone.node? 0 = some { name := site.name, content := site.content } := rfl
  refine ⟨⟨_, hmade, rfl, rfl, rfl⟩, rfl, fun _ _ _ => rfl, ?_, ?_, ?_⟩
  · rintro (_ | id)
    · change Option.Rel _ _ (site.atlas.node? site.root)
      rw [hmade, hleaf]
      exact .some ⟨hname, hcontent, hfrozen, by rw [hchildren]; rfl⟩
    · have hout : site.atlas.node? (site.place (id + 1)) = none := by
        simp [place, Atlas.node?]
      rw [hnone, hout]
      exact .none
  · rintro (_ | id) node hnode
    · obtain rfl := Option.some.inj (hmade.symm.trans hnode)
      rfl
    · cases (hnone id).symm.trans hnode
  · rintro (_ | id) node child hnode hchild
    · obtain rfl := Option.some.inj (hmade.symm.trans hnode)
      cases hchild
    · cases (hnone id).symm.trans hnode

namespace Grown

variable {site} {lone atlas : Atlas} {id : NodeId} {node : Node} (h : site.Grown lone atlas)

include h

/-- A node below the lone leaf has a counterpart. -/
theorem moved (hnode : lone.node? id = some node) :
    ∃ moved, atlas.node? (site.place id) = some moved ∧ node.Moved site.place moved := by
  have hrel := h.node id
  rw [hnode] at hrel
  generalize atlas.node? (site.place id) = found at hrel ⊢
  cases hrel with
  | some hmoved => exact ⟨_, rfl, hmoved⟩

/-- Where there is no node below the lone leaf, there is none at the site. -/
theorem missing (hnode : lone.node? id = none) : atlas.node? (site.place id) = none := by
  have hrel := h.node id
  rw [hnode] at hrel
  generalize atlas.node? (site.place id) = found at hrel ⊢
  cases hrel
  rfl

/-- The next node comes to the next place. -/
theorem place_size : site.place lone.nodes.size = atlas.nodes.size := by
  have hlone : 0 < lone.nodes.size := h.root.lt
  obtain ⟨count, hcount⟩ := Nat.exists_eq_succ_of_ne_zero (Nat.ne_of_gt hlone)
  have hsize := h.size
  rw [hcount] at hsize ⊢
  exact (Nat.succ.inj hsize).symm

/-- Names are the same. -/
theorem nameOf (id : NodeId) : atlas.nameOf (site.place id) = lone.nameOf id := by
  cases hnode : lone.node? id with
  | none => rw [Atlas.nameOf, Atlas.nameOf, hnode, h.missing hnode]
  | some node =>
    obtain ⟨moved, hmoved, hsame⟩ := h.moved hnode
    rw [Atlas.nameOf, Atlas.nameOf, hnode, hmoved]
    exact hsame.name

/-- Children are the same, in their places. -/
theorem collection (id : NodeId) (kind : NodeKind) :
    atlas.collection (site.place id) kind = (lone.collection id kind).map site.place := by
  cases hnode : lone.node? id with
  | none => rw [Atlas.collection, Atlas.collection, hnode, h.missing hnode, List.map_nil]
  | some node =>
    obtain ⟨moved, hmoved, hsame⟩ := h.moved hnode
    rw [Atlas.collection, Atlas.collection, hnode, hmoved]
    simp only [Node.collection, hsame.children, List.filter_map, List.map_map]
    rfl

/-- A child that is put under a node is put under its counterpart. -/
theorem attach (kind : NodeKind) (hid : id < lone.nodes.size) :
    site.Grown (lone.attach id kind).1 (atlas.attach (site.place id) kind).1 := by
  obtain ⟨parent, hparent⟩ := Atlas.exists_of_lt hid
  obtain ⟨moved, hmoved, -⟩ := h.moved hparent
  have hplace := Atlas.lt_of_node? hmoved
  refine ⟨?_, by rw [Atlas.size_attach, Atlas.size_attach, ← Nat.add_assoc, ← h.size], ?_, ?_, ?_, ?_⟩
  · obtain ⟨root, hnode, hname, hcontent, hfrozen⟩ := h.root
    exact ⟨_, Atlas.node?_attach_old kind hid hnode, hname, hcontent, hfrozen⟩
  · intro other hlt hne
    have hold : other ≠ atlas.nodes.size := by
      rw [← h.place_size]
      exact site.ne_place hlt hne _
    rw [Atlas.node?_attach atlas kind hplace, if_neg hold, if_neg (site.ne_place hlt hne id), h.same other hlt hne]
  · intro other
    rw [Atlas.node?_attach lone kind hid, Atlas.node?_attach atlas kind hplace]
    have hnew : site.place other = atlas.nodes.size ↔ other = lone.nodes.size := by
      rw [← h.place_size, site.place_injective.eq_iff]
    have hup : site.place other = site.place id ↔ other = id := site.place_injective.eq_iff
    simp only [hnew, hup]
    split
    · exact .some ⟨rfl, rfl, rfl, rfl⟩
    · split
      · rename_i hother
        subst hother
        rw [hparent, hmoved]
        obtain ⟨found, hfound, hsame⟩ := h.moved hparent
        obtain rfl := Option.some.inj (hmoved.symm.trans hfound)
        refine .some ⟨hsame.name, hsame.content, hsame.frozen, ?_⟩
        simp only [hsame.children, List.map_append, List.map_singleton, h.place_size]
      · exact h.node other
  · intro other next hnext
    obtain ⟨-, rfl⟩ | ⟨old, hold, rfl⟩ := Atlas.node?_attach_cases hid hnext
    · rfl
    · exact (h.thawed hold : old.frozen = false)
  · intro other next child hnext hchild
    obtain ⟨-, rfl⟩ | ⟨old, hold, rfl⟩ := Atlas.node?_attach_cases hid hnext
    · cases hchild
    · rcases List.mem_append.mp hchild with hkept | hadded
      · exact h.below hold hkept
      · split at hadded
        · rw [List.mem_singleton.mp hadded]
          exact h.root.lt
        · cases hadded

/-- A node below the leaf that is replaced is replaced in its place. -/
theorem update {next moved : Node} (hid : 0 < id) (hnode : lone.node? id = some node)
    (hframe : node.SameFrame next) (hmoved : next.Moved site.place moved) :
    site.Grown (lone.update id fun _ => next) (atlas.update (site.place id) fun _ => moved) := by
  obtain ⟨old, hold, -⟩ := h.moved hnode
  have hother {other : NodeId} {found : Node} (hfound : (lone.update id fun _ => next).node? other = some found) :
      ∃ before, lone.node? other = some before ∧ found.frozen = before.frozen ∧ found.children = before.children := by
    rw [Atlas.node?_update] at hfound
    split at hfound
    · rename_i hsame
      subst hsame
      rw [hnode] at hfound
      obtain rfl := Option.some.inj hfound
      exact ⟨node, hnode, hframe.frozen, hframe.children⟩
    · exact ⟨found, hfound, rfl, rfl⟩
  refine ⟨?_, by simpa using h.size, ?_, ?_, ?_, ?_⟩
  · obtain ⟨root, hroot, hrest⟩ := h.root
    exact ⟨root, by rw [Atlas.node?_update, if_neg (Nat.ne_of_gt hid), hroot], hrest⟩
  · intro other hlt hne
    rw [Atlas.node?_update, if_neg (site.ne_place hlt hne id).symm, h.same other hlt hne]
  · intro other
    rw [Atlas.node?_update, Atlas.node?_update]
    simp only [site.place_injective.eq_iff]
    split
    · rename_i hsame
      subst hsame
      rw [hnode, hold]
      exact .some hmoved
    · exact h.node other
  · intro other found hfound
    obtain ⟨before, hbefore, hfrozen, -⟩ := hother hfound
    rw [hfrozen]
    exact h.thawed hbefore
  · intro other found child hfound hchild
    obtain ⟨before, hbefore, -, hchildren⟩ := hother hfound
    rw [hchildren] at hchild
    exact h.below hbefore hchild

/-! ### Edits below the leaf -/

/-- A child is added to a node as to its counterpart. -/
theorem add (id : NodeId) (kind : NodeKind) :
    SameOutcome (fun result other => site.Grown result.1 other.1 ∧ site.Takes result.2 other.2)
      (lone.add id kind) (atlas.add (site.place id) kind) := by
  unfold Atlas.add Atlas.node
  cases hnode : lone.node? id with
  | none =>
    rw [h.missing hnode]
    exact .error _
  | some node =>
    obtain ⟨moved, hmoved, hsame⟩ := h.moved hnode
    rw [hmoved]
    simp only [bind, Except.bind, hsame.kind, hsame.frozen, Node.lacks, Atlas.cannotAdd, hsame.title]
    split
    · exact .error _
    · split
      · exact .error _
      · exact .ok ⟨h.attach kind (Atlas.lt_of_node? hnode), h.root.lt, h.place_size.symm⟩

/-- A field is set in a node as in its counterpart. -/
theorem assign (hid : 0 < id) (field : String) (given : Entry) :
    SameOutcome site.Grown (lone.assign id field given) (atlas.assign (site.place id) field given) := by
  unfold Atlas.assign Atlas.node
  cases hnode : lone.node? id with
  | none =>
    rw [h.missing hnode]
    exact .error _
  | some node =>
    obtain ⟨moved, hmoved, hsame⟩ := h.moved hnode
    have hagain : Atlas.setsAgain moved field = Atlas.setsAgain node field := by
      rw [Atlas.setsAgain, Atlas.setsAgain, hsame.content]
    rw [hmoved]
    simp only [bind, Except.bind, hsame.frozen, hagain, Atlas.cannotSet, Atlas.alreadySet, hsame.title]
    split
    · exact .error _
    · split
      · exact .error _
      · have hset := hsame.set field given
        generalize node.set field given = outcome at hset
        generalize moved.set field given = other at hset
        cases hset with
        | error f => exact .error f
        | ok hnext => exact .ok (h.update hid hnode hnext.1 hnext.2)

/-- A child is found by its name below a node as below its counterpart. -/
theorem childNamed (id : NodeId) (kind : NodeKind) (name : Option String) :
    Option.Rel site.Takes (lone.childNamed id kind name) (atlas.childNamed (site.place id) kind name) := by
  have hchildren : ∀ child ∈ lone.collection id kind, 0 < child := by
    intro child hchild
    obtain ⟨node, hnode, hmem⟩ := Atlas.mem_collection_iff.mp hchild
    exact h.below hnode hmem
  rw [Atlas.childNamed, Atlas.childNamed, h.collection]
  generalize lone.collection id kind = children at hchildren
  induction children with
  | nil => exact .none
  | cons child rest ih =>
    have hnamed : (atlas.node? (site.place child)).any (fun node => node.name == name) =
        (lone.node? child).any fun node => node.name == name := by
      cases hnode : lone.node? child with
      | none => rw [h.missing hnode]
      | some node =>
        obtain ⟨moved, hmoved, hsame⟩ := h.moved hnode
        rw [hmoved, Option.any_some, Option.any_some, hsame.name]
    simp only [Atlas.firstNamed, List.map_cons, List.find?_cons, hnamed]
    split
    · exact .some ⟨hchildren child List.mem_cons_self, rfl⟩
    · exact ih fun other hother => hchildren other (List.mem_cons_of_mem _ hother)

/-! ### The tree that has grown -/

/-- A tree below the lone leaf stands at the site as well, in the leaf and in new nodes. -/
theorem stands {levels : Nat} {tree : Tree} (hid : id < lone.nodes.size)
    (hstands : lone.Stands (fun _ => True) levels id tree) :
    atlas.Stands (fun id => id ∈ [site.root] ∨ Atlas.New site.atlas atlas id) levels (site.place id) tree := by
  have hregion {id : NodeId} (hid : id < lone.nodes.size) :
      site.place id ∈ [site.root] ∨ Atlas.New site.atlas atlas (site.place id) := by
    cases id with
    | zero => exact .inl List.mem_cons_self
    | succ id =>
      obtain ⟨node, hnode⟩ := Atlas.exists_of_lt hid
      obtain ⟨moved, hmoved, -⟩ := h.moved hnode
      exact .inr ⟨site.le_place id.succ_pos, Atlas.lt_of_node? hmoved⟩
  induction levels generalizing id tree with
  | zero =>
    obtain ⟨-, node, hnode, hname, hcontent⟩ := hstands
    obtain ⟨moved, hmoved, hsame⟩ := h.moved hnode
    exact ⟨hregion hid, moved, hmoved, hsame.name.trans hname, hsame.content.trans hcontent⟩
  | succ levels ih =>
    obtain ⟨-, node, hnode, hname, hcontent, hchildren⟩ := hstands
    obtain ⟨moved, hmoved, hsame⟩ := h.moved hnode
    refine ⟨hregion hid, moved, hmoved, hsame.name.trans hname, hsame.content.trans hcontent, ?_⟩
    rw [hsame.children, List.forall₂_map_left_iff]
    apply hchildren.imp
    intro child sub hchild
    obtain ⟨hkind, hsub⟩ := hchild
    obtain ⟨-, below, hbelow, -⟩ := hsub.root
    exact ⟨hkind, ih (Atlas.lt_of_node? hbelow) hsub⟩

/-- Nothing changes but the site. -/
theorem confined : site.atlas.Confined [site.root] atlas := by
  have hsame : ∀ id, id < site.atlas.nodes.size → id ∉ [site.root] → atlas.node? id = site.atlas.node? id :=
    fun id hlt hne => h.same id hlt fun heq => hne (List.mem_singleton.mpr heq)
  refine ⟨?_, hsame, ?_⟩
  · have hsize := h.size
    have hlone : 0 < lone.nodes.size := h.root.lt
    omega
  · intro id hlt
    by_cases hroot : id = site.root
    · subst hroot
      have hname : atlas.nameOf site.root = lone.nameOf 0 := h.nameOf 0
      rw [hname, h.root.nameOf, site.leaf.isOpen.nameOf]
    · rw [Atlas.nameOf, Atlas.nameOf, h.same id hlt hroot]

/-- A tree that grew below the lone leaf fills the site. -/
theorem fills {levels : Nat} {tree : Tree} (hstands : lone.Stands (fun _ => True) levels 0 tree) :
    site.atlas.Fills [site.root] levels [tree] atlas where
  size := h.confined.size
  same := h.confined.same
  trees := .cons (h.stands h.root.lt hstands) .nil
  thawed := by
    have hat {id : NodeId} {node : Node} (hnode : atlas.node? (site.place id) = some node) : node.frozen = false := by
      cases hlone : lone.node? id with
      | none => cases (h.missing hlone).symm.trans hnode
      | some original =>
        obtain ⟨moved, hmoved, hsame⟩ := h.moved hlone
        obtain rfl := Option.some.inj (hmoved.symm.trans hnode)
        rw [hsame.frozen]
        exact h.thawed hlone
    rintro id node (hmem | hnew) hnode
    · obtain rfl := List.mem_singleton.mp hmem
      have hroot : atlas.node? (site.place 0) = some node := hnode
      exact hat hroot
    · have hplace : site.place (id - site.atlas.nodes.size + 1) = id := Nat.add_sub_cancel' hnew.1
      rw [← hplace] at hnode
      exact hat hnode

end Grown

end Site

/-- At a node of well-formed trees stands a tree. -/
theorem Atlas.Formed.exists_stands {atlas : Atlas} (h : atlas.Formed) {id : NodeId} {node : Node}
    (hnode : atlas.node? id = some node) (levels : Nat) :
    ∃ tree : Tree, tree.kind = node.kind ∧ atlas.Stands (fun _ => True) levels id tree := by
  induction levels generalizing id node with
  | zero => exact ⟨.node node.name node.content [], rfl, trivial, node, hnode, rfl, rfl⟩
  | succ levels ih =>
    have hchildren : ∀ child ∈ node.children, ∃ sub : Tree, child.1 = sub.kind ∧
        atlas.Stands (fun _ => True) levels child.2 sub := by
      intro child hchild
      obtain ⟨-, below, hbelow, hkind, -⟩ := h.child hnode hchild
      obtain ⟨sub, hsub, hstands⟩ := ih hbelow
      exact ⟨sub, (hsub.trans hkind).symm, hstands⟩
    obtain ⟨subs, hsubs⟩ := exists_forall₂ hchildren
    exact ⟨.node node.name node.content subs, rfl, trivial, node, hnode, rfl, rfl, hsubs⟩

end SchemaAtlas
