import SchemaAtlas.Atlas.Freeze
import SchemaAtlas.Proofs.Atlas.Tree
import SchemaAtlas.Proofs.Failure.Keeping

/-!
# Freezing a tree

Freezing marks nodes and changes nothing else of them, whether it succeeds or fails. A tree in which no two
siblings of a kind have one name is frozen as a whole.
-/

namespace SchemaAtlas.Atlas

/-- An atlas shows the same as another: every node of either shows the same in both. -/
def ShowsSame (before after : Atlas) : Prop :=
  ∀ id, (before.node? id = none ∧ after.node? id = none) ∨
    ∃ node next, before.node? id = some node ∧ after.node? id = some next ∧ node.Alike next

instance : IsPreorder Atlas ShowsSame where
  refl atlas id := by
    cases hnode : atlas.node? id with
    | none => exact .inl ⟨rfl, rfl⟩
    | some node => exact .inr ⟨node, node, rfl, rfl, rfl, rfl, rfl⟩
  trans first second third hfirst hsecond id := by
    obtain ⟨hnone, hmiddle⟩ | ⟨node, next, hnode, hmiddle, hone⟩ := hfirst id <;>
      obtain ⟨hmiddle', hlast⟩ | ⟨next', last, hmiddle', hlast, hother⟩ := hsecond id
    · exact .inl ⟨hnone, hlast⟩
    · rw [hmiddle] at hmiddle'
      cases hmiddle'
    · rw [hmiddle] at hmiddle'
      cases hmiddle'
    · obtain rfl : next = next' := Option.some.inj (hmiddle.symm.trans hmiddle')
      exact .inr ⟨node, last, hnode, hlast, hother.name.trans hone.name, hother.content.trans hone.content,
        hother.children.trans hone.children⟩

/-- A tree stands in an atlas that shows the same. -/
theorem Stands.of_showsSame {before after : Atlas} {region : NodeId → Prop} (h : before.ShowsSame after)
    {levels : Nat} {id : NodeId} {tree : Tree} (hstands : before.Stands region levels id tree) :
    after.Stands region levels id tree := by
  refine hstands.transfer fun id node hregion hnode => ⟨hregion, ?_⟩
  obtain ⟨hnone, -⟩ | ⟨old, next, hold, hnext, halike⟩ := h id
  · rw [hnode] at hnone
    cases hnone
  · obtain rfl : node = old := Option.some.inj (hnode.symm.trans hold)
    exact ⟨next, hnext, halike⟩

/-- Marking a node shows nothing. -/
theorem showsSame_mark (id : NodeId) : Keeping.Keeps ShowsSame (mark id) := by
  intro atlas other
  change _ ∨ ∃ node next, _ ∧ (atlas.update id _).node? other = _ ∧ _
  change (_ ∧ (atlas.update id _).node? other = _) ∨ _
  rw [node?_update]
  cases hnode : atlas.node? other with
  | none => exact .inl ⟨rfl, by simp⟩
  | some node =>
    right
    by_cases hid : id = other
    · exact ⟨node, { node with frozen := true }, rfl, by rw [if_pos hid]; rfl, rfl, rfl, rfl⟩
    · exact ⟨node, node, rfl, by rw [if_neg hid], rfl, rfl, rfl⟩

/-- A way of freezing nodes freezes a tree: wherever the tree stands, it succeeds and shows nothing. -/
def Freezes (freezeNode : NodeId → Keeping Atlas Unit) (levels : Nat) (tree : Tree) : Prop :=
  ∀ (atlas : Atlas) (region : NodeId → Prop) (id : NodeId), atlas.Stands region levels id tree →
    ∃ frozen, freezeNode id atlas = (.ok (), frozen) ∧ atlas.ShowsSame frozen

/-- Siblings of different names are frozen one after the other. -/
theorem freezeSiblings_of_nodup {freezeChild : NodeId → Keeping Atlas Unit} {levels : Nat} {trees : List Tree}
    (hfreezes : ∀ tree ∈ trees, Freezes freezeChild levels tree) (parent : Node) {atlas : Atlas}
    {region : NodeId → Prop} {ids : List NodeId} (hstands : List.Forall₂ (atlas.Stands region levels) ids trees)
    (seen : List (Option String)) (hnodup : (trees.map Tree.name).Nodup)
    (hunseen : ∀ tree ∈ trees, tree.name ∉ seen) :
    ∃ frozen, freezeSiblings freezeChild parent seen ids atlas = (.ok (), frozen) ∧ atlas.ShowsSame frozen := by
  induction trees generalizing atlas ids seen with
  | nil =>
    cases hstands
    exact ⟨atlas, rfl, Std.Refl.refl _⟩
  | cons tree trees ih =>
    obtain _ | ⟨hfirst, hrest⟩ := hstands
    rename_i id ids
    obtain ⟨-, node, hnode, hname, -⟩ := hfirst.root
    rw [List.map_cons, List.nodup_cons] at hnodup
    have hnew : seen.contains node.name = false := by
      have hnotMem := hunseen tree List.mem_cons_self
      rw [hname]
      simpa using hnotMem
    obtain ⟨middle, hmiddle, hsame⟩ := hfreezes tree List.mem_cons_self atlas region id hfirst
    obtain ⟨frozen, hfrozen, hlast⟩ := ih (fun other hother => hfreezes other (List.mem_cons_of_mem _ hother))
      (hrest.imp fun _ _ => Stands.of_showsSame hsame) (node.name :: seen) hnodup.2 (by
        intro other hother
        rw [List.mem_cons, not_or, hname]
        refine ⟨?_, hunseen other (List.mem_cons_of_mem _ hother)⟩
        intro heq
        exact hnodup.1 (heq ▸ List.mem_map_of_mem hother))
    refine ⟨frozen, ?_, IsTrans.trans _ _ _ hsame hlast⟩
    rw [freezeSiblings, Keeping.bind_of_ok (Keeping.get_apply atlas)]
    simp only [hnode, hnew, Bool.false_eq_true, if_false, Keeping.bind_apply, hmiddle, hfrozen]

/-- The collections of a node are frozen one after the other, if the siblings in each have different
names. -/
theorem freezeCollections_of_nodup {freezeChild : NodeId → Keeping Atlas Unit} {levels : Nat}
    {trees : List Tree} (hfreezes : ∀ tree ∈ trees, Freezes freezeChild levels tree) {parent : Node}
    (hnodup : ∀ kind, ((trees.filter (·.kind == kind)).map Tree.name).Nodup)
    (kinds : List (NodeKind × String)) {atlas : Atlas} {region : NodeId → Prop}
    (hstands : List.Forall₂ (fun child sub => child.1 = sub.kind ∧ atlas.Stands region levels child.2 sub)
      parent.children trees) :
    ∃ frozen, freezeCollections freezeChild parent kinds atlas = (.ok (), frozen) ∧
      atlas.ShowsSame frozen := by
  induction kinds generalizing atlas with
  | nil => exact ⟨atlas, rfl, Std.Refl.refl _⟩
  | cons kind rest ih =>
    obtain ⟨kind, label⟩ := kind
    have hof : ∀ tree ∈ trees.filter (·.kind == kind), Freezes freezeChild levels tree :=
      fun tree htree => hfreezes tree (List.mem_filter.mp htree).1
    obtain ⟨middle, hmiddle, hsame⟩ := freezeSiblings_of_nodup hof parent (forall₂_collection hstands kind)
      [] (hnodup kind) (fun tree _ => List.not_mem_nil)
    obtain ⟨frozen, hfrozen, hlast⟩ :=
      ih (hstands.imp fun _ _ hchild => ⟨hchild.1, hchild.2.of_showsSame hsame⟩)
    refine ⟨frozen, ?_, IsTrans.trans _ _ _ hsame hlast⟩
    rw [freezeCollections]
    exact (Keeping.bind_of_ok hmiddle _).trans hfrozen

/-- A tree of distinct siblings is frozen as a whole. -/
theorem freezes_of_distinct {levels : Nat} {tree : Tree} (h : tree.Distinct levels) :
    Freezes (freezeLevels levels) levels tree := by
  induction levels generalizing tree with
  | zero => exact fun atlas _ id _ => ⟨_, rfl, showsSame_mark id atlas⟩
  | succ levels ih =>
    intro atlas region id hstands
    obtain ⟨-, node, hnode, -, -, hchildren⟩ := hstands
    obtain ⟨frozen, hfrozen, hsame⟩ := freezeCollections_of_nodup (fun child hchild => ih (h.2 child hchild))
      h.1 node.kind.collections hchildren
    refine ⟨_, ?_, IsTrans.trans _ _ _ hsame (showsSame_mark id frozen)⟩
    rw [freezeLevels, Keeping.bind_of_ok (Keeping.get_apply atlas)]
    simp only [hnode, Keeping.bind_of_ok hfrozen]
    rfl

/-- Freezing a tree of distinct siblings succeeds, and the tree is shown as before. -/
theorem freeze_of_distinct {atlas : Atlas} {region : NodeId → Prop} {id : NodeId} {tree : Tree}
    (hstands : atlas.Stands region tree.kind.height id tree) (hdistinct : tree.Distinct tree.kind.height) :
    ∃ frozen, atlas.freeze id = (.ok (), frozen) ∧
      frozen.document id = tree.documentLevels tree.kind.height := by
  obtain ⟨-, node, hnode, -, hcontent⟩ := hstands.root
  have hkind : node.kind = tree.kind := congrArg Content.kind hcontent
  obtain ⟨frozen, hfrozen, hsame⟩ := freezes_of_distinct hdistinct atlas region id hstands
  refine ⟨frozen, ?_, ?_⟩
  · rw [freeze, Keeping.bind_of_ok (Keeping.get_apply atlas), hnode]
    simp only [hkind]
    exact hfrozen
  · obtain ⟨-, last, hlast, -, hlastContent⟩ := (hstands.of_showsSame hsame).root
    have hlastKind : last.kind = tree.kind := congrArg Content.kind hlastContent
    rw [document, hlast]
    simp only [hlastKind]
    exact (hstands.of_showsSame hsame).documentLevels

end SchemaAtlas.Atlas
