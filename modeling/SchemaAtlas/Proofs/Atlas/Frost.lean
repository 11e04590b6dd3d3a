import SchemaAtlas.Atlas.Freeze
import SchemaAtlas.Proofs.Atlas.Forest
import SchemaAtlas.Proofs.Failure.Keeping

/-!
# What is frozen

Freezing marks nodes and changes nothing else. At any time, also in the middle of a freezing that fails,
whatever stands below a frozen node is frozen, and siblings there differ in name. Freezing a node returns
exactly if siblings differ in name at and below it.
-/

namespace SchemaAtlas.Atlas

/-! ## Marking nodes -/

/-- Some nodes are marked as frozen, and nothing else is changed. -/
def Marks (before after : Atlas) : Prop :=
  ∃ marked : NodeId → Bool, ∀ id,
    after.node? id = (before.node? id).map fun node => { node with frozen := node.frozen || marked id }

instance : IsPreorder Atlas Marks where
  refl atlas := ⟨fun _ => false, fun id => by simp⟩
  trans := by
    intro first second third hfirst hsecond
    obtain ⟨marked, hmarked⟩ := hfirst
    obtain ⟨more, hmore⟩ := hsecond
    refine ⟨fun id => marked id || more id, ?_⟩
    intro id
    rw [hmore, hmarked]
    simp [Function.comp_def, Bool.or_assoc]

/-- Marking a node marks it. -/
theorem marks_mark (id : NodeId) : Keeping.Keeps Marks (mark id) := by
  intro atlas
  refine ⟨fun other => id == other, ?_⟩
  intro other
  change (atlas.update id fun node => { node with frozen := true }).node? other = _
  rw [node?_update]
  by_cases hid : id = other
  · simp [hid]
  · have hunmarked : (id == other) = false := beq_eq_false_iff_ne.mpr hid
    simp [hid, hunmarked]

section

variable {freezeChild : NodeId → Keeping Atlas Unit} (h : ∀ id, Keeping.Keeps Marks (freezeChild id))

include h

/-- So does freezing siblings. -/
theorem marks_freezeSiblings (parent : Node) (seen : List (Option String)) (ids : List NodeId) :
    Keeping.Keeps Marks (freezeSiblings freezeChild parent seen ids) := by
  induction ids generalizing seen with
  | nil => exact .pure ()
  | cons id rest ih =>
    refine Keeping.Keeps.get.bind fun atlas => ?_
    split
    · exact ih seen
    · split
      · exact (Keeping.Keeps.throw _).bind fun _ => (h id).bind fun _ => ih _
      · exact (h id).bind fun _ => ih _

/-- So does freezing collections. -/
theorem marks_freezeCollections (parent : Node) (kinds : List (NodeKind × String)) :
    Keeping.Keeps Marks (freezeCollections freezeChild parent kinds) := by
  induction kinds with
  | nil => exact .pure ()
  | cons kind rest ih => exact (marks_freezeSiblings h parent [] _).bind fun _ => ih

end

/-- So does freezing a node and some levels below it. -/
theorem marks_freezeLevels (levels : Nat) (id : NodeId) : Keeping.Keeps Marks (freezeLevels levels id) := by
  induction levels generalizing id with
  | zero => exact marks_mark id
  | succ levels ih =>
    refine Keeping.Keeps.get.bind fun atlas => ?_
    split
    · exact .throw _
    · exact (marks_freezeCollections ih _ _).bind fun _ => marks_mark id

/-- So does freezing a node, whether that succeeds or not. -/
theorem marks_freeze (id : NodeId) : Keeping.Keeps Marks (freeze id) := by
  refine Keeping.Keeps.get.bind fun atlas => ?_
  split
  · exact .throw _
  · exact marks_freezeLevels _ id

/-- A node is there and frozen. -/
def IsFrozen (atlas : Atlas) (id : NodeId) : Prop :=
  ∃ node, atlas.node? id = some node ∧ node.frozen = true

namespace Marks

variable {before after : Atlas} (h : before.Marks after)

include h

/-- Marking leaves every node in its place. -/
theorem sameShape : before.SameShape after := by
  obtain ⟨marked, hmarked⟩ := h
  intro id
  rw [hmarked, Option.map_map]
  rfl

/-- It leaves every name. -/
theorem nameOf : after.nameOf = before.nameOf := by
  obtain ⟨marked, hmarked⟩ := h
  funext id
  rw [Atlas.nameOf, Atlas.nameOf, hmarked]
  cases before.node? id <;> rfl

/-- It leaves the names of children. -/
theorem names (id : NodeId) (kind : NodeKind) : after.names id kind = before.names id kind := by
  rw [Atlas.names, Atlas.names, h.sameShape.collection, h.nameOf]

/-- Siblings differ in name where they did before. -/
theorem distinctBelow : after.DistinctBelow = before.DistinctBelow := by
  funext id
  simp only [DistinctBelow, h.sameShape.below, h.names]

/-- What was frozen is frozen. -/
theorem isFrozen {id : NodeId} (hfrozen : before.IsFrozen id) : after.IsFrozen id := by
  obtain ⟨marked, hmarked⟩ := h
  obtain ⟨node, hnode, hnodeFrozen⟩ := hfrozen
  refine ⟨{ node with frozen := node.frozen || marked id }, by rw [hmarked, hnode]; rfl, ?_⟩
  simp [hnodeFrozen]

end Marks

/-! ## Frozen subtrees -/

/-- The children of a frozen node are frozen, and siblings among them differ in name. -/
def Settled (atlas : Atlas) : Prop :=
  ∀ id, atlas.IsFrozen id →
    (∀ kind, (atlas.names id kind).Nodup) ∧ ∀ child, atlas.IsChild id child → atlas.IsFrozen child

/-- Everything at and below a frozen node is frozen, and siblings there differ in name. -/
theorem Settled.below {atlas : Atlas} (h : atlas.Settled) {id other : NodeId} (hfrozen : atlas.IsFrozen id)
    (hbelow : atlas.Below id other) : atlas.IsFrozen other ∧ ∀ kind, (atlas.names other kind).Nodup := by
  have hother : atlas.IsFrozen other := by
    induction hbelow with
    | refl => exact hfrozen
    | tail _ hchild ih => exact (h _ ih).2 _ hchild
  exact ⟨hother, (h other hother).1⟩

/-- An atlas in which no node is frozen is settled. -/
theorem settled_empty : Settled {} := by
  intro id hfrozen
  obtain ⟨node, hnode, -⟩ := hfrozen
  exact absurd (lt_of_node? hnode) (Nat.not_lt_zero id)

/-! ## What freezing comes to -/

/-- A computation freezes some nodes: it marks nodes and leaves a settled atlas, and it returns, the nodes
being frozen then, exactly if something holds. -/
structure Froze (before : Atlas) (ids : List NodeId) (distinct : Prop) (result : Except Failure Unit × Atlas) :
    Prop where
  marks : before.Marks result.2
  settled : result.2.Settled
  returns : result.1 = .ok () ↔ distinct
  frozen : distinct → ∀ id ∈ ids, result.2.IsFrozen id

/-- Freezing nothing returns. -/
theorem Froze.pure {atlas : Atlas} (hsettled : atlas.Settled) {distinct : Prop} (hdistinct : distinct) :
    Froze atlas [] distinct (.ok (), atlas) :=
  ⟨Std.Refl.refl atlas, hsettled, by simpa using hdistinct, nofun⟩

/-- A failure freezes nothing more. -/
theorem Froze.throw {atlas : Atlas} (hsettled : atlas.Settled) (ids : List NodeId) {distinct : Prop}
    (hdistinct : ¬distinct) (f : Failure) : Froze atlas ids distinct (.error f, atlas) :=
  ⟨Std.Refl.refl atlas, hsettled, by simpa using hdistinct, fun h => absurd h hdistinct⟩

/-- Nodes are frozen after others; a failure to freeze the first leaves the rest. -/
theorem Froze.bind {before : Atlas} {first second : Keeping Atlas Unit} {ids others : List NodeId}
    {distinct more : Prop} (hfirst : Froze before ids distinct (first before))
    (hsecond : ∀ after, first before = (.ok (), after) → before.Marks after →
      Froze after others more (second after)) :
    Froze before (ids ++ others) (distinct ∧ more) ((first >>= fun _ => second) before) := by
  obtain ⟨hmarks, hsettled, hreturns, hfrozen⟩ := hfirst
  rw [Keeping.bind_apply]
  generalize first before = result at *
  obtain ⟨f | _, between⟩ := result
  · have hfails : ¬(distinct ∧ more) := fun h => nomatch hreturns.mpr h.1
    exact ⟨hmarks, hsettled, iff_of_false nofun hfails, fun h => absurd h hfails⟩
  · have hdistinct : distinct := hreturns.mp rfl
    obtain ⟨hrest, hafter, hend, hfrozenRest⟩ := hsecond between rfl hmarks
    refine ⟨IsTrans.trans _ _ _ hmarks hrest, hafter, hend.trans (by simp [hdistinct]), ?_⟩
    intro hboth id hid
    rcases List.mem_append.mp hid with hid | hid
    · exact hrest.isFrozen (hfrozen hdistinct id hid)
    · exact hfrozenRest hboth.2 id hid

/-- What is frozen may be told otherwise. -/
theorem Froze.congr {before : Atlas} {ids others : List NodeId} {distinct more : Prop}
    {result : Except Failure Unit × Atlas} (h : Froze before ids distinct result)
    (hids : ∀ id ∈ others, id ∈ ids) (hdistinct : distinct ↔ more) : Froze before others more result :=
  ⟨h.marks, h.settled, h.returns.trans hdistinct,
    fun hmore id hid => h.frozen (hdistinct.mpr hmore) id (hids id hid)⟩

/-- A node whose children are frozen, siblings differing in name, can be marked as frozen. -/
theorem froze_mark {atlas : Atlas} (hsettled : atlas.Settled) {id : NodeId} {node : Node}
    (hnode : atlas.node? id = some node) (hnames : ∀ kind, (atlas.names id kind).Nodup)
    (hchildren : ∀ child, atlas.IsChild id child → atlas.IsFrozen child) :
    Froze atlas [id] True (mark id atlas) := by
  have hmarks := marks_mark id atlas
  have hmarked (other : NodeId) : (mark id atlas).2.node? other =
      if id = other then (atlas.node? other).map fun node => { node with frozen := true }
      else atlas.node? other := node?_update ..
  have hfrozen : (mark id atlas).2.IsFrozen id :=
    ⟨{ node with frozen := true }, by rw [hmarked, if_pos rfl, hnode]; rfl, rfl⟩
  refine ⟨hmarks, ?_, by simp [mark], ?_⟩
  · intro other hother
    have hbefore : (∀ kind, (atlas.names other kind).Nodup) ∧
        ∀ child, atlas.IsChild other child → atlas.IsFrozen child := by
      by_cases hid : id = other
      · exact hid ▸ ⟨hnames, hchildren⟩
      · obtain ⟨next, hnext, hnextFrozen⟩ := hother
        rw [hmarked, if_neg hid] at hnext
        exact hsettled other ⟨next, hnext, hnextFrozen⟩
    refine ⟨fun kind => by rw [hmarks.names]; exact hbefore.1 kind, ?_⟩
    intro child hchild
    obtain ⟨kind, hmem⟩ := hchild
    rw [hmarks.sameShape.collection] at hmem
    exact hmarks.isFrozen (hbefore.2 child ⟨kind, hmem⟩)
  · intro _ other hother
    rw [List.mem_singleton.mp hother]
    exact hfrozen

/-- A node is there and has at most a number of levels below it. -/
def Fits (levels : Nat) (atlas : Atlas) (id : NodeId) : Prop :=
  ∃ node, atlas.node? id = some node ∧ node.kind.height ≤ levels

/-- Marking leaves the levels below a node. -/
theorem Fits.of_marks {levels : Nat} {before after : Atlas} {id : NodeId} (h : before.Marks after)
    (hfits : Fits levels before id) : Fits levels after id := by
  obtain ⟨node, hnode, hheight⟩ := hfits
  obtain ⟨next, hnext, hkind, -⟩ := h.sameShape.node? hnode
  exact ⟨next, hnext, by rwa [hkind]⟩

/-- A way of freezing nodes freezes those that fit: it returns exactly if siblings differ in name at and
below the node. -/
def FreezesBelow (freezeNode : NodeId → Keeping Atlas Unit) (levels : Nat) : Prop :=
  ∀ (atlas : Atlas) (id : NodeId), atlas.Formed → atlas.Settled → Fits levels atlas id →
    Froze atlas [id] (atlas.DistinctBelow id) (freezeNode id atlas)

section

variable {freezeChild : NodeId → Keeping Atlas Unit} {levels : Nat} (h : FreezesBelow freezeChild levels)

include h

/-- Freezing siblings returns if they differ in name from each other and from those seen before, and
siblings differ in name below them. -/
theorem froze_siblings (parent : Node) (seen : List (Option String)) {ids : List NodeId} {atlas : Atlas}
    (hformed : atlas.Formed) (hsettled : atlas.Settled) (hfits : ∀ id ∈ ids, Fits levels atlas id) :
    Froze atlas ids ((ids.map atlas.nameOf).Nodup ∧ (∀ id ∈ ids, atlas.nameOf id ∉ seen) ∧
      ∀ id ∈ ids, atlas.DistinctBelow id) (freezeSiblings freezeChild parent seen ids atlas) := by
  induction ids generalizing atlas seen with
  | nil => exact Froze.pure hsettled ⟨List.nodup_nil, nofun, nofun⟩
  | cons id rest ih =>
    obtain ⟨child, hchild, hheight⟩ := hfits id List.mem_cons_self
    have hname : atlas.nameOf id = child.name := by rw [nameOf, hchild]; rfl
    rw [freezeSiblings, Keeping.bind_of_ok (Keeping.get_apply atlas)]
    simp only [hchild]
    by_cases hseen : child.name ∈ seen
    · have hfails : ¬(((id :: rest).map atlas.nameOf).Nodup ∧ (∀ other ∈ id :: rest, atlas.nameOf other ∉ seen) ∧
          ∀ other ∈ id :: rest, atlas.DistinctBelow other) :=
        fun hall => hall.2.1 id List.mem_cons_self (hname ▸ hseen)
      have hcontains : seen.contains child.name = true := List.contains_iff_mem.mpr hseen
      rw [if_pos hcontains, Keeping.bind_of_error (Keeping.throw_apply _ atlas)]
      exact Froze.throw hsettled _ hfails _
    · have hcontains : ¬seen.contains child.name = true := fun hmem => hseen (List.contains_iff_mem.mp hmem)
      rw [if_neg hcontains]
      have hfirst := h atlas id hformed hsettled ⟨child, hchild, hheight⟩
      have hrest (after : Atlas) (hafter : freezeChild id atlas = (.ok (), after)) (hmarks : atlas.Marks after) :
          Froze after rest ((rest.map atlas.nameOf).Nodup ∧
            (∀ other ∈ rest, atlas.nameOf other ∉ child.name :: seen) ∧ ∀ other ∈ rest, atlas.DistinctBelow other)
            (freezeSiblings freezeChild parent (child.name :: seen) rest after) := by
        have hleft := hfirst.settled
        rw [hafter] at hleft
        have hlater := ih (child.name :: seen) (hmarks.sameShape.formed hformed) hleft fun other hother =>
          (hfits other (List.mem_cons_of_mem _ hother)).of_marks hmarks
        rwa [hmarks.nameOf, hmarks.distinctBelow] at hlater
      apply (hfirst.bind hrest).congr (fun other hother => hother)
      simp only [List.map_cons, List.nodup_cons, List.forall_mem_cons, hname, hseen, not_false_eq_true, true_and]
      simp only [List.mem_map, List.mem_cons, not_or, not_exists, not_and]
      constructor
      · intro hall
        obtain ⟨hbelow, hnodup, hunseen, hothers⟩ := hall
        exact ⟨⟨fun other hother => (hunseen other hother).1, hnodup⟩, fun other hother => (hunseen other hother).2,
          hbelow, hothers⟩
      · intro hall
        obtain ⟨⟨hdiffer, hnodup⟩, hunseen, hbelow, hothers⟩ := hall
        exact ⟨hbelow, hnodup, fun other hother => ⟨hdiffer other hother, hunseen other hother⟩, hothers⟩

/-- Freezing collections of a node returns if siblings differ in name in each of them and below. -/
theorem froze_collections {id : NodeId} {parent : Node} (kinds : List (NodeKind × String)) {atlas : Atlas}
    (hparent : ∀ kind, parent.collection kind = atlas.collection id kind) (hformed : atlas.Formed)
    (hsettled : atlas.Settled) (hfits : ∀ child, atlas.IsChild id child → Fits levels atlas child) :
    Froze atlas (kinds.flatMap fun kind => atlas.collection id kind.1)
      (∀ kind ∈ kinds, (atlas.names id kind.1).Nodup ∧ ∀ child ∈ atlas.collection id kind.1, atlas.DistinctBelow child)
      (freezeCollections freezeChild parent kinds atlas) := by
  induction kinds generalizing atlas with
  | nil => exact Froze.pure hsettled nofun
  | cons kind rest ih =>
    obtain ⟨kind, label⟩ := kind
    rw [freezeCollections, hparent]
    have hlower (child : NodeId) (hchild : child ∈ atlas.collection id kind) : Fits levels atlas child :=
      hfits child ⟨kind, hchild⟩
    have hfirst := froze_siblings h parent [] hformed hsettled hlower
    have hrest (after : Atlas)
        (hafter : freezeSiblings freezeChild parent [] (atlas.collection id kind) atlas = (.ok (), after))
        (hmarks : atlas.Marks after) :
        Froze after (rest.flatMap fun kind => atlas.collection id kind.1)
          (∀ kind ∈ rest, (atlas.names id kind.1).Nodup ∧
            ∀ child ∈ atlas.collection id kind.1, atlas.DistinctBelow child)
          (freezeCollections freezeChild parent rest after) := by
      have hleft := hfirst.settled
      rw [hafter] at hleft
      have hlater := @ih after (fun kind => (hparent kind).trans (hmarks.sameShape.collection id kind).symm)
        (hmarks.sameShape.formed hformed) hleft (by
          intro child hchild
          obtain ⟨sort, hmem⟩ := hchild
          rw [hmarks.sameShape.collection] at hmem
          exact (hfits child ⟨sort, hmem⟩).of_marks hmarks)
      simpa only [hmarks.sameShape.collection, hmarks.names, hmarks.distinctBelow] using hlater
    apply (hfirst.bind hrest).congr (fun other hother => hother)
    simp only [List.forall_mem_cons, names, List.not_mem_nil, not_false_eq_true, implies_true, true_and]

end

/-- Siblings differ in name at and below a node if they do in each of its collections and below. -/
theorem Formed.distinctBelow_iff {atlas : Atlas} (h : atlas.Formed) {id : NodeId} {node : Node}
    (hnode : atlas.node? id = some node) :
    (∀ kind ∈ node.kind.collections, (atlas.names id kind.1).Nodup ∧
      ∀ child ∈ atlas.collection id kind.1, atlas.DistinctBelow child) ↔ atlas.DistinctBelow id := by
  rw [Atlas.distinctBelow_iff]
  constructor
  · intro hall kind
    cases hkind : node.kind.collections.any (·.1 == kind) with
    | false => simp [names, h.collection_eq_nil hnode hkind]
    | true =>
      obtain ⟨entry, hentry, hsame⟩ := List.any_eq_true.mp hkind
      obtain rfl := beq_iff_eq.mp hsame
      exact hall entry hentry
  · exact fun hall kind _ => hall kind.1

/-- Freezing a node with a number of levels below it returns if siblings differ in name at and below it. -/
theorem froze_levels (levels : Nat) : FreezesBelow (freezeLevels levels) levels := by
  induction levels with
  | zero =>
    intro atlas id hformed hsettled hfits
    obtain ⟨node, hnode, hheight⟩ := hfits
    have hnone := hformed.collection_of_height hnode hheight
    have hdistinct : atlas.DistinctBelow id := by
      rw [distinctBelow_iff]
      simp [names, hnone]
    have hchildren (child : NodeId) (hchild : atlas.IsChild id child) : atlas.IsFrozen child := by
      obtain ⟨kind, hmem⟩ := hchild
      rw [hnone] at hmem
      cases hmem
    have hmark := froze_mark hsettled hnode (fun kind => (distinctBelow_iff.mp hdistinct kind).1) hchildren
    exact hmark.congr (fun _ hother => hother) (by simpa using hdistinct)
  | succ levels ih =>
    intro atlas id hformed hsettled hfits
    obtain ⟨node, hnode, hheight⟩ := hfits
    have hparent (kind : NodeKind) : node.collection kind = atlas.collection id kind := by
      rw [collection, hnode]
    have hlower (child : NodeId) (hchild : atlas.IsChild id child) : Fits levels atlas child := by
      obtain ⟨below, hbelow, hlow⟩ := hformed.node?_of_isChild hnode hchild
      exact ⟨below, hbelow, by omega⟩
    have hfirst := froze_collections ih node.kind.collections hparent hformed hsettled hlower
    have hdistinct := hformed.distinctBelow_iff hnode
    rw [freezeLevels, Keeping.bind_of_ok (Keeping.get_apply atlas)]
    simp only [hnode]
    have hlast (after : Atlas) (hafter : freezeCollections (freezeLevels levels) node node.kind.collections atlas =
        (.ok (), after)) (hmarks : atlas.Marks after) : Froze after [id] True (mark id after) := by
      have hleft := hfirst
      rw [hafter] at hleft
      have hall := hleft.returns.mp rfl
      obtain ⟨next, hnext, -⟩ := hmarks.sameShape.node? hnode
      apply froze_mark hleft.settled hnext
      · intro kind
        rw [hmarks.names]
        exact (distinctBelow_iff.mp (hdistinct.mp hall) kind).1
      · intro child hchild
        obtain ⟨kind, hmem⟩ := hchild
        rw [hmarks.sameShape.collection] at hmem
        obtain ⟨other, hother, hkept⟩ := mem_collection_iff.mp hmem
        obtain rfl : node = other := Option.some.inj (hnode.symm.trans hother)
        obtain ⟨entry, hentry, hsame⟩ := List.any_eq_true.mp (hformed.child hnode hkept).1
        obtain rfl := beq_iff_eq.mp hsame
        exact hleft.frozen hall child (List.mem_flatMap.mpr ⟨entry, hentry, hmem⟩)
    apply (hfirst.bind hlast).congr (fun other hother => List.mem_append_right _ hother)
    rw [and_true]
    exact hdistinct

/-- Freezing a node returns exactly if siblings differ in name at and below it. -/
theorem froze_freeze {atlas : Atlas} (hformed : atlas.Formed) (hsettled : atlas.Settled) {id : NodeId} {node : Node}
    (hnode : atlas.node? id = some node) : Froze atlas [id] (atlas.DistinctBelow id) (freeze id atlas) := by
  rw [freeze, Keeping.bind_of_ok (Keeping.get_apply atlas)]
  simp only [hnode]
  exact froze_levels _ atlas id hformed hsettled ⟨node, hnode, Nat.le_refl _⟩

end SchemaAtlas.Atlas
