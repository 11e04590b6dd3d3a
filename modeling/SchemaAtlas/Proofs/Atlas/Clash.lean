import SchemaAtlas.Proofs.Atlas.Evolution

/-!
# Where freezing stops

Freezing goes through the children of a node, collection by collection, and marks each with everything below
it before the next one is looked at. It stops at the first child whose name an earlier sibling has. What was
passed until then stays frozen, although the freezing fails; the nodes at and above that child stay as they
were.
-/

namespace SchemaAtlas

/-- The collections of a kind are of different kinds. -/
theorem NodeKind.nodup_collections (kind : NodeKind) : (kind.collections.map Prod.fst).Nodup := by
  cases kind <;> decide

namespace Atlas

/-! ## Just some nodes are marked -/

/-- Some nodes are frozen, and nothing else is changed. -/
structure MarksJust (before : Atlas) (marked : NodeId → Prop) (after : Atlas) : Prop where
  frozen : ∀ id, marked id → after.node? id = (before.node? id).map fun node => { node with frozen := true }
  kept : ∀ id, ¬marked id → after.node? id = before.node? id

namespace MarksJust

variable {before after : Atlas} {marked : NodeId → Prop}

/-- Where none is to be marked, nothing is changed. -/
theorem refl (atlas : Atlas) (h : ∀ id, ¬marked id) : MarksJust atlas marked atlas :=
  ⟨fun id hid => absurd hid (h id), fun _ _ => rfl⟩

/-- One more node can be marked. -/
theorem mark (h : MarksJust before marked after) {id : NodeId} {more : NodeId → Prop}
    (hmore : ∀ other, more other ↔ marked other ∨ other = id) : MarksJust before more (Atlas.mark id after).2 := by
  have hnode (other : NodeId) : (Atlas.mark id after).2.node? other =
      if id = other then (after.node? other).map fun node => { node with frozen := true }
      else after.node? other := node?_update ..
  constructor
  · intro other hother
    rw [hnode]
    by_cases hmarked : marked other
    · rw [h.frozen other hmarked]
      split <;> simp [Function.comp_def]
    · rw [h.kept other hmarked, if_pos (((hmore other).mp hother).resolve_left hmarked).symm]
  · intro other hother
    rw [hmore, not_or] at hother
    rw [hnode, if_neg (Ne.symm hother.2), h.kept other hother.1]

/-- A node is the same but for being frozen. -/
theorem node? (h : MarksJust before marked after) {id : NodeId} {node : Node} (hnode : before.node? id = some node) :
    ∃ frozen, after.node? id = some { node with frozen } := by
  by_cases hmarked : marked id
  · exact ⟨true, by rw [h.frozen id hmarked, hnode]; rfl⟩
  · exact ⟨node.frozen, by rw [h.kept id hmarked, hnode]⟩

end MarksJust

/-! ## Clashes -/

/-- The children of a node in some collections, and some of another. -/
def childrenIn (atlas : Atlas) (id : NodeId) (done : List (NodeKind × String)) (earlier : List NodeId) : List NodeId :=
  (done.flatMap fun entry => atlas.collection id entry.1) ++ earlier

/-- Freezing the children of a node comes to a place in one of its collections: in the collections before it,
and up to that place, siblings differ in name, and they do so at and below all of these children. -/
structure Reaches (atlas : Atlas) (id : NodeId) (done : List (NodeKind × String)) (kind : NodeKind)
    (earlier rest : List NodeId) : Prop where
  listed : ∃ node label others, atlas.node? id = some node ∧ node.kind.collections = done ++ (kind, label) :: others
  split : atlas.collection id kind = earlier ++ rest
  ahead : ∀ entry ∈ done, (atlas.names id entry.1).Nodup
  names : (earlier.map atlas.nameOf).Nodup
  distinct : ∀ other ∈ atlas.childrenIn id done earlier, atlas.DistinctBelow other

/-- The first clash at or below a node: the nodes that freezing passes before it, each with everything below
it, and the child that has the name of an earlier sibling, with its parent. -/
inductive Clash (atlas : Atlas) : NodeId → List NodeId → NodeId → NodeId → Prop where
  /-- The clash is among the children of the node. -/
  | here {id child : NodeId} {done : List (NodeKind × String)} {kind : NodeKind} {earlier rest : List NodeId}
      (hreaches : atlas.Reaches id done kind earlier (child :: rest))
      (hname : atlas.nameOf child ∈ earlier.map atlas.nameOf) :
      Clash atlas id (atlas.childrenIn id done earlier) id child
  /-- The clash is below one of the children. -/
  | deeper {id next parent child : NodeId} {done : List (NodeKind × String)} {kind : NodeKind}
      {earlier rest passed : List NodeId} (hreaches : atlas.Reaches id done kind earlier (next :: rest))
      (hname : atlas.nameOf next ∉ earlier.map atlas.nameOf) (hclash : Clash atlas next passed parent child) :
      Clash atlas id (atlas.childrenIn id done earlier ++ passed) parent child

/-- Some nodes were passed: siblings differ in name at and below them, and just the nodes there are marked. -/
structure Passed (atlas : Atlas) (passed : List NodeId) (current : Atlas) : Prop where
  distinct : ∀ other ∈ passed, atlas.DistinctBelow other
  marks : atlas.MarksJust (fun other => ∃ top ∈ passed, atlas.Below top other) current

/-- A freezing, after some nodes were passed, comes to a goal, or it stops at the first clash at or below a
node. -/
inductive Halts (atlas : Atlas) (id : NodeId) (passed : List NodeId) (goal : Atlas → Prop) :
    Except Failure Unit × Atlas → Prop where
  | done {after : Atlas} (h : goal after) : Halts atlas id passed goal (.ok (), after)
  | clash {more : List NodeId} {parent child : NodeId} {up down : Node} {after : Atlas}
      (hclash : atlas.Clash id more parent child) (hup : atlas.node? parent = some up)
      (hdown : atlas.node? child = some down) (h : atlas.Passed (passed ++ more) after) :
      Halts atlas id passed goal (.error (duplicate up down), after)

namespace Halts

variable {atlas : Atlas} {id : NodeId} {passed : List NodeId} {goal : Atlas → Prop}

/-- What is frozen next comes to its goal from where the first goal was come to. -/
theorem bind {first second : Keeping Atlas Unit} {next : Atlas → Prop} {current : Atlas}
    (hfirst : Halts atlas id passed goal (first current))
    (hsecond : ∀ after, goal after → Halts atlas id passed next (second after)) :
    Halts atlas id passed next ((first >>= fun _ => second) current) := by
  rw [Keeping.bind_apply]
  generalize first current = result at hfirst
  cases hfirst with
  | done hgoal => exact hsecond _ hgoal
  | clash hclash hup hdown hpassed => exact .clash hclash hup hdown hpassed

/-- A clash below a child is one below the node. -/
theorem below {next : NodeId} {done : List (NodeKind × String)} {kind : NodeKind} {earlier rest : List NodeId}
    {result : Except Failure Unit × Atlas} (hreaches : atlas.Reaches id done kind earlier (next :: rest))
    (hname : atlas.nameOf next ∉ earlier.map atlas.nameOf)
    (h : Halts atlas next (passed ++ atlas.childrenIn id done earlier) goal result) :
    Halts atlas id passed goal result := by
  cases h with
  | done hgoal => exact .done hgoal
  | clash hclash hup hdown hpassed =>
    rw [List.append_assoc] at hpassed
    exact .clash (.deeper hreaches hname hclash) hup hdown hpassed

end Halts

/-! ## What freezing comes to -/

/-- A way of freezing nodes passes those that fit, or stops at the first clash at or below them. -/
def PassesBelow (freezeNode : NodeId → Keeping Atlas Unit) (levels : Nat) : Prop :=
  ∀ {atlas current : Atlas} {id : NodeId} {passed : List NodeId}, atlas.Formed → Fits levels atlas id →
    atlas.Passed passed current →
    atlas.Halts id passed (atlas.Passed (passed ++ [id])) (freezeNode id current)

section

variable {freezeChild : NodeId → Keeping Atlas Unit} {levels : Nat} (h : PassesBelow freezeChild levels)
  {atlas : Atlas} {id : NodeId} {node : Node} {passed : List NodeId}

include h

/-- Freezing the siblings behind a place passes them all, or stops at the first clash. -/
theorem halts_siblings (hformed : atlas.Formed) (hnode : atlas.node? id = some node) (frozen : Bool)
    {done : List (NodeKind × String)} {kind : NodeKind} {earlier rest : List NodeId} {seen : List (Option String)}
    {current : Atlas} (hreaches : atlas.Reaches id done kind earlier rest)
    (hseen : ∀ name, name ∈ seen ↔ name ∈ earlier.map atlas.nameOf)
    (hfits : ∀ child ∈ rest, Fits levels atlas child)
    (hpassed : atlas.Passed (passed ++ atlas.childrenIn id done earlier) current) :
    atlas.Halts id passed
      (fun after => atlas.Reaches id done kind (earlier ++ rest) [] ∧
        atlas.Passed (passed ++ atlas.childrenIn id done (earlier ++ rest)) after)
      (freezeSiblings freezeChild { node with frozen } seen rest current) := by
  induction rest generalizing earlier seen current with
  | nil =>
    rw [List.append_nil]
    exact .done ⟨hreaches, hpassed⟩
  | cons next rest ih =>
    obtain ⟨child, hchild, -⟩ := hfits next List.mem_cons_self
    obtain ⟨marked, hmarked⟩ := hpassed.marks.node? hchild
    have hname : atlas.nameOf next = child.name := by rw [nameOf, hchild]; rfl
    rw [freezeSiblings, Keeping.bind_of_ok (Keeping.get_apply current)]
    simp only [hmarked]
    by_cases hclash : child.name ∈ seen
    · have hduplicate : duplicate { node with frozen } { child with frozen := marked } = duplicate node child := rfl
      rw [if_pos (List.contains_iff_mem.mpr hclash), Keeping.bind_of_error (Keeping.throw_apply _ current), hduplicate]
      exact .clash (.here hreaches ((hseen _).mp (hname ▸ hclash))) hnode hchild hpassed
    · have hnew : atlas.nameOf next ∉ earlier.map atlas.nameOf := fun hmem => hclash (hname ▸ (hseen _).mpr hmem)
      have hsplit : atlas.childrenIn id done (earlier ++ [next]) = atlas.childrenIn id done earlier ++ [next] :=
        (List.append_assoc ..).symm
      rw [if_neg fun hmem => hclash (List.contains_iff_mem.mp hmem)]
      refine ((h hformed (hfits next List.mem_cons_self) hpassed).below hreaches hnew).bind fun after hafter => ?_
      rw [List.append_assoc, ← hsplit] at hafter
      have hstep : atlas.Reaches id done kind (earlier ++ [next]) rest := {
        listed := hreaches.listed
        split := by rw [hreaches.split, List.append_assoc]; rfl
        ahead := hreaches.ahead
        names := by
          rw [List.map_append, List.map_singleton, List.nodup_append]
          refine ⟨hreaches.names, List.pairwise_singleton _ _, ?_⟩
          rintro name hmem _ hlast rfl
          exact hnew (List.mem_singleton.mp hlast ▸ hmem)
        distinct := fun other hother => hafter.distinct other (List.mem_append_right _ hother) }
      have hnext (name : Option String) :
          name ∈ child.name :: seen ↔ name ∈ (earlier ++ [next]).map atlas.nameOf := by
        rw [List.mem_cons, hseen, List.map_append, List.mem_append, List.map_singleton, List.mem_singleton, hname,
          or_comm]
      have hlater := ih hstep hnext (fun other hother => hfits other (List.mem_cons_of_mem _ hother)) hafter
      rwa [List.append_assoc] at hlater

/-- Freezing further collections of a node passes all its children, or stops at the first clash. -/
theorem halts_collections (hformed : atlas.Formed) (hnode : atlas.node? id = some node) (frozen : Bool)
    (hfits : ∀ child, atlas.IsChild id child → Fits levels atlas child) {done others : List (NodeKind × String)}
    (hlisted : node.kind.collections = done ++ others) (hahead : ∀ entry ∈ done, (atlas.names id entry.1).Nodup)
    {current : Atlas} (hpassed : atlas.Passed (passed ++ atlas.childrenIn id done []) current) :
    atlas.Halts id passed
      (fun after => (∀ entry ∈ node.kind.collections, (atlas.names id entry.1).Nodup) ∧
        atlas.Passed (passed ++ atlas.childrenIn id node.kind.collections []) after)
      (freezeCollections freezeChild { node with frozen } others current) := by
  induction others generalizing done current with
  | nil =>
    rw [List.append_nil] at hlisted
    subst hlisted
    exact .done ⟨hahead, hpassed⟩
  | cons entry others ih =>
    obtain ⟨kind, label⟩ := entry
    have hkept : ({ node with frozen } : Node).collection kind = atlas.collection id kind := by
      rw [collection, hnode]
      rfl
    have hstart : atlas.Reaches id done kind [] (atlas.collection id kind) :=
      ⟨⟨node, label, others, hnode, hlisted⟩, rfl, hahead, List.nodup_nil,
        fun other hother => hpassed.distinct other (List.mem_append_right _ hother)⟩
    rw [freezeCollections, hkept]
    refine (halts_siblings h hformed hnode frozen hstart (by simp) (fun child hchild => hfits child ⟨kind, hchild⟩)
      hpassed).bind fun after hafter => ?_
    obtain ⟨hreaches, hafter⟩ := hafter
    have hchildren : atlas.childrenIn id (done ++ [(kind, label)]) [] =
        atlas.childrenIn id done (atlas.collection id kind) := by
      simp [childrenIn]
    rw [List.nil_append, ← hchildren] at hafter
    refine ih (by rw [hlisted, List.append_assoc]; rfl) ?_ hafter
    intro entry hentry
    rcases List.mem_append.mp hentry with hentry | hentry
    · exact hahead entry hentry
    · rw [List.mem_singleton.mp hentry]
      exact hreaches.names

end

/-- The children of a node are those in its collections. -/
theorem mem_childrenIn_iff {atlas : Atlas} (hformed : atlas.Formed) {id child : NodeId} {node : Node}
    (hnode : atlas.node? id = some node) :
    child ∈ atlas.childrenIn id node.kind.collections [] ↔ atlas.IsChild id child := by
  rw [childrenIn, List.append_nil, List.mem_flatMap]
  constructor
  · rintro ⟨entry, -, hchild⟩
    exact ⟨entry.1, hchild⟩
  · rintro ⟨kind, hchild⟩
    cases hkind : node.kind.collections.any (·.1 == kind) with
    | false =>
      rw [hformed.collection_eq_nil hnode hkind] at hchild
      cases hchild
    | true =>
      obtain ⟨entry, hentry, hsame⟩ := List.any_eq_true.mp hkind
      obtain rfl := beq_iff_eq.mp hsame
      exact ⟨entry, hentry, hchild⟩

/-- A node whose children were passed, siblings differing in name, is passed when it is marked. -/
theorem Passed.mark {atlas current : Atlas} (hformed : atlas.Formed) {id : NodeId} {node : Node}
    (hnode : atlas.node? id = some node) {passed : List NodeId}
    (hnames : ∀ entry ∈ node.kind.collections, (atlas.names id entry.1).Nodup)
    (hpassed : atlas.Passed (passed ++ atlas.childrenIn id node.kind.collections []) current) :
    atlas.Passed (passed ++ [id]) (mark id current).2 := by
  have hchildren (child : NodeId) := @mem_childrenIn_iff atlas hformed id child node hnode
  constructor
  case distinct =>
    intro other hother
    rcases List.mem_append.mp hother with hother | hother
    · exact hpassed.distinct other (List.mem_append_left _ hother)
    · rw [List.mem_singleton.mp hother, ← hformed.distinctBelow_iff hnode]
      exact fun entry hentry => ⟨hnames entry hentry, fun child hchild =>
        hpassed.distinct child (List.mem_append_right _ ((hchildren child).mpr ⟨entry.1, hchild⟩))⟩
  case marks =>
    refine hpassed.marks.mark fun other => ?_
    simp only [List.mem_append, List.mem_singleton, hchildren, or_and_right, exists_or, exists_eq_left]
    rw [or_assoc]
    refine or_congr_right ?_
    constructor
    · intro hbelow
      obtain rfl | ⟨child, hchild, hother⟩ := hbelow.cases_head
      · exact .inr rfl
      · exact .inl ⟨child, hchild, hother⟩
    · rintro (⟨child, hchild, hother⟩ | rfl)
      · exact .head hchild hother
      · exact .refl

/-- Freezing a node with a number of levels below it passes it, or stops at the first clash. -/
theorem passesBelow_levels (levels : Nat) : PassesBelow (freezeLevels levels) levels := by
  induction levels with
  | zero =>
    intro atlas current id passed hformed hfits hpassed
    obtain ⟨node, hnode, hheight⟩ := hfits
    have hnone := NodeKind.collections_eq_nil hheight
    have hall : atlas.Passed (passed ++ atlas.childrenIn id node.kind.collections []) current := by
      simpa [childrenIn, hnone] using hpassed
    exact .done (hall.mark hformed hnode (by simp [hnone]))
  | succ levels ih =>
    intro atlas current id passed hformed hfits hpassed
    obtain ⟨node, hnode, hheight⟩ := hfits
    have hlower (child : NodeId) (hchild : atlas.IsChild id child) : Fits levels atlas child := by
      obtain ⟨below, hbelow, hlow⟩ := hformed.node?_of_isChild hnode hchild
      exact ⟨below, hbelow, by omega⟩
    obtain ⟨frozen, hfrozen⟩ := hpassed.marks.node? hnode
    rw [freezeLevels, Keeping.bind_of_ok (Keeping.get_apply current)]
    simp only [hfrozen]
    have hstart : atlas.Passed (passed ++ atlas.childrenIn id [] []) current := by
      simpa [childrenIn] using hpassed
    have hchildren :=
      halts_collections ih hformed hnode frozen hlower (List.nil_append _).symm (List.forall_mem_nil _) hstart
    exact hchildren.bind fun after hafter => .done (hafter.2.mark hformed hnode hafter.1)

/-- Freezing a node passes it, or stops at the first clash at or below it. -/
theorem halts_freeze {atlas : Atlas} (hformed : atlas.Formed) {id : NodeId} {node : Node}
    (hnode : atlas.node? id = some node) : atlas.Halts id [] (atlas.Passed [id]) (freeze id atlas) := by
  have hstart : atlas.Passed [] atlas := ⟨List.forall_mem_nil _, .refl atlas (by simp)⟩
  rw [freeze, Keeping.bind_of_ok (Keeping.get_apply atlas)]
  simp only [hnode]
  exact passesBelow_levels node.kind.height hformed ⟨node, hnode, Nat.le_refl _⟩ hstart

/-! ## What a clash leaves -/

/-- A node has at most one parent. -/
theorem Formed.parent_unique {atlas : Atlas} (h : atlas.Formed) {parent other child : NodeId}
    (hparent : atlas.IsChild parent child) (hother : atlas.IsChild other child) : parent = other := by
  obtain ⟨kind, hmem⟩ := hparent
  obtain ⟨sort, hmem'⟩ := hother
  obtain ⟨up, hup, hchild⟩ := mem_collection_iff.mp hmem
  obtain ⟨up', hup', hchild'⟩ := mem_collection_iff.mp hmem'
  obtain ⟨-, node, hnode, -, hknows⟩ := h.child hup hchild
  obtain ⟨-, node', hnode', -, hknows'⟩ := h.child hup' hchild'
  obtain rfl : node = node' := Option.some.inj (hnode.symm.trans hnode')
  exact Option.some.inj (hknows.symm.trans hknows')

/-- No child of a node stands below another. -/
theorem Formed.eq_of_below_sibling {atlas : Atlas} (h : atlas.Formed) {id child sibling : NodeId} {node : Node}
    (hnode : atlas.node? id = some node) (hchild : atlas.IsChild id child) (hsibling : atlas.IsChild id sibling)
    (hbelow : atlas.Below child sibling) : child = sibling := by
  obtain rfl | ⟨parent, hparent, hlast⟩ := hbelow.cases_tail
  · rfl
  · obtain rfl := h.parent_unique hlast hsibling
    obtain ⟨lower, hlower, hlt⟩ := h.node?_of_isChild hnode hchild
    obtain ⟨next, hnext, hle⟩ := h.height_le_of_below hlower hparent
    obtain rfl : node = next := Option.some.inj (hnode.symm.trans hnext)
    omega

/-- Nothing stands below two children of a node. -/
theorem Formed.eq_of_below {atlas : Atlas} (h : atlas.Formed) {id child sibling other : NodeId} {node : Node}
    (hnode : atlas.node? id = some node) (hchild : atlas.IsChild id child) (hsibling : atlas.IsChild id sibling)
    (hfirst : atlas.Below child other) (hsecond : atlas.Below sibling other) : child = sibling := by
  have hunique : Relator.RightUnique (Function.swap atlas.IsChild) :=
    fun _ _ _ hparent hother => h.parent_unique hparent hother
  rcases Relation.ReflTransGen.total_of_right_unique hunique hfirst.swap hsecond.swap with hbelow | hbelow
  · exact (h.eq_of_below_sibling hnode hsibling hchild (Relation.reflTransGen_swap.mp hbelow)).symm
  · exact h.eq_of_below_sibling hnode hchild hsibling (Relation.reflTransGen_swap.mp hbelow)

/-- The children before a place are children other than the next one. -/
theorem Reaches.ne_of_mem {atlas : Atlas} (hformed : atlas.Formed) {id next : NodeId}
    {done : List (NodeKind × String)} {kind : NodeKind} {earlier rest : List NodeId}
    (h : atlas.Reaches id done kind earlier (next :: rest)) {other : NodeId}
    (hother : other ∈ atlas.childrenIn id done earlier) : atlas.IsChild id other ∧ other ≠ next := by
  obtain ⟨node, label, others, hnode, hlisted⟩ := h.listed
  have hnext : next ∈ atlas.collection id kind := by simp [h.split]
  rcases List.mem_append.mp hother with hother | hother
  · obtain ⟨entry, hentry, hother⟩ := List.mem_flatMap.mp hother
    refine ⟨⟨entry.1, hother⟩, ?_⟩
    rintro rfl
    -- A child is kept with its own kind, and no kind has two collections.
    have hkind : entry.1 = kind := by
      obtain ⟨up, hup, hchild⟩ := mem_collection_iff.mp hother
      obtain ⟨up', hup', hchild'⟩ := mem_collection_iff.mp hnext
      obtain ⟨-, below, hbelow, hsort, -⟩ := hformed.child hup hchild
      obtain ⟨-, below', hbelow', hsort', -⟩ := hformed.child hup' hchild'
      obtain rfl : below = below' := Option.some.inj (hbelow.symm.trans hbelow')
      exact hsort.symm.trans hsort'
    have hnodup := node.kind.nodup_collections
    rw [hlisted, List.map_append, List.map_cons, List.nodup_append] at hnodup
    exact hnodup.2.2 _ (List.mem_map_of_mem hentry) _ List.mem_cons_self hkind
  · refine ⟨⟨kind, by rw [h.split]; exact List.mem_append_left _ hother⟩, ?_⟩
    rintro rfl
    have hnodup : (atlas.collection id kind).Nodup := by
      rw [collection, hnode]
      exact (hformed.once hnode).sublist (List.filter_sublist.map Prod.snd)
    rw [h.split, List.nodup_append] at hnodup
    exact hnodup.2.2 _ hother _ List.mem_cons_self rfl

namespace Clash

variable {atlas : Atlas} {id parent child : NodeId} {passed : List NodeId}

/-- The child that clashes stands below the node. -/
theorem below_child (h : atlas.Clash id passed parent child) : atlas.Below id child := by
  induction h with
  | @here id child done kind earlier rest hreaches hname => exact .single ⟨kind, by simp [hreaches.split]⟩
  | @deeper id next parent child done kind earlier rest passed hreaches hname hclash ih =>
    exact .head ⟨kind, by simp [hreaches.split]⟩ ih

/-- It stands below none of the nodes that were passed. -/
theorem not_below (hformed : atlas.Formed) (h : atlas.Clash id passed parent child) {top : NodeId}
    (htop : top ∈ passed) : ¬atlas.Below top child := by
  induction h with
  | @here id child done kind earlier rest hreaches hname =>
    intro hbelow
    obtain ⟨hchild, hne⟩ := hreaches.ne_of_mem hformed htop
    obtain ⟨node, -, -, hnode, -⟩ := hreaches.listed
    exact hne (hformed.eq_of_below_sibling hnode hchild ⟨kind, by simp [hreaches.split]⟩ hbelow)
  | @deeper id next parent child done kind earlier rest passed hreaches hname hclash ih =>
    rcases List.mem_append.mp htop with htop | htop
    · intro hbelow
      obtain ⟨hchild, hne⟩ := hreaches.ne_of_mem hformed htop
      obtain ⟨node, -, -, hnode, -⟩ := hreaches.listed
      exact hne (hformed.eq_of_below hnode hchild ⟨kind, by simp [hreaches.split]⟩ hbelow hclash.below_child)
    · exact ih htop

end Clash

/-- After whatever edits, a freezing that fails stops at the first clash at or below the node, of which its
failure tells. Just what was passed before and stands below that is frozen, and at and above the child that
clashes everything is as it was. -/
theorem freeze_clashes (edits : List Edit) {id : NodeId} {node : Node} {f : Failure} {after : Atlas}
    (hnode : (edited {} edits).node? id = some node)
    (h : freeze id (edited {} edits) = (.error f, after)) :
    ∃ passed parent child up down, (edited {} edits).Clash id passed parent child ∧
      (edited {} edits).node? parent = some up ∧ (edited {} edits).node? child = some down ∧ f = duplicate up down ∧
      (edited {} edits).MarksJust (fun other => ∃ top ∈ passed, (edited {} edits).Below top other) after ∧
      ∀ other, (edited {} edits).Below other child → after.node? other = (edited {} edits).node? other := by
  have hformed := (evolves_edited {} edits proper_empty).2.formed
  have hhalts := halts_freeze hformed hnode
  rw [h] at hhalts
  cases hhalts with
  | clash hclash hup hdown hpassed =>
    refine ⟨_, _, _, _, _, hclash, hup, hdown, rfl, hpassed.marks, ?_⟩
    intro other hother
    refine hpassed.marks.kept other ?_
    rintro ⟨top, htop, hbelow⟩
    exact hclash.not_below hformed htop (hbelow.trans hother)

/-- Edits that make a database with two schemas of one name. -/
def namesakes : List Edit :=
  [.create .dbms [("name", .value (.text "shop"))],
   .add 0 .schema, .assign 1 "name" (.value (.text "a")),
   .add 0 .schema, .assign 2 "name" (.value (.text "a"))]

/-- Freezing that database fails at the second schema. -/
theorem freeze_clashes_namesakes :
    (∃ node f after, (edited {} namesakes).node? 0 = some node ∧ freeze 0 (edited {} namesakes) = (.error f, after)) ∧
      ∃ passed parent child up down, (edited {} namesakes).Clash 0 passed parent child ∧
        (edited {} namesakes).node? parent = some up ∧ (edited {} namesakes).node? child = some down ∧
        (freeze 0 (edited {} namesakes)).1 = .error (duplicate up down) ∧
        (edited {} namesakes).MarksJust (fun other => ∃ top ∈ passed, (edited {} namesakes).Below top other)
          (freeze 0 (edited {} namesakes)).2 ∧
        ∀ other, (edited {} namesakes).Below other child →
          (freeze 0 (edited {} namesakes)).2.node? other = (edited {} namesakes).node? other := by
  refine ⟨⟨_, _, _, rfl, rfl⟩, ?_⟩
  obtain ⟨passed, parent, child, up, down, hclash, hup, hdown, hfailure, hmarks, hkept⟩ :=
    @freeze_clashes namesakes 0 _ _ _ rfl rfl
  exact ⟨passed, parent, child, up, down, hclash, hup, hdown, congrArg Except.error hfailure, hmarks, hkept⟩

/-- It leaves the first schema frozen: a freezing that fails does not leave everything as it was. -/
theorem freeze_marks_namesake :
    ¬∀ (edits : List Edit) (id : NodeId) (up down : Node) (after : Atlas),
      freeze id (edited {} edits) = (.error (duplicate up down), after) →
        ∀ other, (after.node? other).map Node.frozen = ((edited {} edits).node? other).map Node.frozen := by
  intro h
  have hfirst := h namesakes 0 { name := some "shop", content := .dbms none } { name := some "a", content := .schema }
    (freeze 0 (edited {} namesakes)).2 rfl 1
  have hbefore : ((edited {} namesakes).node? 1).map Node.frozen = some false := by decide
  have hafter : ((freeze 0 (edited {} namesakes)).2.node? 1).map Node.frozen = some true := by decide
  rw [hbefore, hafter] at hfirst
  cases hfirst

end Atlas

end SchemaAtlas
