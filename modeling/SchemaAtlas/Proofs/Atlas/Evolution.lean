import SchemaAtlas.Proofs.Atlas.Frost

/-!
# Atlases over time

Documents are made and changed by edits: roots are created, children added, fields set and nodes frozen,
each of which may fail. Whatever the edits were, the trees are well formed and everything below a frozen
node is settled; and whatever they will be, nodes keep their kinds, their places and the positions they
were given, and frozen nodes keep everything.
-/

namespace SchemaAtlas

/-! ## What a node keeps -/

/-- A node keeps its kind, its parent and its position once it has one; a frozen one keeps everything. -/
structure Node.Lasts (node next : Node) : Prop where
  kind : next.kind = node.kind
  parent : next.parent = node.parent
  position : ∀ {place}, node.content.position = some place → next.content.position = some place
  frozen : node.frozen = true → next = node

/-- Setting a field other than the position leaves the position. -/
theorem Content.position_set? {content result : Content} {field : String} {given : Entry}
    (h : content.set? field given = some (.ok result)) (hfield : field ≠ "ordinal_position") :
    result.position = content.position := by
  unfold set? at h
  split at h
  all_goals first
    | exact absurd rfl hfield
    | (simp only [Option.some.injEq] at h
       obtain ⟨a, rfl⟩ := exists_of_map_eq_ok h
       rfl)
    | cases h

/-- Setting a field leaves the position, unless the field is the position and the node has none. -/
theorem Node.position_set {node next : Node} {field : String} {given : Entry} (h : node.set field given = .ok next)
    (hagain : Atlas.setsAgain node field = false) {place : Int} (hplace : node.content.position = some place) :
    next.content.position = some place := by
  have hfield : field ≠ "ordinal_position" := by
    rintro rfl
    simp [Atlas.setsAgain, hplace] at hagain
  unfold set at h
  split at h
  · cases h
  · split at h
    · split at h <;> cases h
      exact hplace
    · split at h
      · rename_i hcontent
        cases h
        exact (Content.position_set? hcontent hfield).trans hplace
      · cases h
      · cases h

/-- A node that is made of fields is a root without children, and is not frozen. -/
theorem Node.ofFields_root {kind : NodeKind} {given : List (String × Entry)} {node : Node}
    (h : Node.ofFields kind given = .ok node) :
    node.parent = none ∧ node.children = [] ∧ node.frozen = false := by
  have hframe (fields : List String) (start : Node) (issues : List Issue) :
      start.SameFrame (setAll given fields (start, issues)).1 := by
    induction fields generalizing start issues with
    | nil => exact ⟨rfl, rfl, rfl, rfl⟩
    | cons field rest ih =>
      rw [setAll]
      split
      · exact ih start issues
      · split
        · rename_i next hset
          obtain ⟨hkind, hparent, hfrozen, hchildren⟩ := sameFrame_set hset
          obtain ⟨hkind', hparent', hfrozen', hchildren'⟩ := ih next issues
          exact ⟨hkind'.trans hkind, hparent'.trans hparent, hfrozen'.trans hfrozen, hchildren'.trans hchildren⟩
        · exact ih start _
        · exact ih start issues
  have hall := hframe ("name" :: Content.fieldNames kind) { content := .new kind } []
  unfold ofFields at h
  split at h
  · rename_i made hmade
    cases h
    rw [hmade] at hall
    exact ⟨hall.parent, hall.children, hall.frozen⟩
  · cases h

namespace Atlas

/-- Every node of an atlas lasts in another one. -/
def Later (before after : Atlas) : Prop :=
  ∀ {id node}, before.node? id = some node → ∃ next, after.node? id = some next ∧ node.Lasts next

/-- The trees are well formed, and what is frozen is settled. -/
structure Proper (atlas : Atlas) : Prop where
  formed : atlas.Formed
  settled : atlas.Settled

/-- An atlas without nodes is proper. -/
theorem proper_empty : Proper {} :=
  ⟨formed_empty, settled_empty⟩

/-- A proper atlas becomes another one, in which all its nodes last. -/
def Evolves (before after : Atlas) : Prop :=
  before.Proper → before.Later after ∧ after.Proper

instance : IsPreorder Atlas Evolves where
  refl atlas hproper := by
    refine ⟨?_, hproper⟩
    intro id node hnode
    exact ⟨node, hnode, rfl, rfl, fun hplace => hplace, fun _ => rfl⟩
  trans := by
    intro first second third hfirst hsecond hproper
    obtain ⟨hone, hmiddle⟩ := hfirst hproper
    obtain ⟨hother, hlast⟩ := hsecond hmiddle
    refine ⟨?_, hlast⟩
    intro id node hnode
    obtain ⟨next, hnext, hlasts⟩ := hone hnode
    obtain ⟨last, hend, hmore⟩ := hother hnext
    refine ⟨last, hend, hmore.kind.trans hlasts.kind, hmore.parent.trans hlasts.parent,
      fun hplace => hmore.position (hlasts.position hplace), ?_⟩
    intro hfrozen
    obtain rfl := hlasts.frozen hfrozen
    exact hmore.frozen hfrozen

/-! ## Edits that freeze nothing -/

/-- What is frozen stays settled while all nodes last and no more are frozen. -/
theorem Settled.of_later {before after : Atlas} (h : before.Settled) (hlater : before.Later after)
    (hnone : ∀ id, after.IsFrozen id → before.IsFrozen id) : after.Settled := by
  have hsame {id : NodeId} (hfrozen : before.IsFrozen id) : after.node? id = before.node? id := by
    obtain ⟨node, hnode, hnodeFrozen⟩ := hfrozen
    obtain ⟨next, hnext, hlasts⟩ := hlater hnode
    rw [hnext, hnode, hlasts.frozen hnodeFrozen]
  intro id hid
  have hbefore := hnone id hid
  obtain ⟨hnames, hchildren⟩ := h id hbefore
  have hcollection (kind : NodeKind) : after.collection id kind = before.collection id kind := by
    rw [collection, collection, hsame hbefore]
  constructor
  · intro kind
    have hkept : after.names id kind = before.names id kind := by
      rw [names, names, hcollection]
      apply List.map_congr_left
      intro child hchild
      rw [nameOf, nameOf, hsame (hchildren child ⟨kind, hchild⟩)]
    rw [hkept]
    exact hnames kind
  · intro child hchild
    obtain ⟨kind, hmem⟩ := hchild
    rw [hcollection] at hmem
    have hfrozen := hchildren child ⟨kind, hmem⟩
    obtain ⟨node, hnode, hnodeFrozen⟩ := hfrozen
    exact ⟨node, (hsame ⟨node, hnode, hnodeFrozen⟩).trans hnode, hnodeFrozen⟩

/-- A root without children that is not frozen can be made. -/
theorem evolves_create (atlas : Atlas) {made : Node} (hparent : made.parent = none) (hchildren : made.children = [])
    (hfrozen : made.frozen = false) : atlas.Evolves (atlas.create made).1 := by
  intro hproper
  have hlater : atlas.Later (atlas.create made).1 := by
    intro id node hnode
    refine ⟨node, ?_, rfl, rfl, fun hplace => hplace, fun _ => rfl⟩
    rw [node?_create_of_lt atlas made (lt_of_node? hnode), hnode]
  refine ⟨hlater, hproper.formed.create hparent hchildren, hproper.settled.of_later hlater ?_⟩
  intro id hid
  obtain ⟨node, hnode, hnodeFrozen⟩ := hid
  obtain ⟨-, rfl⟩ | hold := node?_create_cases hnode
  · rw [hfrozen] at hnodeFrozen
    cases hnodeFrozen
  · exact ⟨node, hold, hnodeFrozen⟩

/-- A child can be added. -/
theorem evolves_of_add {atlas : Atlas} {parent : NodeId} {kind : NodeKind} {result : Atlas × NodeId}
    (h : atlas.add parent kind = .ok result) : atlas.Evolves result.1 := by
  obtain ⟨up, hup, hkind, hthawed, rfl⟩ := (add_eq_ok_iff atlas parent kind result).mp h
  have hparent := lt_of_node? hup
  intro hproper
  have hlater : atlas.Later (atlas.attach parent kind).1 := by
    intro id node hnode
    refine ⟨_, node?_attach_old kind hparent hnode, rfl, rfl, fun hplace => hplace, ?_⟩
    intro hfrozen
    have hother : id ≠ parent := by
      rintro rfl
      obtain rfl : up = node := Option.some.inj (hup.symm.trans hnode)
      rw [hthawed] at hfrozen
      cases hfrozen
    rw [if_neg hother, List.append_nil]
  refine ⟨hlater, hproper.formed.attach hup hkind, hproper.settled.of_later hlater ?_⟩
  intro id hid
  obtain ⟨next, hnext, hnextFrozen⟩ := hid
  obtain ⟨-, rfl⟩ | ⟨node, hnode, rfl⟩ := node?_attach_cases hparent hnext
  · cases hnextFrozen
  · exact ⟨node, hnode, hnextFrozen⟩

/-- A field can be set. -/
theorem evolves_of_assign {atlas after : Atlas} {id : NodeId} {field : String} {given : Entry}
    (h : atlas.assign id field given = .ok after) : atlas.Evolves after := by
  have hshape := sameShape_of_assign h
  obtain ⟨node, next, hnode, hthawed, hagain, hset, rfl⟩ := (assign_eq_ok_iff atlas id field given after).mp h
  obtain ⟨hkind, hparent, hfrozen, -⟩ := Node.sameFrame_set hset
  intro hproper
  have hlater : atlas.Later (atlas.update id fun _ => next) := by
    intro other old hold
    rw [node?_update]
    by_cases hid : id = other
    · subst hid
      obtain rfl : node = old := Option.some.inj (hnode.symm.trans hold)
      refine ⟨next, by rw [if_pos rfl, hold]; rfl, hkind, hparent, Node.position_set hset hagain, ?_⟩
      intro hnodeFrozen
      rw [hthawed] at hnodeFrozen
      cases hnodeFrozen
    · exact ⟨old, by rw [if_neg hid, hold], rfl, rfl, fun hplace => hplace, fun _ => rfl⟩
  refine ⟨hlater, hshape.formed hproper.formed, hproper.settled.of_later hlater ?_⟩
  intro other hother
  obtain ⟨last, hlast, hlastFrozen⟩ := hother
  rw [node?_update] at hlast
  by_cases hid : id = other
  · subst hid
    rw [if_pos rfl, hnode, Option.map_some, Option.some.injEq] at hlast
    rw [← hlast, hfrozen, hthawed] at hlastFrozen
    cases hlastFrozen
  · rw [if_neg hid] at hlast
    exact ⟨last, hlast, hlastFrozen⟩

/-! ## Freezing -/

/-- Every node lasts while nodes are marked. -/
theorem Marks.later {before after : Atlas} (h : before.Marks after) : before.Later after := by
  obtain ⟨marked, hmarked⟩ := h
  intro id node hnode
  refine ⟨{ node with frozen := node.frozen || marked id }, by rw [hmarked, hnode]; rfl, rfl, rfl,
    fun hplace => hplace, ?_⟩
  intro hfrozen
  have hsame : (node.frozen || marked id) = node.frozen := by simp [hfrozen]
  rw [hsame]

/-- Freezing a node that is not there changes nothing. -/
theorem freeze_missing {atlas : Atlas} {id : NodeId} (h : atlas.node? id = none) :
    freeze id atlas = (.error (.fault .unknownNode []), atlas) := by
  rw [freeze, Keeping.bind_of_ok (Keeping.get_apply atlas), h]
  rfl

/-- A node can be frozen, also if that fails. -/
theorem evolves_freeze (id : NodeId) : Keeping.Keeps Evolves (freeze id) := by
  intro atlas hproper
  cases hnode : atlas.node? id with
  | none =>
    rw [freeze_missing hnode]
    exact Std.Refl.refl (r := Evolves) atlas hproper
  | some node =>
    have hfroze := froze_freeze hproper.formed hproper.settled hnode
    exact ⟨hfroze.marks.later, hfroze.marks.sameShape.formed hproper.formed, hfroze.settled⟩

/-! ## Histories -/

/-- An edit: a root of some kind and fields is created, a child is added to a node, a field of a node is
set, or a node is frozen. -/
inductive Edit where
  | create (kind : NodeKind) (given : List (String × Entry))
  | add (parent : NodeId) (kind : NodeKind)
  | assign (id : NodeId) (field : String) (given : Entry)
  | freeze (id : NodeId)

/-- What an edit does. One that fails leaves the atlas, except for what a freezing froze. -/
def Edit.apply : Edit → Keeping Atlas Unit
  | .create kind given => do
    let node ← Keeping.settle (Node.ofFields kind given)
    modify fun atlas => (atlas.create node).1
  | .add parent kind => do
    let (atlas, _) ← Keeping.settle ((← get).add parent kind)
    set atlas
  | .assign id field given => do
    set (← Keeping.settle ((← get).assign id field given))
  | .freeze id => Atlas.freeze id

/-- An atlas after some edits, each of which may fail. -/
def edited (atlas : Atlas) (edits : List Edit) : Atlas :=
  edits.foldl (fun atlas edit => (edit.apply atlas).2) atlas

/-- Any edit is one step of the life of a proper atlas. -/
theorem evolves_apply (edit : Edit) : Keeping.Keeps Evolves edit.apply := by
  cases edit with
  | create kind given =>
    intro atlas
    cases hnode : Node.ofFields kind given with
    | error f =>
      rw [Edit.apply, hnode]
      exact Std.Refl.refl atlas
    | ok node =>
      obtain ⟨hparent, hchildren, hfrozen⟩ := Node.ofFields_root hnode
      rw [Edit.apply, hnode]
      exact evolves_create atlas hparent hchildren hfrozen
  | add parent kind =>
    intro atlas
    rw [Edit.apply, Keeping.bind_of_ok (Keeping.get_apply atlas)]
    cases hadd : atlas.add parent kind with
    | error f => exact Std.Refl.refl atlas
    | ok result => exact evolves_of_add hadd
  | assign id field given =>
    intro atlas
    rw [Edit.apply, Keeping.bind_of_ok (Keeping.get_apply atlas)]
    cases hassign : atlas.assign id field given with
    | error f => exact Std.Refl.refl atlas
    | ok after => exact evolves_of_assign hassign
  | freeze id => exact evolves_freeze id

/-- So are edits one after the other. -/
theorem evolves_edited (atlas : Atlas) (edits : List Edit) : atlas.Evolves (atlas.edited edits) := by
  induction edits generalizing atlas with
  | nil => exact Std.Refl.refl atlas
  | cons edit rest ih => exact IsTrans.trans _ _ _ (evolves_apply edit atlas) (ih _)

/-- A child that is added is a new node, which knows its parent. -/
theorem node?_of_add {atlas after : Atlas} {parent id : NodeId} {kind : NodeKind}
    (h : atlas.add parent kind = .ok (after, id)) :
    after.node? id = some { content := .new kind, parent := some parent } := by
  obtain ⟨up, hup, -, -, hattach⟩ := (add_eq_ok_iff atlas parent kind (after, id)).mp h
  have hid : atlas.nodes.size = id := congrArg Prod.snd hattach
  have hafter : (atlas.attach parent kind).1 = after := congrArg Prod.fst hattach
  rw [← hafter, ← hid, node?_attach atlas kind (lt_of_node? hup), if_pos rfl]

/-- A frozen node takes no children. -/
theorem add_frozen {atlas : Atlas} {id : NodeId} {node : Node} (h : atlas.node? id = some node)
    (hfrozen : node.frozen = true) {kind : NodeKind} (hkind : node.kind.collections.any (·.1 == kind) = true) :
    atlas.add id kind = .error (cannotAdd node kind) := by
  simp [add, Atlas.node, h, hfrozen, hkind, bind, Except.bind]

/-- What holds of an atlas after some edits, and of its nodes when later edits were made. -/
structure Dependable (edits later : List Edit) : Prop where
  /-- Everything at and below a frozen node is frozen, and siblings there differ in name. -/
  frozen : ∀ {id other}, (edited {} edits).IsFrozen id → (edited {} edits).Below id other →
    (edited {} edits).IsFrozen other ∧ ∀ kind, ((edited {} edits).names other kind).Nodup
  /-- A child that was added is in one collection of one node, its parent, and once there. -/
  once : ∀ {before rest parent kind atlas id}, edits = before ++ .add parent kind :: rest →
    (edited {} before).add parent kind = .ok (atlas, id) →
    ∃ node, (edited {} edits).node? id = some node ∧ node.parent = some parent ∧
      ∀ other sort, ((edited {} edits).collection other sort).count id =
        if other = parent ∧ sort = kind then 1 else 0
  /-- A position that was set stays. -/
  position : ∀ {id node place}, (edited {} edits).node? id = some node → node.content.position = some place →
    ∃ next, ((edited {} edits).edited later).node? id = some next ∧ next.content.position = some place
  /-- At and below a frozen node nothing changes any more, and every edit is refused. -/
  unchanged : ∀ {id other}, (edited {} edits).IsFrozen id → (edited {} edits).Below id other →
    ∃ node, (edited {} edits).node? other = some node ∧ ((edited {} edits).edited later).node? other = some node ∧
      (∀ field given, ((edited {} edits).edited later).assign other field given = .error (cannotSet node field)) ∧
      ∀ kind, node.kind.collections.any (·.1 == kind) = true →
        ((edited {} edits).edited later).add other kind = .error (cannotAdd node kind)
  /-- Freezing a node returns exactly if siblings differ in name at and below it. -/
  returns : ∀ {id node}, (edited {} edits).node? id = some node →
    ((freeze id (edited {} edits)).1 = .ok () ↔ (edited {} edits).DistinctBelow id)
  /-- A freezing that returns leaves the node, and whatever stands below it, frozen. -/
  freezes : ∀ {id other}, (freeze id (edited {} edits)).1 = .ok () → (edited {} edits).Below id other →
    (freeze id (edited {} edits)).2.IsFrozen other

/-- Atlases are dependable, whatever edits are made. -/
theorem dependable (edits later : List Edit) : Dependable edits later := by
  have hproper : (edited {} edits).Proper := (evolves_edited {} edits proper_empty).2
  have hlater : (edited {} edits).Later ((edited {} edits).edited later) := (evolves_edited _ later hproper).1
  constructor
  case frozen =>
    intro id other hfrozen hbelow
    exact hproper.settled.below hfrozen hbelow
  case once =>
    intro before rest parent kind atlas id hedits hadd
    have hnew := node?_of_add hadd
    have hrest : edited {} edits = atlas.edited rest := by
      have happly : (Edit.add parent kind).apply (edited {} before) = (.ok (), atlas) := by
        rw [Edit.apply, Keeping.bind_of_ok (Keeping.get_apply _), hadd]
        rfl
      rw [hedits, edited, List.foldl_append, List.foldl_cons]
      change edited ((Edit.add parent kind).apply (edited {} before)).2 rest = _
      rw [happly]
    have hstart : atlas.Proper :=
      (evolves_of_add hadd (evolves_edited {} before proper_empty).2).2
    obtain ⟨node, hnode, hlasts⟩ := (evolves_edited atlas rest hstart).1 hnew
    rw [← hrest] at hnode
    have hkind : node.kind = kind := hlasts.kind.trans (Content.kind_new kind)
    refine ⟨node, hnode, hlasts.parent, ?_⟩
    intro other sort
    rw [hproper.formed.count_collection hnode hlasts.parent, hkind]
  case position =>
    intro id node place hnode hplace
    obtain ⟨next, hnext, hlasts⟩ := hlater hnode
    exact ⟨next, hnext, hlasts.position hplace⟩
  case unchanged =>
    intro id other hfrozen hbelow
    obtain ⟨⟨node, hnode, hnodeFrozen⟩, -⟩ := hproper.settled.below hfrozen hbelow
    obtain ⟨next, hnext, hlasts⟩ := hlater hnode
    rw [hlasts.frozen hnodeFrozen] at hnext
    exact ⟨node, hnode, hnext, assign_frozen hnext hnodeFrozen, fun kind => add_frozen hnext hnodeFrozen⟩
  case returns =>
    intro id node hnode
    exact (froze_freeze hproper.formed hproper.settled hnode).returns
  case freezes =>
    intro id other hreturns hbelow
    cases hnode : (edited {} edits).node? id with
    | none =>
      rw [freeze_missing hnode] at hreturns
      cases hreturns
    | some node =>
      have hfroze := froze_freeze hproper.formed hproper.settled hnode
      have hfrozen := hfroze.frozen (hfroze.returns.mp hreturns) id List.mem_cons_self
      rw [← hfroze.marks.sameShape.below] at hbelow
      exact (hfroze.settled.below hfrozen hbelow).1

end Atlas

end SchemaAtlas
