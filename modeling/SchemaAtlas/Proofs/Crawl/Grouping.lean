import SchemaAtlas.Proofs.Atlas.Forest
import SchemaAtlas.Proofs.Crawl.Drawing
import SchemaAtlas.Proofs.Crawl.Members

/-!
# Drawing groups

Rows that are grouped by name draw the groups that they form, if there were no such children before. A row of a
name that no row before it has makes a new child; a further row of a name finds the child of that name, to which
it adds its leaf.
-/

namespace SchemaAtlas

namespace Atlas

variable {before between after : Atlas} {parent group : NodeId} {trees : List Tree}

/-! ## A leaf more for one of the trees -/

/-- A node that is extended elsewhere or itself keeps its name and its content. -/
theorem Extends.shows {levels : Nat} (h : Extends group levels trees between after) {id : NodeId} {node : Node}
    (hnode : between.node? id = some node) :
    ∃ next, after.node? id = some next ∧ next.name = node.name ∧ next.content = node.content := by
  by_cases hid : id = group
  · subst hid
    obtain ⟨added, hafter, -⟩ := h.children node hnode
    exact ⟨_, hafter, rfl, rfl⟩
  · exact ⟨node, (h.same id (lt_of_node? hnode) hid).trans hnode, rfl, rfl⟩

/-- Of the trees that were put under a node, the one that stands at a new node of a name can be extended by a
leaf, if no other of them has that name. -/
theorem Extends.join {name : Option String} {leaf : Tree} (h : Extends parent 1 trees before between)
    (hparent : parent < before.nodes.size) (hmore : Extends group 0 [leaf] between after)
    (hnew : before.nodes.size ≤ group)
    (honly : ∀ node, between.node? parent = some node → ∀ child ∈ node.children, before.nodes.size ≤ child.2 →
      (between.nameOf child.2 = name ↔ child.2 = group)) :
    Extends parent 1 (trees.map (·.joined name leaf)) before after where
  size := Nat.le_trans h.size hmore.size
  same id hid hne :=
    (hmore.same id (Nat.lt_of_lt_of_le hid h.size) (Nat.ne_of_lt (Nat.lt_of_lt_of_le hid hnew))).trans
      (h.same id hid hne)
  children node hnode := by
    obtain ⟨added, hbetween, htrees⟩ := h.children node hnode
    refine ⟨added, (hmore.same parent (lt_of_node? hbetween) (Nat.ne_of_lt (Nat.lt_of_lt_of_le hparent hnew))).trans
      hbetween, ?_⟩
    have hwide {id : NodeId} (hid : New before between id) : New before after id :=
      ⟨hid.1, Nat.lt_of_lt_of_le hid.2 hmore.size⟩
    -- Leaves show their names and contents only, and these stay as they are.
    have hleaf {id : NodeId} {tree : Tree} (hstands : between.Stands (New before between) 0 id tree) :
        after.Stands (New before after) 0 id tree := by
      obtain ⟨hid, below, hbelow, hname, hcontent⟩ := hstands
      obtain ⟨next, hnext, hname', hcontent'⟩ := hmore.shows hbelow
      exact ⟨hwide hid, next, hnext, hname'.trans hname, hcontent'.trans hcontent⟩
    have hmem := (List.forall₂_and_left added trees).mpr
      ⟨fun child (hchild : child ∈ added) => honly _ hbetween child (List.mem_append_right _ hchild), htrees⟩
    rw [List.forall₂_map_right_iff]
    refine hmem.imp fun child tree hboth => ?_
    obtain ⟨hsame, hkind, hid, below, hbelow, hname, hcontent, hchildren⟩ := hboth
    refine ⟨hkind.trans (tree.kind_joined name leaf).symm, ?_⟩
    have hnamed : tree.name = name ↔ child.2 = group := by
      rw [← hsame hid.1, Atlas.nameOf, hbelow, ← hname]
      rfl
    have hold := hchildren.imp fun _ _ hsub => And.intro hsub.1 (hleaf hsub.2)
    unfold Tree.joined
    split
    · rename_i hjoins
      have hgroup := hnamed.mp hjoins
      rw [hgroup] at hbelow
      obtain ⟨further, hafter, hfurther⟩ := hmore.children below hbelow
      rw [← hgroup] at hafter
      have hlast := hfurther.imp fun _ _ hsub => And.intro hsub.1
        (hsub.2.frame fun id hid => ⟨(⟨Nat.le_trans h.size hid.1, hid.2⟩ : New before after id), rfl⟩)
      exact ⟨hwide hid, _, hafter, hname, hcontent, List.rel_append hold hlast⟩
    · rename_i hother
      have hkept := hmore.same child.2 hid.2 fun heq => hother (hnamed.mpr heq)
      exact ⟨hwide hid, below, hkept.trans hbelow, hname, hcontent, hold⟩
  thawed id node hid hnode := by
    by_cases hlt : id < between.nodes.size
    · obtain ⟨old, hold⟩ := exists_of_lt hlt
      have hthawed := h.thawed id old ⟨hid.1, hlt⟩ hold
      by_cases hgroup : id = group
      · subst hgroup
        obtain ⟨further, hafter, -⟩ := hmore.children old hold
        obtain rfl := Option.some.inj (hafter.symm.trans hnode)
        exact hthawed
      · obtain rfl := Option.some.inj (((hmore.same id hlt hgroup).trans hold).symm.trans hnode)
        exact hthawed
    · exact hmore.thawed id node ⟨Nat.le_of_not_lt hlt, hid.2⟩ hnode

/-- A child of a node that was extended was there before, or it is the open root of one of the trees. -/
theorem Extends.children_cases {levels : Nat} (h : Extends parent levels trees before after) {node next : Node}
    (hnode : before.node? parent = some node) (hnext : after.node? parent = some next) {child : NodeKind × NodeId}
    (hchild : child ∈ next.children) :
    child ∈ node.children ∨
      ∃ tree ∈ trees, child.1 = tree.kind ∧ before.nodes.size ≤ child.2 ∧
        after.IsOpen child.2 tree.name tree.content := by
  obtain ⟨added, hafter, htrees⟩ := h.children node hnode
  obtain rfl := Option.some.inj (hafter.symm.trans hnext)
  refine (List.mem_append.mp hchild).imp_right fun hadded => ?_
  refine forall_of_forall₂ htrees (p := fun child => ∃ tree ∈ trees, child.1 = tree.kind ∧
    before.nodes.size ≤ child.2 ∧ after.IsOpen child.2 tree.name tree.content) ?_ child hadded
  intro child tree htree hstands
  obtain ⟨hnew, below, hbelow, hname, hcontent⟩ := hstands.2.root
  exact ⟨tree, htree, hstands.1, hnew.1, below, hbelow, hname, hcontent, h.thawed child.2 below hnew hbelow⟩

/-- The first child of a name is found, if a child has the name. -/
theorem childNamed_cases {atlas : Atlas} (hsound : atlas.Sound parent) (kind : NodeKind) (name : Option String) :
    (atlas.childNamed parent kind name = none ∧ name ∉ atlas.names parent kind) ∨
      ∃ child ∈ atlas.collection parent kind, atlas.childNamed parent kind name = some child ∧
        atlas.nameOf child = name := by
  cases hfound : atlas.childNamed parent kind name with
  | none =>
    refine .inl ⟨rfl, ?_⟩
    intro hmem
    obtain ⟨child, hchild, hname⟩ := List.mem_map.mp hmem
    obtain ⟨node, hnode, hkept⟩ := mem_collection_iff.mp hchild
    obtain ⟨below, hbelow⟩ := exists_of_lt (hsound node hnode _ hkept).2
    rw [childNamed, firstNamed, List.find?_eq_none] at hfound
    have hdiffers := hfound child hchild
    rw [nameOf, hbelow] at hname
    rw [hbelow] at hdiffers
    exact hdiffers (beq_iff_eq.mpr hname)
  | some child =>
    rw [childNamed, firstNamed] at hfound
    refine .inr ⟨child, List.mem_of_find?_eq_some hfound, rfl, ?_⟩
    have hnamed := List.find?_some hfound
    cases hnode : atlas.node? child with
    | none => simp [hnode] at hnamed
    | some node =>
      rw [nameOf, hnode]
      simpa [hnode] using hnamed

end Atlas

namespace Crawl

variable {way : Survey.Ingestion Notes NodeId} {parent : NodeId} {field : String} {kind : NodeKind}
  {parentName : Option String} {parentContent : Content} {members : List Member} {before between : Survey Notes}

/-! ## Rows of groups -/

/-- What a row is as a member of a group: it names the group and counts, the first row of the group gives its
node the content, and every row puts its leaf under it. -/
structure GroupRow (way : Survey.Ingestion Notes NodeId) (parent : NodeId) (field : String) (row : Value)
    (member : Member) : Prop where
  field : row.field field = .ok (.ofName member.name)
  accepts : ∀ s, way.accepts row s = (.ok true, s)
  first : ∀ s t : Survey Notes,
    Planted s parent member.content.kind { content := .new member.content.kind, parent := some parent } t →
    Keeping.Succeeds (way.fill s.atlas.nodes.size row) t fun _ after => ∃ head,
      Planted s parent member.content.kind { name := member.name, content := member.content, parent := some parent }
        head ∧ Drawn s.atlas.nodes.size 0 [member.leaf] head after
  further : ∀ (s : Survey Notes) group held, held.kind = member.content.kind →
    s.atlas.IsOpen group member.name held →
    Keeping.Succeeds (way.fill group row) s fun _ => Drawn group 0 [member.leaf] s

/-- A row of a group gets the first child of its name, or a new child if there is none. -/
theorem groupOf_apply {kind : NodeKind} {field : String} {name : Option String} {row : Value}
    (hfield : row.field field = .ok (.ofName name)) :
    groupOf parent kind field row before = match before.atlas.childNamed parent kind name with
      | some id => (.ok id, before)
      | none => Survey.add parent kind before := by
  have hlookup : Survey.childNamed parent kind (.ofName name) before =
      (.ok (before.atlas.childNamed parent kind name), before) := by
    cases name <;> rfl
  rw [groupOf, Keeping.bind_apply, Keeping.settle_apply, hfield]
  simp only [Keeping.bind_apply, hlookup]
  cases before.atlas.childNamed parent kind name <;> rfl

/-! ## Drawing groups -/

/-- A row that was read is a member of a group of some kind. -/
structure MemberRow (way : Survey.Ingestion Notes NodeId) (parent : NodeId) (field : String) (kind : NodeKind)
    (row : Row) (member : Member) : Prop where
  kind : member.content.kind = kind
  row : ∃ v, row = .ok v ∧ GroupRow way parent field v member

/-- A further row joins the groups that the rows before it have drawn. -/
theorem draws_member (hparent : before.atlas.IsOpen parent parentName parentContent)
    (hkind : parentContent.kind.collections.any (·.1 == kind) = true) (hsound : before.atlas.Sound parent)
    (hnone : before.atlas.names parent kind = []) (hchild : way.child = groupOf parent kind field)
    (hkinds : ∀ member ∈ members, member.content.kind = kind)
    (hdone : Drawn parent 1 (Member.groups members) before between) {row : Row} {member : Member}
    (hrow : MemberRow way parent field kind row member) (count : Nat) :
    Keeping.Succeeds (way.rows count [row]) between fun _ =>
      Drawn parent 1 (Member.groups (members ++ [member])) before := by
  obtain ⟨hmember, v, rfl, hgroup⟩ := hrow
  have hof : (Member.groups members).filter (·.kind == kind) = Member.groups members :=
    List.filter_eq_self.mpr fun tree htree => beq_iff_eq.mpr (Member.kind_of_mem_groups hkinds htree)
  have hnames : between.atlas.names parent kind = (members.map Member.name).eraseDups := by
    rw [hdone.atlas.names_eq hparent.lt hsound, hnone, hof, List.nil_append, Member.names_groups]
  have hsound' := hdone.atlas.sound hparent.lt hsound
  have hlookup := @groupOf_apply parent between kind _ _ _ hgroup.field
  rw [← hchild] at hlookup
  rw [Keeping.Succeeds, Survey.Ingestion.rows_single (hgroup.accepts between)]
  obtain ⟨hmissing, hnew⟩ | ⟨group, hmem, hfound, hname⟩ := Atlas.childNamed_cases hsound' kind member.name
  · rw [hnames, List.mem_eraseDups] at hnew
    rw [hmissing] at hlookup
    rw [Member.groups_concat, if_neg hnew]
    subst hmember
    have hadd : Keeping.Succeeds (way.child v) between fun id after => id = between.atlas.nodes.size ∧
        Planted between parent member.content.kind
          { content := .new member.content.kind, parent := some parent } after := by
      rw [Keeping.Succeeds, hlookup]
      exact add_planted (hdone.atlas.isOpen hparent) hkind
    refine hadd.bind ?_
    rintro _ s ⟨rfl, hs⟩
    refine (hgroup.first between s hs).bind fun _ after hafter => ⟨_, after, rfl, ?_⟩
    obtain ⟨head, hhead, hleaf⟩ := hafter
    have hone : Drawn parent 1 [.node member.name member.content [member.leaf]] between after :=
      ⟨hleaf.mapping.trans hhead.mapping, Atlas.extends_group hhead.lt (hhead.atlas ▸ hleaf.atlas)⟩
    exact hdone.trans hone hparent.lt
  · have hjoins : member.name ∈ members.map Member.name := by
      rw [← List.mem_eraseDups, ← hnames, ← hname]
      exact List.mem_map_of_mem hmem
    rw [hfound] at hlookup
    rw [Member.groups_concat, if_pos hjoins, Keeping.bind_of_ok hlookup]
    obtain ⟨node, hnode, -⟩ := id hparent
    obtain ⟨next, hnext, hkept⟩ := Atlas.mem_collection_iff.mp hmem
    -- There was no child of the kind before, so that the group is one of those drawn since.
    obtain hold | ⟨tree, htree, hsort, hplace, hopen⟩ := hdone.atlas.children_cases hnode hnext hkept
    · have hnamed : before.atlas.nameOf group ∈ before.atlas.names parent kind :=
        List.mem_map_of_mem (Atlas.mem_collection_iff.mpr ⟨node, hnode, hold⟩)
      rw [hnone] at hnamed
      cases hnamed
    · have hheld : tree.content.kind = member.content.kind := hsort.symm.trans hmember.symm
      have hcalled : tree.name = member.name := hopen.nameOf.symm.trans hname
      refine (hgroup.further between group tree.content hheld (hcalled ▸ hopen)).bind fun _ after hafter =>
        ⟨_, after, rfl, hafter.mapping.trans hdone.mapping, hdone.atlas.join hparent.lt hafter.atlas hplace ?_⟩
      intro other hother child hchild hlate
      obtain rfl : next = other := Option.some.inj (hnext.symm.trans hother)
      obtain hold | ⟨sibling, hsibling, hsort, -⟩ := hdone.atlas.children_cases hnode hnext hchild
      · exact absurd (hsound node hnode child hold).2 (Nat.not_lt_of_le hlate)
      · refine ⟨fun hsame => ?_, fun hsame => hsame ▸ hname⟩
        have hinside : child.2 ∈ between.atlas.collection parent kind := by
          refine Atlas.mem_collection_iff.mpr ⟨next, hnext, ?_⟩
          rw [← Member.kind_of_mem_groups hkinds hsibling, ← hsort]
          exact hchild
        have hnodup : (between.atlas.names parent kind).Nodup := hnames ▸ nodup_eraseDups _
        exact List.inj_on_of_nodup_map hnodup hinside hmem (hsame.trans hname.symm)

/-- A row says what it is in a listing that is grouped by name: a member of a group of some kind, or a row that
does not count. -/
def SlotRow (way : Survey.Ingestion Notes NodeId) (parent : NodeId) (field : String) (kind : NodeKind) (row : Row) :
    Option Member → Prop
  | none => ∃ v, row = .ok v ∧ ∀ s, way.accepts v s = (.ok false, s)
  | some member => MemberRow way parent field kind row member

/-- Rows draw the groups that the members among them form, if there is no child of their kind. -/
theorem draws_slots {rows : List Row} {slots : List (Option Member)}
    (hparent : before.atlas.IsOpen parent parentName parentContent)
    (hkind : parentContent.kind.collections.any (·.1 == kind) = true) (hsound : before.atlas.Sound parent)
    (hnone : before.atlas.names parent kind = []) (hchild : way.child = groupOf parent kind field)
    (hrows : List.Forall₂ (SlotRow way parent field kind) rows slots) :
    Draws way parent 1 rows (Member.groups (slots.filterMap id)) before := by
  suffices h : ∀ (rows : List Row) (rest : List (Option Member)) (done : List Member) (between : Survey Notes)
      (count : Nat), List.Forall₂ (SlotRow way parent field kind) rows rest →
      (∀ member ∈ done, member.content.kind = kind) → Drawn parent 1 (Member.groups done) before between →
      Keeping.Succeeds (way.rows count rows) between fun _ =>
        Drawn parent 1 (Member.groups (done ++ rest.filterMap id)) before by
    exact fun count => h rows slots [] before count hrows (fun _ hmem => absurd hmem List.not_mem_nil)
      (Drawn.refl parent 1 before)
  intro rows rest
  induction rest generalizing rows with
  | nil =>
    rintro done between count ⟨⟩ - hdone
    rw [List.filterMap_nil, List.append_nil]
    exact ⟨count, between, rfl, hdone⟩
  | cons slot rest ih =>
    rintro done between count (_ | ⟨hrow, hrest⟩) hkinds hdone
    rename_i row rows
    cases slot with
    | none =>
      obtain ⟨v, rfl, hignored⟩ := hrow
      rw [Keeping.Succeeds, Survey.Ingestion.rows, Keeping.bind_of_ok (hignored between)]
      exact ih rows done between count hrest hkinds hdone
    | some member =>
      rw [show row :: rows = [row] ++ rows from rfl, Survey.Ingestion.rows_append]
      refine (draws_member hparent hkind hsound hnone hchild hkinds hdone hrow count).bind fun count next hnext => ?_
      refine (ih rows (done ++ [member]) next count hrest ?_ hnext).imp fun _ after hafter => ?_
      · rw [List.forall_mem_append, List.forall_mem_singleton]
        exact ⟨hkinds, hrow.kind⟩
      · rwa [List.append_assoc] at hafter

/-- Rows all of which count draw the groups of their members. -/
theorem draws_members {rows : List Row} (hparent : before.atlas.IsOpen parent parentName parentContent)
    (hkind : parentContent.kind.collections.any (·.1 == kind) = true) (hsound : before.atlas.Sound parent)
    (hnone : before.atlas.names parent kind = []) (hchild : way.child = groupOf parent kind field)
    (hrows : List.Forall₂ (MemberRow way parent field kind) rows members) :
    Draws way parent 1 rows (Member.groups members) before := by
  have hslots : List.Forall₂ (SlotRow way parent field kind) rows (members.map some) :=
    List.forall₂_map_right_iff.mpr hrows
  have hall : (members.map some).filterMap id = members := by
    rw [List.filterMap_map]
    exact List.filterMap_some
  rw [← hall]
  exact draws_slots hparent hkind hsound hnone hchild hslots

end Crawl

end SchemaAtlas
