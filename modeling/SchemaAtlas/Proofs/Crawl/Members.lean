import Mathlib.Data.List.Induction
import Mathlib.Data.List.Nodup
import SchemaAtlas.Proofs.Atlas.Tree

/-!
# Rows that are grouped by name

Rows of one name form one group, wherever they stand in a listing. There is one group for each name, in the order
in which the names first come; the first row of a name gives the group its content, and every row puts its leaf
under it, in the order of the rows.
-/

namespace SchemaAtlas

namespace Crawl

/-! ## First occurrences -/

/-- A further item is kept behind the others, if it is not one of them. -/
theorem eraseDups_concat {α : Type} [BEq α] [LawfulBEq α] (items : List α) (item : α) :
    (items ++ [item]).eraseDups = if item ∈ items then items.eraseDups else items.eraseDups ++ [item] := by
  rw [List.eraseDups_append, List.cons_removeAll]
  by_cases hmem : item ∈ items
  · simp [hmem]
  · simp [hmem, List.eraseDups_cons]

/-- No item is kept twice. -/
theorem nodup_eraseDups {α : Type} [BEq α] [LawfulBEq α] (items : List α) : items.eraseDups.Nodup := by
  induction items using List.reverseRecOn with
  | nil => exact List.nodup_nil
  | append_singleton items item ih =>
    rw [eraseDups_concat]
    split
    · exact ih
    · rename_i hnew
      rw [List.nodup_append]
      refine ⟨ih, List.nodup_singleton item, ?_⟩
      rintro other hother _ hitem rfl
      rw [List.mem_singleton] at hitem
      exact hnew (List.mem_eraseDups.mp (hitem ▸ hother))

/-- What is kept stands as it stood. -/
theorem eraseDups_sublist {α : Type} [BEq α] [LawfulBEq α] (items : List α) : items.eraseDups.Sublist items := by
  induction items using List.reverseRecOn with
  | nil => exact List.Sublist.refl _
  | append_singleton items item ih =>
    rw [eraseDups_concat]
    split
    · exact ih.trans (List.sublist_append_left items [item])
    · exact ih.append (List.Sublist.refl [item])

/-- All items are kept exactly if none comes twice. -/
theorem length_eraseDups_eq_iff {α : Type} [BEq α] [LawfulBEq α] (items : List α) :
    items.eraseDups.length = items.length ↔ items.Nodup := by
  constructor
  · intro hlength
    rw [← (eraseDups_sublist items).eq_of_length hlength]
    exact nodup_eraseDups items
  · intro hnodup
    exact ((List.perm_ext_iff_of_nodup (nodup_eraseDups items) hnodup).mpr fun _ => List.mem_eraseDups).length_eq

/-- What different items are told by is kept as they are. -/
theorem eraseDups_map {α β : Type} [BEq α] [LawfulBEq α] [BEq β] [LawfulBEq β] {f : α → β}
    (hf : Function.Injective f) (items : List α) : (items.map f).eraseDups = items.eraseDups.map f := by
  induction items using List.reverseRecOn with
  | nil => rfl
  | append_singleton items item ih =>
    simp only [List.map_append, List.map_singleton, eraseDups_concat, List.mem_map_of_injective hf, ih]
    split <;> simp

/-- An item that comes several times in a row is kept as if it came once. -/
theorem eraseDups_append_same {α : Type} [BEq α] [LawfulBEq α] (items : List α) {more : List α} {item : α}
    (hmore : more ≠ []) (hsame : ∀ other ∈ more, other = item) :
    (items ++ more).eraseDups = (items ++ [item]).eraseDups := by
  induction more using List.reverseRecOn with
  | nil => exact absurd rfl hmore
  | append_singleton more last ih =>
    obtain rfl := hsame last (by simp)
    cases more with
    | nil => rfl
    | cons first more =>
      obtain rfl := hsame first (by simp)
      rw [← List.append_assoc, eraseDups_concat, if_pos (by simp),
        ih (by simp) fun other hother => hsame other (List.mem_append_left _ hother)]

/-- Items each of which is put as one other item, several times in a row, are kept as if they were put once. -/
theorem eraseDups_flatMap {α β : Type} [BEq β] [LawfulBEq β] {f : α → List β} {g : α → β} {items : List α}
    (hsome : ∀ item ∈ items, f item ≠ []) (hsame : ∀ item ∈ items, ∀ other ∈ f item, other = g item) :
    (items.flatMap f).eraseDups = (items.map g).eraseDups := by
  induction items using List.reverseRecOn with
  | nil => rfl
  | append_singleton items item ih =>
    simp only [List.forall_mem_append, List.forall_mem_singleton] at hsome hsame
    have hmem : g item ∈ items.flatMap f ↔ g item ∈ items.map g := by
      rw [← List.mem_eraseDups, ih hsome.1 hsame.1, List.mem_eraseDups]
    rw [List.flatMap_append, List.flatMap_singleton, eraseDups_append_same _ hsome.2 hsame.2]
    simp only [List.map_append, List.map_singleton, eraseDups_concat, hmem, ih hsome.1 hsame.1]

/-- Where no item comes twice, all are kept. -/
theorem eraseDups_of_nodup {α : Type} [BEq α] [LawfulBEq α] {items : List α} (h : items.Nodup) :
    items.eraseDups = items :=
  (eraseDups_sublist items).eq_of_length ((length_eraseDups_eq_iff items).mpr h)

/-- Items are grouped by their keys without loss: the items of all keys are the items, in another order. -/
theorem flatMap_filter_perm {α κ : Type} [BEq κ] [LawfulBEq κ] (key : α → κ) {keys : List κ} (hnodup : keys.Nodup)
    (items : List α) : (keys.flatMap fun k => items.filter fun item => key item == k).Perm
      (items.filter fun item => keys.contains (key item)) := by
  induction keys with
  | nil => simp
  | cons k keys ih =>
    rw [List.nodup_cons] at hnodup
    rw [List.flatMap_cons]
    refine ((ih hnodup.2).append_left _).trans ?_
    have hall := List.filter_append_perm (fun item => key item == k) (items.filter fun item => (k :: keys).contains (key item))
    have hhere : (items.filter fun item => (k :: keys).contains (key item)).filter (fun item => key item == k) =
        items.filter fun item => key item == k := by
      rw [List.filter_filter]
      refine List.filter_congr fun item _ => ?_
      cases hkey : key item == k <;> simp [hkey]
    have hrest : (items.filter fun item => (k :: keys).contains (key item)).filter (fun item => !(key item == k)) =
        items.filter fun item => keys.contains (key item) := by
      rw [List.filter_filter]
      refine List.filter_congr fun item _ => ?_
      cases hkey : key item == k with
      | false => simp [hkey]
      | true =>
        have hnot : key item ∉ keys := (beq_iff_eq.mp hkey).symm ▸ hnodup.1
        simp [hnot]
    rwa [hhere, hrest] at hall

end Crawl

/-! ## Groups -/

/-- A tree with one more leaf below its root, if it has the name. -/
def Tree.joined (tree : Tree) (name : Option String) (leaf : Tree) : Tree :=
  if tree.name = name then .node tree.name tree.content (tree.children ++ [leaf]) else tree

/-- A leaf more does not change the kind. -/
@[simp] theorem Tree.kind_joined (tree : Tree) (name : Option String) (leaf : Tree) :
    (tree.joined name leaf).kind = tree.kind := by
  unfold joined
  split <;> rfl

/-- What a row says in a listing that is grouped by name: the name of its group, the content that the group has
if the row is the first of it, and the leaf that the row puts under the group. -/
structure Member where
  name : Option String
  content : Content
  leaf : Tree

namespace Member

/-- The group of a name, if some member has the name. -/
def group? (members : List Member) (name : Option String) : Option Tree :=
  match members.filter (·.name == name) with
  | [] => none
  | first :: rest => some (.node name first.content ((first :: rest).map leaf))

/-- The groups of some members, in the order in which their names first come. -/
def groups (members : List Member) : List Tree :=
  (members.map name).eraseDups.filterMap (group? members)

/-- A name that some member has is the name of a group. -/
theorem group?_of_mem {members : List Member} {name : Option String} (h : name ∈ members.map Member.name) :
    ∃ first rest, members.filter (·.name == name) = first :: rest ∧
      group? members name = some (.node name first.content ((first :: rest).map leaf)) := by
  obtain ⟨member, hmember, rfl⟩ := List.mem_map.mp h
  cases hfilter : members.filter (·.name == member.name) with
  | nil =>
    have hmem : member ∈ members.filter (·.name == member.name) :=
      List.mem_filter.mpr ⟨hmember, beq_self_eq_true _⟩
    rw [hfilter] at hmem
    cases hmem
  | cons first rest => exact ⟨first, rest, rfl, by rw [group?, hfilter]⟩

/-- A further member joins the group of its name, or it starts a group behind the others. -/
theorem groups_concat (members : List Member) (member : Member) :
    groups (members ++ [member]) =
      if member.name ∈ members.map name then (groups members).map (·.joined member.name member.leaf)
      else groups members ++ [.node member.name member.content [member.leaf]] := by
  have hother {name : Option String} (h : name ≠ member.name) : group? (members ++ [member]) name = group? members name := by
    simp [group?, List.filter_append, Ne.symm h]
  rw [groups, groups, List.map_append, List.map_singleton, Crawl.eraseDups_concat]
  split
  · rw [List.map_filterMap]
    refine List.filterMap_congr fun name hname => ?_
    obtain ⟨first, rest, hfilter, hgroup⟩ := group?_of_mem (List.mem_eraseDups.mp hname)
    rw [hgroup]
    by_cases h : name = member.name
    · subst h
      simp [group?, List.filter_append, hfilter, Tree.joined, Tree.name, Tree.content, Tree.children]
    · rw [hother h, hgroup]
      simp [Tree.joined, Tree.name, h]
  · rename_i hnew
    rw [List.filterMap_append]
    congr 1
    · refine List.filterMap_congr fun name hname => hother ?_
      rintro rfl
      exact hnew (List.mem_eraseDups.mp hname)
    · have hnone : members.filter (·.name == member.name) = [] := by
        rw [List.filter_eq_nil_iff]
        intro other hmem hsame
        exact hnew (List.mem_map.mpr ⟨other, hmem, beq_iff_eq.mp hsame⟩)
      simp [group?, List.filter_append, hnone]

/-- There is one group for each name. -/
theorem names_groups (members : List Member) :
    (groups members).map Tree.name = (members.map Member.name).eraseDups := by
  have hsome : ∀ key ∈ (members.map Member.name).eraseDups, (group? members key).map Tree.name = some key := by
    intro key hkey
    obtain ⟨first, rest, -, hgroup⟩ := group?_of_mem (List.mem_eraseDups.mp hkey)
    rw [hgroup]
    rfl
  rw [groups, List.map_filterMap, List.filterMap_congr hsome]
  exact List.filterMap_some

/-- A group consists of the members of its name: the first of them gives the content, and each its leaf. -/
theorem mem_groups_iff {members : List Member} {group : Tree} :
    group ∈ groups members ↔ ∃ first rest, members.filter (·.name == group.name) = first :: rest ∧
      group = .node group.name first.content ((first :: rest).map leaf) := by
  rw [groups, List.mem_filterMap]
  constructor
  · rintro ⟨name, hname, hgroup⟩
    obtain ⟨first, rest, hfilter, hsome⟩ := group?_of_mem (List.mem_eraseDups.mp hname)
    obtain rfl := Option.some.inj (hsome.symm.trans hgroup)
    exact ⟨first, rest, hfilter, rfl⟩
  · rintro ⟨first, rest, hfilter, hgroup⟩
    have hfirst : first ∈ members.filter (·.name == group.name) := hfilter ▸ List.mem_cons_self
    obtain ⟨hmem, hname⟩ := List.mem_filter.mp hfirst
    refine ⟨group.name, List.mem_eraseDups.mpr (beq_iff_eq.mp hname ▸ List.mem_map_of_mem hmem), ?_⟩
    rw [group?, hfilter, hgroup]
    rfl

/-- Every leaf stands under a group as often as members have it. -/
theorem leaves_groups (members : List Member) :
    ((groups members).flatMap Tree.children).Perm (members.map leaf) := by
  have hleaves : (groups members).flatMap Tree.children =
      ((members.map name).eraseDups.flatMap fun key => members.filter fun member => member.name == key).map leaf := by
    rw [groups, List.filterMap_eq_flatMap_toList, List.flatMap_assoc, List.map_flatMap]
    refine List.flatMap_congr fun key hkey => ?_
    obtain ⟨first, rest, hfilter, hsome⟩ := group?_of_mem (List.mem_eraseDups.mp hkey)
    simp [hsome, hfilter, Tree.children]
  have hall : (members.filter fun member => (members.map name).eraseDups.contains member.name) = members := by
    refine List.filter_eq_self.mpr fun member hmember => ?_
    rw [List.contains_iff_mem, List.mem_eraseDups]
    exact List.mem_map_of_mem hmember
  have hperm := Crawl.flatMap_filter_perm name (Crawl.nodup_eraseDups (members.map name)) members
  rw [hall] at hperm
  rw [hleaves]
  exact hperm.map leaf

/-- Groups are of the kind of their members. -/
theorem kind_of_mem_groups {members : List Member} {kind : NodeKind} (h : ∀ member ∈ members, member.content.kind = kind)
    {tree : Tree} (htree : tree ∈ groups members) : tree.kind = kind := by
  obtain ⟨first, rest, hfilter, hgroup⟩ := mem_groups_iff.mp htree
  have hmem : first ∈ members.filter (·.name == tree.name) := hfilter ▸ List.mem_cons_self
  rw [hgroup]
  exact h first (List.mem_filter.mp hmem).1

/-- Members of one name and one content form one group. -/
theorem group?_of_named {members : List Member} {name : Option String} {content : Content} (hsome : members ≠ [])
    (h : ∀ member ∈ members, member.name = name ∧ member.content = content) :
    group? members name = some (.node name content (members.map leaf)) := by
  have hall : members.filter (·.name == name) = members :=
    List.filter_eq_self.mpr fun member hmember => beq_iff_eq.mpr (h member hmember).1
  cases members with
  | nil => exact absurd rfl hsome
  | cons first rest =>
    rw [← (h first List.mem_cons_self).2, group?, hall]

section

variable {ι : Type} {items : List ι} {membersOf : ι → List Member} {nameOf : ι → Option String}
  (hname : ∀ item ∈ items, ∀ member ∈ membersOf item, member.name = nameOf item)

include hname

/-- Where items have members of their names, the members of a name are those of the items of the name. -/
theorem filter_flatMap (name : Option String) :
    (items.flatMap membersOf).filter (·.name == name) =
      (items.filter fun item => nameOf item == name).flatMap membersOf := by
  induction items with
  | nil => rfl
  | cons item items ih =>
    rw [List.forall_mem_cons] at hname
    rw [List.flatMap_cons, List.filter_append, ih hname.2, List.filter_cons]
    cases hitem : nameOf item == name with
    | true =>
      have hall : (membersOf item).filter (·.name == name) = membersOf item :=
        List.filter_eq_self.mpr fun member hmember => by rw [hname.1 member hmember, hitem]
      rw [hall]
      rfl
    | false =>
      have hnone : (membersOf item).filter (·.name == name) = [] :=
        List.filter_eq_nil_iff.mpr fun member hmember => by rw [hname.1 member hmember, hitem]; exact Bool.false_ne_true
      rw [hnone]
      rfl

/-- The groups of the members of some items have the names of the items, and each consists of the members of the
items of its name. -/
theorem groups_flatMap (hsome : ∀ item ∈ items, membersOf item ≠ []) :
    groups (items.flatMap membersOf) = (items.map nameOf).eraseDups.filterMap fun name =>
      group? ((items.filter fun item => nameOf item == name).flatMap membersOf) name := by
  have hnames : ((items.flatMap membersOf).map name).eraseDups = (items.map nameOf).eraseDups := by
    rw [List.map_flatMap]
    refine Crawl.eraseDups_flatMap (fun item hitem => by simpa using hsome item hitem) ?_
    intro item hitem name hmem
    obtain ⟨member, hmember, rfl⟩ := List.mem_map.mp hmem
    exact hname item hitem member hmember
  rw [groups, hnames]
  refine List.filterMap_congr fun name _ => ?_
  rw [group?, group?, ← filter_flatMap hname, List.filter_filter]
  simp only [Bool.and_self]

/-- Items of different names have a group each. -/
theorem groups_flatMap_of_nodup (hnodup : (items.map nameOf).Nodup) {treeOf : ι → Tree}
    (hgroup : ∀ item ∈ items, group? (membersOf item) (nameOf item) = some (treeOf item)) :
    groups (items.flatMap membersOf) = items.map treeOf := by
  have hsome : ∀ item ∈ items, membersOf item ≠ [] := by
    intro item hitem hnil
    have hone := hgroup item hitem
    rw [hnil] at hone
    cases hone
  rw [groups_flatMap hname hsome, Crawl.eraseDups_of_nodup hnodup, List.filterMap_map, ← List.filterMap_eq_map]
  refine List.filterMap_congr fun item hitem => ?_
  have honly : (items.filter fun other => nameOf other == nameOf item) = [item] := by
    refine List.perm_singleton.mp ((List.perm_ext_iff_of_nodup (hnodup.of_map.filter _) (List.nodup_singleton item)).mpr
      fun other => ?_)
    rw [List.mem_filter, beq_iff_eq, List.mem_singleton]
    constructor
    · exact fun hother => List.inj_on_of_nodup_map hnodup hother.1 hitem hother.2
    · rintro rfl
      exact ⟨hitem, rfl⟩
  rw [Function.comp, honly, List.flatMap_singleton]
  exact hgroup item hitem

end

end Member

end SchemaAtlas
