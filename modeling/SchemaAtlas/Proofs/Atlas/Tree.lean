import Mathlib.Data.List.Forall2
import SchemaAtlas.Atlas.Document
import SchemaAtlas.Proofs.Atlas.Edits

/-!
# Trees that stand in an atlas

A tree is told without an atlas: the name and the content of its root and the trees below it. It stands at
a node of an atlas if that node and the nodes below it are as it tells. A tree stays where it stands as
long as its own nodes stay as they are, and the document of its node is the document of the tree.
-/

namespace SchemaAtlas

/-- A tree of nodes. -/
inductive Tree where
  | node (name : Option String) (content : Content) (children : List Tree)

namespace Tree

/-- The name of the root. -/
def name : Tree → Option String
  | node name _ _ => name

/-- The content of the root. -/
def content : Tree → Content
  | node _ content _ => content

/-- The trees below the root. -/
def children : Tree → List Tree
  | node _ _ children => children

/-- The kind of the root. -/
def kind (tree : Tree) : NodeKind :=
  tree.content.kind

/-- The root without the trees below it. -/
def bare (tree : Tree) : Tree :=
  node tree.name tree.content []

/-- The trees of one kind below the root. -/
def collection (tree : Tree) (kind : NodeKind) : List Tree :=
  tree.children.filter fun child => child.kind == kind

/-- The document of a tree with so many levels below its root. -/
def documentLevels : Nat → Tree → Value
  | 0, tree => .record (("name", .ofName tree.name) :: tree.content.fields)
  | levels + 1, tree =>
    .record (("name", .ofName tree.name) :: tree.content.fields ++
      tree.kind.collections.map fun (kind, label) =>
        (label, .list ((tree.collection kind).map (documentLevels levels))))

/-- No two siblings of a kind have one name, on so many levels. -/
def Distinct : Nat → Tree → Prop
  | 0, _ => True
  | levels + 1, tree =>
    (∀ kind, ((tree.collection kind).map name).Nodup) ∧ ∀ child ∈ tree.children, Distinct levels child

end Tree

/-- Two nodes show the same: name, content and children. -/
structure Node.Alike (node other : Node) : Prop where
  name : other.name = node.name
  content : other.content = node.content
  children : other.children = node.children

namespace Atlas

/-- A tree stands at a node, on so many levels and with all of its nodes in a region. -/
def Stands (atlas : Atlas) (region : NodeId → Prop) : Nat → NodeId → Tree → Prop
  | 0, id, tree => region id ∧
    ∃ node, atlas.node? id = some node ∧ node.name = tree.name ∧ node.content = tree.content
  | levels + 1, id, tree => region id ∧
    ∃ node, atlas.node? id = some node ∧ node.name = tree.name ∧ node.content = tree.content ∧
      List.Forall₂ (fun child sub => child.1 = sub.kind ∧ atlas.Stands region levels child.2 sub)
        node.children tree.children

variable {atlas other : Atlas} {region wide : NodeId → Prop}

/-- The root of a tree that stands somewhere. -/
theorem Stands.root {levels : Nat} {id : NodeId} {tree : Tree} (h : atlas.Stands region levels id tree) :
    region id ∧ ∃ node, atlas.node? id = some node ∧ node.name = tree.name ∧ node.content = tree.content := by
  cases levels with
  | zero => exact h
  | succ levels =>
    obtain ⟨hregion, node, hnode, hname, hcontent, -⟩ := h
    exact ⟨hregion, node, hnode, hname, hcontent⟩

/-- A tree stays where it stands if its nodes show the same. -/
theorem Stands.transfer
    (hsame : ∀ id node, region id → atlas.node? id = some node →
      wide id ∧ ∃ next, other.node? id = some next ∧ node.Alike next)
    {levels : Nat} {id : NodeId} {tree : Tree} (h : atlas.Stands region levels id tree) :
    other.Stands wide levels id tree := by
  induction levels generalizing id tree with
  | zero =>
    obtain ⟨hregion, node, hnode, hname, hcontent⟩ := h
    obtain ⟨hwide, next, hnext, halike⟩ := hsame id node hregion hnode
    exact ⟨hwide, next, hnext, halike.name.trans hname, halike.content.trans hcontent⟩
  | succ levels ih =>
    obtain ⟨hregion, node, hnode, hname, hcontent, hchildren⟩ := h
    obtain ⟨hwide, next, hnext, halike⟩ := hsame id node hregion hnode
    refine ⟨hwide, next, hnext, halike.name.trans hname, halike.content.trans hcontent, ?_⟩
    rw [halike.children]
    exact hchildren.imp fun child sub hchild => ⟨hchild.1, ih hchild.2⟩

/-- A tree stays where it stands if its nodes stay as they are. -/
theorem Stands.frame (hsame : ∀ id, region id → wide id ∧ other.node? id = atlas.node? id)
    {levels : Nat} {id : NodeId} {tree : Tree} (h : atlas.Stands region levels id tree) :
    other.Stands wide levels id tree := by
  refine h.transfer fun id node hregion hnode => ?_
  obtain ⟨hwide, hnode'⟩ := hsame id hregion
  exact ⟨hwide, node, hnode'.trans hnode, rfl, rfl, rfl⟩

/-- The children of a kind are the trees of that kind. -/
theorem forall₂_collection {levels : Nat} {children : List (NodeKind × NodeId)} {trees : List Tree}
    (h : List.Forall₂ (fun child sub => child.1 = sub.kind ∧ atlas.Stands region levels child.2 sub)
      children trees) (kind : NodeKind) :
    List.Forall₂ (atlas.Stands region levels) ((children.filter (·.1 == kind)).map Prod.snd)
      (trees.filter (·.kind == kind)) := by
  induction h with
  | nil => exact List.Forall₂.nil
  | @cons child sub children trees hfirst hrest ih =>
    obtain ⟨hkind, hstands⟩ := hfirst
    by_cases hof : (sub.kind == kind) = true
    · simp only [List.filter_cons, hkind, hof, if_true, List.map_cons]
      exact List.Forall₂.cons hstands ih
    · simp only [List.filter_cons, hkind, if_neg hof]
      exact ih

/-- The document of a node at which a tree stands is the document of the tree. -/
theorem Stands.documentLevels {levels : Nat} {id : NodeId} {tree : Tree}
    (h : atlas.Stands region levels id tree) : atlas.documentLevels levels id = tree.documentLevels levels := by
  induction levels generalizing id tree with
  | zero =>
    obtain ⟨-, node, hnode, hname, hcontent⟩ := h
    simp only [Atlas.documentLevels, Tree.documentLevels, hnode, hname, hcontent]
  | succ levels ih =>
    obtain ⟨-, node, hnode, hname, hcontent, hchildren⟩ := h
    have hkind : node.kind = tree.kind := congrArg Content.kind hcontent
    have hcollection (kind : NodeKind) : (node.collection kind).map (atlas.documentLevels levels) =
        (tree.collection kind).map (Tree.documentLevels levels) := by
      have hall := forall₂_collection hchildren kind
      change ((node.children.filter (·.1 == kind)).map Prod.snd).map _ = (tree.children.filter _).map _
      generalize (node.children.filter (·.1 == kind)).map Prod.snd = ids at hall
      generalize tree.children.filter (·.kind == kind) = trees at hall
      induction hall with
      | nil => rfl
      | cons hfirst _ ihrest => rw [List.map_cons, List.map_cons, ih hfirst, ihrest]
    simp only [Atlas.documentLevels, Tree.documentLevels, hnode, hname, hcontent, hkind, hcollection]

end Atlas

end SchemaAtlas
