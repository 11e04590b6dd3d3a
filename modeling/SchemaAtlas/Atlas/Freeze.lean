import SchemaAtlas.Atlas.Basic

/-!
# Freezing

Freezing goes through the children of a node, collection by collection, before the node itself. Siblings
of one collection must have different names, an absent name counting as one. If two of them share a
name, freezing stops there: what was visited before stays frozen, the nodes above do not.
-/

namespace SchemaAtlas.Atlas

/-- The failure of finding two siblings of one name. -/
def duplicate (parent child : Node) : Failure :=
  .plain .document s!"Duplicate {child.kind.name} name '{displayName child.name}' in {parent.title}"

/-- Marks a node as frozen. -/
def mark (id : NodeId) : Keeping Atlas Unit :=
  modify fun atlas => atlas.update id fun node => { node with frozen := true }

/-- Freezes siblings one after the other; none may have a name that was seen before. -/
def freezeSiblings (freezeChild : NodeId → Keeping Atlas Unit) (parent : Node) :
    List (Option String) → List NodeId → Keeping Atlas Unit
  | _, [] => pure ()
  | seen, id :: rest => do
    match (← get).node? id with
    | none => freezeSiblings freezeChild parent seen rest
    | some child =>
      if seen.contains child.name then throw (duplicate parent child)
      freezeChild id
      freezeSiblings freezeChild parent (child.name :: seen) rest

/-- Freezes the collections of a node one after the other. -/
def freezeCollections (freezeChild : NodeId → Keeping Atlas Unit) (parent : Node) :
    List (NodeKind × String) → Keeping Atlas Unit
  | [] => pure ()
  | (kind, _) :: rest => do
    freezeSiblings freezeChild parent [] (parent.collection kind)
    freezeCollections freezeChild parent rest

/-- Freezes a node and the given number of levels below it. -/
def freezeLevels : Nat → NodeId → Keeping Atlas Unit
  | 0, id => mark id
  | levels + 1, id => do
    match (← get).node? id with
    | none => throw (.fault .unknownNode [])
    | some node =>
      freezeCollections (freezeLevels levels) node node.kind.collections
      mark id

/-- Freezes a node and all nodes below it. -/
def freeze (id : NodeId) : Keeping Atlas Unit := do
  match (← get).node? id with
  | none => throw (.fault .unknownNode [])
  | some node => freezeLevels node.kind.height id

end SchemaAtlas.Atlas
