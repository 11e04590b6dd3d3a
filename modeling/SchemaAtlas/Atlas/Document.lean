import SchemaAtlas.Atlas.Basic
import SchemaAtlas.Value.Json

/-!
# The document of a node

The document of a node is a record: its name, its fields and its collections, each a list of the
children's documents.
-/

namespace SchemaAtlas.Atlas

/-- The document of a node with so many levels below it. -/
def documentLevels (atlas : Atlas) : Nat → NodeId → Value
  | 0, id =>
    match atlas.node? id with
    | none => .null
    | some node => .record (("name", .ofName node.name) :: node.content.fields)
  | levels + 1, id =>
    match atlas.node? id with
    | none => .null
    | some node =>
      .record (("name", .ofName node.name) :: node.content.fields ++
        node.kind.collections.map fun (kind, label) =>
          (label, .list ((node.collection kind).map (documentLevels atlas levels))))

/-- The document of a node. -/
def document (atlas : Atlas) (id : NodeId) : Value :=
  match atlas.node? id with
  | none => .null
  | some node => atlas.documentLevels node.kind.height id

/-- The text of a node's document. -/
def documentText (atlas : Atlas) (layout : Json.Layout) (id : NodeId) : String :=
  Json.text layout (atlas.document id)

end SchemaAtlas.Atlas
