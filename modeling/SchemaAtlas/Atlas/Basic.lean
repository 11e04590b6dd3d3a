import SchemaAtlas.Atlas.Node

/-!
# The atlas and its edits

An atlas keeps its nodes in the order in which they were made; a node is known by its place in that
order. An edit either succeeds or leaves the atlas as it was. A frozen node takes no edits, and a
position that was once set stays.
-/

namespace SchemaAtlas

/-- A node's place in the order in which nodes were made. -/
abbrev NodeId := Nat

/-- A node: its name and content, the node above it, whether it is frozen, and its children in the order
in which they were added, each with its kind. -/
structure Node where
  name : Option String := none
  content : Content
  parent : Option NodeId := none
  frozen : Bool := false
  children : List (NodeKind × NodeId) := []
deriving Repr, DecidableEq

namespace Node

/-- The kind of a node. -/
def kind (node : Node) : NodeKind :=
  node.content.kind

/-- The children of one kind. -/
def collection (node : Node) (kind : NodeKind) : List NodeId :=
  (node.children.filter fun child => child.1 == kind).map (·.2)

/-- How messages call a node. -/
def title (node : Node) : String :=
  s!"{node.kind.name} '{displayName node.name}'"

/-- The fault of asking a node for something that nodes of its kind do not have. -/
def lacks (node : Node) (wanted : String) : Failure :=
  Failure.faultText .noAttribute s!"'{node.kind.name}' object has no attribute '{wanted}'"

/-- The properties of a node that are told, not set. -/
def isTold (node : Node) (field : String) : Bool :=
  ["parent", "frozen"].contains field || (node.kind == .column && field == "resolved")

/-- The node with a field set. -/
def set (node : Node) (field : String) (given : Entry) : Except Failure Node :=
  if node.isTold field then
    .error (Failure.faultText .noAttribute
      s!"property '{field}' of '{node.kind.name}' object has no setter")
  else if field == "name" then
    match Field.optional Field.text given.plain with
    | .ok name => .ok { node with name }
    | .error kind => .error (.refused [⟨[field], kind⟩])
  else
    match node.content.set? field given with
    | some (.ok content) => .ok { node with content }
    | some (.error kind) => .error (.refused [⟨[field], kind⟩])
    | none =>
      let kind := if node.kind.collections.any (·.2 == field) then .listType else .noSuchAttribute
      .error (.refused [⟨[field], kind⟩])

/-- What a field of a node holds. -/
def get (node : Node) (field : String) : Except Failure Entry :=
  if field == "name" then .ok (.value (.ofName node.name))
  else if field == "frozen" then .ok (.value (.bool node.frozen))
  else
    match node.content.get? field with
    | some held => .ok held
    | none => .error (node.lacks field)

/-- A node with some fields set, with every refusal that occurs; other fields are not looked at. -/
def setAll (given : List (String × Entry)) : List String → Node × List Issue → Node × List Issue
  | [], result => result
  | field :: rest, (node, issues) =>
    match given.lookup field with
    | none => setAll given rest (node, issues)
    | some v =>
      match node.set field v with
      | .ok next => setAll given rest (next, issues)
      | .error (.refused more) => setAll given rest (node, issues ++ more)
      | .error _ => setAll given rest (node, issues)

/-- A node of a kind with the given fields. -/
def ofFields (kind : NodeKind) (given : List (String × Entry)) : Except Failure Node :=
  match setAll given ("name" :: Content.fieldNames kind) ({ content := .new kind }, []) with
  | (node, []) => .ok node
  | (_, issues) => .error (.refused issues)

end Node

/-- The nodes of all trees of an atlas. -/
structure Atlas where
  nodes : Array Node := #[]
deriving Repr

namespace Atlas

/-- The node at a place. -/
def node? (atlas : Atlas) (id : NodeId) : Option Node :=
  atlas.nodes[id]?

/-- The node at a place; there may be none. -/
def node (atlas : Atlas) (id : NodeId) : Except Failure Node :=
  match atlas.node? id with
  | some node => .ok node
  | none => .error (.fault .unknownNode [])

/-- Changes the node at a place. -/
def update (atlas : Atlas) (id : NodeId) (change : Node → Node) : Atlas :=
  { nodes := atlas.nodes.modify id change }

/-- Adds a node without a parent. -/
def create (atlas : Atlas) (node : Node) : Atlas × NodeId :=
  ({ nodes := atlas.nodes.push node }, atlas.nodes.size)

/-- The children of one kind of the node at a place. -/
def collection (atlas : Atlas) (id : NodeId) (kind : NodeKind) : List NodeId :=
  match atlas.node? id with
  | some node => node.collection kind
  | none => []

/-- The name of the node at a place. -/
def nameOf (atlas : Atlas) (id : NodeId) : Option String :=
  (atlas.node? id).bind (·.name)

/-- The mapper of the column at a place. -/
def mapper? (atlas : Atlas) (id : NodeId) : Option Mapper :=
  match (atlas.node? id).map Node.content with
  | some (.column facts) => facts.mapper
  | _ => none

/-! ## Edits -/

/-- The failure of adding a child to a frozen node. -/
def cannotAdd (node : Node) (kind : NodeKind) : Failure :=
  .plain .frozen s!"Cannot add {kind.name} to frozen {node.title}"

/-- The failure of setting a field of a frozen node. -/
def cannotSet (node : Node) (field : String) : Failure :=
  .plain .frozen s!"Cannot set {field} on frozen {node.title}"

/-- The failure of setting a position twice. -/
def alreadySet (node : Node) (field : String) : Failure :=
  .plain .document s!"{field} of {node.title} is already set"

/-- Puts a new child of a kind under a node. -/
def attach (atlas : Atlas) (parent : NodeId) (kind : NodeKind) : Atlas × NodeId :=
  let (atlas, id) := atlas.create { content := .new kind, parent := some parent }
  (atlas.update parent fun node => { node with children := node.children ++ [(kind, id)] }, id)

/-- Adds a new child of a kind to a node. -/
def add (atlas : Atlas) (parent : NodeId) (kind : NodeKind) : Except Failure (Atlas × NodeId) := do
  let node ← atlas.node parent
  if !node.kind.collections.any (·.1 == kind) then
    .error (node.lacks ("add_new_" ++ kind.word))
  else if node.frozen then .error (cannotAdd node kind)
  else .ok (atlas.attach parent kind)

/-- Whether setting a field would change a position that is already set. -/
def setsAgain (node : Node) (field : String) : Bool :=
  field == "ordinal_position" && node.content.position.isSome

/-- Sets a field of a node. -/
def assign (atlas : Atlas) (id : NodeId) (field : String) (given : Entry) : Except Failure Atlas := do
  let node ← atlas.node id
  if node.frozen then .error (cannotSet node field)
  else if setsAgain node field then .error (alreadySet node field)
  else (node.set field given).map fun node => atlas.update id fun _ => node

/-! ## Looking up -/

/-- The first of some nodes that has a name. -/
def firstNamed (atlas : Atlas) (ids : List NodeId) (name : Option String) : Option NodeId :=
  ids.find? fun id => (atlas.node? id).any fun node => node.name == name

/-- The first child of a kind that has a name. -/
def childNamed (atlas : Atlas) (id : NodeId) (kind : NodeKind) (name : Option String) : Option NodeId :=
  atlas.firstNamed (atlas.collection id kind) name

/-- The same for nodes of any kind and for a name that need not be a text. -/
def search (atlas : Atlas) (id : NodeId) (word : String) (name : Value) :
    Except Failure (Option NodeId) := do
  let node ← atlas.node id
  match node.kind.searched.find? (·.word == word) with
  | none => .error (node.lacks (word ++ "_named"))
  | some kind =>
    match name with
    | .null => .ok (atlas.childNamed id kind none)
    | .text s => .ok (atlas.childNamed id kind (some s))
    | _ => .ok none

/-- The tables of a database, schema by schema. -/
def tables (atlas : Atlas) (id : NodeId) : List NodeId :=
  (atlas.collection id .schema).flatMap fun schema => atlas.collection schema .table

/-! ## What an edit changes -/

/-- A new node is found at the place it was given. -/
theorem node?_create (atlas : Atlas) (node : Node) :
    (atlas.create node).1.node? (atlas.create node).2 = some node := by
  simp [create, node?]

/-- Making a node leaves the others as they were. -/
theorem node?_create_of_lt (atlas : Atlas) (node : Node) {id : NodeId} (h : id < atlas.nodes.size) :
    (atlas.create node).1.node? id = atlas.node? id := by
  simp [create, node?, Array.getElem?_push, Nat.ne_of_lt h]

/-- A change shows in the changed node only. -/
theorem node?_update (atlas : Atlas) (id other : NodeId) (change : Node → Node) :
    (atlas.update id change).node? other =
      if id = other then (atlas.node? other).map change else atlas.node? other := by
  simp [update, node?, Array.getElem?_modify]

/-- A frozen node refuses every field. -/
theorem assign_frozen {atlas : Atlas} {id : NodeId} {node : Node} (h : atlas.node? id = some node)
    (frozen : node.frozen = true) (field : String) (given : Entry) :
    atlas.assign id field given = .error (cannotSet node field) := by
  simp [assign, Atlas.node, h, frozen, bind, Except.bind]

end Atlas

end SchemaAtlas
