import SchemaAtlas.Atlas.Basic

/-!
# Following a foreign key

A column of a foreign key names a table and a column, and possibly a schema. They are looked up in the
database that the foreign key belongs to; if the schema is not named, or named like its own, it is the
foreign key's own schema.
-/

namespace SchemaAtlas.Atlas

/-- The node above a node. -/
def parentOf (atlas : Atlas) (id : NodeId) : Option NodeId :=
  (atlas.node? id).bind (·.parent)

/-- The names of the nodes above a node, a number of them and the topmost first, and its own name. -/
def path (atlas : Atlas) : Nat → NodeId → List (Option String)
  | 0, id => [atlas.nameOf id]
  | n + 1, id => ((atlas.parentOf id).map (atlas.path n)).getD [] ++ [atlas.nameOf id]

/-- The columns of all tables of a database. -/
def columns (atlas : Atlas) (dbms : NodeId) : List NodeId :=
  (atlas.tables dbms).flatMap fun table => atlas.collection table .column

/-- The columns of all foreign keys of a database. -/
def references (atlas : Atlas) (dbms : NodeId) : List NodeId :=
  (atlas.tables dbms).flatMap fun table =>
    (atlas.collection table .foreignKey).flatMap fun key => atlas.collection key .foreignKeyColumn

/-- The facts of a column of a foreign key. -/
def reference? (atlas : Atlas) (id : NodeId) : Option ReferenceFacts :=
  match (atlas.node? id).map Node.content with
  | some (.foreignKeyColumn facts) => some facts
  | _ => none

/-- The schema that a reference from the given schema points into. -/
def referredSchema (atlas : Atlas) (dbms schema : NodeId) (facts : ReferenceFacts) : Option NodeId :=
  match facts.schemaName with
  | none => some schema
  | some name =>
    if name.isEmpty || atlas.nameOf schema == some name then some schema
    else atlas.childNamed dbms .schema (some name)

/-- The table that a column of a foreign key refers to, if it is known. -/
def referredTable (atlas : Atlas) (id : NodeId) : Option NodeId := do
  let facts ← atlas.reference? id
  let key ← atlas.parentOf id
  let table ← atlas.parentOf key
  let schema ← atlas.parentOf table
  let dbms ← atlas.parentOf schema
  let target ← atlas.referredSchema dbms schema facts
  atlas.childNamed target .table facts.tableName

/-- The column that a column of a foreign key refers to, if it is known. -/
def referredColumn (atlas : Atlas) (id : NodeId) : Option NodeId := do
  let facts ← atlas.reference? id
  let table ← atlas.referredTable id
  atlas.childNamed table .column facts.columnName

/-- The same for nodes of any kind: only columns of foreign keys refer to a table. -/
def findReferredTable (atlas : Atlas) (id : NodeId) : Except Failure (Option NodeId) := do
  let node ← atlas.node id
  if node.kind == .foreignKeyColumn then .ok (atlas.referredTable id)
  else .error (node.lacks "find_foreign_table")

/-- The same for nodes of any kind: only columns of foreign keys refer to a column. -/
def findReferredColumn (atlas : Atlas) (id : NodeId) : Except Failure (Option NodeId) := do
  let node ← atlas.node id
  if node.kind == .foreignKeyColumn then .ok (atlas.referredColumn id)
  else .error (node.lacks "find_foreign_column")

/-- The tables of a node, which only a database has. -/
def allTables (atlas : Atlas) (id : NodeId) : Except Failure (List NodeId) := do
  let node ← atlas.node id
  if node.kind == .dbms then .ok (atlas.tables id) else .error (node.lacks "all_tables")

end SchemaAtlas.Atlas
