import SchemaAtlas.Types.Mapper
import SchemaAtlas.Value.Field

/-!
# Nodes of an atlas

An atlas describes a database as a tree: a database has schemas, a schema has tables, and a table has
columns, indexes, primary key columns and foreign keys; indexes and foreign keys have columns of their
own. Every node has a name, which may be absent, and the content of its kind.
-/

namespace SchemaAtlas

/-- The kinds of nodes. -/
inductive NodeKind where
  | dbms
  | schema
  | table
  | column
  | index
  | indexColumn
  | primaryKeyColumn
  | foreignKey
  | foreignKeyColumn
deriving Repr, DecidableEq

namespace NodeKind

/-- The name of a kind in messages. -/
def name : NodeKind → String
  | .dbms => "Dbms"
  | .schema => "Schema"
  | .table => "Table"
  | .column => "Column"
  | .index => "Index"
  | .indexColumn => "IndexColumn"
  | .primaryKeyColumn => "PrimaryKeyColumn"
  | .foreignKey => "ForeignKey"
  | .foreignKeyColumn => "ForeignKeyColumn"

/-- The word for a child of the kind. -/
def word : NodeKind → String
  | .dbms => "dbms"
  | .schema => "schema"
  | .table => "table"
  | .column => "column"
  | .index => "index"
  | .indexColumn => "index_column"
  | .primaryKeyColumn => "primary_key_column"
  | .foreignKey => "foreign_key"
  | .foreignKeyColumn => "foreign_key_column"

/-- The kinds of a node's children, in the order of its collections, each with the name of the
collection. -/
def collections : NodeKind → List (NodeKind × String)
  | .dbms => [(.schema, "schemas")]
  | .schema => [(.table, "tables")]
  | .table => [(.column, "columns"), (.index, "indexes"), (.primaryKeyColumn, "primary_key_columns"),
      (.foreignKey, "foreign_keys")]
  | .index => [(.indexColumn, "columns")]
  | .foreignKey => [(.foreignKeyColumn, "columns")]
  | _ => []

/-- The number of levels below a node of the kind. -/
def height : NodeKind → Nat
  | .dbms => 4
  | .schema => 3
  | .table => 2
  | .index => 1
  | .foreignKey => 1
  | _ => 0

/-- Children stand on lower levels. -/
theorem height_lt (parent child : NodeKind) (label : String) (h : (child, label) ∈ parent.collections) :
    child.height < parent.height := by
  cases parent <;> simp [collections] at h <;> (try rcases h with h | h | h | h) <;>
    simp_all [height]

/-- All kinds. -/
def all : List NodeKind :=
  [.dbms, .schema, .table, .column, .index, .indexColumn, .primaryKeyColumn, .foreignKey,
   .foreignKeyColumn]

/-- The kind of a name. -/
def ofName? (s : String) : Option NodeKind :=
  all.find? (·.name == s)

/-- The kind of a word. -/
def ofWord? (s : String) : Option NodeKind :=
  all.find? (·.word == s)

/-- Every kind is found by its name. -/
theorem ofName?_name (kind : NodeKind) : ofName? kind.name = some kind := by
  cases kind <;> rfl

/-- Every kind is found by its word. -/
theorem ofWord?_word (kind : NodeKind) : ofWord? kind.word = some kind := by
  cases kind <;> rfl

/-- The kinds whose nodes can be looked up by name among the children of a node of the kind. -/
def searched : NodeKind → List NodeKind
  | .dbms => [.schema]
  | .schema => [.table]
  | .table => [.column, .index, .foreignKey]
  | _ => []

end NodeKind

/-- The sort order of a column in an index. -/
inductive SortOrder where
  | ascending
  | descending
  | unsorted
deriving Repr, DecidableEq

namespace SortOrder

/-- The text of a sort order. -/
def text : SortOrder → String
  | .ascending => "ASC"
  | .descending => "DESC"
  | .unsorted => "NONE"

/-- The sort orders by their texts. -/
def byText : List (String × SortOrder) :=
  [("ASC", .ascending), ("DESC", .descending), ("NONE", .unsorted)]

end SortOrder

/-- What is known of a column of a table. -/
structure ColumnFacts where
  position : Option Int := none
  nullable : Bool := true
  typeName : Option String := none
  size : Option Int := none
  digits : Option Int := none
  databaseType : Option TypeName := none
  mapper : Option Mapper := none
  autoIncrement : Bool := false
deriving Repr, DecidableEq

/-- What a column of a foreign key refers to. -/
structure ReferenceFacts where
  position : Option Int := none
  schemaName : Option String := none
  tableName : Option String := none
  columnName : Option String := none
deriving Repr, DecidableEq

/-- The content of a node besides its name and its children. -/
inductive Content where
  | dbms (typeName : Option String)
  | schema
  | table
  | column (facts : ColumnFacts)
  | index (unique : Bool)
  | indexColumn (position : Option Int) (order : SortOrder)
  | primaryKeyColumn (position : Option Int)
  | foreignKey
  | foreignKeyColumn (facts : ReferenceFacts)
deriving Repr, DecidableEq

namespace Content

/-- The kind of a node with the content. -/
def kind : Content → NodeKind
  | .dbms _ => .dbms
  | .schema => .schema
  | .table => .table
  | .column _ => .column
  | .index _ => .index
  | .indexColumn .. => .indexColumn
  | .primaryKeyColumn _ => .primaryKeyColumn
  | .foreignKey => .foreignKey
  | .foreignKeyColumn _ => .foreignKeyColumn

/-- The content of a new node of a kind. -/
def new : NodeKind → Content
  | .dbms => .dbms none
  | .schema => .schema
  | .table => .table
  | .column => .column {}
  | .index => .index false
  | .indexColumn => .indexColumn none .unsorted
  | .primaryKeyColumn => .primaryKeyColumn none
  | .foreignKey => .foreignKey
  | .foreignKeyColumn => .foreignKeyColumn {}

/-- A new node has the kind it was made for. -/
theorem kind_new (k : NodeKind) : (new k).kind = k := by
  cases k <;> rfl

/-- The position of a node among its siblings, for the kinds that have one. -/
def position : Content → Option Int
  | .column facts => facts.position
  | .indexColumn position _ => position
  | .primaryKeyColumn position => position
  | .foreignKeyColumn facts => facts.position
  | _ => none

end Content

/-- What can be put into a field of a node. -/
inductive Entry where
  | value (v : Value)
  | mapper (m : Mapper)

namespace Entry

/-- An entry as a value; a mapper is an object. -/
def plain : Entry → Value
  | .value v => v
  | .mapper _ => .object ⟨"SchemaAtlas", "Mapper"⟩

/-- A field that may hold a mapper. -/
def readMapper : Entry → Reading (Option Mapper)
  | .mapper m => .ok (some m)
  | .value .null => .ok none
  | .value _ => .error .notInstance

/-- A field that may hold a type. -/
def ofType : Option TypeName → Entry
  | none => .value .null
  | some t => .value (.type t)

end Entry

namespace Content

/-- The content with a field set, for a field that nodes of its kind have. -/
def set? (content : Content) (field : String) (given : Entry) : Option (Reading Content) :=
  let v := given.plain
  match content, field with
  | .dbms _, "type_name" => some ((Field.optional Field.text v).map .dbms)
  | .column facts, "ordinal_position" => some <| (Field.optional Field.integer v).map
      fun position => .column { facts with position }
  | .column facts, "nullable" => some <| (Field.flag v).map
      fun nullable => .column { facts with nullable }
  | .column facts, "type_name" => some <| (Field.optional Field.text v).map
      fun typeName => .column { facts with typeName }
  | .column facts, "column_size" => some <| (Field.optional Field.integer v).map
      fun size => .column { facts with size }
  | .column facts, "decimal_digits" => some <| (Field.optional Field.integer v).map
      fun digits => .column { facts with digits }
  | .column facts, "database_type" => some <| (Field.optional Field.typeName v).map
      fun databaseType => .column { facts with databaseType }
  | .column facts, "type_mapper" => some <| given.readMapper.map
      fun mapper => .column { facts with mapper }
  | .column facts, "auto_increment" => some <| (Field.flag v).map
      fun autoIncrement => .column { facts with autoIncrement }
  | .index _, "unique" => some ((Field.flag v).map .index)
  | .indexColumn _ order, "ordinal_position" => some <| (Field.optional Field.integer v).map
      fun position => .indexColumn position order
  | .indexColumn position _, "order_type" => some <| (Field.oneOf .enumeration SortOrder.byText v).map
      fun order => .indexColumn position order
  | .primaryKeyColumn _, "ordinal_position" => some ((Field.optional Field.integer v).map .primaryKeyColumn)
  | .foreignKeyColumn facts, "ordinal_position" => some <| (Field.optional Field.integer v).map
      fun position => .foreignKeyColumn { facts with position }
  | .foreignKeyColumn facts, "foreign_schema_name" => some <| (Field.optional Field.text v).map
      fun schemaName => .foreignKeyColumn { facts with schemaName }
  | .foreignKeyColumn facts, "foreign_table_name" => some <| (Field.optional Field.text v).map
      fun tableName => .foreignKeyColumn { facts with tableName }
  | .foreignKeyColumn facts, "foreign_column_name" => some <| (Field.optional Field.text v).map
      fun columnName => .foreignKeyColumn { facts with columnName }
  | _, _ => none

/-- The fields of a content in their order, those that only serve the reading of columns left out. -/
def fields : Content → List (String × Value)
  | .dbms typeName => [("type_name", .ofName typeName)]
  | .schema => []
  | .table => []
  | .column facts =>
    [("ordinal_position", .ofInteger facts.position), ("nullable", .bool facts.nullable),
     ("type_name", .ofName facts.typeName), ("column_size", .ofInteger facts.size),
     ("decimal_digits", .ofInteger facts.digits),
     ("database_type", .ofName (facts.databaseType.map TypeName.full)),
     ("auto_increment", .bool facts.autoIncrement)]
  | .index unique => [("unique", .bool unique)]
  | .indexColumn position order =>
    [("ordinal_position", .ofInteger position), ("order_type", .text order.text)]
  | .primaryKeyColumn position => [("ordinal_position", .ofInteger position)]
  | .foreignKey => []
  | .foreignKeyColumn facts =>
    [("ordinal_position", .ofInteger facts.position), ("foreign_schema_name", .ofName facts.schemaName),
     ("foreign_table_name", .ofName facts.tableName), ("foreign_column_name", .ofName facts.columnName)]

/-- The fields that nodes of a kind have besides their name. -/
def fieldNames : NodeKind → List String
  | .dbms => ["type_name"]
  | .column => ["ordinal_position", "nullable", "type_name", "column_size", "decimal_digits",
      "database_type", "type_mapper", "auto_increment"]
  | .index => ["unique"]
  | .indexColumn => ["ordinal_position", "order_type"]
  | .primaryKeyColumn => ["ordinal_position"]
  | .foreignKeyColumn => ["ordinal_position", "foreign_schema_name", "foreign_table_name",
      "foreign_column_name"]
  | _ => []

/-- What a field of a content holds. -/
def get? (content : Content) (field : String) : Option Entry :=
  match content, field with
  | .column facts, "database_type" => some (.ofType facts.databaseType)
  | .column facts, "type_mapper" =>
    some (match facts.mapper with | some m => .mapper m | none => .value .null)
  | .column facts, "resolved" => some (.value (.bool facts.mapper.isSome))
  | content, field => (content.fields.lookup field).map .value

/-- A reading that was carried over came from somewhere. -/
theorem exists_of_map_eq_ok {α β : Type} {f : α → β} {reading : Reading α} {b : β}
    (h : reading.map f = .ok b) : ∃ a, f a = b := by
  cases reading with
  | error kind => simp [Except.map] at h
  | ok a => exact ⟨a, by simpa [Except.map] using h⟩

/-- Setting a field does not change the kind. -/
theorem kind_set? {content result : Content} {field : String} {given : Entry}
    (h : content.set? field given = some (.ok result)) : result.kind = content.kind := by
  unfold set? at h
  split at h
  all_goals first
    | (simp only [Option.some.injEq] at h
       obtain ⟨a, rfl⟩ := exists_of_map_eq_ok h
       rfl)
    | simp at h

end Content

end SchemaAtlas
