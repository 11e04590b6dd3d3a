import SchemaAtlas.Crawl.Notes

/-!
# Reading the tables of a schema

The tables of a schema are listed first; then, table by table, its columns, indexes, primary key columns
and foreign keys. Rows of an index or a foreign key belong to the node of their name, wherever they stand
in the listing.
-/

namespace SchemaAtlas.Crawl

/-- Whether a value reads as a flag that is set: a text does if it is one of four words, any other value
if it counts as true. -/
def readsAsSet : Value → Bool
  | .text s =>
    ["YES", "Y", "TRUE", "1"].contains
      (String.ofList (Text.upperChars (Text.trimBlanks s.toList)))
  | v => v.isTrue

/-- The failure of a code for nullable columns that is none of three. -/
def unknownNullable (code : Value) : Failure :=
  .plain (.unknownNullable code) s!"Unknown nullable type {code.display}"

/-- Whether a code says that a column may be null: no, yes, or unknown, which counts as yes. -/
def nullableOfCode (code : Value) : Except Failure Bool :=
  if code.equalsInteger 1 || code.equalsInteger 2 then .ok true
  else if code.equalsInteger 0 then .ok false
  else .error (unknownNullable code)

/-- The sort order that a mark in an index listing stands for. -/
def sortOrderOfMark (mark : Value) : Except Failure SortOrder :=
  match mark with
  | .null => .ok .unsorted
  | .text s =>
    let letter := Text.upper s
    .ok (if letter == "A" then .ascending else if letter == "D" then .descending else .unsorted)
  | .bytes _ => .ok .unsorted
  | v => .error (v.noAttribute "upper")

/-- The type that a type name is mapped to. -/
def mappedType (mapping : TypeMapping) : Value → Option TypeName
  | .text name => mapping.lookup name
  | _ => none

/-- The text that a warning about a column ends with. -/
def whichColumn (table column : NodeId) : Step String := do
  let atlas := (← get).atlas
  let tableName := displayName (atlas.nameOf table)
  let columnName := displayName (atlas.nameOf column)
  pure s!"for table {tableName}, column {columnName}"

/-- Fills a column from its row. -/
def fillColumn (plan : Plan) (table column : NodeId) (row : Value) : Step Unit := do
  Survey.setFrom column "name" row "COLUMN_NAME"
  Survey.setFrom column "ordinal_position" row "ORDINAL_POSITION"
  let nullable ← Keeping.settle (row.field "NULLABLE" >>= nullableOfCode)
  Survey.setValue column "nullable" (.bool nullable)
  let typeName ← Keeping.settle (row.field "TYPE_NAME")
  Survey.setValue column "type_name" typeName
  Survey.setValue column "column_size" (← Keeping.settle (row.fieldOrNull "COLUMN_SIZE"))
  Survey.setValue column "decimal_digits" (← Keeping.settle (row.fieldOrNull "DECIMAL_DIGITS"))
  match mappedType (← get).notes.mapping typeName with
  | some t =>
    let mapper ← Keeping.settle (plan.mappers.identityFor t)
    Survey.set column "type_mapper" (.mapper mapper)
    Survey.set column "database_type" (.ofType (some t))
  | none => warn ("Unable to determine mapping " ++ (← whichColumn table column))
  match row.field "IS_AUTOINCREMENT" with
  | .ok mark => Survey.setValue column "auto_increment" (.bool (readsAsSet mark))
  | .error (.fault .missingKey _) =>
    warn ("Unable to determine IS_AUTOINCREMENT " ++ (← whichColumn table column))
  | .error f => throw f

/-- The child of a kind that a row belongs to by the name in one of its fields; a new child if there is
none of that name. -/
def groupOf (table : NodeId) (kind : NodeKind) (field : String) (row : Value) : Step NodeId := do
  match ← Survey.childNamed table kind (← Keeping.settle (row.field field)) with
  | some id => pure id
  | none => Survey.add table kind

/-- Whether a node has no name yet. -/
def isUnnamed (id : NodeId) : Step Bool := do
  pure ((← get).atlas.nameOf id).isNone

/-- Adds to an index what a row tells of it. -/
def fillIndex (index : NodeId) (row : Value) : Step Unit := do
  if ← isUnnamed index then
    Survey.setFrom index "name" row "INDEX_NAME"
    let nonUnique ← Keeping.settle (row.field "NON_UNIQUE")
    Survey.setValue index "unique" (.bool !(readsAsSet nonUnique))
  let column ← Survey.add index .indexColumn
  Survey.setFrom column "name" row "COLUMN_NAME"
  Survey.setFrom column "ordinal_position" row "ORDINAL_POSITION"
  let order ← Keeping.settle (row.field "ASC_OR_DESC" >>= sortOrderOfMark)
  Survey.setValue column "order_type" (.text order.text)

/-- Fills a primary key column from its row. -/
def fillPrimaryKeyColumn (column : NodeId) (row : Value) : Step Unit := do
  Survey.setFrom column "name" row "COLUMN_NAME"
  Survey.setFrom column "ordinal_position" row "KEY_SEQ"

/-- Adds to a foreign key what a row tells of it. -/
def fillForeignKey (key : NodeId) (row : Value) : Step Unit := do
  if ← isUnnamed key then Survey.setFrom key "name" row "FK_NAME"
  let column ← Survey.add key .foreignKeyColumn
  Survey.setFrom column "name" row "FKCOLUMN_NAME"
  Survey.setFrom column "ordinal_position" row "KEY_SEQ"
  Survey.setValue column "foreign_schema_name" (← Keeping.settle (row.fieldOrNull "PKTABLE_SCHEM"))
  Survey.setFrom column "foreign_table_name" row "PKTABLE_NAME"
  Survey.setFrom column "foreign_column_name" row "PKCOLUMN_NAME"

/-! ## The listings of a table -/

/-- How column rows become columns. -/
def columnRows (plan : Plan) (table : NodeId) : Survey.Ingestion Notes NodeId where
  child _ := Survey.add table .column
  fill column row := fillColumn plan table column row

/-- How index rows become indexes; rows without an index name do not count. -/
def indexRows (table : NodeId) : Survey.Ingestion Notes NodeId where
  accepts row := do pure !(← Keeping.settle (row.field "INDEX_NAME")).isNull
  child row := groupOf table .index "INDEX_NAME" row
  fill index row := fillIndex index row

/-- How primary key rows become primary key columns. -/
def primaryKeyRows (table : NodeId) : Survey.Ingestion Notes NodeId where
  child _ := Survey.add table .primaryKeyColumn
  fill column row := fillPrimaryKeyColumn column row

/-- How foreign key rows become foreign keys. -/
def foreignKeyRows (table : NodeId) : Survey.Ingestion Notes NodeId where
  child row := groupOf table .foreignKey "FK_NAME" row
  fill key row := fillForeignKey key row

/-- How the rows of a part of a table become nodes. -/
def rowsOf (plan : Plan) (table : NodeId) : TablePart → Survey.Ingestion Notes NodeId
  | .columns => columnRows plan table
  | .indexes => indexRows table
  | .primaryKey => primaryKeyRows table
  | .foreignKeys => foreignKeyRows table

/-- What messages call the nodes of a part of a table. -/
def partLabel : TablePart → String
  | .columns => "columns"
  | .indexes => "indexes"
  | .primaryKey => "primary key columns"
  | .foreignKeys => "foreign keys"

/-- The parts of a table in the order in which they are read. -/
def parts : List TablePart := [.columns, .indexes, .primaryKey, .foreignKeys]

/-- Where the tables of a schema are looked up: a catalog, or a schema. -/
structure Namespace where
  catalog : Option String
  schema : Option String

/-- Where the tables of a schema are looked up. -/
def namespaceOf (plan : Plan) (schema : NodeId) : Step Namespace := do
  let name := (← get).atlas.nameOf schema
  pure ⟨plan.vendor.catalogName name, plan.vendor.schemaName name⟩

/-- Reads one part of a table. -/
def readPart (plan : Plan) (space : Namespace) (table : NodeId) (part : TablePart) : Step Unit := do
  let name := (← get).atlas.nameOf table
  let call := Call.part part space.catalog space.schema name
  discard (Survey.ingest plan.source call table (partLabel part) (rowsOf plan table part))
where
  discard (step : Step Nat) : Step Unit := do
    let _ ← step

/-- Reads all parts of a table. -/
def readParts (plan : Plan) (space : Namespace) (table : NodeId) : List TablePart → Step Unit
  | [] => pure ()
  | part :: rest => do
    readPart plan space table part
    readParts plan space table rest

/-- How table rows become tables. -/
def tableRows (schema : NodeId) : Survey.Ingestion Notes NodeId where
  child _ := Survey.add schema .table
  fill table row := Survey.setFrom table "name" row "TABLE_NAME"

/-- Reads all parts of some tables. -/
def readEach (plan : Plan) (space : Namespace) : List NodeId → Step Unit
  | [] => pure ()
  | table :: rest => do
    readParts plan space table parts
    readEach plan space rest

/-- Reads the tables of a schema. -/
def readSchema (plan : Plan) (schema : NodeId) : Step Unit := do
  let space ← namespaceOf plan schema
  let _ ← Survey.ingest plan.source (.tables space.catalog space.schema) schema "tables"
    (tableRows schema)
  readEach plan space ((← get).atlas.collection schema .table)

/-- Reads the tables of some schemas. -/
def readSchemas (plan : Plan) : List NodeId → Step Unit
  | [] => pure ()
  | schema :: rest => do
    readSchema plan schema
    readSchemas plan rest

end SchemaAtlas.Crawl
