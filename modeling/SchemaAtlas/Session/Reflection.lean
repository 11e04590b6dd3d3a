import SchemaAtlas.Catalog.Cursor
import SchemaAtlas.Session.Connection
import SchemaAtlas.Types.Family
import SchemaAtlas.Value.Access
import SchemaAtlas.Vendor

/-!
# The catalog of a live connection

A live connection tells of its database in the vendor's own terms. Here the answers are turned into the
rows that listing calls yield. A field that the vendor does not report is left out of its row, so that
the reader of the listing sees the gap. A connection has one level of names below it: the schema of a
call, or its catalog where there is no schema.
-/

namespace SchemaAtlas.Reflection

open Failure

/-- The single name under which a call looks tables up. -/
def lookupName (catalog schema : Option String) : Option String :=
  schema.or catalog

/-- The question behind a listing call, if it has one. -/
def question : Call → Option Inspection
  | .typeInfo => none
  | .schemas => some .schemaNames
  | .catalogs => none
  | .tables catalog schema => some (.tableNames (lookupName catalog schema))
  | .part part catalog schema table => some (.part part table (lookupName catalog schema))

/-- The rows that the items of an answer yield. -/
def rowsOf (answer : Except Failure Value) (rows : Nat → Value → List Row) : List Row :=
  match answer >>= Value.items with
  | .error f => [.error f]
  | .ok items => (items.zipIdx 1).flatMap fun (item, position) => rows position item

/-- Some rows, or the failure of making them. -/
def rowsOr (rows : Except Failure (List Row)) : List Row :=
  match rows with
  | .ok rows => rows
  | .error f => [.error f]

/-- A position, counted from one. -/
def place (position : Nat) : Value :=
  .int position

/-! ## Types, schemas and catalogs -/

/-- The reported name and code of an entry of the type table that is a type. -/
def reportedType? : Value → Option (String × Int)
  | .sqlType t => some (t.reportedName, t.reportedCode)
  | .type t => some (Text.upper t.name, otherTypeCode)
  | _ => none

/-- The rows of the type listing: the first type of each reported name. -/
def typeRows (seen : List String) : List Value → List Row
  | [] => []
  | entry :: rest =>
    match reportedType? entry with
    | none => typeRows seen rest
    | some (name, code) =>
      if seen.contains name then typeRows seen rest
      else
        .ok (.record [("TYPE_NAME", .text name), ("DATA_TYPE", .int code), ("PRECISION", .int 0),
          ("SQL_TYPE", entry)]) :: typeRows (name :: seen) rest

/-- The row of a schema; it tells the catalog where the vendor's rows do and there is one. -/
def schemaRow (vendor : Vendor) (database : Option String) (name : Value) : Row :=
  let row := [(vendor.schemaField, name)]
  match if vendor.catalogInSchemaRows then database else none with
  | some catalog => .ok (.record (putField row "TABLE_CATALOG" (.text catalog)))
  | none => .ok (.record row)

/-- The row of a catalog, whose name is the first value of a returned row. -/
def catalogRow : Except Failure (List Value) → Row
  | .error f => .error f
  | .ok [] => .error (faultText .outOfRange "tuple index out of range")
  | .ok (name :: _) => .ok (.record [("TABLE_CAT", name)])

/-- The query that lists the catalogs, if there is one. -/
def catalogQuery? (vendor : Vendor) : Option String :=
  vendor.catalogQuery.filter (!·.isEmpty)

/-- The catalogs, given the connection's reply to the query. -/
def catalogListing (reply : Option Reply) : Except Failure Listing :=
  match reply with
  | none => .error Link.scriptExhausted
  | some (.refused f) => .error f
  | some (.rows rows _) => .ok { rows := rows.map catalogRow }
  | some (.changed ..) => .ok {}

/-! ## Tables and their parts -/

/-- The row of a table. -/
def tableRow (catalog schema : Option String) (name : Value) : Row :=
  .ok (.record [("TABLE_CAT", .ofName catalog), ("TABLE_SCHEM", .ofName schema), ("TABLE_NAME", name),
    ("TABLE_TYPE", .text "TABLE")])

/-- The name that a column's type is reported under. -/
def typeNameOf : Value → String
  | .column t _ => t.reportedName
  | v => Text.upper v.typeName.name

/-- A measure of a column's type, null where it has none. -/
def measure (name : String) : Value → Value
  | .column _ measures => (measures.lookup name).getD .null
  | _ => .null

/-- The row of a column. -/
def columnRow (table : Value) (position : Nat) (column : Value) : Row := do
  let t ← column.field "type"
  let name ← column.field "name"
  let nullable ← column.field "nullable"
  let row := [("TABLE_NAME", table), ("COLUMN_NAME", name), ("ORDINAL_POSITION", place position),
    ("NULLABLE", .int (if nullable.isTrue then 1 else 0)), ("TYPE_NAME", .text (typeNameOf t)),
    ("COLUMN_SIZE", (measure "length" t).orElse (measure "precision" t)),
    ("DECIMAL_DIGITS", measure "scale" t)]
  if ← column.hasText "autoincrement" then
    let mark := match ← column.field "autoincrement" with
      | .bool true => "YES"
      | _ => "NO"
    .ok (.record (row ++ [("IS_AUTOINCREMENT", .text mark)]))
  else .ok (.record row)

/-- The name of a column of an index: for an expression, the expression. -/
def indexColumnName (expressions : Value) (position : Nat) (name : Value) : Except Failure Value :=
  if name.isNull then do
    let shown ← expressions.sized
    .ok (shown.getD (position - 1) .null)
  else .ok name

/-- How a column is sorted in an index, as far as it is known. -/
def sortingMark (sorting name : Value) : Except Failure Value :=
  match sorting, name with
  | .null, _ => .ok .null
  | _, .list _ => .error (faultText .wrongType "unhashable type: 'list'")
  | _, .record _ => .error (faultText .wrongType "unhashable type: 'dict'")
  | .record columns, .text name =>
    match columns.lookup name with
    | none => .ok (.text "A")
    | some marks => do .ok (.text (if ← marks.hasText "desc" then "D" else "A"))
  | .record _, _ => .ok (.text "A")
  | v, _ => .error (v.noAttribute "get")

/-- The row of a column of an index. -/
def indexRow (table index expressions sorting : Value) (position : Nat) (column : Value) : Row := do
  let name ← indexColumnName expressions position column
  let mark ← sortingMark sorting name
  let indexName ← index.field "name"
  let unique ← index.field "unique"
  .ok (.record [("TABLE_NAME", table), ("INDEX_NAME", indexName), ("NON_UNIQUE", .bool !unique.isTrue),
    ("TYPE", .int 3), ("COLUMN_NAME", name), ("ORDINAL_POSITION", place position), ("ASC_OR_DESC", mark)])

/-- The rows of an index, one for each of its columns. -/
def indexRows (table index : Value) : List Row :=
  rowsOr do
    let expressions ← index.fieldOrNull "expressions"
    let sorting ← index.fieldOrNull "column_sorting"
    let columns ← index.field "column_names"
    .ok (rowsOf (.ok columns) fun position column =>
      [indexRow table index (expressions.orElse (.list [])) sorting position column])

/-- The rows of a primary key, one for each of its columns. -/
def primaryKeyRows (table key : Value) : List Row :=
  rowsOr do
    let key := key.orElse (.record [])
    let columns ← key.fieldOrNull "constrained_columns"
    .ok (rowsOf (.ok (columns.orElse (.list []))) fun position column =>
      [do
        let name ← key.fieldOrNull "name"
        .ok (.record [("TABLE_NAME", table), ("COLUMN_NAME", column), ("KEY_SEQ", place position),
          ("PK_NAME", name)])])

/-- The texts of some values, all of which must be texts. -/
def textsOf : Nat → List Value → Except Failure (List String)
  | _, [] => .ok []
  | position, .text s :: rest => do .ok (s :: (← textsOf (position + 1) rest))
  | position, v :: _ =>
    .error (faultText .wrongType s!"sequence item {position}: expected str instance, {v.kindName} found")

/-- The texts of the columns of a key, joined. -/
def joined (columns : Value) : Except Failure String :=
  match columns.items with
  | .ok items => (textsOf 0 items).map (String.intercalate "_")
  | .error _ => .error (faultText .wrongType "can only join an iterable")

/-- The name of a foreign key that has none: its table, its columns and the table it refers to. -/
def inventedName (table key columns : Value) : Except Failure String := do
  let middle ← joined columns
  let referred ← key.field "referred_table"
  .ok (table.display ++ "_" ++ middle ++ "_" ++ referred.display ++ "_fkey")

/-- The name of a foreign key. -/
def foreignKeyName (table key columns : Value) : Except Failure Value := do
  let given ← key.fieldOrNull "name"
  if given.isTrue then .ok given else (inventedName table key columns).map .text

/-- The rows of a foreign key, one for each pair of columns. -/
def foreignKeyRows (table key : Value) : List Row :=
  rowsOr do
    let columns ← key.field "constrained_columns"
    let name ← foreignKeyName table key columns
    let referred ← key.field "referred_columns"
    let pairs := (← columns.items).zip (← referred.items)
    .ok ((pairs.zipIdx 1).map fun ((column, target), position) => do
      let schema ← key.fieldOrNull "referred_schema"
      let referredTable ← key.field "referred_table"
      .ok (.record [("FKTABLE_NAME", table), ("FK_NAME", name), ("FKCOLUMN_NAME", column),
        ("KEY_SEQ", place position), ("PKTABLE_SCHEM", schema), ("PKTABLE_NAME", referredTable),
        ("PKCOLUMN_NAME", target)]))

/-- The rows of a part of a table, given what the connection tells of it. -/
def partRows (part : TablePart) (table : Value) (answer : Except Failure Value) : List Row :=
  match part with
  | .columns => rowsOf answer fun position column => [columnRow table position column]
  | .indexes => rowsOf answer fun _ index => indexRows table index
  | .primaryKey =>
    match answer with
    | .error f => [.error f]
    | .ok key => primaryKeyRows table key
  | .foreignKeys => rowsOf answer fun _ key => foreignKeyRows table key

/-! ## The source -/

/-- The reply to the next query for catalogs, given the calls made before. -/
def nextReply (connection : Connection) (earlier : List Call) : Option Reply :=
  connection.script[earlier.countP (· == .catalogs)]?

/-- The rows of a listing call other than that for catalogs. -/
def callRows (vendor : Vendor) (connection : Connection) : Call → List Row
  | .typeInfo => typeRows [] connection.types
  | .schemas =>
    rowsOf (connection.inspect .schemaNames) fun _ name => [schemaRow vendor connection.database name]
  | .catalogs => []
  | .tables catalog schema =>
    rowsOf (connection.inspect (.tableNames (lookupName catalog schema))) fun _ name =>
      [tableRow catalog schema name]
  | .part part catalog schema table =>
    partRows part (.ofName table) (connection.inspect (.part part table (lookupName catalog schema)))

/-- The catalog of a connection as a source. -/
def source (vendor : Vendor) (connection : Connection) : Source := fun earlier call =>
  match call, catalogQuery? vendor with
  | .catalogs, some _ => catalogListing (nextReply connection earlier)
  | call, _ => .ok { rows := callRows vendor connection call }

/-- Reads a listing to its end or its failure and closes it: the rows read, what came of it, and what
happened to the cursor. -/
def readAll (vendor : Vendor) (connection : Connection) (earlier : List Call) (call : Call) :
    List Value × Except Failure Unit × List Event :=
  match source vendor connection earlier call with
  | .error f => ([], .error f, [.called call])
  | .ok listing =>
    let (rows, outcome) := Cursor.readRows listing.rows
    (rows, outcome, [.called call, .opened call, .closed call])

/-- What an event of the source does on its connection. -/
def replay (vendor : Vendor) (link : Link) : Event → Link
  | .called .catalogs =>
    match catalogQuery? vendor with
    | none => link
    | some query => (link.execute query .bare).2
  | .closed .catalogs => if (catalogQuery? vendor).isSome then link.record .closeResult else link
  | .opened call => { link with inspected := link.inspected ++ (question call).toList }
  | _ => link

/-- A connection after its catalog was read. -/
def linkAfter (vendor : Vendor) (link : Link) (events : List Event) : Link :=
  events.foldl (replay vendor) link

end SchemaAtlas.Reflection
