import Mathlib.Data.List.Forall2
import SchemaAtlas.Atlas.Node
import SchemaAtlas.Session.Reflection

/-!
# What a connection tells of a table

A report says what a table is made of, without the shape in which a connection tells it. The connection may
tell more than a report says. An index may lack its name, a column of an index may be an expression, and
whether the values of a column are counted up may be left open.
-/

namespace SchemaAtlas

/-- Whether a value is the set flag itself. -/
def Value.isSet : Value → Bool
  | .bool true => true
  | _ => false

/-- A column as a connection reports it. -/
structure ColumnReport where
  name : String
  typeName : String
  length : Option Int := none
  precision : Option Int := none
  scale : Option Int := none
  nullable : Bool := true
  increments : Option Bool := none

/-- The size of a column: its length, or its precision where it has no length or a length of zero. -/
def ColumnReport.size (report : ColumnReport) : Option Int :=
  (report.length.filter (· != 0)).or report.precision

/-- A type is the one that the report of a column says. -/
structure ColumnReport.OfType (report : ColumnReport) (t : Value) : Prop where
  typeName : Reflection.typeNameOf t = report.typeName
  length : Reflection.measure "length" t = .ofInteger report.length
  precision : Reflection.measure "precision" t = .ofInteger report.precision
  scale : Reflection.measure "scale" t = .ofInteger report.scale

/-- A connection tells of a column what the report says. -/
structure ColumnReport.Told (report : ColumnReport) (fields : List (String × Value)) : Prop where
  name : fields.lookup "name" = some (.text report.name)
  type : ∃ t, fields.lookup "type" = some t ∧ report.OfType t
  nullable : (fields.lookup "nullable").map Value.isTrue = some report.nullable
  increments : (fields.lookup "autoincrement").map Value.isSet = report.increments

/-- An index as a connection reports it: a column without a name is an expression, and the columns may be
reported with whether they are sorted downwards. -/
structure IndexReport where
  name : Option String
  unique : Bool := false
  columns : List (Option String)
  expressions : List (Option String) := []
  sorting : Option (List (String × Bool)) := none

namespace IndexReport

/-- What a column of an index is called: by its name, or by the expression at its place. -/
def shown (report : IndexReport) (position : Nat) (column : Option String) : Option String :=
  column.or (report.expressions[position - 1]?).join

/-- How a column of an index is sorted: downwards only if that is reported of it. -/
def order (report : IndexReport) (shown : Option String) : SortOrder :=
  match report.sorting with
  | none => .unsorted
  | some sorting => if (shown.bind fun name => sorting.lookup name) == some true then .descending else .ascending

/-- What the columns of an index are called. -/
def shownColumns (report : IndexReport) : List (Option String) :=
  (report.columns.zipIdx 1).map fun (column, position) => report.shown position column

/-- Whether an index has a name and a column, without which it has no rows that count. -/
def isListed (report : IndexReport) : Bool :=
  report.name.isSome && !report.columns.isEmpty

/-- A connection tells of an index what the report says. -/
structure Told (report : IndexReport) (fields : List (String × Value)) : Prop where
  name : fields.lookup "name" = some (.ofName report.name)
  unique : (fields.lookup "unique").map Value.isTrue = some report.unique
  columns : fields.lookup "column_names" = some (.list (report.columns.map .ofName))
  expressions : ((fields.lookup "expressions").getD .null).orElse (.list []) =
    .list (report.expressions.map .ofName)
  sorting : match report.sorting with
    | none => (fields.lookup "column_sorting").getD .null = .null
    | some sorting => ∃ marks, fields.lookup "column_sorting" = some (.record marks) ∧
        List.Forall₂ (fun mark (column : String × Bool) =>
          mark.1 = column.1 ∧ mark.2.hasText "desc" = .ok column.2) marks sorting

end IndexReport

/-- A foreign key as a connection reports it: the table it refers to, and its pairs of columns. -/
structure KeyReport where
  name : String
  schema : Option String := none
  table : String
  columns : List (String × String)

/-- Whether a foreign key has a column, without which it has no rows. -/
def KeyReport.isListed (report : KeyReport) : Bool :=
  !report.columns.isEmpty

/-- A connection tells of a foreign key what the report says, under a name that is not empty. -/
structure KeyReport.Told (report : KeyReport) (fields : List (String × Value)) : Prop where
  named : report.name ≠ ""
  name : fields.lookup "name" = some (.text report.name)
  schema : (fields.lookup "referred_schema").getD .null = .ofName report.schema
  table : fields.lookup "referred_table" = some (.text report.table)
  columns : fields.lookup "constrained_columns" = some (.list (report.columns.map fun pair => .text pair.1))
  referred : fields.lookup "referred_columns" = some (.list (report.columns.map fun pair => .text pair.2))

/-- A table as a connection reports it. -/
structure TableReport where
  name : String
  columns : List ColumnReport := []
  indexes : List IndexReport := []
  primaryKey : List String := []
  foreignKeys : List KeyReport := []

/-- A connection's answer tells of a part of a table what the report says. A primary key may be told by
nothing at all. -/
def TableReport.Told (report : TableReport) (answer : Value) : TablePart → Prop
  | .columns => ∃ items, answer = .list items ∧ List.Forall₂ (fun item (column : ColumnReport) =>
      ∃ fields, item = .record fields ∧ column.Told fields) items report.columns
  | .indexes => ∃ items, answer = .list items ∧ List.Forall₂ (fun item (index : IndexReport) =>
      ∃ fields, item = .record fields ∧ index.Told fields) items report.indexes
  | .primaryKey => ∃ fields, answer.orElse (.record []) = .record fields ∧
      ((fields.lookup "constrained_columns").getD .null).orElse (.list []) =
        .list (report.primaryKey.map .text)
  | .foreignKeys => ∃ items, answer = .list items ∧ List.Forall₂ (fun item (key : KeyReport) =>
      ∃ fields, item = .record fields ∧ key.Told fields) items report.foreignKeys

/-- What is reported once is not reported again: columns, named indexes and foreign keys of a table have
different names, as have the columns of an index, of the primary key and of a foreign key. -/
structure TableReport.Distinct (report : TableReport) : Prop where
  columns : (report.columns.map ColumnReport.name).Nodup
  indexes : (report.indexes.filterMap IndexReport.name).Nodup
  indexColumns : ∀ index ∈ report.indexes, index.name.isSome → index.shownColumns.Nodup
  primaryKey : report.primaryKey.Nodup
  foreignKeys : (report.foreignKeys.map KeyReport.name).Nodup
  keyColumns : ∀ key ∈ report.foreignKeys, (key.columns.map Prod.fst).Nodup

end SchemaAtlas
