import SchemaAtlas.Types.Info

/-!
# Vendors

A vendor's conventions shape how its databases are crawled: which schema names are noise, whether tables
are looked up by catalog or by schema, which query lists the catalogs, and which types it declares
instead of listing them.
-/

namespace SchemaAtlas

/-- The level of names at which tables are looked up. -/
inductive LookupLevel where
  | catalog
  | schema
deriving Repr, DecidableEq

/-- The conventions of a vendor. -/
structure Vendor where
  name : String
  excluded : List String := []
  types : List TypeInfo := []
  schemaField : String := "TABLE_SCHEM"
  catalogInSchemaRows : Bool := true
  lookupLevel : LookupLevel := .schema
  catalogQuery : Option String := none

namespace Vendor

/-- The catalog under which the tables of a schema are looked up. -/
def catalogName (vendor : Vendor) (schema : Option String) : Option String :=
  match vendor.lookupLevel with
  | .catalog => schema
  | .schema => none

/-- The schema under which the tables of a schema are looked up. -/
def schemaName (vendor : Vendor) (schema : Option String) : Option String :=
  match vendor.lookupLevel with
  | .catalog => none
  | .schema => schema

/-- A schema is looked up at exactly one level. -/
theorem lookup_one_level (vendor : Vendor) (schema : Option String) :
    (vendor.catalogName schema, vendor.schemaName schema) = (schema, none) ∨
      (vendor.catalogName schema, vendor.schemaName schema) = (none, schema) := by
  cases vendor with
  | mk name excluded types schemaField catalogInSchemaRows lookupLevel catalogQuery =>
    cases lookupLevel <;> simp [catalogName, schemaName]

/-- A database in a file, with a schema of temporary tables. -/
def sqlite : Vendor :=
  { name := "sqlite", excluded := ["temp"], catalogInSchemaRows := false }

/-- A vendor with three schemas of its own. -/
def postgresql : Vendor :=
  { name := "postgresql", excluded := ["information_schema", "pg_catalog", "pg_toast"] }

/-- A vendor whose databases are catalogs. -/
def mysql : Vendor :=
  { name := "mysql", excluded := ["information_schema", "mysql", "performance_schema", "sys"],
    lookupLevel := .catalog, catalogQuery := some "SHOW DATABASES" }

/-- The declared types by name, those of one name by code and those of one code by precision. -/
def sortedTypes (vendor : Vendor) : List TypeInfo :=
  vendor.types.mergeSort fun a b =>
    (compareLex (compareOn TypeInfo.name)
      (compareLex (compareOn TypeInfo.code) (compareOn TypeInfo.precision)) a b).isLE

/-- A vendor that declares its types. -/
def oracle : Vendor :=
  { name := "oracle"
    excluded := ["SYS", "SYSTEM", "OUTLN", "XDB", "DBSNMP", "APPQOSSYS", "CTXSYS", "MDSYS", "ORDSYS",
      "WMSYS", "OJVMSYS", "GSMADMIN_INTERNAL"]
    catalogInSchemaRows := false
    types := [
      { name := "CHAR", code := 1, precision := 2000 },
      { name := "NCHAR", code := -15, precision := 2000 },
      { name := "VARCHAR2", code := 12, precision := 4000 },
      { name := "NVARCHAR2", code := -9, precision := 4000 },
      { name := "VARCHAR", code := 12, precision := 4000 },
      { name := "NVARCHAR", code := -9, precision := 4000 },
      { name := "LONG", code := -1 },
      { name := "REAL", code := 7, precision := 63 },
      { name := "DOUBLE_PRECISION", code := 8, precision := 126 },
      { name := "NUMBER", code := 2, precision := 38 },
      { name := "INTEGER", code := 4, precision := 38 },
      { name := "FLOAT", code := 6, precision := 126 },
      { name := "BINARY_FLOAT", code := 7, precision := 7 },
      { name := "BINARY_DOUBLE", code := 8, precision := 15 },
      { name := "DATE", code := 93, precision := 7 },
      { name := "TIMESTAMP", code := 93, precision := 11 },
      { name := "CLOB", code := 2005 },
      { name := "NCLOB", code := 2011 },
      { name := "BLOB", code := 2004 },
      { name := "RAW", code := -3, precision := 2000 }] }

/-- The conventions assumed of an unknown vendor. -/
def generic : Vendor := { name := "generic" }

/-- The vendor of a dialect's name in small letters. -/
def ofKey : String → Vendor
  | "sqlite" => sqlite
  | "postgresql" => postgresql
  | "postgres" => postgresql
  | "mysql" => mysql
  | "mariadb" => mysql
  | "oracle" => oracle
  | _ => generic

/-- The vendor of a dialect: letter case and a driver's name behind a plus do not matter. -/
def ofDialect (dialect : Option String) : Vendor :=
  match dialect with
  | none => generic
  | some name => ofKey (String.ofList ((Text.lower name).toList.takeWhile (· != '+')))

/-- The vendor of a dialect's name that need not be a text; what counts as false is no name. -/
def ofDialectValue (v : Value) : Except Failure Vendor :=
  match v with
  | .text name => .ok (ofDialect (some name))
  | v => if v.isTrue then .error (v.noAttribute "lower") else .ok (ofDialect none)

/-- A vendor from its fields; the types were read before. -/
def ofFields (fields : List (String × Value)) (types : List TypeInfo) : Except Failure Vendor :=
  let naming : Checked (List String) :=
    match fields.lookup "schema_exclude_set" with
    | none => .ok []
    | some v => Checked.below "naming" (Checked.below "schema_exclude_set"
        (Checked.listOf .setType (fun item => Checked.atPlace [] (Field.text item)) v))
  Checked.orFail <|
    (Checked.both (Checked.required fields "name" Field.text)
      (Checked.both naming
        (Checked.both (Checked.withDefault fields "result_set_table_schema" "TABLE_SCHEM" Field.text)
          (Checked.both (Checked.withDefault fields "schema_rows_have_catalog" true Field.flag)
            (Checked.both
              (Checked.withDefault fields "lookup_level" .schema
                (Field.oneOf .literal [("catalog", LookupLevel.catalog), ("schema", .schema)]))
              (Checked.withDefault fields "catalog_query" none (Field.optional Field.text))))))).map
      fun (name, excluded, schemaField, catalogInSchemaRows, lookupLevel, catalogQuery) =>
        { name, excluded := excluded.eraseDups, types := TypeInfo.distinct types, schemaField,
          catalogInSchemaRows, lookupLevel, catalogQuery }

end Vendor

end SchemaAtlas
