import SchemaAtlas.Crawl.Notes

/-!
# Resolving the vendor's types

A vendor that declares its types is resolved without asking the source; otherwise the source lists them.
The whole listing is read, and its cursor closed, before the first type is mapped.
-/

namespace SchemaAtlas.Crawl

/-- A vendor type from a row of the type listing. -/
def typeOfRow (row : Value) : Except Failure TypeInfo := do
  let name ← row.field "TYPE_NAME"
  let code ← row.field "DATA_TYPE"
  let precision ← row.fieldOrNull "PRECISION"
  let typeClass ← row.fieldOrNull "SQL_TYPE"
  TypeInfo.ofFields [("sql_type_name", name), ("data_type", code),
    ("precision", if precision.isTrue then precision else .int 0), ("sql_type", typeClass)]

/-- The vendor types of the rows of the type listing. -/
def typesOfRows : List Row → Except Failure (List TypeInfo)
  | [] => .ok []
  | .error f :: _ => .error f
  | .ok row :: rest => do
    let info ← typeOfRow row
    let more ← typesOfRows rest
    .ok (info :: more)

/-- The type mapping of the vendor. -/
def resolveTypes {Notes : Type} (vendor : Vendor) (codes : CodeTable) (source : Source) :
    Keeping (Survey Notes) TypeMapping := do
  if vendor.types.isEmpty then
    let infos ← Survey.consume source .typeInfo fun rows => Keeping.settle (typesOfRows rows)
    Keeping.settle (TypeMapping.ofInfos codes [] infos)
  else Keeping.settle (TypeMapping.ofInfos codes [] vendor.types)

end SchemaAtlas.Crawl
