import SchemaAtlas.Crawl.Notes

/-!
# Discovering schemas

The names of schemas come from two listings, schemas and catalogs. A name is accepted if it is not
absent, not excluded by the vendor (letter case does not matter) and passed by the filter, which is asked
about no other names. An accepted name becomes a schema once; the others are discarded, each noted once.
-/

namespace SchemaAtlas.Crawl

/-- The name in a row of the schema listing: the catalog's name where the schema's is absent. -/
def schemaName (vendor : Vendor) (row : Value) : Except Failure Value := do
  let name ← row.field vendor.schemaField
  match row.field "TABLE_CATALOG" with
  | .ok catalog => .ok (if name.isNull then catalog else name)
  | .error (.fault .missingKey _) => .ok name
  | .error f => .error f

/-- The name in a row of the catalog listing. -/
def catalogName (row : Value) : Except Failure Value :=
  row.field "TABLE_CAT"

/-- Whether the vendor excludes a name. Excluded names are texts, so only a text can be excluded. -/
def isExcluded (vendor : Vendor) (name : Value) : Except Failure Bool :=
  match name with
  | .text s => .ok ((vendor.excluded.map Text.lower).contains (Text.lower s))
  | .bytes _ => .ok false
  | v => .error (v.noAttribute "lower")

/-- Whether two names are the same. -/
def sameName : Value → Value → Bool
  | .null, .null => true
  | .text a, .text b => a == b
  | .bytes a, .bytes b => a == b
  | _, _ => false

/-- Whether the filter passes a name; the question is noted. -/
def passes (plan : Plan) (name : Value) : Step Bool := do
  match plan.filter with
  | none => pure true
  | some filter =>
    Survey.note fun notes => { notes with asked := notes.asked ++ [name] }
    Keeping.settle (filter name)

/-- Whether a name is accepted. -/
def isAccepted (plan : Plan) (name : Value) : Step Bool := do
  if name.isNull then pure false
  else if ← Keeping.settle (isExcluded plan.vendor name) then pure false
  else passes plan name

/-- Makes a schema of an accepted name, if there is none of that name. -/
def addSchema (dbms : NodeId) (name : Value) : Step Unit := do
  match ← Survey.childNamed dbms .schema name with
  | some _ => pure ()
  | none =>
    let schema ← Survey.add dbms .schema
    Survey.setValue schema "name" name

/-- Notes a name that is not accepted, if it was not noted before. -/
def discard (name : Value) : Step Unit :=
  Survey.note fun notes =>
    if notes.discarded.any (sameName name) then notes
    else { notes with discarded := notes.discarded ++ [name] }

/-- What becomes of one name. -/
def considerName (plan : Plan) (dbms : NodeId) (name : Value) : Step Unit := do
  if ← isAccepted plan name then addSchema dbms name else discard name

/-- Reads one listing of names. -/
def discover (plan : Plan) (dbms : NodeId) (call : Call) (nameOf : Value → Except Failure Value) :
    Step Unit :=
  explained (explainedBy dbms "list schemas of") <|
    Survey.consume plan.source call <|
      Survey.eachRow fun row => do considerName plan dbms (← Keeping.settle (nameOf row))

/-- The failure of accepting no name at all. -/
def noSchema (discarded : List Value) : Failure :=
  .plain (.noSchema discarded) ("Could not find any matching schema. " ++
    "The following schemas were considered: " ++ (Value.list discarded).literal ++ ".")

/-- Reads both listings of names; there must be a schema afterwards. -/
def discoverSchemas (plan : Plan) (dbms : NodeId) : Step Unit := do
  discover plan dbms .schemas (schemaName plan.vendor)
  discover plan dbms .catalogs catalogName
  let survey ← get
  if (survey.atlas.collection dbms .schema).isEmpty then throw (noSchema survey.notes.discarded)

end SchemaAtlas.Crawl
