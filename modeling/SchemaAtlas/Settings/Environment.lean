import SchemaAtlas.Settings.Basic
import SchemaAtlas.Text.Case
import SchemaAtlas.Value.JsonReader

/-!
# Settings of the environment

A variable of the environment sets one of the outermost fields, or a field below it: two underscores
lead one level down. Letter case does not matter. Where a field is a list or a mapping the variable holds
structured text, and where it does not the settings cannot be read. Variables that stand for no field
are ignored.
-/

namespace SchemaAtlas.Environment

open Yaml (Datum Entries)

/-- What the text of a variable can be: a text, structured text, a table of entries that are structured
text where they can be read as such, or the fields of a group. -/
inductive Shape where
  | plain
  | structured
  | table
  | entry
  | group (fields : List (String × Shape))

namespace Shape

/-- The shape one level down. -/
def under : Shape → String → Option Shape
  | .group fields, name => fields.lookup name
  | .table, _ => some .entry
  | _, _ => none

/-- The shape of the settings of a database. -/
def database : Shape := .group
  [("alias", .plain), ("type", .plain), ("connection_string", .plain), ("username", .plain),
   ("password", .plain), ("include_schemas", .structured), ("read_only_queries", .plain)]

/-- The shape of the settings of write batches. -/
def execution : Shape := .group
  [("max_attempts", .plain), ("transient_sqlstates", .table), ("row_identifier_types", .structured)]

/-- The outermost fields and their shapes. -/
def fields : List (String × Shape) :=
  [("databases", database), ("execution", execution)]

end Shape

/-- What every variable of these settings starts with, in small letters. -/
def lead : String := "dbcrawl_"

/-- The variables by their names in small letters; of equal names the last counts. -/
def textsByName (environment : List (String × String)) : List (String × String) :=
  environment.foldl (fun known (name, text) => put known (Text.lower name) text) []
where
  put (known : List (String × String)) (name text : String) : List (String × String) :=
    match known with
    | [] => [(name, text)]
    | (n, old) :: rest => if n == name then (n, text) :: rest else (n, old) :: put rest name text

/-- What the text of a variable stands for. -/
def read (shape : Option Shape) (text : String) : Option Datum :=
  match shape with
  | some .structured => strict
  | some .table => strict
  | some (.group _) => strict
  | some .entry => some (((Json.parse text).map Datum.ofValue).getD (.scalar (.text text)))
  | _ => some (.scalar (.text text))
where
  strict : Option Datum :=
    if text.isEmpty then some (.scalar (.text text)) else (Json.parse text).map Datum.ofValue

/-- Sets a datum so many levels down, unless something that is no mapping stands in the way. -/
def setBelow (entries : Entries) (path : List String) (last : String) (datum : Datum) : Entries :=
  match path with
  | [] => entries.put (.text last) datum
  | name :: rest =>
    match (Entries.get? entries (.text name)).getD (.mapping []) with
    | .mapping inner => entries.put (.text name) (.mapping (setBelow inner rest last datum))
    | _ => entries

/-- The failure of a variable whose text cannot be read. -/
def unreadable (field : String) : Failure := .setting field

/-- The names that double underscores keep apart, the first of which begins with these characters. -/
def namesFrom (begun : List Char) : List Char → List String
  | [] => [String.ofList begun]
  | '_' :: '_' :: rest => String.ofList begun :: namesFrom [] rest
  | c :: rest => namesFrom (begun ++ [c]) rest

/-- What a variable adds to a field, if it belongs to the field. -/
def addVariable (field : String) (shape : Shape) (entries : Entries) (name text : String) :
    Except Failure Entries :=
  let front := lead ++ field ++ "__"
  if front.toList.isPrefixOf name.toList then
    let names := namesFrom [] (name.toList.drop front.length)
    let (path, last) := (names.dropLast, names.getLastD "")
    let reached := names.foldl (fun shape name => shape.bind (·.under name)) (some shape)
    match read reached text with
    | some datum => .ok (setBelow entries path last datum)
    | none => .error (unreadable field)
  else .ok entries

/-- The fields below an outermost field that variables set. -/
def below (field : String) (shape : Shape) (texts : List (String × String)) :
    Except Failure Entries :=
  texts.foldlM (fun entries (name, text) => addVariable field shape entries name text) []

/-- The fields of a group under their own names. -/
def ownNames (fields : List (String × Shape)) (entries : Entries) : Entries :=
  entries.foldl (fun known (key, datum) =>
    match key with
    | .text name =>
      let own := (fields.find? fun field => field.1 == Text.lower name).map (·.1)
      known.put (.text (own.getD name)) datum
    | key => known.put key datum) []

/-- What the environment sets an outermost field to, if it sets it. -/
def field? (name : String) (shape : Shape) (texts : List (String × String)) :
    Except Failure (Option Datum) := do
  match texts.lookup (lead ++ name) with
  | none =>
    let entries ← below name shape texts
    .ok (if entries.isEmpty then none else some (.mapping entries))
  | some text =>
    match (Json.parse text).map Datum.ofValue with
    | none => .error (unreadable name)
    | some (.scalar .null) => .ok none
    | some (.mapping entries) =>
      .ok (some (Datum.merge (.mapping entries) (.mapping (← below name shape texts))))
    | some datum => .ok (some datum)

/-- The field with its own names, where it is the group of write batches. -/
def named (name : String) (shape : Shape) (datum : Datum) : Datum :=
  match shape, datum with
  | .group fields, .mapping entries =>
    if name == "execution" then .mapping (ownNames fields entries) else datum
  | _, datum => datum

/-- What the environment sets the outermost fields to. -/
def settings (environment : List (String × String)) : Except Failure Entries :=
  let texts := textsByName environment
  Shape.fields.foldlM (fun entries (name, shape) => do
    match ← field? name shape texts with
    | none => .ok entries
    | some datum => .ok (entries ++ [(.text name, named name shape datum)])) []

end SchemaAtlas.Environment
