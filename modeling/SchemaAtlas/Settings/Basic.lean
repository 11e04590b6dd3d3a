import SchemaAtlas.Crawl.Filter
import SchemaAtlas.Session.Batch
import SchemaAtlas.Value.Field
import SchemaAtlas.Yaml.Datum

/-!
# Settings

Settings name the databases and say how write batches are run. They are read from structured settings:
every refused value is reported with its place, all of them at once. Fields that are not known are
ignored, except on the outermost level.
-/

namespace SchemaAtlas

open Yaml (Datum Entries)

/-- The settings of one database. -/
structure DatabaseSettings where
  label : String
  type : Option String := none
  address : String
  user : Option String := none
  password : Option String := none
  patterns : List String := []
  readOnly : Bool := true
deriving Repr, DecidableEq

namespace DatabaseSettings

/-- A list of texts. -/
def readTexts (v : Value) : Checked (List String) :=
  Checked.listOf .listType (fun item => Checked.atPlace [] (Field.text item)) v

/-- The patterns of the schemas to be read. -/
def readPatterns (fields : List (String × Value)) : Checked (List String) :=
  match fields.lookup "include_schemas" with
  | none => .ok []
  | some v => Checked.below "include_schemas" (readTexts v)

/-- The settings of a database from their fields. -/
def ofFields (fields : List (String × Value)) : Checked DatabaseSettings :=
  let name (field : String) : Checked (Option String) :=
    Checked.withDefault fields field none (Field.optional Field.text)
  (Checked.both (Checked.required fields "alias" Field.text)
    (Checked.both (name "type")
      (Checked.both (Checked.required fields "connection_string" Field.text)
        (Checked.both (name "username")
          (Checked.both (name "password")
            (Checked.both (readPatterns fields)
              (Checked.withDefault fields "read_only_queries" true Field.flag))))))).map
    fun (label, type, address, user, password, patterns, readOnly) =>
      { label, type, address, user, password, patterns, readOnly }

/-- The settings of a database from a datum, which must be a mapping. -/
def ofDatum (datum : Datum) : Checked DatabaseSettings :=
  match datum.fields? with
  | some fields => ofFields fields
  | none => .error [⟨[], .modelType⟩]

/-- The filter of the schemas to be read. -/
def filter (settings : DatabaseSettings) : SchemaFilter :=
  .ofPatterns settings.patterns

/-- The type of the database, which an empty text does not tell. -/
def type? (settings : DatabaseSettings) : Option String :=
  settings.type.filter (!·.isEmpty)

/-- What stands for a password where it must not be read. -/
def shownPassword (settings : DatabaseSettings) : Option String :=
  settings.password.map fun password => if password.isEmpty then "" else "**********"

end DatabaseSettings

/-- The settings of write batches. -/
structure ExecutionSettings where
  maxAttempts : Int := 5
  transient : TransientTable := .default
  rowIdentifiers : List String := ["ROWID", "oracle.sql.ROWID"]

namespace ExecutionSettings

/-- A number of attempts, which must be positive. -/
def readAttempts (v : Value) : Reading Int :=
  match Field.integer v with
  | .ok n => if n < 1 then .error .tooSmall else .ok n
  | .error kind => .error kind

/-- How a key is named in the place of a refusal. -/
def keyPlace : Value → String
  | .text s => s
  | .bool b => if b then "1" else "0"
  | v => v.literal

/-- An entry of the table of transient failures. -/
def readEntry (key : Value) (datum : Datum) : Checked (String × TransientKind) :=
  Checked.below (keyPlace key)
    (Checked.both (Checked.atPlace ["[key]"] (Field.text key))
      (Checked.atPlace [] (Field.oneOf .enumeration TransientKind.byText datum.toValue)))

/-- The table of transient failures. -/
def readTransient : Datum → Checked TransientTable
  | .mapping entries => Checked.all (entries.map fun (key, datum) => readEntry key datum)
  | _ => .error [⟨[], .recordType⟩]

/-- The settings of write batches from the entries of a mapping. -/
def ofEntries (entries : Entries) : Checked ExecutionSettings :=
  let default : ExecutionSettings := {}
  let read {α : Type} (field : String) (otherwise : α) (read : Datum → Checked α) : Checked α :=
    match Entries.get? entries (.text field) with
    | none => .ok otherwise
    | some datum => Checked.below field (read datum)
  (Checked.both
    (read "max_attempts" default.maxAttempts fun datum => Checked.atPlace [] (readAttempts datum.toValue))
    (Checked.both (read "transient_sqlstates" default.transient readTransient)
      (read "row_identifier_types" default.rowIdentifiers fun datum =>
        DatabaseSettings.readTexts datum.toValue))).map
    fun (maxAttempts, transient, rowIdentifiers) => { maxAttempts, transient, rowIdentifiers }

/-- The settings of write batches from a datum, which must be a mapping. -/
def ofDatum : Datum → Checked ExecutionSettings
  | .mapping entries => ofEntries entries
  | _ => .error [⟨[], .modelType⟩]

/-- How write batches are run by the settings. -/
def policy (settings : ExecutionSettings) : Batch.Policy where
  transient := settings.transient
  maxAttempts := settings.maxAttempts.toNat
  rowIdentifiers := settings.rowIdentifiers

end ExecutionSettings

/-- The settings as a whole. -/
structure Settings where
  databases : List DatabaseSettings := []
  execution : ExecutionSettings := {}

namespace Settings

/-- The databases, which must be a list. -/
def readDatabases : Datum → Checked (List DatabaseSettings)
  | .list data =>
    Checked.all (data.zipIdx.map fun (datum, place) =>
      Checked.below (toString place) (DatabaseSettings.ofDatum datum))
  | _ => .error [⟨[], .listType⟩]

/-- The fields that are known on the outermost level. -/
def known : List String := ["databases", "execution"]

/-- Refuses the fields that are not known. -/
def readOthers (fields : List (String × Datum)) : Checked Unit :=
  match fields.filter fun field => !known.contains field.1 with
  | [] => .ok ()
  | others => .error (others.map fun field => ⟨[field.1], .extra⟩)

/-- The settings from their fields. -/
def ofFields (fields : List (String × Datum)) : Checked Settings :=
  let read {α : Type} (field : String) (otherwise : α) (read : Datum → Checked α) : Checked α :=
    match fields.lookup field with
    | none => .ok otherwise
    | some datum => Checked.below field (read datum)
  (Checked.both (read "databases" [] readDatabases)
    (Checked.both (read "execution" {} ExecutionSettings.ofDatum) (readOthers fields))).map
    fun (databases, execution, _) => { databases, execution }

/-- The failure of asking for a database that is not among the settings. -/
def unknownLabel (label : String) : Failure :=
  .plain .configuration s!"Database alias '{label}' not found in config"

/-- The settings of the first database with a label. -/
def database (settings : Settings) (label : String) : Except Failure DatabaseSettings :=
  match settings.databases.find? fun database => database.label == label with
  | some database => .ok database
  | none => .error (unknownLabel label)

end Settings

end SchemaAtlas
