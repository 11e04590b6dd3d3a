import SchemaAtlas.Settings.Environment
import SchemaAtlas.Yaml.Reader

/-!
# Settings of a file

The settings are those of the environment with those of a file laid over them. A file that is empty, or
holds something that counts as false, sets nothing; otherwise it must hold a mapping whose keys are
texts. Whatever is wrong with the file is told as one failure of configuration; a variable that cannot
be read is told as it is.
-/

namespace SchemaAtlas.Settings

open Yaml (Datum Entries)

/-- The failure of a file that does not exist. -/
def fileMissing (path : String) : Failure :=
  .plain .configuration s!"Config file not found: {path}"

/-- The failure of settings that are not well formed. -/
def malformed (f : Failure) : Failure :=
  .whileHandling .configuration s!"Invalid configuration format: {f.message}" f

/-- How a datum is named that is no mapping. -/
def datumKind (datum : Datum) : String :=
  let t := datum.toValue.typeName
  if t.home == "builtins" then t.path else t.full

/-- The failure of a file that holds no mapping. -/
def noMapping (datum : Datum) : Failure :=
  let kind := datumKind datum
  Failure.faultText .wrongType s!"dbcrawl.config.AppConfig() argument after ** must be a mapping, not {kind}"

/-- The failure of a file with a field that is not named by a text. -/
def unnamedField : Failure :=
  Failure.faultText .wrongType "keywords must be strings"

/-- Whether a datum counts as true. -/
def holds : Datum → Bool
  | .scalar v => v.isTrue
  | .list items => !items.isEmpty
  | .mapping entries => !entries.isEmpty

/-- Whether the key of an entry is a text. -/
def isNamed : Value → Bool
  | .text _ => true
  | _ => false

/-- The fields of a file's datum. -/
def fileEntries (datum : Datum) : Except Failure Entries :=
  if holds datum then
    match datum with
    | .mapping entries => if entries.all fun entry => isNamed entry.1 then .ok entries else .error unnamedField
    | datum => .error (noMapping datum)
  else .ok []

/-- The outermost fields under their own names: letter case does not matter, and a field that is named
exactly goes before one that is not. -/
def ownNames (entries : Entries) : Entries :=
  let own (key : Value) : Value :=
    match key with
    | .text name => if known.contains (Text.lower name) then .text (Text.lower name) else key
    | key => key
  let exact := entries.filter fun entry => Yaml.sameKey (own entry.1) entry.1
  entries.foldl (fun fields (key, datum) =>
    if Yaml.sameKey (own key) key || (Entries.get? exact (own key)).isNone then fields.put (own key) datum
    else fields) []

/-- The fields of a file's text. -/
def fileFields (text : String) : Except Failure Entries :=
  match Yaml.parse? text with
  | none => .error (malformed (.unreadable .yaml))
  | some datum =>
    match fileEntries datum with
    | .ok entries => .ok (ownNames entries)
    | .error f => .error (malformed f)

/-- The settings of fields in which those of a file cover those of the environment. -/
def ofEntries (environment file : Entries) : Except Failure Settings :=
  match ofFields (Entries.named (Datum.mergeEntries environment file)) with
  | .ok settings => .ok settings
  | .error issues => .error (malformed (.refused issues))

/-- The settings of a file, whose text is absent if the file does not exist, and of the environment. -/
def load (path : String) (text : Option String) (environment : List (String × String)) :
    Except Failure Settings := do
  match text with
  | none => .error (fileMissing path)
  | some text =>
    let file ← fileFields text
    ofEntries (← Environment.settings environment) file

end SchemaAtlas.Settings
