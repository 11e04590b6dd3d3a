import SchemaAtlas.Atlas.Reference
import SchemaAtlas.CommandLine.Arguments
import SchemaAtlas.Handler
import SchemaAtlas.Settings.File

/-!
# The command line

One command checks every database of the settings and reads its schemas; the other reads one database
and prints its document. Failures of this library are told in a line and make the exit code one; any
other failure escapes. Arguments that make no sense have an exit code of their own.
-/

namespace SchemaAtlas.CommandLine

/-- What a command printed and wrote, how it ended, and the failure that escaped it. -/
structure Outcome where
  exitCode : Nat := 0
  output : String := ""
  errors : String := ""
  escaped : Option Failure := none
  written : Option (String × String) := none

/-- The exit code of arguments that make no sense. -/
def usageCode : Nat := 2

namespace Outcome

/-- The outcome with one more line printed. -/
def say (outcome : Outcome) (line : String) : Outcome :=
  { outcome with output := outcome.output ++ line ++ "\n" }

/-- The outcome with one more line among the errors, and failed. -/
def complain (outcome : Outcome) (line : String) : Outcome :=
  { outcome with errors := outcome.errors ++ line ++ "\n", exitCode := 1 }

/-- The outcome, failed. -/
def failed (outcome : Outcome) : Outcome :=
  { outcome with exitCode := 1 }

/-- The outcome that a failure escaped from. -/
def escape (outcome : Outcome) (f : Failure) : Outcome :=
  { outcome with exitCode := 1, escaped := some f }

end Outcome

/-! ## Checking -/

/-- The line that announces a check. -/
def checkingText (settings : DatabaseSettings) : String :=
  let kind := settings.type?.getD "auto"
  s!"Checking {settings.label} ({kind})..."

/-- The line of a table, with the number of its columns. -/
def tableText (atlas : Atlas) (table : NodeId) : String :=
  let schema := displayName ((atlas.parentOf table).bind atlas.nameOf)
  let name := displayName (atlas.nameOf table)
  let columns := (atlas.collection table .column).length
  s!"     - {schema}.{name}: {columns} columns"

/-- What is told of a database that was read. -/
def foundTexts (charted : Charted) (verbose : Bool) : List String :=
  let tables := charted.atlas.tables charted.dbms
  let schemas := (charted.atlas.collection charted.dbms .schema).length
  let count := tables.length
  s!"   Found {schemas} schemas, {count} tables." ::
    if verbose then tables.map (tableText charted.atlas) else []

/-- What is told of a check, and whether it succeeded. -/
def reportTexts (label : String) (health : Health) (charted : Option Charted) (verbose : Bool) :
    List String × Bool :=
  match charted with
  | some charted =>
    let latency := health.latency.text
    (s!"✅ {label}: Connection Successful ({latency}ms)" :: foundTexts charted verbose, true)
  | none =>
    let error := displayName health.error
    ([s!"❌ {label}: Connection Failed. Error: {error}"], false)

/-- The line of a check that could not be made. -/
def processingText (label : String) (f : Failure) : String :=
  s!"⚠️ Error processing {label}: {f.message}"

/-- What a check of a database comes to. -/
def diagnose (settings : DatabaseSettings) (execution : ExecutionSettings) :
    Keeping World (Health × Option Charted) := do
  let handler ← Keeping.settle (Handler.ofSettings settings execution)
  Keeping.onPart (fun world => { reach := { world } }) (fun state _ => state.reach.world)
    (handler.diagnose (some settings.filter))

/-- Checks databases one after the other; a failure that escapes ends this, and so does any other if more
is to be told. -/
def checkAll (execution : ExecutionSettings) (verbose : Bool) :
    List DatabaseSettings → Outcome → World → Outcome × World
  | [], outcome, world => (outcome, world)
  | settings :: rest, outcome, world =>
    let outcome := outcome.say (checkingText settings)
    match diagnose settings execution world with
    | (.ok (health, charted), world) =>
      let (texts, succeeded) := reportTexts settings.label health charted verbose
      let outcome := texts.foldl Outcome.say outcome
      checkAll execution verbose rest (if succeeded then outcome else outcome.failed) world
    | (.error f, world) =>
      if f.isOwn then
        let outcome := (outcome.say (processingText settings.label f)).failed
        if verbose then (outcome.escape f, world) else checkAll execution verbose rest outcome world
      else (outcome.escape f, world)

/-- Checks all databases of the settings. -/
def check (settings : Settings) (verbose : Bool) (world : World) : Outcome × World :=
  let count := settings.databases.length
  checkAll settings.execution verbose settings.databases
    (({} : Outcome).say s!"Starting connectivity check for {count} databases...") world

/-! ## Crawling -/

/-- Reads the database with a label; patterns that are given take the place of those of the settings. -/
def readDatabase (settings : Settings) (label : String) (patterns : List String) :
    Keeping World Charted := do
  let database ← Keeping.settle (settings.database label)
  let database := if patterns.isEmpty then database else { database with patterns }
  let handler ← Keeping.settle (Handler.ofSettings database settings.execution)
  Keeping.onPart (fun world => { reach := { world } }) (fun state _ => state.reach.world)
    (handler.read (some database.filter))

/-- Prints a document, or writes it to a path. -/
def deliver (charted : Charted) (path : Option String) : Outcome :=
  let document := charted.atlas.documentText (some 2) charted.dbms
  match path with
  | none => ({} : Outcome).say document
  | some path =>
    let count := (charted.atlas.tables charted.dbms).length
    { ({} : Outcome).say s!"✅ Wrote {count} tables to {path}" with written := some (path, document) }

/-- Reads one database and prints or writes its document. -/
def crawl (settings : Settings) (label : String) (patterns : List String) (path : Option String)
    (world : World) : Outcome × World :=
  match readDatabase settings label patterns world with
  | (.ok charted, world) => (deliver charted path, world)
  | (.error f, world) =>
    let outcome : Outcome := {}
    (if f.isOwn then outcome.complain s!"❌ Crawl failed: {f.message}" else outcome.escape f, world)

/-! ## Running -/

/-- The files that there are, and the environment. -/
structure Surroundings where
  file : String → Option String
  environment : List (String × String) := []

/-- Runs what needs the settings of a path. -/
def withSettings (surroundings : Surroundings) (path : String)
    (use : Settings → World → Outcome × World) (world : World) : Outcome × World :=
  match Settings.load path (surroundings.file path) surroundings.environment with
  | .ok settings => use settings world
  | .error f =>
    let outcome : Outcome := {}
    (if f.isOwn then outcome.complain s!"Error loading config: {f.message}" else outcome.escape f, world)

/-- Runs the command of some arguments. -/
def run (surroundings : Surroundings) (arguments : List String) (world : World) : Outcome × World :=
  match commandOf arguments with
  | none => ({ exitCode := usageCode }, world)
  | some (.check config verbose) =>
    withSettings surroundings config (fun settings => check settings verbose) world
  | some (.crawl label config patterns output) =>
    withSettings surroundings config (fun settings => crawl settings label patterns output) world

end SchemaAtlas.CommandLine
