import SchemaAtlas.CommandLine.Basic

/-!
# The program

Reads the file that the arguments name, runs their command and prints what it came to. The program has no
engine of its own for any database, so every attempt to make one fails.
-/

namespace SchemaAtlas

/-- Why no engine can be made. -/
def noEngine : Failure :=
  Failure.faultText .runtime "no engine for any database"

/-- The text of a file, if it can be read. -/
def readFile? (path : String) : IO (Option String) := do
  try
    pure (some (← IO.FS.readFile path))
  catch _ => pure none

/-- The variables of the environment that settings can come from. -/
def readVariables (names : List String) : IO (List (String × String)) :=
  names.filterMapM fun name => do
    pure ((← IO.getEnv name).map (name, ·))

/-- The names of the variables that are looked at. -/
def variableNames : List String :=
  ["DBCRAWL_DATABASES", "DBCRAWL_EXECUTION", "DBCRAWL_EXECUTION__MAX_ATTEMPTS",
   "DBCRAWL_EXECUTION__TRANSIENT_SQLSTATES", "DBCRAWL_EXECUTION__ROW_IDENTIFIER_TYPES"]

/-- The path of the settings that a command needs. -/
def configOf : CommandLine.Command → String
  | .check config _ => config
  | .crawl _ config _ _ => config

end SchemaAtlas

/-- Runs the command of the arguments. -/
def main (arguments : List String) : IO UInt32 := do
  let path := ((SchemaAtlas.CommandLine.commandOf arguments).map SchemaAtlas.configOf).getD ""
  let file ← SchemaAtlas.readFile? path
  let environment ← SchemaAtlas.readVariables SchemaAtlas.variableNames
  let surroundings : SchemaAtlas.CommandLine.Surroundings := ⟨fun _ => file, environment⟩
  let world : SchemaAtlas.World := { engines := List.replicate 1000 (.error SchemaAtlas.noEngine) }
  let (outcome, _) := SchemaAtlas.CommandLine.run surroundings arguments world
  IO.print outcome.output
  IO.eprint outcome.errors
  if let some f := outcome.escaped then IO.eprintln f.message
  if let some (path, document) := outcome.written then IO.FS.writeFile path document
  pure (UInt32.ofNat outcome.exitCode)
