/-!
# Arguments of the command line

The first argument names a command; options and positional arguments follow in any order. An option has
a long name and a letter. Letters can be written together, and the value of an option can be written
behind its letter, behind its long name and an equals sign, or as the next argument. Behind two hyphens
all arguments are positional.
-/

namespace SchemaAtlas.CommandLine

/-- What is to be done. -/
inductive Command where
  | check (config : String) (verbose : Bool)
  | crawl (label config : String) (patterns : List String) (output : Option String)
deriving Repr, DecidableEq

/-- An option: its long name, its letter, and whether it has a value. -/
structure Flag where
  name : String
  letter : Char
  hasValue : Bool
deriving Repr, DecidableEq

/-- The path of the settings. -/
def configFlag : Flag := ⟨"config", 'c', true⟩

/-- Whether more is told. -/
def verboseFlag : Flag := ⟨"verbose", 'v', false⟩

/-- A pattern of schemas to be read. -/
def schemaFlag : Flag := ⟨"schema", 's', true⟩

/-- The path that the document is written to. -/
def outputFlag : Flag := ⟨"output", 'o', true⟩

/-- Arguments taken apart: the options with their values, and the positional arguments. -/
structure Parts where
  options : List (Flag × String) := []
  positional : List String := []

namespace Parts

/-- The parts with an option in front. -/
def withOption (flag : Flag) (value : String) (parts : Parts) : Parts :=
  { parts with options := (flag, value) :: parts.options }

/-- The values of an option, in order. -/
def values (parts : Parts) (flag : Flag) : List String :=
  (parts.options.filter fun option => option.1 == flag).map (·.2)

/-- The value of an option, the last one counting. -/
def value? (parts : Parts) (flag : Flag) : Option String :=
  (parts.values flag).getLast?

end Parts

/-- An argument by its form. -/
inductive Form where
  | endOfOptions
  | long (name : String) (value : Option String)
  | letters (letters : List Char)
  | positional
deriving Repr, DecidableEq

/-- The form of an argument. -/
def formOf (argument : String) : Form :=
  match argument.toList with
  | ['-', '-'] => .endOfOptions
  | '-' :: '-' :: rest =>
    match rest.dropWhile (· != '=') with
    | [] => .long (String.ofList rest) none
    | _ :: value => .long (String.ofList (rest.takeWhile (· != '='))) (some (String.ofList value))
  | '-' :: c :: rest => .letters (c :: rest)
  | _ => .positional

/-- The options that letters stand for; behind the letter of an option with a value its value follows,
unless nothing does. -/
def lettersOf (flags : List Flag) : List Char → Option (List Flag × Option (Flag × Option String))
  | [] => some ([], none)
  | c :: rest =>
    match flags.find? fun flag => flag.letter == c with
    | none => none
    | some flag =>
      if flag.hasValue then
        some ([], some (flag, if rest.isEmpty then none else some (String.ofList rest)))
      else (lettersOf flags rest).map fun (more, last) => (flag :: more, last)

/-- Takes arguments apart. -/
def split (flags : List Flag) : List String → Option Parts
  | [] => some {}
  | argument :: rest =>
    match formOf argument with
    | .endOfOptions => some { positional := rest }
    | .positional =>
      (split flags rest).map fun parts => { parts with positional := argument :: parts.positional }
    | .long name value =>
      match flags.find? fun flag => flag.name == name with
      | none => none
      | some flag =>
        match flag.hasValue, value, rest with
        | true, some value, rest => (split flags rest).map (·.withOption flag value)
        | true, none, value :: rest => (split flags rest).map (·.withOption flag value)
        | true, none, [] => none
        | false, some _, _ => none
        | false, none, rest => (split flags rest).map (·.withOption flag "")
    | .letters letters =>
      match lettersOf flags letters with
      | none => none
      | some (plain, last) =>
        let withPlain (parts : Parts) : Parts :=
          plain.foldr (fun flag parts => parts.withOption flag "") parts
        match last, rest with
        | none, rest => (split flags rest).map withPlain
        | some (flag, some value), rest =>
          (split flags rest).map fun parts => withPlain (parts.withOption flag value)
        | some (flag, none), value :: rest =>
          (split flags rest).map fun parts => withPlain (parts.withOption flag value)
        | some (_, none), [] => none

/-- The command that takes no positional argument. -/
def checkOf (arguments : List String) : Option Command := do
  let parts ← split [configFlag, verboseFlag] arguments
  let config ← parts.value? configFlag
  match parts.positional with
  | [] => some (.check config (parts.value? verboseFlag).isSome)
  | _ => none

/-- The command that takes the label of a database. -/
def crawlOf (arguments : List String) : Option Command := do
  let parts ← split [configFlag, schemaFlag, outputFlag, verboseFlag] arguments
  let config ← parts.value? configFlag
  match parts.positional with
  | [label] => some (.crawl label config (parts.values schemaFlag) (parts.value? outputFlag))
  | _ => none

/-- The command of some arguments, if they make sense. -/
def commandOf : List String → Option Command
  | "check-conn" :: rest => checkOf rest
  | "crawl" :: rest => crawlOf rest
  | "--" :: "check-conn" :: rest => checkOf rest
  | "--" :: "crawl" :: rest => crawlOf rest
  | _ => none

end SchemaAtlas.CommandLine
