import SchemaAtlas.Text.Percent
import SchemaAtlas.Text.Word
import SchemaAtlas.Value.Access

/-!
# Addresses of databases

An address names a dialect, and possibly a driver behind a plus, then a user with a password, a host, a
port, a database and settings. User, password and database are percent-encoded. An address is read as
far as it goes: what follows the parts that were recognised is dropped.
-/

namespace SchemaAtlas

/-- The address of a database. -/
structure Address where
  scheme : String
  user : Option String := none
  password : Option String := none
  host : Option String := none
  port : Option Int := none
  database : Option String := none
  settings : List (String × List String) := []
deriving Repr, DecidableEq

namespace Address

/-- Whether the character can stand in the name of a dialect or driver. -/
def inScheme (c : Char) : Bool :=
  Text.isWord c || c == '+'

/-- The scheme of an address, if it has one, and what follows the mark behind it. -/
def splitScheme (cs : List Char) : Option (List Char × List Char) :=
  match cs.takeWhile inScheme, cs.dropWhile inScheme with
  | [], _ => none
  | scheme, ':' :: '/' :: '/' :: rest => some (scheme, rest)
  | _, _ => none

/-- The text before the last of a sign and the text behind it. -/
def splitLast (sign : Char) (cs : List Char) : Option (List Char × List Char) :=
  match cs.reverse.dropWhile (· != sign) with
  | [] => none
  | _ :: before => some (before.reverse, (cs.reverse.takeWhile (· != sign)).reverse)

/-- The text before the first of a sign and the text behind it. -/
def splitFirst (sign : Char) (cs : List Char) : Option (List Char × List Char) :=
  match cs.dropWhile (· != sign) with
  | [] => none
  | _ :: rest => some (cs.takeWhile (· != sign), rest)

/-- The user and the password in front of a host. With a colon behind the user the password reaches up
to the next at sign, wherever that is; otherwise the user reaches up to the last at sign before a colon
or slash. -/
def splitUser (cs : List Char) : Option (List Char × Option (List Char)) × List Char :=
  let run := cs.takeWhile fun c => c != ':' && c != '/'
  let withPassword : Option (List Char × List Char) :=
    match cs.drop run.length with
    | ':' :: rest => splitFirst '@' rest
    | _ => none
  match withPassword, splitLast '@' run with
  | some (password, rest), _ => (some (run, some password), rest)
  | none, some (user, rest) => (some (user, none), rest ++ cs.drop run.length)
  | none, none => (none, cs)

/-- The host, which may stand in brackets. -/
def splitHost (cs : List Char) : Option (List Char) × List Char :=
  let bracketed : Option (List Char × List Char) :=
    match cs with
    | '[' :: rest =>
      let run := rest.takeWhile fun c => c != '/' && c != '?'
      match splitLast ']' run with
      | some ([], _) => none
      | some (host, behind) => some (host, behind ++ rest.drop run.length)
      | none => none
    | _ => none
  match bracketed, cs.takeWhile fun c => c != '/' && c != ':' && c != '?' with
  | some (host, rest), _ => (some host, rest)
  | none, [] => (none, cs)
  | none, host => (some host, cs.drop host.length)

/-- A part that a sign announces, up to where it ends. -/
def splitPart (sign : Char) (inside : Char → Bool) (cs : List Char) : Option (List Char) × List Char :=
  match cs with
  | c :: rest =>
    if c == sign then (some (rest.takeWhile inside), rest.dropWhile inside) else (none, cs)
  | [] => (none, [])

/-- Texts separated by a sign. -/
def pieces (sign : Char) (cs : List Char) : List (List Char) :=
  cs.foldr (fun c parts =>
    match parts with
    | [] => if c == sign then [[], []] else [[c]]
    | part :: more => if c == sign then [] :: part :: more else (c :: part) :: more) []

/-- Adds a value to those of a setting. -/
def addSetting (settings : List (String × List String)) (key value : String) :
    List (String × List String) :=
  match settings with
  | [] => [(key, [value])]
  | (k, values) :: rest =>
    if k == key then (k, values ++ [value]) :: rest else (k, values) :: addSetting rest key value

/-- The settings that a query writes; one without a value is none. -/
def readSettings (cs : List Char) : List (String × List String) :=
  (pieces '&' cs).foldl (fun settings piece =>
    match splitFirst '=' piece with
    | none => settings
    | some (_, []) => settings
    | some (key, value) =>
      addSetting settings (String.ofList (Text.formDecode key)) (String.ofList (Text.formDecode value))) []

/-- The text that a part stands for. -/
def decoded (part : Option (List Char)) : Option String :=
  part.map fun cs => String.ofList (Text.percentDecode cs)

/-- The port that a text writes; the text must be an integer. -/
def readPort (part : Option (List Char)) : Except Failure (Option Int) :=
  match part with
  | none => .ok none
  | some cs => (Value.text (String.ofList cs)).toInteger.map some

/-- The address that a text writes; without a scheme it writes none. -/
def parse? (s : String) : Option (Except Failure Address) :=
  (splitScheme s.toList).map fun (scheme, rest) => do
    let (user, rest) := splitUser rest
    let (host, rest) := splitHost rest
    let (port, rest) := splitPart ':' (fun c => c != '/' && c != '?') rest
    let (database, rest) := splitPart '/' (· != '?') rest
    let (query, _) := splitPart '?' (· != '\n') rest
    let port ← readPort port
    .ok
      { scheme := String.ofList scheme
        user := decoded (user.map (·.1))
        password := decoded (user.bind (·.2))
        host := host.map String.ofList
        port
        database := decoded database
        settings := readSettings (query.getD []) }

/-- The name of the dialect: the scheme up to a plus. -/
def dialect (address : Address) : String :=
  String.ofList (address.scheme.toList.takeWhile (· != '+'))

/-- What stands in front of the host. -/
def userText (address : Address) (hidePassword : Bool) : String :=
  match address.user, address.password with
  | none, _ => ""
  | some user, none => Text.percentEncode [' ', '+'] user ++ "@"
  | some user, some password =>
    let shown := if hidePassword then "***" else Text.percentEncode [' ', '+'] password
    Text.percentEncode [' ', '+'] user ++ ":" ++ shown ++ "@"

/-- The host, in brackets if it holds a colon. -/
def hostText (address : Address) : String :=
  match address.host with
  | none => ""
  | some host => if host.toList.contains ':' then "[" ++ host ++ "]" else host

/-- The settings, ordered by their keys. -/
def settingsText (address : Address) : String :=
  let sorted := address.settings.mergeSort fun a b => a.1 ≤ b.1
  let texts := sorted.flatMap fun (key, values) =>
    values.map fun value => Text.formEncode key ++ "=" ++ Text.formEncode value
  if texts.isEmpty then "" else "?" ++ String.intercalate "&" texts

/-- The text of an address, with the password shown or hidden. -/
def text (address : Address) (hidePassword : Bool) : String :=
  address.scheme ++ "://" ++ address.userText hidePassword ++ address.hostText ++
    ((address.port.map fun n => ":" ++ toString n).getD "") ++
    ((address.database.map fun name => "/" ++ Text.percentEncode [' ', '+', '/'] name).getD "") ++
    address.settingsText

/-- With the password hidden, the text does not depend on what the password is. -/
theorem text_hidden (address : Address) (password other : String) :
    ({ address with password := some password } : Address).text true =
      ({ address with password := some other } : Address).text true := by
  obtain ⟨_, user, _, _, _, _, _⟩ := address
  cases user <;> rfl

end Address

end SchemaAtlas
