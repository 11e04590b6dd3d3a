import SchemaAtlas.Provider.World

/-!
# Providers of connections

A provider knows the address of one database. It makes an engine when the first connection is needed,
and a new one when it was closed in between. Failures of the database layer are told as failures to
connect, in which the password is never shown.
-/

namespace SchemaAtlas

/-- What connections to a database need. -/
structure Provider where
  label : String
  address : Address
  options : List (String × Value) := []

namespace Provider

/-- What a provider works on: the world and the engine it has there. -/
structure State where
  world : World := {}
  engine : Option EngineId := none

/-- The failure of an address that cannot be read. -/
def invalidAddress (label : String) : Failure :=
  .plain .connectivity
    s!"Invalid connection string for {label}: Could not parse SQLAlchemy URL from given URL string"

/-- The provider of an address; a user or a password that is given takes the place of the one in the
address. -/
def ofText (label address : String) (user password : Option String) (options : List (String × Value)) :
    Except Failure Provider :=
  match Address.parse? address with
  | none => .error (invalidAddress label)
  | some (.error f) => .error f
  | some (.ok address) =>
    .ok { label, options,
          address := { address with user := user.or address.user, password := password.or address.password } }

/-- How messages name the database. -/
def description (provider : Provider) : String :=
  let address := provider.address.text true
  let user := displayName provider.address.user
  s!"{provider.label} using url \"{address}\", user = {user}, password = ********"

/-- The failure of making an engine. -/
def engineFailed (provider : Provider) (f : Failure) : Failure :=
  let description := provider.description
  .becauseOf .connectivity s!"Failed to create engine for {description}: {f.message}" f

/-- The text of a failure to get a connection. -/
def unableText (provider : Provider) : String :=
  "Unable to get connection for " ++ provider.description

/-- A computation on the world alone. -/
def onWorld {α : Type} (body : Keeping World α) : Keeping State α :=
  Keeping.onPart State.world (fun world state => { state with world }) body

/-- The engine, which is made if there is none. -/
def connect (provider : Provider) : Keeping State EngineId := do
  match (← get).engine with
  | some id => pure id
  | none =>
    let request : EngineRequest := ⟨provider.address.text false, provider.options⟩
    match ← Keeping.attempt (onWorld (World.makeEngine request)) with
    | .error f => throw (provider.engineFailed f)
    | .ok id =>
      modify fun state => { state with engine := some id }
      pure id

/-- Gives up the engine, if there is one. -/
def close : Keeping State Unit := do
  match (← get).engine with
  | none => pure ()
  | some id =>
    onWorld (World.dispose id)
    modify fun state => { state with engine := none }

/-- A connection of the engine. -/
def acquire (provider : Provider) : Keeping State Link := do
  let id ← provider.connect
  match ← Keeping.attempt (onWorld (World.onPool id Pool.acquire)) with
  | .ok link => pure link
  | .error f =>
    if f.isDatabase then
      onWorld (World.write [⟨.error, provider.unableText⟩])
      throw (.becauseOf .connectivity provider.unableText f)
    else throw f

/-- Hands a connection back to the engine it came from. -/
def giveBack (link : Link) : Keeping State Unit := do
  match (← get).engine with
  | none => pure ()
  | some id => onWorld (World.onPool id (Pool.supplier.giveBack link))

/-- The provider as a supplier of connections. -/
def supplier (provider : Provider) : Supplier State where
  acquire := provider.acquire
  giveBack := giveBack
  log entry := onWorld (World.write [entry])

end Provider

end SchemaAtlas
