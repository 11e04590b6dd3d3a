import SchemaAtlas.Atlas.Document
import SchemaAtlas.Atlas.Freeze
import SchemaAtlas.Crawl.Basic
import SchemaAtlas.Provider.Health
import SchemaAtlas.Session.Deferred
import SchemaAtlas.Session.Reflection
import SchemaAtlas.Settings.Basic

/-!
# Handlers

A handler does everything that is done with one database: it reads the schemas into a frozen document,
runs queries and runs write batches. What it read last, the document together with the type mapping, it
keeps; a reading that fails leaves both as they were. Documents share an atlas: each is read next to those
read before it.
-/

namespace SchemaAtlas

/-- A database and the ways in which it is used. -/
structure Handler where
  provider : Provider
  vendor : Vendor
  registry : Option Registry := none
  policy : Batch.Policy := {}
  readOnly : Bool := true

/-- A frozen document: an atlas, which holds the documents read before as well, and the node of the database
in it. -/
structure Charted where
  atlas : Atlas
  dbms : NodeId

namespace Handler

/-- What a handler works on and what it read last. -/
structure State where
  reach : Provider.State := {}
  mapping : TypeMapping := []
  charted : Option Charted := none

/-- The provider that the settings of a database describe; an empty password is none. -/
def providerOf (settings : DatabaseSettings) : Except Failure Provider :=
  Provider.ofText settings.label settings.address settings.user (settings.password.filter (!·.isEmpty)) []

/-- The handler that the settings of a database describe. -/
def ofSettings (settings : DatabaseSettings) (execution : ExecutionSettings) : Except Failure Handler :=
  (providerOf settings).map fun provider =>
    { provider
      vendor := .ofDialect (settings.type?.or (some provider.address.dialect))
      policy := execution.policy
      readOnly := settings.readOnly }

variable {α : Type}

/-- A computation of the provider. -/
def onReach (body : Keeping Provider.State α) : Keeping State α :=
  Keeping.onPart State.reach (fun reach state => { state with reach }) body

/-- What a connection tells: its database is that of the address unless it tells of one itself. -/
def told (handler : Handler) (link : Link) : Connection :=
  { link.connection with database := link.connection.database.or handler.provider.address.database }

/-- What a crawl on a connection comes to, in an atlas: the outcome, the connection afterwards and the survey.
Nothing is read from a connection whose database cannot be inspected. -/
def crawlOn (handler : Handler) (atlas : Atlas) (filter : Option SchemaFilter) (link : Link) :
    Except Failure Unit × Link × Survey Crawl.Notes × NodeId :=
  let (atlas, dbms) := atlas.create
    { content := .dbms (some handler.vendor.name), name := some handler.provider.label }
  match link.connection.inspectorFailure with
  | some f => (.error f, link, { atlas, notes := {} }, dbms)
  | none =>
    let plan : Crawl.Plan :=
      { vendor := handler.vendor, registry := handler.registry, filter
        source := Reflection.source handler.vendor (handler.told link) }
    let (outcome, survey) := Crawl.run plan dbms { atlas, notes := {} }
    (outcome, Reflection.linkAfter handler.vendor link survey.events, survey, dbms)

/-- Crawls the database in an atlas, on a connection of its own. -/
def crawl (handler : Handler) (atlas : Atlas) (filter : Option SchemaFilter) :
    Keeping Provider.State (Survey Crawl.Notes × NodeId) := do
  let link ← handler.provider.acquire
  let (outcome, link, survey, dbms) := handler.crawlOn atlas filter link
  let (closing, link) := link.close
  Provider.giveBack link
  Provider.onWorld (World.write survey.notes.log)
  Keeping.settle (Failure.afterwards outcome closing)
  pure (survey, dbms)

/-- The atlas of the documents read so far. -/
def State.atlas (state : State) : Atlas :=
  match state.charted with
  | some charted => charted.atlas
  | none => {}

/-- Reads the schemas that a filter lets pass. -/
def read (handler : Handler) (filter : Option SchemaFilter) : Keeping State Charted := do
  let (survey, dbms) ← onReach (handler.crawl (← get).atlas filter)
  let (outcome, atlas) := Atlas.freeze dbms survey.atlas
  Keeping.settle outcome
  let charted : Charted := ⟨atlas, dbms⟩
  modify fun state => { state with mapping := survey.notes.mapping, charted := some charted }
  pure charted

/-- Checks the database, and reads its schemas if the check succeeds. -/
def diagnose (handler : Handler) (filter : Option SchemaFilter) :
    Keeping State (Health × Option Charted) := do
  let health ← onReach handler.provider.health
  match health.status with
  | .success => pure (health, some (← handler.read filter))
  | _ => pure (health, none)

/-- Adds a schema to the document read last. A frozen document refuses it, and one that was never read
takes nothing. -/
def extend : Keeping State Unit := do
  match (← get).charted with
  | none => throw (.faultText .noAttribute "'NoneType' object has no attribute 'add_new_schema'")
  | some charted =>
    let (atlas, _) ← Keeping.settle (charted.atlas.add charted.dbms .schema)
    modify fun state => { state with charted := some { charted with atlas } }

/-- The database of the handler as a supplier of connections. -/
def supplier (handler : Handler) : Supplier State where
  acquire := onReach handler.provider.acquire
  giveBack link := onReach (Provider.giveBack link)
  log entry := onReach (handler.provider.supplier.log entry)

/-- Runs a write batch; the second part is what the statements' consumers received. -/
def update (handler : Handler) (consumers : Batch.Consumers) (statements : List Statement)
    (state : State) : Except Failure Unit × Batch.State State :=
  let batch := (List.range statements.length).zip statements
  Batch.run handler.supplier handler.policy consumers batch
    { supply := state, keys := statements.map fun _ => [] }

end Handler

end SchemaAtlas
