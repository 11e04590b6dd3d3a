import SchemaAtlas.Catalog.Survey
import SchemaAtlas.Crawl.Filter
import SchemaAtlas.Types.Info
import SchemaAtlas.Vendor

/-!
# What a crawl goes by and what it notes

A crawl goes by the conventions of a vendor, a registry of type mappers, possibly a filter of schema
names, and a source. It notes the names that the filter was asked about, what it logs, the type mapping
it resolved and the names it discarded.
-/

namespace SchemaAtlas.Crawl

/-- What a crawl goes by. -/
structure Plan where
  vendor : Vendor
  registry : Option Registry := none
  codes : CodeTable := .default
  filter : Option SchemaFilter := none
  source : Source

/-- The type mappers that columns are resolved with. -/
def Plan.mappers (plan : Plan) : Registry :=
  Registry.given plan.registry

/-- What a crawl notes. -/
structure Notes where
  asked : List Value := []
  log : List LogEntry := []
  mapping : TypeMapping := []
  discarded : List Value := []

/-- A step of a crawl. -/
abbrev Step (α : Type) := Keeping (Survey Notes) α

/-- Logs a warning. -/
def warn (text : String) : Step Unit :=
  Survey.note fun notes => { notes with log := notes.log ++ [⟨.warning, text⟩] }

/-- Does a step again as another failure if it fails. -/
def explained {α : Type} (explain : Failure → Step Failure) (step : Step α) : Step α := do
  match ← Keeping.attempt step with
  | .ok a => pure a
  | .error f => throw (← explain f)

/-- How a failure of a listing that has no table is explained: failures of this library stay what they
are. -/
def explainedBy (dbms : NodeId) (what : String) (f : Failure) : Step Failure := do
  if f.isOwn then pure f
  else
    let name := displayName ((← get).atlas.nameOf dbms)
    pure (.becauseOf .discovery s!"Unable to {what} {name}: {f.message}" f)

end SchemaAtlas.Crawl
