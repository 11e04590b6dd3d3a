import SchemaAtlas.Crawl.Types
import SchemaAtlas.Crawl.Schemas
import SchemaAtlas.Crawl.Tables

/-!
# Crawling a database

A crawl resolves the types of the vendor, discovers the schemas, and reads the tables of each. It builds
below a given database node and stops at the first failure, which is always one of this library's own.
-/

namespace SchemaAtlas.Crawl

/-- Resolves the types of the vendor and notes them. -/
def readTypes (plan : Plan) (dbms : NodeId) : Step Unit := do
  let mapping ← explained (explainedBy dbms "resolve type mapping for")
    (resolveTypes plan.vendor plan.codes plan.source)
  Survey.note fun notes => { notes with mapping }

/-- Reads a database into the tree below a node. -/
def run (plan : Plan) (dbms : NodeId) : Step Unit := do
  readTypes plan dbms
  discoverSchemas plan dbms
  readSchemas plan ((← get).atlas.collection dbms .schema)

end SchemaAtlas.Crawl
