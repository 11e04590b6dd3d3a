import SchemaAtlas.Atlas.Document
import SchemaAtlas.Atlas.Freeze
import SchemaAtlas.Atlas.Reference
import SchemaAtlas.Catalog.Cursor
import SchemaAtlas.Catalog.Survey
import SchemaAtlas.CommandLine.Basic
import SchemaAtlas.Crawl.Basic
import SchemaAtlas.Handler
import SchemaAtlas.Main
import SchemaAtlas.Proofs.Atlas.Clash
import SchemaAtlas.Proofs.Atlas.Reference
import SchemaAtlas.Proofs.Catalog.Ingestion
import SchemaAtlas.Proofs.CommandLine.Isolation
import SchemaAtlas.Proofs.Crawl.Calls
import SchemaAtlas.Proofs.Crawl.Columns
import SchemaAtlas.Proofs.Crawl.Declared
import SchemaAtlas.Proofs.Crawl.Discipline
import SchemaAtlas.Proofs.Crawl.Discovery
import SchemaAtlas.Proofs.Crawl.Filling
import SchemaAtlas.Proofs.Crawl.Groups
import SchemaAtlas.Proofs.Crawl.Mirror
import SchemaAtlas.Proofs.Crawl.Narrowing
import SchemaAtlas.Proofs.Crawl.Reflected
import SchemaAtlas.Proofs.Crawl.Resolution
import SchemaAtlas.Proofs.Crawl.Resolving
import SchemaAtlas.Proofs.Crawl.Spelled
import SchemaAtlas.Proofs.Crawl.Unnamed
import SchemaAtlas.Proofs.Handler.History
import SchemaAtlas.Proofs.Handler.Registries
import SchemaAtlas.Proofs.Number.Whole
import SchemaAtlas.Proofs.Provider.Lifecycle
import SchemaAtlas.Proofs.Provider.Secrecy
import SchemaAtlas.Proofs.Session.Decision
import SchemaAtlas.Proofs.Session.Eager
import SchemaAtlas.Proofs.Session.Exactness
import SchemaAtlas.Proofs.Session.Insertion
import SchemaAtlas.Proofs.Session.Journal
import SchemaAtlas.Proofs.Session.Misread
import SchemaAtlas.Proofs.Session.Streaming
import SchemaAtlas.Proofs.Settings.Covering
import SchemaAtlas.Proofs.Sql.Keywords
import SchemaAtlas.Proofs.Sql.Noise
import SchemaAtlas.Provider.Health
import SchemaAtlas.Session.Batch
import SchemaAtlas.Session.Deferred
import SchemaAtlas.Session.Reflection
import SchemaAtlas.Settings.File
import SchemaAtlas.Sql.ReadOnly
import SchemaAtlas.Transience
import SchemaAtlas.Types.Column
import SchemaAtlas.Types.Mapper
import SchemaAtlas.Types.Registries
import SchemaAtlas.Value.JsonReader
import SchemaAtlas.Yaml.Reader
