import SchemaAtlas.Proofs.Crawl.Resolving
import SchemaAtlas.Proofs.Handler.Reading
import SchemaAtlas.Types.Registries

/-!
# The registry that columns are resolved by

A registry that has mappers when it is passed is the one that columns are resolved by, with the mappers that it has when
they are read. A registry that is empty at that time is not: the default mappers take its place, and what is registered in
it later has no effect.
-/

namespace SchemaAtlas

/-- Marking nodes leaves what is known of the types of columns. -/
theorem Atlas.Marks.typing? {before after : Atlas} (h : before.Marks after) (id : NodeId) :
    after.typing? id = before.typing? id := by
  obtain ⟨marked, hmarked⟩ := h
  rw [Atlas.typing?, Atlas.typing?, hmarked]
  cases before.node? id <;> rfl

namespace Handler

variable (handler : Handler)

/-- What a crawl starts from: an atlas in which its document was made. -/
def opening (atlas : Atlas) : Survey Crawl.Notes × NodeId :=
  let (atlas, dbms) := atlas.create
    { content := .dbms (some handler.vendor.name), name := some handler.provider.label }
  ({ atlas, notes := {} }, dbms)

/-- What a crawl on a connection goes by. -/
def planOn (filter : Option SchemaFilter) (link : Link) : Crawl.Plan :=
  { vendor := handler.vendor, registry := handler.registry, filter
    source := Reflection.source handler.vendor (handler.told link) }

/-- A crawl on a connection whose database can be inspected runs from there. -/
theorem crawlOn_eq (atlas : Atlas) (filter : Option SchemaFilter) {link : Link}
    (hinspector : link.connection.inspectorFailure = none) :
    handler.crawlOn atlas filter link =
      let (before, dbms) := handler.opening atlas
      let (outcome, after) := Crawl.run (handler.planOn filter link) dbms before
      (outcome, Reflection.linkAfter handler.vendor link after.events, after, dbms) := by
  simp only [crawlOn, hinspector]
  rfl

/-- What a handler has to do with columns, by some mappers. -/
structure ResolvesBy (mappers : Registry) : Prop where
  /-- Its crawls resolve columns by the mappers, where databases can be inspected. -/
  crawls : ∀ atlas filter link, link.connection.inspectorFailure = none →
    Crawl.ResolvesBy mappers (handler.planOn filter link).source (handler.opening atlas).2 (handler.opening atlas).1
      (handler.crawlOn atlas filter link).1 (handler.crawlOn atlas filter link).2.2.1
  /-- The columns of a document that it reads are resolved by the mappers, as rows say that are listed on its connection. -/
  columns : ∀ filter state charted after, handler.read filter state = (.ok charted, after) →
    ∃ link, (handler.provider.acquire state.reach).1 = .ok link ∧
      ∀ id typing, state.atlas.nodes.size ≤ id → charted.atlas.typing? id = some typing →
        Crawl.Sourced mappers after.mapping (handler.planOn filter link).source (handler.opening state.atlas).1
          (handler.crawlOn state.atlas filter link).2.2.1 typing
  /-- A reading fails at the first row that would be understood if only its type had exactly one mapper, and tells how
  many there are, unless its connection cannot be closed. -/
  wants : ∀ filter state link listing later t, (handler.provider.acquire state.reach).1 = .ok link →
    link.connection.inspectorFailure = none →
    (handler.crawlOn state.atlas filter link).2.1.close.1 = .ok () →
    Crawl.CallsColumns (handler.planOn filter link).source (handler.opening state.atlas).1
      (handler.crawlOn state.atlas filter link).2.2.1 listing later →
    listing.closeFailure = none →
    Crawl.WantsNext mappers (handler.crawlOn state.atlas filter link).2.2.1.notes.mapping listing.rows t →
    (handler.read filter state).1 = .error (Registry.notUnique (mappers.filter (Mapper.keeps t)).length t)

/-- The document that a crawl starts from is new. -/
theorem node?_opening (atlas : Atlas) : (handler.opening atlas).1.atlas.node? (handler.opening atlas).2 =
    some { content := .dbms (some handler.vendor.name), name := some handler.provider.label } :=
  atlas.node?_create _

/-- It is the only new node, and no column. -/
theorem typing?_opening {atlas : Atlas} {id : NodeId} (hold : atlas.nodes.size ≤ id) :
    (handler.opening atlas).1.atlas.typing? id = none := by
  by_cases hid : id = atlas.nodes.size
  · have hnode := handler.node?_opening atlas
    rw [hid, Atlas.typing?, show atlas.nodes.size = (handler.opening atlas).2 from rfl, hnode]
    rfl
  · refine Atlas.typing?_eq_none ?_
    simp only [opening, Atlas.create, Array.size_push]
    exact Nat.lt_of_le_of_ne hold (Ne.symm hid)

/-- There are no schemas in it. -/
theorem collection_opening (atlas : Atlas) (kind : NodeKind) :
    (handler.opening atlas).1.atlas.collection (handler.opening atlas).2 kind = [] := by
  rw [Atlas.collection, handler.node?_opening]
  rfl

/-- A crawl resolves columns by the mappers that its handler goes by. -/
theorem crawlOn_resolvesBy (atlas : Atlas) (filter : Option SchemaFilter) {link : Link}
    (hinspector : link.connection.inspectorFailure = none) :
    Crawl.ResolvesBy (.given handler.registry) (handler.planOn filter link).source (handler.opening atlas).2
      (handler.opening atlas).1 (handler.crawlOn atlas filter link).1 (handler.crawlOn atlas filter link).2.2.1 := by
  rw [handler.crawlOn_eq atlas filter hinspector]
  exact Crawl.run_resolvesBy (handler.planOn filter link) _ _

variable {handler} {filter : Option SchemaFilter}

/-- So does a reading that returns a document. -/
theorem read_resolved {state after : State} {charted : Charted}
    (h : handler.read filter state = (.ok charted, after)) :
    ∃ link, (handler.provider.acquire state.reach).1 = .ok link ∧
      ∀ id typing, state.atlas.nodes.size ≤ id → charted.atlas.typing? id = some typing →
        Crawl.Sourced (.given handler.registry) after.mapping (handler.planOn filter link).source
          (handler.opening state.atlas).1 (handler.crawlOn state.atlas filter link).2.2.1 typing := by
  obtain ⟨link, used, survey, hacquire, hcrawl, -, hfreeze, hmapping⟩ := (read_of_ok h).1
  have hinspector : link.connection.inspectorFailure = none := by
    cases hfailure : link.connection.inspectorFailure with
    | none => rfl
    | some f =>
      rw [crawlOn, hfailure] at hcrawl
      cases hcrawl
  have hmarks := Atlas.marks_freeze charted.dbms survey.atlas
  have hresolves := handler.crawlOn_resolvesBy state.atlas filter hinspector
  rw [hfreeze] at hmarks
  refine ⟨link, hacquire, fun id typing hid htyping => ?_⟩
  rw [hcrawl] at hresolves ⊢
  rw [hmarks.typing?] at htyping
  rw [← hmapping]
  -- Besides the nodes of the crawl, the document itself is new.
  by_cases hnew : (handler.opening state.atlas).1.atlas.nodes.size ≤ id
  · obtain hsourced | ⟨hfails, -⟩ := hresolves.columns id typing hnew htyping
    · exact hsourced
    · cases hfails
  · rw [hresolves.kept id (Nat.lt_of_not_le hnew), handler.typing?_opening hid] at htyping
    cases htyping

/-- A crawl that fails on a connection that can be closed makes the reading fail. -/
theorem read_of_crawl_error {state : State} {link : Link} {f : Failure}
    (hacquire : (handler.provider.acquire state.reach).1 = .ok link)
    (hcrawl : (handler.crawlOn state.atlas filter link).1 = .error f)
    (hclosing : (handler.crawlOn state.atlas filter link).2.1.close.1 = .ok ()) :
    (handler.read filter state).1 = .error f := by
  have hread : (onReach (handler.crawl state.atlas filter) state).1 = .error f := by
    rw [show (onReach (handler.crawl state.atlas filter) state).1 = (handler.crawl state.atlas filter state.reach).1
      from rfl, handler.crawl_outcome hacquire, hcrawl, hclosing]
    rfl
  rw [read_eq]
  generalize onReach (handler.crawl state.atlas filter) state = crawled at hread
  obtain ⟨outcome, after⟩ := crawled
  obtain rfl : outcome = .error f := hread
  rfl

variable (handler) in
/-- A handler resolves columns by the mappers that it goes by. -/
theorem resolvesBy_given : handler.ResolvesBy (.given handler.registry) where
  crawls atlas filter _ hinspector := handler.crawlOn_resolvesBy atlas filter hinspector
  columns _ _ _ _ h := read_resolved h
  wants filter state link listing later t hacquire hinspector hclosing hcalls hcloses hwants := by
    refine read_of_crawl_error hacquire ?_ hclosing
    refine (handler.crawlOn_resolvesBy state.atlas filter hinspector).wants ?_ listing later t hcalls hcloses hwants
    rw [handler.collection_opening]
    nofun

end Handler

namespace Registries

/-- The registry that was found to go by has mappers, and goes on to have them. -/
theorem mappersOf_taken_ne (registries : Registries) (passed : Option RegistryId) (actions : List Action) :
    ((registries.take passed).1.performed actions).mappersOf (registries.take passed).2 ≠ [] := by
  have hmappers := mappersOf_taken registries passed
  have hne := Registry.given_ne (passed.map registries.mappersOf)
  rw [← hmappers] at hne
  rw [mappersOf_performed actions (lt_of_mappersOf_ne hne)]
  exact fun hempty => hne (List.append_eq_nil_iff.mp hempty).1

/-- Columns are resolved by the registry that was passed, with the mappers that it has when they are read, if it had any
when it was passed. If it had none, or none was passed, they are resolved by the default mappers, and by what is registered
behind them in a new registry. -/
theorem resolvesBy_taken (registries : Registries) (passed : Option RegistryId) (actions : List Action) :
    let taken := registries.take passed
    let now := taken.1.performed actions
    let mappers := now.mappersOf taken.2
    (∀ id ∈ passed, registries.mappersOf id ≠ [] →
        taken.2 = id ∧ mappers = registries.mappersOf id ++ registeredIn id actions) ∧
      ((∀ id ∈ passed, registries.mappersOf id = []) →
        taken.2 = registries.length ∧ mappers = Registry.default ++ registeredIn registries.length actions) ∧
      now.take (some taken.2) = (now, taken.2) ∧
      (∀ (plan : Crawl.Plan) dbms before,
        let run := Crawl.run { plan with registry := some mappers } dbms before
        Crawl.ResolvesBy mappers plan.source dbms before run.1 run.2) ∧
      ∀ handler : Handler, Handler.ResolvesBy { handler with registry := some mappers } mappers := by
  intro taken now mappers
  have hne : mappers ≠ [] := mappersOf_taken_ne registries passed actions
  have hgiven : Registry.given (some mappers) = mappers := Registry.given_of_ne hne
  refine ⟨?_, ?_, take_of_ne hne, fun plan dbms before => ?_, fun handler => ?_⟩
  · rintro id rfl hid
    have htaken : taken = (registries, id) := take_of_ne hid
    refine ⟨congrArg Prod.snd htaken, ?_⟩
    simp only [mappers, now, htaken]
    exact mappersOf_performed actions (lt_of_mappersOf_ne hid)
  · intro hempty
    have htaken : taken = registries.make .default := take_of_eq hempty
    refine ⟨congrArg Prod.snd htaken, ?_⟩
    have hmade := mappersOf_made registries .default
    have hlt := lt_of_mappersOf_ne (by rw [hmade]; exact Registry.given_ne none)
    simp only [mappers, now, htaken]
    rw [mappersOf_performed actions hlt, hmade]
    rfl
  · have hresolves := Crawl.run_resolvesBy { plan with registry := some mappers } dbms before
    rwa [Crawl.Plan.mappers, hgiven] at hresolves
  · have hresolves := Handler.resolvesBy_given { handler with registry := some mappers }
    rwa [hgiven] at hresolves

/-- A crawl of a database of one column. -/
def smallPlan : Crawl.Plan where
  vendor := { name := "test" }
  source
    | _, .typeInfo => .ok { rows := [.ok (.record
        [("TYPE_NAME", .text "INTEGER"), ("DATA_TYPE", .int 4), ("PRECISION", .int 10)])] }
    | _, .schemas => .ok { rows := [.ok (.record [("TABLE_SCHEM", .text "s")])] }
    | _, .tables .. => .ok { rows := [.ok (.record [("TABLE_NAME", .text "t")])] }
    | _, .part .columns .. => .ok { rows := [.ok (Crawl.codedRow "id" 1 (.int 0) "INTEGER")] }
    | _, _ => .ok {}

/-- A document that stands alone. -/
def smallDocument : Survey Crawl.Notes :=
  { atlas := (Atlas.create {} { name := some "fake", content := .dbms (some "test") }).1, notes := {} }

/-- A registry that is passed without mappers is not the one to go by: the crawl succeeds, and its column has a mapper
that the registry does not have. -/
theorem crawl_ignores_empty :
    let registries : Registries := [[]]
    let taken := registries.take (some 0)
    let run := Crawl.run { smallPlan with registry := some (taken.1.mappersOf taken.2) } 0 smallDocument
    registries.mappersOf 0 = [] ∧ run.1.isOk = true ∧
      (run.2.atlas.typing? 3).bind (·.mapper) = some (Mapper.identity (.builtin "int")) ∧
      ¬Crawl.ResolvesBy (registries.mappersOf 0) smallPlan.source 0 smallDocument run.1 run.2 := by
  intro registries taken run
  have hok : run.1.isOk = true := by decide +kernel
  have hmapper : (run.2.atlas.typing? 3).bind (·.mapper) = some (Mapper.identity (.builtin "int")) := by decide +kernel
  refine ⟨rfl, hok, hmapper, fun hresolves => ?_⟩
  obtain ⟨typing, htyping, hmapped⟩ := Option.bind_eq_some_iff.mp hmapper
  obtain ⟨_, _, -, _, -, hresolved⟩ | ⟨hfails, -⟩ := hresolves.columns 3 typing (by decide +kernel) htyping
  · exact absurd (hresolved.mem hmapped) List.not_mem_nil
  · cases hok.symm.trans hfails

end Registries

end SchemaAtlas
