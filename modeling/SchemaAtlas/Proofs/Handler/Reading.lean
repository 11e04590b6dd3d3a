import SchemaAtlas.Handler
import SchemaAtlas.Proofs.Crawl.Course
import SchemaAtlas.Proofs.Provider.Accounts

/-!
# Reading is all or nothing

A reading that succeeds leaves the frozen document and the type mapping of one and the same crawl; one that
fails, at whatever point, leaves what was read before. Either way the documents read before last, and the
connection that was used is accounted for.
-/

namespace SchemaAtlas

/-- What the events of a crawl do on a connection leaves it open. -/
theorem Reflection.linkAfter_kept (vendor : Vendor) (link : Link) (events : List Event) :
    (linkAfter vendor link events).connection = link.connection ∧
      (.close ∈ (linkAfter vendor link events).actions → .close ∈ link.actions) := by
  have hreplay (link : Link) (event : Event) : (replay vendor link event).connection = link.connection ∧
      (.close ∈ (replay vendor link event).actions → .close ∈ link.actions) := by
    unfold replay
    split
    · split
      · exact ⟨rfl, id⟩
      · obtain ⟨hconnection, hactions⟩ := link.execute_kept _ .bare
        exact ⟨hconnection, by simp [hactions]⟩
    · split
      · exact ⟨rfl, by simp [Link.record]⟩
      · exact ⟨rfl, id⟩
    · exact ⟨rfl, id⟩
    · exact ⟨rfl, id⟩
  induction events generalizing link with
  | nil => exact ⟨rfl, id⟩
  | cons event rest ih =>
    obtain ⟨hconnection, hactions⟩ := ih (replay vendor link event)
    exact ⟨hconnection.trans (hreplay link event).1, (hreplay link event).2 ∘ hactions⟩

/-- What a second outcome always follows succeeds only if both succeed. -/
theorem Failure.afterwards_eq_ok {α : Type} {outcome : Except Failure α} {last : Except Failure Unit} {a : α}
    (h : afterwards outcome last = .ok a) : outcome = .ok a ∧ last = .ok () := by
  cases last with
  | ok _ => exact ⟨h, rfl⟩
  | error f => cases outcome <;> cases h

namespace Handler

variable (handler : Handler)

/-! ## Crawls -/

/-- The connection of a crawl comes back spent. -/
theorem spent_crawlOn (atlas : Atlas) (filter : Option SchemaFilter) (c : Connection) :
    Spent c (handler.crawlOn atlas filter (Link.fresh c)).2.1.close.2 := by
  have hopen : .close ∉ (Link.fresh c).actions := by simp [Link.fresh]
  cases hinspector : c.inspectorFailure with
  | some f =>
    have hlink : (handler.crawlOn atlas filter (Link.fresh c)).2.1 = Link.fresh c := by
      simp only [crawlOn, Link.fresh, hinspector]
    rw [hlink]
    exact spent_close rfl hopen
  | none =>
    obtain ⟨events, hlink⟩ : ∃ events, (handler.crawlOn atlas filter (Link.fresh c)).2.1 =
        Reflection.linkAfter handler.vendor (Link.fresh c) events := by
      simp only [crawlOn, Link.fresh, hinspector]
      exact ⟨_, rfl⟩
    obtain ⟨hconnection, hactions⟩ := Reflection.linkAfter_kept handler.vendor (Link.fresh c) events
    rw [hlink]
    exact spent_close hconnection (hopen ∘ hactions)

/-- Crawls are accounted for. -/
theorem accounts_crawl (atlas : Atlas) (filter : Option SchemaFilter) :
    Keeping.Keeps Provider.Accounts (handler.crawl atlas filter) := by
  refine Supplier.keeps_use handler.provider.keeps_supplier
    (fun link => (handler.crawlOn atlas filter link).2.1.close.2) (handler.spent_crawlOn atlas filter) ?_
  intro link
  refine (Provider.accounts_write _).bind fun _ => ?_
  exact (Keeping.Keeps.settle _).bind fun _ => Keeping.Keeps.pure _

/-- A crawl that succeeds is one on a connection that could be had and closed. -/
theorem crawl_eq_ok {atlas : Atlas} {filter : Option SchemaFilter} {state after : Provider.State}
    {result : Survey Crawl.Notes × NodeId} (h : handler.crawl atlas filter state = (.ok result, after)) :
    ∃ link used, (handler.provider.acquire state).1 = .ok link ∧
      handler.crawlOn atlas filter link = (.ok (), used, result) ∧ used.close.1 = .ok () := by
  obtain ⟨link, between, hacquire, h⟩ := Keeping.bind_eq_ok h
  obtain ⟨-, left, -, h⟩ := Keeping.bind_eq_ok h
  obtain ⟨-, world, -, h⟩ := Keeping.bind_eq_ok h
  obtain ⟨_, last, hends, h⟩ := Keeping.bind_eq_ok h
  obtain ⟨houtcome, hclosing⟩ := Failure.afterwards_eq_ok (congrArg Prod.fst hends)
  have hresult : (handler.crawlOn atlas filter link).2.2 = result := Except.ok.inj (congrArg Prod.fst h)
  exact ⟨link, (handler.crawlOn atlas filter link).2.1, congrArg Prod.fst hacquire,
    Prod.ext houtcome (Prod.ext rfl hresult), hclosing⟩

/-- Handing a connection back succeeds. -/
theorem giveBack_ok (link : Link) (state : Provider.State) : (Provider.giveBack link state).1 = .ok () := by
  rw [Provider.giveBack, Keeping.bind_of_ok (Keeping.get_apply state)]
  cases state.engine <;> rfl

/-- What comes of a crawl on a connection that could be had. -/
theorem crawl_outcome {state : Provider.State} {link : Link} (hacquire : (handler.provider.acquire state).1 = .ok link)
    (atlas : Atlas) (filter : Option SchemaFilter) :
    (handler.crawl atlas filter state).1 =
      (Failure.afterwards (handler.crawlOn atlas filter link).1 (handler.crawlOn atlas filter link).2.1.close.1).map
        fun _ => (handler.crawlOn atlas filter link).2.2 := by
  rw [crawl, Keeping.bind_of_ok (Prod.ext hacquire rfl)]
  generalize handler.crawlOn atlas filter link = crawled
  obtain ⟨outcome, used, survey, dbms⟩ := crawled
  have hback := giveBack_ok used.close.2 (handler.provider.acquire state).2
  dsimp only
  rw [Keeping.bind_of_ok (Prod.ext hback rfl)]
  cases Failure.afterwards outcome used.close.1 <;> rfl

/-- A crawl on a connection that could be had and closed is one that succeeds. -/
theorem crawl_of_ok {atlas : Atlas} {filter : Option SchemaFilter} {state : Provider.State} {link used : Link}
    {result : Survey Crawl.Notes × NodeId} (hacquire : (handler.provider.acquire state).1 = .ok link)
    (hcrawl : handler.crawlOn atlas filter link = (.ok (), used, result)) (hclosing : used.close.1 = .ok ()) :
    (handler.crawl atlas filter state).1 = .ok result := by
  rw [handler.crawl_outcome hacquire, hcrawl, hclosing]
  rfl

/-- A crawl is part of the life of its atlas, however it ends, and its document is in the atlas. -/
theorem crawlOn_evolves (atlas : Atlas) (filter : Option SchemaFilter) (link : Link) :
    atlas.Evolves (handler.crawlOn atlas filter link).2.2.1.atlas ∧
      (atlas.Proper → ∃ node, (handler.crawlOn atlas filter link).2.2.1.atlas.node?
        (handler.crawlOn atlas filter link).2.2.2 = some node) := by
  let made : Node := { content := .dbms (some handler.vendor.name), name := some handler.provider.label }
  have hcreate : atlas.Evolves (atlas.create made).1 := Atlas.evolves_create atlas rfl rfl rfl
  have hrun : (atlas.create made).1.Evolves (handler.crawlOn atlas filter link).2.2.1.atlas ∧
      (handler.crawlOn atlas filter link).2.2.2 = (atlas.create made).2 := by
    simp only [crawlOn]
    cases link.connection.inspectorFailure with
    | some f => exact ⟨Std.Refl.refl (atlas.create made).1, rfl⟩
    | none => exact ⟨Crawl.evolves_run _ _ { atlas := (atlas.create made).1, notes := {} }, rfl⟩
  obtain ⟨hlife, hdbms⟩ := hrun
  refine ⟨IsTrans.trans _ _ _ hcreate hlife, ?_⟩
  intro hproper
  obtain ⟨node, hnode, -⟩ := (hlife (hcreate hproper).2).1 (Atlas.node?_create atlas made)
  exact ⟨node, hdbms ▸ hnode⟩

/-! ## What a handler retains -/

/-- What was read last is what it was before, and the connections used in the meantime are accounted for. -/
structure State.Spares (before after : State) : Prop where
  charted : after.charted = before.charted
  mapping : after.mapping = before.mapping
  accounts : Provider.Accounts before.reach after.reach

instance : IsPreorder State State.Spares where
  refl state := ⟨rfl, rfl, Std.Refl.refl state.reach.world⟩
  trans _ _ _ hfirst hsecond :=
    ⟨hsecond.charted.trans hfirst.charted, hsecond.mapping.trans hfirst.mapping,
      IsTrans.trans _ _ _ hfirst.accounts hsecond.accounts⟩

/-- What is done with the provider spares what was read. -/
theorem spares_onReach {α : Type} {body : Keeping Provider.State α} (h : Keeping.Keeps Provider.Accounts body) :
    Keeping.Keeps State.Spares (onReach body) := by
  intro state
  exact ⟨rfl, rfl, h state.reach⟩

/-- So does every use of a connection. -/
theorem spares_supplier : handler.supplier.Keeps State.Spares Spent where
  refused state f h := ⟨rfl, rfl, handler.provider.keeps_supplier.refused state.reach f h⟩
  used state link h := by
    obtain ⟨c, hfresh, hreturned⟩ := handler.provider.keeps_supplier.used state.reach link h
    exact ⟨c, hfresh, fun after hafter => ⟨rfl, rfl, hreturned after hafter⟩⟩
  logs entry := spares_onReach (handler.provider.keeps_supplier.logs entry)

/-! ## Readings -/

/-- A reading comes to a document and a type mapping: in the atlas of the documents read before, a crawl on a
connection that could be had succeeds with that mapping, the connection is closed, and the document of the
crawl is frozen. -/
def Reads (filter : Option SchemaFilter) (before : State) (charted : Charted) (mapping : TypeMapping) : Prop :=
  ∃ link used survey, (handler.provider.acquire before.reach).1 = .ok link ∧
    handler.crawlOn before.atlas filter link = (.ok (), used, survey, charted.dbms) ∧ used.close.1 = .ok () ∧
    Atlas.freeze charted.dbms survey.atlas = (.ok (), charted.atlas) ∧ survey.notes.mapping = mapping

variable {handler} {filter : Option SchemaFilter}

/-- A reading is part of the life of the atlas, and its document is frozen. -/
theorem Reads.evolves {before : State} {charted : Charted} {mapping : TypeMapping}
    (h : handler.Reads filter before charted mapping) :
    before.atlas.Evolves charted.atlas ∧ (before.atlas.Proper → charted.atlas.IsFrozen charted.dbms) := by
  obtain ⟨link, used, survey, -, hcrawl, -, hfreeze, -⟩ := h
  obtain ⟨hlife, hroot⟩ := handler.crawlOn_evolves before.atlas filter link
  rw [hcrawl] at hlife hroot
  have hfrozen := Atlas.evolves_freeze charted.dbms survey.atlas
  rw [hfreeze] at hfrozen
  refine ⟨IsTrans.trans _ _ _ hlife hfrozen, ?_⟩
  intro hproper
  obtain ⟨node, hnode⟩ := hroot hproper
  have hsurvey := (hlife hproper).2
  have hfroze := Atlas.froze_freeze hsurvey.formed hsurvey.settled hnode
  rw [hfreeze] at hfroze
  exact hfroze.frozen (hfroze.returns.mp rfl) charted.dbms (List.mem_singleton_self _)

/-- A reading crawls, freezes the document, and only then keeps it together with the type mapping. -/
theorem read_eq (state : State) :
    handler.read filter state = match onReach (handler.crawl state.atlas filter) state with
      | (.error f, after) => (.error f, after)
      | (.ok (survey, dbms), after) =>
        match Atlas.freeze dbms survey.atlas with
        | (.error f, _) => (.error f, after)
        | (.ok _, atlas) => (.ok ⟨atlas, dbms⟩,
            { after with mapping := survey.notes.mapping, charted := some ⟨atlas, dbms⟩ }) := by
  rw [read, Keeping.bind_of_ok (Keeping.get_apply state), Keeping.bind_apply]
  generalize onReach (handler.crawl state.atlas filter) state = crawled
  obtain ⟨_ | ⟨survey, dbms⟩, after⟩ := crawled
  · rfl
  · dsimp only
    generalize Atlas.freeze dbms survey.atlas = frozen
    obtain ⟨_ | _, atlas⟩ := frozen <;> rfl

/-- A reading that fails spares what was read before. -/
theorem read_of_error {state after : State} {f : Failure} (h : handler.read filter state = (.error f, after)) :
    state.Spares after := by
  have hcrawl := spares_onReach (handler.accounts_crawl state.atlas filter) state
  rw [read_eq] at h
  split at h
  · cases h
    simpa only [*] using hcrawl
  · split at h
    · cases h
      simpa only [*] using hcrawl
    · cases h

/-- A reading that succeeds leaves the document and the type mapping that it comes to. -/
theorem read_of_ok {state after : State} {charted : Charted} (h : handler.read filter state = (.ok charted, after)) :
    handler.Reads filter state charted after.mapping ∧ after.charted = some charted ∧
      Provider.Accounts state.reach after.reach := by
  have hcrawl := spares_onReach (handler.accounts_crawl state.atlas filter) state
  rw [read_eq] at h
  split at h
  · cases h
  · rename_i survey dbms between hread
    split at h
    · cases h
    · rename_i atlas hfreeze
      cases h
      rw [hread] at hcrawl
      have hreach : handler.crawl state.atlas filter state.reach = (.ok (survey, dbms), between.reach) :=
        Prod.ext (congrArg (·.1) hread) (congrArg (·.2.reach) hread)
      obtain ⟨link, used, hacquire, hcrawled, hclosing⟩ := handler.crawl_eq_ok hreach
      exact ⟨⟨link, used, survey, hacquire, hcrawled, hclosing, hfreeze, rfl⟩, rfl, hcrawl.accounts⟩

/-- A reading returns a document exactly if it comes to it. -/
theorem read_returns_iff (state : State) (charted : Charted) :
    (handler.read filter state).1 = .ok charted ↔ ∃ mapping, handler.Reads filter state charted mapping := by
  constructor
  · intro h
    exact ⟨_, (read_of_ok (Prod.ext h rfl)).1⟩
  · intro h
    obtain ⟨mapping, link, used, survey, hacquire, hcrawl, hclosing, hfreeze, -⟩ := h
    have hread : onReach (handler.crawl state.atlas filter) state =
        (.ok (survey, charted.dbms), { state with reach := (handler.crawl state.atlas filter state.reach).2 }) :=
      Prod.ext (handler.crawl_of_ok hacquire hcrawl hclosing) rfl
    rw [read_eq, hread]
    simp only [hfreeze]

end Handler

end SchemaAtlas
