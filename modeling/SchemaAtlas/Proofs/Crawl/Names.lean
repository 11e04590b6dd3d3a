import SchemaAtlas.Proofs.Crawl.Family
import SchemaAtlas.Proofs.Crawl.Tables

/-!
# Schemas as they are named

The names of both listings are considered one after the other. A name that is chosen becomes a schema where
it occurs first; names that are absent or not chosen become none.
-/

namespace SchemaAtlas.Crawl

/-! ## Accepted names -/

/-- The filter of a plan passes the texts that it is said to pass, and never fails on a text. -/
def Filters (plan : Plan) (passed : String → Bool) : Prop :=
  match plan.filter with
  | none => ∀ name, passed name = true
  | some filter => ∀ name, filter (.text name) = .ok (passed name)

/-- Whether a name is chosen: the vendor does not exclude it, whatever its letter case, and it is passed. -/
def isChosen (vendor : Vendor) (passed : String → Bool) (name : String) : Bool :=
  !(vendor.excluded.map Text.lower).contains (Text.lower name) && passed name

/-- The names that become schemas. -/
def accepted (vendor : Vendor) (passed : String → Bool) (names : List (Option String)) : List String :=
  ((names.filterMap id).filter (isChosen vendor passed)).eraseDups

variable {plan : Plan} {dbms : NodeId} {passed : String → Bool} {before between after : Survey Notes}

/-- An absent name is not accepted. -/
theorem accepted_concat_none (vendor : Vendor) (passed : String → Bool) (names : List (Option String)) :
    accepted vendor passed (names ++ [none]) = accepted vendor passed names := by
  simp [accepted, List.filterMap_append]

/-- A further name is accepted if it is chosen and was not accepted before. -/
theorem accepted_concat_some (vendor : Vendor) (passed : String → Bool) (names : List (Option String))
    (name : String) :
    accepted vendor passed (names ++ [some name]) =
      if isChosen vendor passed name = true ∧ name ∉ accepted vendor passed names then
        accepted vendor passed names ++ [name]
      else accepted vendor passed names := by
  simp only [accepted, List.filterMap_append, List.filter_append, List.mem_eraseDups]
  cases hchosen : isChosen vendor passed name with
  | false => simp [hchosen]
  | true =>
    have hone : ([some name].filterMap id).filter (isChosen vendor passed) = [name] := by simp [hchosen]
    rw [hone, eraseDups_concat]
    generalize (names.filterMap id).filter (isChosen vendor passed) = chosen
    by_cases hmem : name ∈ chosen
    · rw [if_pos hmem, if_neg fun h => h.2 hmem]
    · rw [if_neg hmem, if_pos ⟨rfl, hmem⟩]

/-- A name is accepted if it is chosen; nothing is drawn. -/
theorem isAccepted_drawn (hfilters : Filters plan passed) (name : String) (dbms : NodeId) (levels : Nat) :
    Keeping.Succeeds (isAccepted plan (.text name)) before fun chosen after =>
      chosen = isChosen plan.vendor passed name ∧ Drawn dbms levels [] before after := by
  unfold isAccepted
  refine Keeping.Succeeds.of_settle (a := (plan.vendor.excluded.map Text.lower).contains (Text.lower name)) rfl ?_
  unfold isChosen
  cases (plan.vendor.excluded.map Text.lower).contains (Text.lower name) with
  | true => exact ⟨false, before, rfl, rfl, .refl dbms levels before⟩
  | false =>
    change Keeping.Succeeds (passes plan (.text name)) before _
    unfold passes
    unfold Filters at hfilters
    cases hfilter : plan.filter with
    | none =>
      rw [hfilter] at hfilters
      exact ⟨true, before, rfl, by rw [hfilters name]; rfl, .refl dbms levels before⟩
    | some filter =>
      rw [hfilter] at hfilters
      refine ⟨passed name, { before with notes := { before.notes with asked := before.notes.asked ++ [.text name] } },
        ?_, rfl, .of_same dbms levels rfl rfl⟩
      change (filter (.text name), _) = _
      rw [hfilters name]

/-- Discarding a name draws nothing. -/
theorem discard_drawn (name : Value) (dbms : NodeId) (levels : Nat) :
    Keeping.Succeeds (discard name) before fun _ => Drawn dbms levels [] before := by
  refine ⟨(), _, rfl, .of_same dbms levels rfl ?_⟩
  change (if before.notes.discarded.any (sameName name) then before.notes else _).mapping = _
  split <;> rfl

/-- The tree of a schema whose tables are not read yet. -/
def emptySchema (name : String) : Tree :=
  .node (some name) .schema []

/-- Its name is its name. -/
theorem names_emptySchema (names : List String) :
    ((names.map emptySchema).filter (·.kind == .schema)).map Tree.name = names.map some := by
  induction names with
  | nil => rfl
  | cons name names ih => exact congrArg (some name :: ·) ih

/-- A name becomes a schema, if there is none of that name. -/
theorem addSchema_drawn {name : String} {label typeName : Option String} {names : List String}
    (hdbms : before.atlas.IsOpen dbms label (.dbms typeName))
    (hnames : before.atlas.names dbms .schema = names.map some) (levels : Nat) :
    Keeping.Succeeds (addSchema dbms (.text name)) before fun _ =>
      Drawn dbms levels (if name ∈ names then [] else [emptySchema name]) before := by
  have hfound := Atlas.childNamed_eq_none_iff before.atlas dbms .schema name
  rw [hnames, List.mem_map_of_injective fun _ _ => Option.some.inj] at hfound
  have hlookup : Survey.childNamed dbms .schema (.text name) before =
      (.ok (before.atlas.childNamed dbms .schema (some name)), before) := rfl
  by_cases hmem : name ∈ names
  · rw [if_pos hmem]
    cases hchild : before.atlas.childNamed dbms .schema (some name) with
    | none => exact absurd hmem (hfound.mp hchild)
    | some schema =>
      rw [hchild] at hlookup
      exact ⟨(), before, Keeping.bind_of_ok hlookup _, .refl dbms levels before⟩
  · rw [if_neg hmem]
    rw [hfound.mpr hmem] at hlookup
    have hadded : Keeping.Succeeds
        (Survey.add dbms .schema >>= fun schema => Survey.setValue schema "name" (.text name)) before fun _ =>
        Drawn dbms levels [emptySchema name] before := by
      refine (add_planted hdbms rfl).bind ?_
      rintro _ s ⟨rfl, hs⟩
      exact (hs.set rfl).imp fun _ after hafter => hafter.drawn levels
    obtain ⟨_, after, hresult, hdrawn⟩ := hadded
    exact ⟨_, after, (Keeping.bind_of_ok hlookup _).trans hresult, hdrawn⟩

/-- A name that is considered becomes a schema, if it is accepted and there is none of that name. -/
theorem considerName_drawn (hfilters : Filters plan passed) (name : Option String) {label typeName : Option String}
    {names : List (Option String)} (hdbms : before.atlas.IsOpen dbms label (.dbms typeName))
    (hsound : before.atlas.Sound dbms)
    (hnames : before.atlas.names dbms .schema = (accepted plan.vendor passed names).map some) (levels : Nat) :
    Keeping.Succeeds (considerName plan dbms (.ofName name)) before fun _ after =>
      ∃ more, Drawn dbms levels (more.map emptySchema) before after ∧
        accepted plan.vendor passed (names ++ [name]) = accepted plan.vendor passed names ++ more := by
  cases name with
  | none =>
    refine (discard_drawn .null dbms levels).imp fun _ after hafter => ⟨[], hafter, ?_⟩
    rw [accepted_concat_none, List.append_nil]
  | some name =>
    refine (isAccepted_drawn hfilters name dbms levels).bind ?_
    rintro _ s ⟨rfl, hs⟩
    rw [accepted_concat_some]
    cases isChosen plan.vendor passed name with
    | false =>
      refine (discard_drawn (.text name) dbms levels).imp fun _ after hafter => ⟨[], ?_, by simp⟩
      exact hs.trans hafter hdbms.lt
    | true =>
      have hsame : s.atlas.names dbms .schema = (accepted plan.vendor passed names).map some := by
        rw [hs.atlas.names_eq hdbms.lt hsound, hnames]
        exact List.append_nil _
      refine (addSchema_drawn (hs.atlas.isOpen hdbms) hsame levels).imp fun _ after hafter => ?_
      have hall := hs.trans hafter hdbms.lt
      by_cases hmem : name ∈ accepted plan.vendor passed names
      · rw [if_pos hmem] at hall
        exact ⟨[], hall, by simp [hmem]⟩
      · rw [if_neg hmem] at hall
        exact ⟨[name], hall, by simp [hmem]⟩

/-- The names in the rows of a listing. -/
def Names (nameOf : Value → Except Failure Value) (rows : List Row) (names : List (Option String)) : Prop :=
  List.Forall₂ (fun row name => ∃ v, row = .ok v ∧ nameOf v = .ok (.ofName name)) rows names

/-- The names of a listing become schemas, if they are accepted with the names that were considered before. -/
theorem nameRows_drawn (hfilters : Filters plan passed) {nameOf : Value → Except Failure Value} {rows : List Row}
    {label typeName : Option String} {names done : List (Option String)} (hrows : Names nameOf rows names)
    (hdbms : before.atlas.IsLeaf dbms label (.dbms typeName))
    (hdone : Drawn dbms levels ((accepted plan.vendor passed done).map emptySchema) before between) :
    Keeping.Succeeds (nameRows plan dbms nameOf rows) between fun _ =>
      Drawn dbms levels ((accepted plan.vendor passed (done ++ names)).map emptySchema) before := by
  induction names generalizing rows done between with
  | nil =>
    cases hrows
    exact ⟨(), between, rfl, by rwa [List.append_nil]⟩
  | cons name names ih =>
    obtain _ | ⟨hfirst, hrest⟩ := hrows
    obtain ⟨v, rfl, hv⟩ := hfirst
    have hnames : between.atlas.names dbms .schema = (accepted plan.vendor passed done).map some := by
      rw [hdone.atlas.names_eq hdbms.isOpen.lt hdbms.sound, hdbms.names]
      exact names_emptySchema _
    have hone : Keeping.Succeeds (do considerName plan dbms (← Keeping.settle (nameOf v)) : Step Unit) between
        fun _ after => ∃ more, Drawn dbms levels (more.map emptySchema) between after ∧
          accepted plan.vendor passed (done ++ [name]) = accepted plan.vendor passed done ++ more :=
      .of_settle hv (considerName_drawn hfilters name (hdone.atlas.isOpen hdbms.isOpen)
        (hdone.atlas.sound hdbms.isOpen.lt hdbms.sound) hnames levels)
    apply hone.bind
    rintro _ next ⟨more, hmore, haccepted⟩
    have hnext := hdone.trans hmore hdbms.isOpen.lt
    rw [← List.map_append, ← haccepted] at hnext
    rw [show done ++ name :: names = (done ++ [name]) ++ names by simp]
    exact ih hrest hnext

/-- A listing of names whose rows are read to their end succeeds. -/
theorem discover_of_read {call : Call} {nameOf : Value → Except Failure Value} {rows : List Row}
    (hanswer : plan.source (Event.calls before.events) call = .ok { rows })
    (hread : nameRows plan dbms nameOf rows (Survey.opened call before) = (.ok (), after)) :
    discover plan dbms call nameOf before = (.ok (), Survey.closed call after) := by
  change explained _ (Survey.consume plan.source call (nameRows plan dbms nameOf)) before = _
  rw [explained, Keeping.bind_apply, Keeping.attempt_apply, Survey.consume_accepted hanswer, hread]
  rfl

/-- A listing of names is read into schemas, and nothing else happens to the source. -/
theorem discover_drawn (hfilters : Filters plan passed) {call : Call} {nameOf : Value → Except Failure Value}
    {rows : List Row} {label typeName : Option String} {names done : List (Option String)}
    (hanswer : plan.source (Event.calls between.events) call = .ok { rows }) (hrows : Names nameOf rows names)
    (hdbms : before.atlas.IsLeaf dbms label (.dbms typeName))
    (hdone : Drawn dbms levels ((accepted plan.vendor passed done).map emptySchema) before between) :
    Keeping.Succeeds (discover plan dbms call nameOf) between fun _ after =>
      after.events = between.events ++ [.called call, .opened call, .closed call] ∧
        Drawn dbms levels ((accepted plan.vendor passed (done ++ names)).map emptySchema) before after := by
  have hopened : Drawn dbms levels ((accepted plan.vendor passed done).map emptySchema) before
      (Survey.opened call between) := ⟨hdone.mapping, hdone.atlas⟩
  obtain ⟨_, after, hread, hafter⟩ := nameRows_drawn hfilters hrows hdbms hopened
  refine ⟨(), _, discover_of_read hanswer hread, ?_, hafter.mapping, hafter.atlas⟩
  have hquiet :=
    (keeps_nameRows Survey.allows_quiet.spares plan dbms nameOf rows (Survey.opened call between)).events
  rw [hread] at hquiet
  rw [Survey.closed, hquiet, Survey.opened, List.append_assoc]
  rfl

/-- A source lists the names of schemas and, at the first call for them, of catalogs. -/
structure ListsNames (plan : Plan) (names : List (Option String)) : Prop where
  listing : ∃ schemas catalogs, names = schemas ++ catalogs ∧
    (∀ earlier, ∃ rows, plan.source earlier .schemas = .ok { rows } ∧ Names (schemaName plan.vendor) rows schemas) ∧
    ∀ earlier, .catalogs ∉ earlier →
      ∃ rows, plan.source earlier .catalogs = .ok { rows } ∧ Names catalogName rows catalogs

/-- The schemas of a database are discovered as they are named, if one of them is accepted. -/
theorem discoverSchemas_drawn (hfilters : Filters plan passed) {label typeName : Option String}
    {names : List (Option String)} (hnames : ListsNames plan names) (hsome : accepted plan.vendor passed names ≠ [])
    (hfirst : .catalogs ∉ Event.calls before.events) (hdbms : before.atlas.IsLeaf dbms label (.dbms typeName))
    (levels : Nat) :
    Keeping.Succeeds (discoverSchemas plan dbms) before fun _ =>
      Drawn dbms (levels + 1) ((accepted plan.vendor passed names).map emptySchema) before := by
  obtain ⟨schemas, catalogs, rfl, hschemas, hcatalogs⟩ := hnames.listing
  obtain ⟨rows, hanswer, hrows⟩ := hschemas (Event.calls before.events)
  have hnone : Drawn dbms (levels + 1) ((accepted plan.vendor passed []).map emptySchema) before before :=
    Drawn.refl dbms (levels + 1) before
  refine (discover_drawn hfilters hanswer hrows hdbms hnone).bind ?_
  rintro _ between ⟨hevents, hbetween⟩
  have hstill : .catalogs ∉ Event.calls between.events := by
    rw [hevents, Event.calls, List.filterMap_append, List.mem_append]
    exact not_or.mpr ⟨hfirst, by decide⟩
  obtain ⟨more, hanswer, hmore⟩ := hcatalogs _ hstill
  refine (discover_drawn hfilters hanswer hmore hdbms hbetween).bind ?_
  rintro _ after ⟨-, hafter⟩
  apply Keeping.Succeeds.of_get
  have hleaves := hafter.leaves hdbms
  have hfound : (after.atlas.collection dbms .schema).isEmpty = false := by
    cases hcollection : after.atlas.collection dbms .schema with
    | cons schema rest => rfl
    | nil =>
      rw [show Content.schema.kind = NodeKind.schema from rfl, hcollection] at hleaves
      exact absurd (List.forall₂_nil_left_iff.mp hleaves) hsome
  rw [hfound]
  exact ⟨(), after, rfl, hafter⟩

end SchemaAtlas.Crawl
