import SchemaAtlas.Proofs.Crawl.Names

/-!
# What discovery finds, asks and discards

The schemas, the questions to the filter and the discarded names are told here from the names of both
listings alone. The same notes are kept through both listings, so a name that was accepted or discarded in
one is not accepted or discarded again in the other.
-/

namespace SchemaAtlas.Crawl

/-! ## Names in rows -/

/-- The name that a row of the schema listing gives: the schema's name, or where that is null the catalog's,
if the row has one. -/
inductive GivesSchema (vendor : Vendor) (fields : List (String × Value)) : Option String → Prop where
  | schema {name : String} (hname : fields.lookup vendor.schemaField = some (.text name)) :
    GivesSchema vendor fields (some name)
  | catalog {name : Option String} (hnull : fields.lookup vendor.schemaField = some .null)
    (hname : fields.lookup "TABLE_CATALOG" = some (.ofName name)) : GivesSchema vendor fields name
  | neither (hnull : fields.lookup vendor.schemaField = some .null)
    (hmissing : fields.lookup "TABLE_CATALOG" = none) : GivesSchema vendor fields none

/-- The name that a row of the catalog listing gives. -/
def GivesCatalog (fields : List (String × Value)) (name : Option String) : Prop :=
  fields.lookup "TABLE_CAT" = some (.ofName name)

/-- The rows of a listing are records that give some names. -/
def Gives (gives : List (String × Value) → Option String → Prop) (rows : List Row)
    (names : List (Option String)) : Prop :=
  List.Forall₂ (fun row name => ∃ fields, row = .ok (.record fields) ∧ gives fields name) rows names

/-- The name that a row of the schema listing gives is the one that is read. -/
theorem GivesSchema.schemaName {vendor : Vendor} {fields : List (String × Value)} {name : Option String}
    (h : GivesSchema vendor fields name) : schemaName vendor (.record fields) = .ok (.ofName name) := by
  cases h with
  | schema hname =>
    unfold Crawl.schemaName
    cases hcatalog : fields.lookup "TABLE_CATALOG" <;>
      simp [Value.field, hname, hcatalog, bind, Except.bind, Failure.missingField, Value.isNull, Value.ofName]
  | catalog hnull hname =>
    simp [Crawl.schemaName, Value.field, hnull, hname, bind, Except.bind, Value.isNull]
  | neither hnull hmissing =>
    simp [Crawl.schemaName, Value.field, hnull, hmissing, bind, Except.bind, Failure.missingField, Value.ofName]

/-- Rows that give names have these names. -/
theorem Gives.names {gives : List (String × Value) → Option String → Prop} {nameOf : Value → Except Failure Value}
    {rows : List Row} {names : List (Option String)} (h : Gives gives rows names)
    (hread : ∀ fields name, gives fields name → nameOf (.record fields) = .ok (.ofName name)) :
    Names nameOf rows names := by
  apply List.Forall₂.imp _ h
  intro row name hrow
  obtain ⟨fields, hrecord, hgives⟩ := hrow
  exact ⟨.record fields, hrecord, hread fields name hgives⟩

/-! ## Names that are asked about, and names that are discarded -/

/-- The names that the filter is asked about: those that are there and are not excluded, as often as they
are listed. -/
def considered (vendor : Vendor) (names : List (Option String)) : List String :=
  (names.filterMap id).filter fun name => !(vendor.excluded.map Text.lower).contains (Text.lower name)

/-- The names that are discarded: those that are absent or not chosen, each where it occurs first. -/
def rejected (vendor : Vendor) (passed : String → Bool) (names : List (Option String)) :
    List (Option String) :=
  (names.filter fun name => !name.any (isChosen vendor passed)).eraseDups

variable {plan : Plan} {passed : String → Bool} {before between : Survey Notes} {levels : Nat}

/-- No name is both accepted and discarded. -/
theorem not_mem_accepted_of_rejected {vendor : Vendor} {names : List (Option String)} {name : String}
    (h : some name ∈ rejected vendor passed names) : name ∉ accepted vendor passed names := by
  intro haccepted
  have hrejected := (List.mem_filter.mp (List.mem_eraseDups.mp h)).2
  have hchosen := (List.mem_filter.mp (List.mem_eraseDups.mp haccepted)).2
  simp [hchosen] at hrejected

/-- A further name is discarded if it is not chosen and was not discarded before. -/
theorem rejected_concat (vendor : Vendor) (passed : String → Bool) (names : List (Option String))
    (name : Option String) :
    rejected vendor passed (names ++ [name]) =
      if name.any (isChosen vendor passed) = false ∧ name ∉ rejected vendor passed names then
        rejected vendor passed names ++ [name]
      else rejected vendor passed names := by
  simp only [rejected, List.filter_append, List.mem_eraseDups]
  cases hchosen : name.any (isChosen vendor passed) with
  | true => simp [hchosen]
  | false =>
    have hone : [name].filter (fun name => !name.any (isChosen vendor passed)) = [name] := by simp [hchosen]
    rw [hone, eraseDups_concat]
    generalize names.filter (fun name => !name.any (isChosen vendor passed)) = others
    by_cases hmem : name ∈ others <;> simp [hmem]

/-- The notes of a discovery that went through some names. -/
structure Tells (plan : Plan) (passed : String → Bool) (names : List (Option String)) (notes : Notes) : Prop where
  asked : notes.asked = if plan.filter.isSome then (considered plan.vendor names).map .text else []
  discarded : notes.discarded = (rejected plan.vendor passed names).map .ofName

/-! ## The notes of a name -/

/-- Whether a name was noted. -/
theorem any_sameName (names : List (Option String)) (name : Option String) :
    (names.map Value.ofName).any (sameName (.ofName name)) = decide (name ∈ names) := by
  induction names with
  | nil => rfl
  | cons other names ih =>
    have hsame : sameName (.ofName name) (.ofName other) = decide (name = other) := by
      rw [Bool.eq_iff_iff]
      cases name <;> cases other <;> simp [sameName, Value.ofName]
    simp only [List.map_cons, List.any_cons, ih, hsame, List.mem_cons, Bool.decide_or]

/-- A name that is not chosen is discarded. -/
theorem discard_tells {names : List (Option String)} {name : Option String}
    (hnot : name.any (isChosen plan.vendor passed) = false)
    (hasked : before.notes.asked =
      if plan.filter.isSome then (considered plan.vendor (names ++ [name])).map .text else [])
    (hdiscarded : before.notes.discarded = (rejected plan.vendor passed names).map .ofName) :
    Tells plan passed (names ++ [name]) (discard (.ofName name) before).2.notes := by
  have hnoted := any_sameName (rejected plan.vendor passed names) name
  rw [← hdiscarded] at hnoted
  have hnotes : (discard (.ofName name) before).2.notes =
      if name ∈ rejected plan.vendor passed names then before.notes
      else { before.notes with discarded := before.notes.discarded ++ [.ofName name] } := by
    change (if before.notes.discarded.any (sameName (.ofName name)) then before.notes else _) = _
    rw [hnoted]
    simp only [decide_eq_true_eq]
  rw [hnotes]
  by_cases hmem : name ∈ rejected plan.vendor passed names
  · rw [if_pos hmem]
    exact ⟨hasked, by rw [hdiscarded, rejected_concat, if_neg fun h => h.2 hmem]⟩
  · rw [if_neg hmem]
    exact ⟨hasked, by simp [hdiscarded, rejected_concat, hnot, hmem]⟩

/-- Making a schema notes nothing. -/
theorem addSchema_notes (dbms : NodeId) (name : Value) :
    Keeping.Keeps (InvImage Eq Survey.notes) (addSchema dbms name) := by
  refine (Survey.keeps_childNamed dbms .schema name).bind ?_
  intro found
  cases found with
  | some _ => exact Keeping.Keeps.pure ()
  | none => exact (Survey.keeps_add fun _ _ _ => rfl).bind fun schema => Survey.keeps_set fun _ _ _ => rfl

/-- Names that are asked about one after the other. -/
theorem considered_append (vendor : Vendor) (first second : List (Option String)) :
    considered vendor (first ++ second) = considered vendor first ++ considered vendor second := by
  simp [considered]

/-- One name is asked about unless it is excluded. -/
theorem considered_single (vendor : Vendor) (name : String) :
    considered vendor [some name] =
      if (vendor.excluded.map Text.lower).contains (Text.lower name) then [] else [name] := by
  change [name].filter _ = _
  rw [List.filter_singleton]
  cases (vendor.excluded.map Text.lower).contains (Text.lower name) <;> rfl

/-- Whether a name is accepted is asked of the filter unless the name is excluded. -/
theorem isAccepted_apply (hfilters : Filters plan passed) (name : String) (before : Survey Notes) :
    isAccepted plan (.text name) before = (.ok (isChosen plan.vendor passed name),
      { before with notes := { before.notes with asked := before.notes.asked ++
        if plan.filter.isSome then (considered plan.vendor [some name]).map .text else [] } }) := by
  have hexcluded : isExcluded plan.vendor (.text name) =
      .ok ((plan.vendor.excluded.map Text.lower).contains (Text.lower name)) := rfl
  have hnull : (Value.text name).isNull = false := rfl
  simp only [isAccepted, hnull, Bool.false_eq_true, if_false, Keeping.bind_apply, Keeping.settle_apply, hexcluded]
  rw [isChosen, considered_single]
  cases (plan.vendor.excluded.map Text.lower).contains (Text.lower name) with
  | true => simp
  | false =>
    simp only [Bool.false_eq_true, if_false, passes]
    unfold Filters at hfilters
    cases hfilter : plan.filter with
    | none =>
      rw [hfilter] at hfilters
      simp [hfilters name]
    | some filter =>
      rw [hfilter] at hfilters
      simp [hfilters name, Keeping.bind_apply, Survey.note]

/-- The notes of one more name. -/
theorem considerName_tells (hfilters : Filters plan passed) (dbms : NodeId) {names : List (Option String)}
    (name : Option String) (h : Tells plan passed names before.notes) :
    Tells plan passed (names ++ [name]) (considerName plan dbms (.ofName name) before).2.notes := by
  cases name with
  | none =>
    have hnone : considered plan.vendor [none] = [] := rfl
    apply discard_tells rfl _ h.discarded
    rw [considered_append, hnone, List.append_nil]
    exact h.asked
  | some name =>
    change Tells _ _ _ (considerName plan dbms (.text name) before).2.notes
    rw [considerName, Keeping.bind_of_ok (isAccepted_apply hfilters name before)]
    have hasked : before.notes.asked ++
          (if plan.filter.isSome then (considered plan.vendor [some name]).map .text else []) =
        if plan.filter.isSome then (considered plan.vendor (names ++ [some name])).map .text else [] := by
      rw [h.asked, considered_append]
      split <;> simp
    cases hchosen : isChosen plan.vendor passed name with
    | false => exact discard_tells hchosen hasked h.discarded
    | true =>
      have hkept := addSchema_notes dbms (.text name) { before with notes := { before.notes with
        asked := before.notes.asked ++
          if plan.filter.isSome then (considered plan.vendor [some name]).map .text else [] } }
      simp only [InvImage] at hkept
      simp only [if_true, ← hkept]
      exact ⟨hasked, by simp [h.discarded, rejected_concat, hchosen]⟩

/-! ## The notes of both listings -/

/-- The notes of the names of a listing that is read to its end. -/
theorem nameRows_tells (hfilters : Filters plan passed) {nameOf : Value → Except Failure Value} {dbms : NodeId}
    {rows : List Row} {names done : List (Option String)} (hrows : Names nameOf rows names)
    (hread : (nameRows plan dbms nameOf rows before).1 = .ok ()) (h : Tells plan passed done before.notes) :
    Tells plan passed (done ++ names) (nameRows plan dbms nameOf rows before).2.notes := by
  induction names generalizing rows done before with
  | nil =>
    cases hrows
    rw [List.append_nil]
    exact h
  | cons name names ih =>
    obtain _ | ⟨hfirst, hrest⟩ := hrows
    rename_i rows
    obtain ⟨v, rfl, hv⟩ := hfirst
    have hsplit : nameRows plan dbms nameOf (.ok v :: rows) =
        (do considerName plan dbms (.ofName name); nameRows plan dbms nameOf rows) := by
      change (do (do considerName plan dbms (← Keeping.settle (nameOf v))); nameRows plan dbms nameOf rows) = _
      rw [hv]
      rfl
    have hname := considerName_tells hfilters dbms name h
    rw [hsplit, Keeping.bind_apply] at hread ⊢
    generalize considerName plan dbms (.ofName name) before = result at hread hname ⊢
    obtain ⟨_ | _, next⟩ := result
    · cases hread
    · rw [List.append_cons]
      exact ih hrest hread hname

/-- A listing of names is read into schemas and notes. -/
theorem discover_told (hfilters : Filters plan passed) {dbms : NodeId} {call : Call}
    {nameOf : Value → Except Failure Value} {rows : List Row} {label typeName : Option String}
    {names done : List (Option String)}
    (hanswer : plan.source (Event.calls between.events) call = .ok { rows }) (hrows : Names nameOf rows names)
    (hdbms : before.atlas.IsLeaf dbms label (.dbms typeName))
    (hdone : Drawn dbms levels ((accepted plan.vendor passed done).map emptySchema) before between)
    (htells : Tells plan passed done between.notes) :
    Keeping.Succeeds (discover plan dbms call nameOf) between fun _ after =>
      after.events = between.events ++ [.called call, .opened call, .closed call] ∧
        Drawn dbms levels ((accepted plan.vendor passed (done ++ names)).map emptySchema) before after ∧
        Tells plan passed (done ++ names) after.notes := by
  have hopened : Drawn dbms levels ((accepted plan.vendor passed done).map emptySchema) before
      (Survey.opened call between) := ⟨hdone.mapping, hdone.atlas⟩
  obtain ⟨_, read, hread, -⟩ := nameRows_drawn hfilters hrows hdbms hopened
  have hnotes : Tells plan passed done (Survey.opened call between).notes := htells
  have hall := nameRows_tells hfilters hrows (congrArg Prod.fst hread) hnotes
  rw [hread] at hall
  obtain ⟨_, after, hrun, hevents, hafter⟩ := discover_drawn hfilters hanswer hrows hdbms hdone
  have hclosed : Survey.closed call read = after :=
    congrArg Prod.snd ((discover_of_read hanswer hread).symm.trans hrun)
  rw [← hclosed] at hevents hafter
  exact ⟨(), _, discover_of_read hanswer hread, hevents, hafter, hall⟩

/-- What a discovery that went through some names leaves: a schema for each accepted name, in their order,
and the notes of the names. -/
structure Discovered (plan : Plan) (passed : String → Bool) (dbms : NodeId) (names : List (Option String))
    (after : Survey Notes) : Prop where
  schemas : List.Forall₂ (fun id name => after.atlas.IsLeaf id (some name) .schema)
    (after.atlas.collection dbms .schema) (accepted plan.vendor passed names)
  discarded : after.notes.discarded = (rejected plan.vendor passed names).map .ofName
  asked : after.notes.asked = if plan.filter.isSome then (considered plan.vendor names).map .text else []

/-- What a discovery comes to: it fails exactly if it found no schema, and tells what it discarded. -/
def discoveryOutcome (plan : Plan) (passed : String → Bool) (names : List (Option String)) :
    Except Failure Unit :=
  if accepted plan.vendor passed names = [] then
    .error (noSchema ((rejected plan.vendor passed names).map .ofName))
  else .ok ()

/-- A discovery in a database without schemas finds, asks about and discards exactly the names that it
should, and a crawl fails there or goes on to read the schemas that were found. -/
theorem discoverSchemas_exact {dbms : NodeId} {label typeName : Option String} {schemaRows catalogRows : List Row}
    {schemas catalogs : List (Option String)} (hfilters : Filters plan passed)
    (hdbms : before.atlas.IsLeaf dbms label (.dbms typeName)) (hasked : before.notes.asked = [])
    (hdiscarded : before.notes.discarded = [])
    (hschemas : plan.source (Event.calls before.events) .schemas = .ok { rows := schemaRows })
    (hcatalogs : plan.source (Event.calls before.events ++ [.schemas]) .catalogs = .ok { rows := catalogRows })
    (hschemaNames : Gives (GivesSchema plan.vendor) schemaRows schemas)
    (hcatalogNames : Gives GivesCatalog catalogRows catalogs) :
    ∃ after, discoverSchemas plan dbms before = (discoveryOutcome plan passed (schemas ++ catalogs), after) ∧
      Discovered plan passed dbms (schemas ++ catalogs) after ∧
      (∀ name, some name ∈ rejected plan.vendor passed (schemas ++ catalogs) →
        name ∉ accepted plan.vendor passed (schemas ++ catalogs)) ∧
      ∀ start, readTypes plan dbms start = (.ok (), before) →
        run plan dbms start = match discoveryOutcome plan passed (schemas ++ catalogs) with
          | .error f => (.error f, after)
          | .ok () => readSchemas plan (after.atlas.collection dbms .schema) after := by
  have hschemaRows : Names (schemaName plan.vendor) schemaRows schemas :=
    hschemaNames.names fun _ _ => GivesSchema.schemaName
  have hcatalogRows : Names catalogName catalogRows catalogs := hcatalogNames.names fun fields name hname => by
    have hlookup : fields.lookup "TABLE_CAT" = some (.ofName name) := hname
    simp only [catalogName, Value.field, hlookup]
  have hnone : Drawn dbms 1 ((accepted plan.vendor passed []).map emptySchema) before before :=
    Drawn.refl dbms 1 before
  have hstart : Tells plan passed [] before.notes := ⟨by simp [hasked, considered], hdiscarded⟩
  obtain ⟨_, between, hfirst, hevents, hbetween, hmiddle⟩ :=
    discover_told hfilters hschemas hschemaRows hdbms hnone hstart
  have hcalls : Event.calls between.events = Event.calls before.events ++ [.schemas] := by
    rw [hevents, Event.calls, List.filterMap_append]
    rfl
  rw [← hcalls] at hcatalogs
  obtain ⟨_, after, hsecond, -, hafter, htells⟩ :=
    discover_told hfilters hcatalogs hcatalogRows hdbms hbetween hmiddle
  have hleaves : List.Forall₂ (fun id name => after.atlas.IsLeaf id (some name) .schema)
      (after.atlas.collection dbms .schema) (accepted plan.vendor passed (schemas ++ catalogs)) :=
    hafter.leaves hdbms
  -- There is a schema exactly if a name is accepted.
  have hempty : (after.atlas.collection dbms .schema).isEmpty =
      decide (accepted plan.vendor passed (schemas ++ catalogs) = []) := by
    rw [Bool.eq_iff_iff, List.isEmpty_iff, decide_eq_true_eq, ← List.length_eq_zero_iff, hleaves.length_eq,
      List.length_eq_zero_iff]
  have hrun : discoverSchemas plan dbms before =
      (discoveryOutcome plan passed (schemas ++ catalogs), after) := by
    rw [discoverSchemas, Keeping.bind_of_ok hfirst, Keeping.bind_of_ok hsecond,
      Keeping.bind_of_ok (Keeping.get_apply after), hempty, htells.discarded, discoveryOutcome]
    by_cases hfound : accepted plan.vendor passed (schemas ++ catalogs) = [] <;> simp [hfound]
  refine ⟨after, hrun, ⟨hleaves, htells.discarded, htells.asked⟩, fun _ => not_mem_accepted_of_rejected, ?_⟩
  intro start hstart
  rw [run, Keeping.bind_of_ok hstart, Keeping.bind_apply, hrun]
  cases discoveryOutcome plan passed (schemas ++ catalogs) <;> rfl

/-- A database whose listings repeat names across both passes, in other letter case, and with nulls. -/
theorem discoverSchemas_exact_repeated :
    let row (schema catalog : Option String) : Row :=
      .ok (.record [("TABLE_SCHEM", .ofName schema), ("TABLE_CATALOG", .ofName catalog)])
    let schemaRows : List Row := [row (some "main") (some "shop"), row none (some "shop"), row (some "SYS") none,
      row none none, row (some "tmp") none]
    let catalogRows : List Row := ["tmp", "main", "new", "sys"].map fun name =>
      .ok (.record [("TABLE_CAT", .text name)])
    let plan : Plan := {
      vendor := { Vendor.generic with excluded := ["Sys"] }
      filter := some fun name => .ok (match name with | .text s => s != "tmp" | _ => false)
      source := fun _ call => .ok { rows := match call with
        | .schemas => schemaRows
        | .catalogs => catalogRows
        | _ => [] } }
    let names := [some "main", some "shop", some "SYS", none, some "tmp"] ++
      [some "tmp", some "main", some "new", some "sys"]
    let before : Survey Notes := { atlas := (Atlas.create {} { content := .dbms none }).1, notes := {} }
    ∃ after, discoverSchemas plan 0 before = (.ok (), after) ∧
      Discovered plan (· != "tmp") 0 names after ∧
      accepted plan.vendor (· != "tmp") names = ["main", "shop", "new"] ∧
      rejected plan.vendor (· != "tmp") names = [some "SYS", none, some "tmp", some "sys"] ∧
      considered plan.vendor names = ["main", "shop", "tmp", "tmp", "main", "new"] := by
  intro row schemaRows catalogRows plan names before
  have hleaf : before.atlas.IsLeaf 0 none (.dbms none) := ⟨{ content := .dbms none }, rfl, rfl, rfl, rfl, rfl⟩
  have hschemaNames : Gives (GivesSchema plan.vendor) schemaRows
      [some "main", some "shop", some "SYS", none, some "tmp"] :=
    .cons ⟨_, rfl, .schema rfl⟩ (.cons ⟨_, rfl, .catalog rfl rfl⟩ (.cons ⟨_, rfl, .schema rfl⟩
      (.cons ⟨_, rfl, .catalog rfl rfl⟩ (.cons ⟨_, rfl, .schema rfl⟩ .nil))))
  have hcatalogNames : Gives GivesCatalog catalogRows [some "tmp", some "main", some "new", some "sys"] :=
    .cons ⟨_, rfl, rfl⟩ (.cons ⟨_, rfl, rfl⟩ (.cons ⟨_, rfl, rfl⟩ (.cons ⟨_, rfl, rfl⟩ .nil)))
  have hfilters : Filters plan (· != "tmp") := fun _ => rfl
  have haccepted : accepted plan.vendor (· != "tmp") names = ["main", "shop", "new"] := by decide +kernel
  obtain ⟨after, hrun, hdiscovered, -⟩ :=
    discoverSchemas_exact hfilters hleaf rfl rfl rfl rfl hschemaNames hcatalogNames
  refine ⟨after, ?_, hdiscovered, haccepted, by decide +kernel, by decide +kernel⟩
  rw [hrun, discoveryOutcome, if_neg]
  rw [haccepted]
  exact List.cons_ne_nil _ _

end SchemaAtlas.Crawl
