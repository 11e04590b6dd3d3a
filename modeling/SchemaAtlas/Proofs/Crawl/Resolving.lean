import SchemaAtlas.Proofs.Crawl.Calls
import SchemaAtlas.Proofs.Crawl.Wanting

/-!
# Type mappers in a crawl

A crawl resolves the columns that it adds by its type mappers, as the rows say that it lists, and nothing but these rows has
to do with columns. A row that wants a mapper stops the crawl, with the failure that tells it.
-/

namespace SchemaAtlas.Crawl

variable {α β : Type} {plan : Plan} {table : NodeId} {before between after : Survey Notes} {mappers : Registry}
  {mapping : TypeMapping}

/-! ## Listings -/

/-- Between two surveys, columns are called for and listed, and some calls follow. -/
def CallsColumns (source : Source) (before after : Survey Notes) (listing : Listing) (later : List Call) : Prop :=
  ∃ earlier catalog schema table,
    Event.calls after.events = earlier ++ .part .columns catalog schema table :: later ∧
      Event.calls before.events <+: earlier ∧ source earlier (.part .columns catalog schema table) = .ok listing

/-- Columns are called for before some survey in the middle or behind it. -/
theorem CallsColumns.split {source : Source} {listing : Listing} {later : List Call}
    (h : CallsColumns source before after listing later)
    (hcalls : Event.calls between.events <+: Event.calls after.events) :
    (∃ sooner, CallsColumns source before between listing sooner) ∨ CallsColumns source between after listing later := by
  obtain ⟨earlier, catalog, schema, table, hafter, hbefore, hanswer⟩ := h
  obtain ⟨more, hmore⟩ := hcalls
  obtain ⟨rest, hearlier, -⟩ | ⟨rest, hbetween, hrest⟩ := List.append_eq_append_iff.mp (hmore.trans hafter)
  · exact .inr ⟨earlier, catalog, schema, table, hafter, ⟨rest, hearlier.symm⟩, hanswer⟩
  · cases rest with
    | nil => exact .inr ⟨earlier, catalog, schema, table, hafter, by simp [hbetween], hanswer⟩
    | cons call rest =>
      obtain ⟨rfl, -⟩ := List.cons.inj hrest
      exact .inl ⟨rest, earlier, catalog, schema, table, hbetween, hbefore, hanswer⟩

/-- Where columns are called for, a call for them is one of the calls that are made. -/
theorem CallsColumns.mem {source : Source} {listing : Listing} {later more : List Call}
    (h : CallsColumns source before after listing later)
    (hmore : Event.calls after.events = Event.calls before.events ++ more) :
    ∃ catalog schema table, .part .columns catalog schema table ∈ more := by
  obtain ⟨earlier, catalog, schema, table, hafter, ⟨rest, rfl⟩, -⟩ := h
  rw [hmore, List.append_assoc, List.append_cancel_left_eq] at hafter
  exact ⟨catalog, schema, table, by rw [hafter]; simp⟩

/-- If one call is made for columns, nothing is called for behind it. -/
theorem CallsColumns.one {source : Source} {listing : Listing} {later : List Call} {catalog schema table : Option String}
    (h : CallsColumns source before after listing later)
    (hcalls : Event.calls after.events = Event.calls before.events ++ [.part .columns catalog schema table]) :
    later = [] ∧ source (Event.calls before.events) (.part .columns catalog schema table) = .ok listing := by
  obtain ⟨earlier, _, _, _, hafter, ⟨rest, rfl⟩, hanswer⟩ := h
  rw [hcalls, List.append_assoc, List.append_cancel_left_eq] at hafter
  cases rest with
  | nil =>
    obtain ⟨hcall, rfl⟩ := List.cons.inj hafter
    rw [List.append_nil, ← hcall] at hanswer
    exact ⟨rfl, hanswer⟩
  | cons call rest => simp at hafter

/-- Columns that are called for before some survey in the middle are called for before later ones. -/
theorem CallsColumns.sooner {source : Source} {listing : Listing} {later : List Call}
    (h : CallsColumns source before between listing later)
    (hcalls : Event.calls between.events <+: Event.calls after.events) :
    ∃ more, CallsColumns source before after listing (later ++ more) := by
  obtain ⟨earlier, catalog, schema, table, hbetween, hbefore, hanswer⟩ := h
  obtain ⟨more, hmore⟩ := hcalls
  exact ⟨more, earlier, catalog, schema, table, by rw [← hmore, hbetween]; simp, hbefore, hanswer⟩

/-- Columns that are called for behind it are called for behind earlier ones. -/
theorem CallsColumns.behind {source : Source} {listing : Listing} {later : List Call}
    (h : CallsColumns source between after listing later)
    (hcalls : Event.calls before.events <+: Event.calls between.events) :
    CallsColumns source before after listing later := by
  obtain ⟨earlier, catalog, schema, table, hafter, hbetween, hanswer⟩ := h
  exact ⟨earlier, catalog, schema, table, hafter, hcalls.trans hbetween, hanswer⟩

/-- A row that is listed between two surveys says what is known of the type of a column. -/
def Sourced (mappers : Registry) (mapping : TypeMapping) (source : Source) (before after : Survey Notes)
    (typing : Typing) : Prop :=
  ∃ listing later, CallsColumns source before after listing later ∧ Shown mappers mapping listing.rows typing

/-- A column that is known from a row before some survey in the middle is known from it before later ones. -/
theorem Sourced.sooner {source : Source} {typing : Typing} (h : Sourced mappers mapping source before between typing)
    (hcalls : Event.calls between.events <+: Event.calls after.events) :
    Sourced mappers mapping source before after typing := by
  obtain ⟨listing, later, hlisted, hshown⟩ := h
  obtain ⟨more, hmore⟩ := hlisted.sooner hcalls
  exact ⟨listing, later ++ more, hmore, hshown⟩

/-- One that is known from a row behind it is known from it behind earlier ones. -/
theorem Sourced.behind {source : Source} {typing : Typing} (h : Sourced mappers mapping source between after typing)
    (hcalls : Event.calls before.events <+: Event.calls between.events) :
    Sourced mappers mapping source before after typing := by
  obtain ⟨listing, later, hlisted, hshown⟩ := h
  exact ⟨listing, later, hlisted.behind hcalls, hshown⟩

/-- A listing of columns is read to its end. -/
structure ReadOut (mappers : Registry) (mapping : TypeMapping) (listing : Listing) : Prop where
  closes : listing.closeFailure = none
  understood : ∀ row ∈ listing.rows, Understood mappers mapping row

/-- No row of a listing that is read to its end wants a mapper. -/
theorem ReadOut.not_wantsNext {listing : Listing} {t : TypeName} (h : ReadOut mappers mapping listing) :
    ¬WantsNext mappers mapping listing.rows t := by
  rintro ⟨done, row, rest, hrows, -, hwants⟩
  obtain ⟨v, line, hv, htold⟩ := h.understood row (by simp [hrows])
  cases (ofRow_of_wants hwants).symm.trans (ofRow_eq_ok_iff.mpr ⟨v, hv, htold⟩)

/-- What a step of a crawl has to do with columns. -/
structure Resolving (plan : Plan) (receptive : Prop) (before : Survey Notes) (run : Except Failure α × Survey Notes) :
    Prop where
  /-- New columns are resolved as rows say that are listed. -/
  types : Types (Sourced plan.mappers before.notes.mapping plan.source before run.2) (run.1.isOk = false) before run.2
  calls : Event.calls before.events <+: Event.calls run.2.events
  /-- Listings of columns are read to their ends, but for the last call of a step that fails. -/
  reads : ∀ listing later, CallsColumns plan.source before run.2 listing later → run.1.isOk = true ∨ later ≠ [] →
    ReadOut plan.mappers before.notes.mapping listing
  /-- A row that wants a mapper makes the step fail, where tables take columns. -/
  wants : receptive → ∀ listing later t, CallsColumns plan.source before run.2 listing later →
    listing.closeFailure = none → WantsNext plan.mappers before.notes.mapping listing.rows t →
    run.1 = .error (Registry.notUnique (plan.mappers.filter (Mapper.keeps t)).length t)

variable {receptive : Prop}

/-- Steps follow each other. -/
theorem Resolving.bind {step : Step α} {next : α → Step β} (h : Resolving plan receptive before (step before))
    (hnext : ∀ a between, step before = (.ok a, between) → Resolving plan receptive between (next a between)) :
    Resolving plan receptive before ((step >>= next) before) := by
  cases hstep : step before with
  | mk outcome between =>
    rw [hstep] at h
    cases outcome with
    | error f =>
      rw [Keeping.bind_of_error hstep]
      exact ⟨h.types, h.calls, h.reads, fun hreceptive listing later t hcalls hcloses hwants =>
        congrArg _ (Except.error.inj (h.wants hreceptive listing later t hcalls hcloses hwants))⟩
    | ok a =>
      rw [Keeping.bind_of_ok hstep]
      have hmore := hnext a between hstep
      have hmapping := h.types.mapping
      have hfirst := h.types.imp id fun typing hsourced => hsourced.sooner hmore.calls
      have hsecond := hmore.types.imp id fun typing hsourced => hsourced.behind h.calls
      rw [hmapping] at hsecond
      -- A listing that is called for belongs to one of the two steps. The first one has succeeded, so its listings were
      -- read to their ends, and no row of theirs wants a mapper.
      refine ⟨hfirst.trans nofun hsecond, h.calls.trans hmore.calls, ?_, ?_⟩
      · intro listing later hcalls hlater
        obtain ⟨sooner, hsooner⟩ | hbehind := hcalls.split hmore.calls
        · exact h.reads listing sooner hsooner (.inl rfl)
        · rw [← hmapping]
          exact hmore.reads listing later hbehind hlater
      · intro hreceptive listing later t hcalls hcloses hwants
        obtain ⟨sooner, hsooner⟩ | hbehind := hcalls.split hmore.calls
        · exact absurd hwants (h.reads listing sooner hsooner (.inl rfl)).not_wantsNext
        · rw [← hmapping] at hwants
          exact hmore.wants hreceptive listing later t hbehind hcloses hwants

/-- A step that spares the types of columns and does not call for columns has nothing to do with them. -/
theorem Resolving.of_spares {run : Except Failure α × Survey Notes} {more : List Call}
    (hatlas : before.atlas.SparesTypes run.2.atlas) (hmapping : run.2.notes.mapping = before.notes.mapping)
    (hcalls : Event.calls run.2.events = Event.calls before.events ++ more)
    (hmore : ∀ catalog schema table, .part .columns catalog schema table ∉ more) :
    Resolving plan receptive before run where
  types := .of_spares hatlas hmapping
  calls := ⟨more, hcalls.symm⟩
  reads _ _ h := by
    obtain ⟨catalog, schema, table, hmem⟩ := h.mem hcalls
    exact absurd hmem (hmore catalog schema table)
  wants _ _ _ _ h := by
    obtain ⟨catalog, schema, table, hmem⟩ := h.mem hcalls
    exact absurd hmem (hmore catalog schema table)

/-- A failure that tells the number of mappers is told as it is. -/
theorem unreadable_notUnique (atlas : Atlas) (parent : NodeId) (what : String) (count : Nat) (t : TypeName) :
    Survey.unreadable atlas parent what (Registry.notUnique count t) = Registry.notUnique count t :=
  rfl

/-- The columns of a table that are read are resolved. -/
theorem resolving_columns (plan : Plan) (space : Namespace) (table : NodeId) (before : Survey Notes) :
    Resolving plan (before.atlas.TakesColumns table) before (readPart plan space table .columns before) := by
  have hcalls := calls_readPart plan space table .columns before
  cases hanswer : plan.source (Event.calls before.events)
      (.part .columns space.catalog space.schema (before.atlas.nameOf table)) with
  | error f =>
    have hnone (listing : Listing) (later : List Call) :
        ¬CallsColumns plan.source before (readPart plan space table .columns before).2 listing later := by
      intro h
      cases hanswer.symm.trans (h.one hcalls).2
    refine ⟨?_, ⟨_, hcalls.symm⟩, fun listing later h => absurd h (hnone listing later),
      fun _ listing later _ h => absurd h (hnone listing later)⟩
    simp only [readPart, readPart.discard, Survey.ingest, Keeping.bind_apply, Keeping.get_apply, Keeping.attempt_apply,
      Survey.consume_refused hanswer]
    exact .of_spares (Std.Refl.refl _) rfl
  | ok listing =>
    have hrows := (columnRows_reads plan table listing.rows
      (Survey.opened (.part .columns space.catalog space.schema (before.atlas.nameOf table)) before) 0).listed
    cases hread : (rowsOf plan table .columns).rows 0 listing.rows
        (Survey.opened (.part .columns space.catalog space.schema (before.atlas.nameOf table)) before) with
    | mk outcome read =>
      have hlisted := readPart_listed hanswer hread
      rw [show columnRows plan table = rowsOf plan table .columns from rfl, hread] at hrows
      rw [hlisted] at hcalls ⊢
      refine ⟨?_, ⟨_, hcalls.symm⟩, fun other later h hlater => ?_, fun hreceptive other later t h hcloses hwants => ?_⟩
      · refine hrows.types.imp (fun hfails => ?_) fun typing hshown =>
          ⟨listing, [], ⟨_, _, _, _, hcalls, List.prefix_refl _, hanswer⟩, hshown⟩
        cases outcome with
        | ok count => cases hfails
        | error f => cases listing.closeFailure <;> rfl
      · obtain ⟨rfl, hother⟩ := h.one hcalls
        obtain rfl : listing = other := Except.ok.inj (hanswer.symm.trans hother)
        have hok := hlater.resolve_right fun hne => hne rfl
        cases hcloses : listing.closeFailure with
        | some f =>
          rw [hcloses] at hok
          cases outcome <;> cases hok
        | none =>
          rw [hcloses] at hok
          cases outcome with
          | ok count => exact ⟨hcloses, hrows.understood rfl⟩
          | error f => cases hok
      · obtain ⟨-, hother⟩ := h.one hcalls
        obtain rfl : listing = other := Except.ok.inj (hanswer.symm.trans hother)
        obtain rfl : outcome = .error _ := hrows.wants hreceptive t hwants
        rw [hcloses]
        exact congrArg _ (unreadable_notUnique ..)

/-! ## Steps of a crawl -/

/-- Edits of anything but columns spare the types of columns. -/
theorem spares_types : Spares (InvImage Atlas.SparesTypes (Survey.atlas : Survey Notes → Atlas)) where
  note _ _ := Keeping.Keeps.modify fun survey => Std.Refl.refl survey.atlas
  add _ _ hkind := Survey.keeps_add fun _ _ h => Atlas.sparesTypes_of_add hkind h
  set _ _ _ hfield := Survey.keeps_set fun _ _ h => Atlas.sparesTypes_of_assign hfield h

/-- They leave the type mapping. -/
theorem spares_mapping : Spares (InvImage Eq fun survey : Survey Notes => survey.notes.mapping) where
  note _ h := Keeping.Keeps.modify fun survey => (h survey.notes).symm
  add _ _ _ := Survey.keeps_add fun _ _ _ => rfl
  set _ _ _ _ := Survey.keeps_set fun _ _ _ => rfl

/-- Edits leave tables receptive. -/
theorem allows_receptive : Survey.Allows (InvImage Atlas.StaysReceptive (Survey.atlas : Survey Notes → Atlas)) :=
  Survey.allows_atlas Atlas.staysReceptive_of_add Atlas.staysReceptive_of_assign

/-- A step that has to do with columns where tables are receptive has to do with them where that follows. -/
theorem Resolving.imp {open' : Prop} {run : Except Failure α × Survey Notes} (h : Resolving plan receptive before run)
    (himp : open' → receptive) : Resolving plan open' before run :=
  ⟨h.types, h.calls, h.reads, fun hopen => h.wants (himp hopen)⟩

/-- What is given has nothing to do with columns. -/
theorem Resolving.pure (a : α) : Resolving plan receptive before ((Pure.pure a : Step α) before) :=
  .of_spares (Std.Refl.refl _) rfl (List.append_nil _).symm fun _ _ _ => List.not_mem_nil

/-- Nor has a listing of other nodes. -/
theorem resolving_ingest {call : Call} (hcall : ∀ catalog schema table, call ≠ .part .columns catalog schema table)
    (parent : NodeId) (what : String) {way : Survey.Ingestion Notes NodeId}
    (hway : ∀ (R : Survey Notes → Survey Notes → Prop) [IsPreorder (Survey Notes) R], SparesColumns R → way.Keeps R) :
    Resolving plan receptive before (Survey.ingest plan.source call parent what way before) := by
  have htypes :=
    Survey.keeps_ingest Survey.keeps_record plan.source call parent what (hway _ spares_types.toSparesColumns) before
  have hmapping := Survey.keeps_ingest (fun _ => Keeping.Keeps.modify fun _ => rfl) plan.source call parent what
    (hway _ spares_mapping.toSparesColumns) before
  have hcalls := calls_ingest plan.source call parent what (hway _ Survey.allows_quiet.spares.toSparesColumns) before
  refine .of_spares htypes hmapping.symm hcalls fun catalog schema table hmem => ?_
  exact hcall catalog schema table (List.mem_singleton.mp hmem).symm

/-- Nor have the parts of a table besides its columns. -/
theorem resolving_beside (plan : Plan) (space : Namespace) (table : NodeId) (some : List TablePart)
    (hbeside : ∀ part ∈ some, part ≠ .columns) (before : Survey Notes) :
    Resolving plan receptive before (readParts plan space table some before) := by
  induction some generalizing before with
  | nil => exact .pure ()
  | cons part rest ih =>
    have hpart := hbeside part List.mem_cons_self
    refine Resolving.bind ?_ fun _ between _ => ih (fun other hother => hbeside other (List.mem_cons_of_mem _ hother)) _
    rw [readPart, Keeping.bind_of_ok (Keeping.get_apply _)]
    refine Resolving.bind (resolving_ingest ?_ _ _ fun R _ h => keeps_rowsBeside h plan table hpart)
      fun _ _ _ => .pure ()
    intro catalog schema table heq
    exact hpart (Call.part.inj heq).1

/-- A table that is read has its columns resolved. -/
theorem resolving_readParts (plan : Plan) (space : Namespace) (table : NodeId) (before : Survey Notes) :
    Resolving plan (before.atlas.TakesColumns table) before (readParts plan space table parts before) :=
  Resolving.bind (resolving_columns plan space table before) fun _ between _ =>
    resolving_beside plan space table [.indexes, .primaryKey, .foreignKeys] (by decide) between

/-- So have tables that are read one after the other. -/
theorem resolving_readEach (plan : Plan) (space : Namespace) (tables : List NodeId)
    (hopen : receptive → ∀ table ∈ tables, before.atlas.TakesColumns table) :
    Resolving plan receptive before (readEach plan space tables before) := by
  induction tables generalizing before with
  | nil => exact .pure ()
  | cons table rest ih =>
    have hstays := keeps_readParts allows_receptive Survey.keeps_record plan space table parts before
    refine Resolving.bind ((resolving_readParts plan space table before).imp fun h => hopen h table List.mem_cons_self)
      fun _ between hrun => ih fun h other hother => ?_
    rw [hrun] at hstays
    exact hstays.lasts other (hopen h other (List.mem_cons_of_mem _ hother))

/-- So have the tables of a schema. -/
theorem resolving_readSchema (plan : Plan) (schema : NodeId) (hopen : receptive → before.atlas.Receptive schema) :
    Resolving plan receptive before (readSchema plan schema before) := by
  obtain ⟨space, hspace⟩ : ∃ space, namespaceOf plan schema before = (.ok space, before) := ⟨_, rfl⟩
  have hstays := Survey.keeps_ingest Survey.keeps_record plan.source (.tables space.catalog space.schema) schema "tables"
    (keeps_tableRows allows_receptive.spares.toSparesColumns schema) before
  rw [readSchema, Keeping.bind_of_ok hspace]
  refine Resolving.bind (resolving_ingest ?_ schema "tables" fun R _ h => keeps_tableRows h schema)
    fun _ between hrun => ?_
  · intro catalog name table heq
    cases heq
  rw [hrun] at hstays
  rw [Keeping.bind_of_ok (Keeping.get_apply between)]
  exact resolving_readEach plan space _ fun h => hstays.receptive (hopen h)

/-- So have the tables of schemas that are read one after the other. -/
theorem resolving_readSchemas (plan : Plan) (schemas : List NodeId)
    (hopen : receptive → ∀ schema ∈ schemas, before.atlas.Receptive schema) :
    Resolving plan receptive before (readSchemas plan schemas before) := by
  induction schemas generalizing before with
  | nil => exact .pure ()
  | cons schema rest ih =>
    have hstays := keeps_readSchema allows_receptive Survey.keeps_record plan schema before
    refine Resolving.bind (resolving_readSchema plan schema fun h => hopen h schema List.mem_cons_self)
      fun _ between hrun => ih fun h other hother => ?_
    rw [hrun] at hstays
    exact hstays.receptive (hopen h other (List.mem_cons_of_mem _ hother))

/-! ## A crawl -/

/-- What a crawl has to do with columns, by some mappers. -/
structure ResolvesBy (mappers : Registry) (source : Source) (dbms : NodeId) (before : Survey Notes)
    (outcome : Except Failure Unit) (after : Survey Notes) : Prop where
  /-- The columns that it adds are resolved by the mappers, as rows say that are listed. Only if it fails, the last node
  may be a column that is not. -/
  columns : ∀ id typing, before.atlas.nodes.size ≤ id → after.atlas.typing? id = some typing →
    Sourced mappers after.notes.mapping source before after typing ∨
      outcome.isOk = false ∧ id + 1 = after.atlas.nodes.size
  /-- What was known of the types of other columns stays. -/
  kept : ∀ id < before.atlas.nodes.size, after.atlas.typing? id = before.atlas.typing? id
  /-- It reads listings of columns to their ends, where every mapped type has its mapper, but for the call it fails in. -/
  reads : ∀ listing later, CallsColumns source before after listing later → outcome.isOk = true ∨ later ≠ [] →
    ReadOut mappers after.notes.mapping listing
  /-- At the first row that would be understood if only its type had exactly one mapper, it fails, and tells how many
  there are, unless tables are there that take no columns. -/
  wants : (∀ schema ∈ before.atlas.collection dbms .schema, before.atlas.Receptive schema) → ∀ listing later t,
    CallsColumns source before after listing later → listing.closeFailure = none →
    WantsNext mappers after.notes.mapping listing.rows t →
    outcome = .error (Registry.notUnique (mappers.filter (Mapper.keeps t)).length t)

/-- No opening call is one for columns. -/
theorem columns_not_mem_opening {calls : List Call} (vendor : Vendor) (h : calls <+: openingCalls vendor)
    (catalog schema table : Option String) : .part .columns catalog schema table ∉ calls := by
  intro hmem
  have hopening := h.subset hmem
  unfold openingCalls at hopening
  split at hopening <;> simp at hopening

/-- A crawl resolves columns by the mappers that it goes by. -/
theorem run_resolvesBy (plan : Plan) (dbms : NodeId) (before : Survey Notes) :
    ResolvesBy plan.mappers plan.source dbms before (run plan dbms before).1 (run plan dbms before).2 := by
  have htypes := ((keeps_readTypes Survey.keeps_record plan (fun _ => Keeping.Keeps.modify fun survey =>
    Std.Refl.refl survey.atlas) dbms).bind fun _ => keeps_discoverSchemas Survey.keeps_record plan spares_types dbms) before
  have hstays := ((keeps_readTypes Survey.keeps_record plan allows_receptive.note dbms).bind fun _ =>
    keeps_discoverSchemas Survey.keeps_record plan allows_receptive.spares dbms) before
  obtain ⟨opening, hopening, hprefix, -⟩ := (makes_opening plan dbms before).calls
  rw [run_eq]
  cases hread : (readTypes plan dbms >>= fun _ => discoverSchemas plan dbms) before with
  | mk outcome between =>
    rw [hread] at htypes hstays hopening
    have hnone (listing : Listing) (later : List Call) : ¬CallsColumns plan.source before between listing later := by
      intro h
      obtain ⟨catalog, schema, table, hmem⟩ := h.mem hopening
      exact columns_not_mem_opening plan.vendor hprefix catalog schema table hmem
    have hfresh {id : NodeId} (hid : before.atlas.nodes.size ≤ id) : between.atlas.typing? id = none :=
      (htypes.typing id).trans (Atlas.typing?_eq_none hid)
    cases outcome with
    | error f =>
      rw [Keeping.bind_of_error hread]
      refine ⟨fun id typing hid htyping => ?_, fun id _ => htypes.typing id,
        fun listing later h => absurd h (hnone listing later), fun _ listing later _ h => absurd h (hnone listing later)⟩
      cases (hfresh hid).symm.trans htyping
    | ok _ =>
      have hresolving := resolving_readSchemas plan (between.atlas.collection dbms .schema)
        fun (h : ∀ schema ∈ before.atlas.collection dbms .schema, before.atlas.Receptive schema) schema hschema =>
          (hstays.schemas dbms schema hschema).elim (fun hold => hstays.receptive (h schema hold)) id
      rw [Keeping.bind_of_ok hread, Keeping.bind_of_ok (Keeping.get_apply between)]
      have hmapping := hresolving.types.mapping
      refine ⟨fun id typing hid htyping => ?_, fun id hid => ?_, fun listing later h hlater => ?_,
        fun hreceptive listing later t h hcloses hwants => ?_⟩
      · obtain hsame | ⟨-, ⟨hfails, hlast⟩ | ⟨other, hother, hresolved⟩⟩ := hresolving.types.columns id
        · cases ((hsame.trans (hfresh hid)).symm.trans htyping)
        · exact .inr ⟨hfails, hlast⟩
        · obtain rfl := Option.some.inj (hother.symm.trans htyping)
          rw [hmapping]
          exact .inl (hresolved.behind ⟨opening, hopening.symm⟩)
      · obtain hsame | ⟨hnew, -⟩ := hresolving.types.columns id
        · exact hsame.trans (htypes.typing id)
        · exact absurd hid (Nat.not_lt_of_le (Nat.le_trans htypes.size hnew))
      · obtain ⟨sooner, hsooner⟩ | hbehind := h.split hresolving.calls
        · exact absurd hsooner (hnone listing sooner)
        · rw [hmapping]
          exact hresolving.reads listing later hbehind hlater
      · obtain ⟨sooner, hsooner⟩ | hbehind := h.split hresolving.calls
        · exact absurd hsooner (hnone listing sooner)
        · rw [hmapping] at hwants
          exact hresolving.wants hreceptive listing later t hbehind hcloses hwants

end SchemaAtlas.Crawl
