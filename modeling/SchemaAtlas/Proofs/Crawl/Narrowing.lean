import SchemaAtlas.Proofs.Crawl.Locality
import SchemaAtlas.Proofs.Crawl.Mirror

/-!
# Narrowing the filter

A crawl whose filter is narrowed builds those schemas of the wider crawl that the narrower filter passes, in
their order and with the same trees. It does so too if the source answers otherwise about schemas that are
not passed, or lists more or fewer of them. This holds of sources whose answers do not depend on what was
called before.
-/

namespace SchemaAtlas

/-- The filter that passes the names with a property. -/
def SchemaFilter.having (property : Value → Bool) : SchemaFilter :=
  fun name => .ok (property name)

namespace Crawl

variable {plan : Plan} {dbms : NodeId} {before : Survey Notes} {label typeName : Option String}

/-! ## Accepted names -/

/-- First occurrences of items that pass are the first occurrences that pass. -/
theorem eraseDups_filter {α : Type} [BEq α] [LawfulBEq α] (p : α → Bool) (items : List α) :
    (items.filter p).eraseDups = items.eraseDups.filter p := by
  induction items using List.reverseRecOn with
  | nil => rfl
  | append_singleton items item ih =>
    rw [List.filter_append, eraseDups_concat]
    cases hitem : p item with
    | false =>
      rw [List.filter_singleton, hitem, cond_false, List.append_nil, ih]
      split
      · rfl
      · rw [List.filter_append, List.filter_singleton, hitem, cond_false, List.append_nil]
    | true =>
      rw [List.filter_singleton, hitem, cond_true, eraseDups_concat, ih]
      simp only [List.mem_filter, hitem, and_true]
      split
      · rfl
      · rw [List.filter_append, List.filter_singleton, hitem, cond_true]

/-- Of the names that are accepted, those are accepted further that pass further. -/
theorem accepted_and (vendor : Vendor) (first second : String → Bool) (names : List (Option String)) :
    accepted vendor (fun name => first name && second name) names =
      (accepted vendor first names).filter second := by
  have hchosen : isChosen vendor (fun name => first name && second name) =
      fun name => isChosen vendor first name && second name := by
    funext name
    rw [isChosen, isChosen, Bool.and_assoc]
  rw [accepted, accepted, hchosen, ← eraseDups_filter, List.filter_filter]
  simp only [Bool.and_comm]

/-! ## What a discovery found -/

/-- The names that a listing gives are texts or null. -/
def GivesNames (nameOf : Value → Except Failure Value) (answer : Except Failure Listing) : Prop :=
  ∀ listing row name, answer = .ok listing → .ok row ∈ listing.rows → nameOf row = .ok name →
    ∃ known, name = .ofName known

/-- The names of rows are the names that they give. -/
theorem givesNames_of_names {nameOf : Value → Except Failure Value} {rows : List Row} {names : List (Option String)}
    (h : Names nameOf rows names) : GivesNames nameOf (.ok { rows }) := by
  rintro _ row name ⟨⟩ hrow hname
  have hall := Atlas.forall_of_forall₂ h (p := fun row => ∃ v known, row = .ok v ∧ nameOf v = .ok (.ofName known))
    fun _ known _ ⟨v, hv, hknown⟩ => ⟨v, known, hv, hknown⟩
  obtain ⟨v, known, hv, hknown⟩ := hall _ hrow
  obtain rfl := Except.ok.inj hv
  exact ⟨known, Except.ok.inj (hname.symm.trans hknown)⟩

/-- Rows have one list of names. -/
theorem names_unique {nameOf : Value → Except Failure Value} {rows : List Row} {names others : List (Option String)}
    (h : Names nameOf rows names) (hothers : Names nameOf rows others) : names = others := by
  refine List.right_unique_forall₂' ?_ h hothers
  rintro row name other ⟨v, rfl, hname⟩ ⟨_, ⟨⟩, hother⟩
  have hvalue : Value.ofName name = Value.ofName other := Except.ok.inj (hname.symm.trans hother)
  cases name <;> cases other <;> cases hvalue <;> rfl

/-- Both listings of names are read to their ends. -/
structure NamesListed (vendor : Vendor) (answer : Call → Except Failure Listing) (names : List (Option String)) :
    Prop where
  listing : ∃ schemas catalogs, names = schemas ++ catalogs ∧
    (∃ rows, answer .schemas = .ok { rows } ∧ Names (schemaName vendor) rows schemas) ∧
    ∃ rows, answer .catalogs = .ok { rows } ∧ Names catalogName rows catalogs

/-- Rows that are read to their end have names. -/
theorem names_of_read {nameOf : Value → Except Failure Value} {rows : List Row}
    (hnames : ∀ row name, .ok row ∈ rows → nameOf row = .ok name → ∃ known, name = .ofName known)
    (hread : (nameRows plan dbms nameOf rows before).1 = .ok ()) : ∃ names, Names nameOf rows names := by
  induction rows generalizing before with
  | nil => exact ⟨[], .nil⟩
  | cons row rows ih =>
    cases row with
    | error f => cases hread
    | ok row =>
      change ((do (do considerName plan dbms (← Keeping.settle (nameOf row))); nameRows plan dbms nameOf rows :
        Step Unit) before).1 = _ at hread
      cases hname : nameOf row with
      | error f =>
        rw [hname] at hread
        cases hread
      | ok name =>
        obtain ⟨known, rfl⟩ := hnames row name List.mem_cons_self hname
        obtain ⟨_, between, hfirst, hrest⟩ := Keeping.bind_eq_ok (Prod.ext hread rfl)
        obtain ⟨names, hall⟩ := ih (fun row name hrow => hnames row name (List.mem_cons_of_mem _ hrow))
          (congrArg Prod.fst hrest)
        exact ⟨known :: names, .cons ⟨row, rfl, hname⟩ hall⟩

/-- A listing of names that was discovered was read to its end. -/
theorem names_of_discover {answer : Call → Except Failure Listing} (hsource : plan.source = fun _ => answer)
    {call : Call} {nameOf : Value → Except Failure Value} (hgives : GivesNames nameOf (answer call))
    (h : (discover plan dbms call nameOf before).1 = .ok ()) :
    ∃ rows names, answer call = .ok { rows } ∧ Names nameOf rows names := by
  obtain ⟨rows, read, hanswer, hread, -⟩ := Survey.consume_eq_ok (explained_eq_ok (Prod.ext h rfl))
  rw [hsource] at hanswer
  obtain ⟨names, hnames⟩ := names_of_read (fun row name hrow => hgives _ row name hanswer hrow)
    (congrArg Prod.fst hread)
  exact ⟨rows, names, hanswer, hnames⟩

/-- The names of a discovery become schemas, if they are accepted; a discovery of none fails. -/
theorem discoverSchemas_found {answer : Call → Except Failure Listing} {passed : String → Bool}
    {names : List (Option String)} (hsource : plan.source = fun _ => answer) (hfilters : Filters plan passed)
    (hnames : NamesListed plan.vendor answer names) (hdbms : before.atlas.IsLeaf dbms label (.dbms typeName))
    (levels : Nat) :
    ∃ after, discoverSchemas plan dbms before =
        (if accepted plan.vendor passed names = [] then .error (noSchema after.notes.discarded) else .ok (), after) ∧
      Drawn dbms (levels + 1) ((accepted plan.vendor passed names).map emptySchema) before after := by
  obtain ⟨schemas, catalogs, rfl, ⟨schemaRows, hschemas, hschemaNames⟩, catalogRows, hcatalogs, hcatalogNames⟩ :=
    hnames.listing
  have hanswer (earlier : List Call) (call : Call) : plan.source earlier call = answer call := by rw [hsource]
  have hnone : Drawn dbms (levels + 1) ((accepted plan.vendor passed []).map emptySchema) before before :=
    Drawn.refl dbms (levels + 1) before
  obtain ⟨_, between, hfirst, -, hbetween⟩ :=
    discover_drawn hfilters ((hanswer _ _).trans hschemas) hschemaNames hdbms hnone
  obtain ⟨_, after, hsecond, -, hafter⟩ :=
    discover_drawn hfilters ((hanswer _ _).trans hcatalogs) hcatalogNames hdbms hbetween
  refine ⟨after, ?_, hafter⟩
  have hempty : (after.atlas.collection dbms .schema).isEmpty =
      decide (accepted plan.vendor passed (schemas ++ catalogs) = []) := by
    have hlength := (hafter.leaves hdbms).length_eq
    rw [Bool.eq_iff_iff, List.isEmpty_iff, decide_eq_true_eq, ← List.length_eq_zero_iff, ← List.length_eq_zero_iff,
      ← List.nil_append schemas, ← hlength]
    rfl
  rw [discoverSchemas, Keeping.bind_of_ok hfirst, Keeping.bind_of_ok hsecond,
    Keeping.bind_of_ok (Keeping.get_apply after), hempty]
  by_cases hfound : accepted plan.vendor passed (schemas ++ catalogs) = [] <;> simp [hfound]

/-! ## The types -/

/-- The types that are resolved depend on the answer to the call for them only. -/
theorem resolveTypes_answer {source other : Source} {first second : Survey Notes} (vendor : Vendor) (codes : CodeTable)
    (h : other (Event.calls second.events) .typeInfo = source (Event.calls first.events) .typeInfo) :
    (resolveTypes vendor codes other second).1 = (resolveTypes vendor codes source first).1 := by
  have hconsume : (Survey.consume other .typeInfo (fun rows => Keeping.settle (typesOfRows rows)) second).1 =
      (Survey.consume source .typeInfo (fun rows => Keeping.settle (typesOfRows rows)) first).1 := by
    cases hanswer : source (Event.calls first.events) .typeInfo with
    | error f => rw [Survey.consume_refused hanswer, Survey.consume_refused (h.trans hanswer)]
    | ok listing =>
      rw [Survey.consume_accepted hanswer, Survey.consume_accepted (h.trans hanswer)]
      rfl
  unfold resolveTypes
  split
  · rw [Keeping.bind_apply, Keeping.bind_apply]
    generalize Survey.consume other .typeInfo _ second = one at hconsume
    generalize Survey.consume source .typeInfo _ first = two at hconsume
    obtain ⟨outcome, after⟩ := one
    obtain ⟨_, after'⟩ := two
    obtain rfl : outcome = _ := hconsume
    cases outcome <;> rfl
  · rfl

/-! ## The schemas -/

section

variable {other : Plan} {mapping : TypeMapping} {ids : List NodeId} {names : List String}

/-- A source whose answers depend on the call only agrees with one that answers the calls of a schema alike. -/
theorem agrees_of_answers {answer otherAnswer : Call → Except Failure Listing} (hvendor : other.vendor = plan.vendor)
    (hmappers : other.mappers = plan.mappers) (hsource : plan.source = fun _ => answer)
    (hother : other.source = fun _ => otherAnswer) (space : Namespace)
    (htables : otherAnswer (.tables space.catalog space.schema) = answer (.tables space.catalog space.schema))
    (hparts : ∀ part table, otherAnswer (.part part space.catalog space.schema table) =
      answer (.part part space.catalog space.schema table)) : Agrees before space plan other := by
  refine ⟨hvendor, hmappers, fun _ => ?_, fun _ part table => ?_⟩
  · rw [hother, hsource]
    exact htables
  · rw [hother, hsource]
    exact hparts part table

/-- Schemas that were read one after the other can be read alone. -/
theorem alone_of_readSchemas
    (hleaves : List.Forall₂ (fun id name => before.atlas.IsLeaf id (some name) .schema) ids names)
    (hnodup : ids.Nodup) (hmapping : before.notes.mapping = mapping)
    (hagrees : ∀ between, ∀ name ∈ names, Agrees between (spaceOf plan name) plan other)
    (hread : (readSchemas other ids before).1 = .ok ()) :
    ∀ name ∈ names, (readSchema plan 0 (loneSchema mapping name)).1 = .ok () := by
  induction names generalizing ids before with
  | nil => exact fun _ hname => absurd hname List.not_mem_nil
  | cons name names ih =>
    obtain _ | ⟨hfirst, hrest⟩ := hleaves
    rename_i id ids
    rw [List.nodup_cons] at hnodup
    obtain ⟨tree, -, hreads⟩ := readSchema_alone plan mapping 0 name
    obtain ⟨halone, hfilled⟩ := hreads hfirst hmapping (hagrees before name List.mem_cons_self)
    obtain ⟨_, between, hone, hmore⟩ := Keeping.bind_eq_ok (Prod.ext hread rfl)
    rw [hone] at halone hfilled
    have hleaves := leaves_frame hfilled.atlas.same hnodup.1 hrest
    have hothers := ih hleaves hnodup.2 (hfilled.mapping.trans hmapping)
      (fun between name hname => hagrees between name (List.mem_cons_of_mem _ hname)) (congrArg Prod.fst hmore)
    intro further hfurther
    rcases List.mem_cons.mp hfurther with rfl | hfurther
    · exact halone.symm
    · exact hothers further hfurther

/-- Schemas that can be read alone are read one after the other, into the trees that they have alone. -/
theorem readSchemas_alone {levels : Nat} {treeOf : String → Tree}
    (htrees : ∀ name, ReadsAs plan mapping levels name (treeOf name))
    (hleaves : List.Forall₂ (fun id name => before.atlas.IsLeaf id (some name) .schema) ids names)
    (hnodup : names.Nodup) (hmapping : before.notes.mapping = mapping)
    (hagrees : ∀ between, ∀ name ∈ names, Agrees between (spaceOf plan name) plan other)
    (halone : ∀ name ∈ names, (readSchema plan 0 (loneSchema mapping name)).1 = .ok ()) :
    Keeping.Succeeds (readSchemas other ids) before fun _ => Filled ids levels (names.map treeOf) before := by
  refine each_filled rfl (fun _ _ => rfl) hleaves (nodup_of_names hleaves (by rwa [List.map_id'])) ?_
  intro id name hname between hbetween hleaf
  obtain ⟨houtcome, hfilled⟩ := (htrees name).read hleaf (hbetween.trans hmapping) (hagrees between name hname)
  rw [halone name hname] at houtcome
  exact ⟨(), _, Prod.ext houtcome rfl, hfilled⟩

/-- The schemas that a crawl read can be read alone. -/
theorem alone_of_run {answer : Call → Except Failure Listing} {passed : String → Bool} {listed : List (Option String)}
    (hsource : other.source = fun _ => answer) (hfilters : Filters other passed)
    (hresolved : (resolveTypes other.vendor other.codes other.source before).1 = .ok mapping)
    (hnames : NamesListed other.vendor answer listed) (hdbms : before.atlas.IsLeaf dbms label (.dbms typeName))
    (hagrees : ∀ between, ∀ name ∈ accepted other.vendor passed listed, Agrees between (spaceOf plan name) plan other)
    (hok : (run other dbms before).1 = .ok ()) :
    ∀ name ∈ accepted other.vendor passed listed, (readSchema plan 0 (loneSchema mapping name)).1 = .ok () := by
  obtain ⟨_, between, htypes, hatlas, hmapping, -⟩ := readTypes_succeeds dbms hresolved
  rw [← hatlas] at hdbms
  obtain ⟨next, hdiscover, hdrawn⟩ := discoverSchemas_found hsource hfilters hnames hdbms 0
  rw [run, Keeping.bind_of_ok htypes, Keeping.bind_apply, hdiscover] at hok
  split at hok
  · rename_i houtcome
    obtain ⟨-, rfl⟩ := Prod.mk.inj houtcome
    have hleaves : List.Forall₂ (fun id name => next.atlas.IsLeaf id (some name) .schema)
        (next.atlas.collection dbms .schema) (accepted other.vendor passed listed) := hdrawn.leaves hdbms
    exact alone_of_readSchemas hleaves (nodup_of_names hleaves (by rw [List.map_id']; exact nodup_eraseDups _))
      (hdrawn.mapping.trans hmapping) hagrees hok
  · cases hok

/-- A crawl reads the schemas that are accepted into the trees that they have alone, and fails if there are
none. -/
theorem run_alone {answer : Call → Except Failure Listing} {passed : String → Bool} {levels : Nat}
    {treeOf : String → Tree} {listed : List (Option String)}
    (htrees : ∀ name, ReadsAs plan mapping levels name (treeOf name))
    (hsource : other.source = fun _ => answer) (hfilters : Filters other passed)
    (hresolved : (resolveTypes other.vendor other.codes other.source before).1 = .ok mapping)
    (hnames : NamesListed other.vendor answer listed) (hdbms : before.atlas.IsLeaf dbms label (.dbms typeName))
    (hagrees : ∀ between, ∀ name ∈ accepted other.vendor passed listed, Agrees between (spaceOf plan name) plan other)
    (halone : ∀ name ∈ accepted other.vendor passed listed,
      (readSchema plan 0 (loneSchema mapping name)).1 = .ok ()) :
    ∃ after, run other dbms before =
        (if accepted other.vendor passed listed = [] then .error (noSchema after.notes.discarded) else .ok (), after) ∧
      List.Forall₂ (fun id name => after.atlas.Stands (fun _ => True) levels id (treeOf name))
        (after.atlas.collection dbms .schema) (accepted other.vendor passed listed) := by
  obtain ⟨_, between, htypes, hatlas, hmapping, -⟩ := readTypes_succeeds dbms hresolved
  rw [← hatlas] at hdbms
  obtain ⟨next, hdiscover, hdrawn⟩ := discoverSchemas_found hsource hfilters hnames hdbms 0
  have hleaves : List.Forall₂ (fun id name => next.atlas.IsLeaf id (some name) .schema)
      (next.atlas.collection dbms .schema) (accepted other.vendor passed listed) := hdrawn.leaves hdbms
  rw [run, Keeping.bind_of_ok htypes]
  by_cases hnone : accepted other.vendor passed listed = []
  · rw [if_pos hnone] at hdiscover
    rw [hnone] at hleaves ⊢
    refine ⟨next, Keeping.bind_of_error hdiscover _, ?_⟩
    rw [List.forall₂_nil_right_iff.mp hleaves]
    exact .nil
  · rw [if_neg hnone] at hdiscover
    obtain ⟨_, after, hread, hfilled⟩ := readSchemas_alone htrees hleaves (nodup_eraseDups _)
      (hdrawn.mapping.trans hmapping) hagrees halone
    have hother : dbms ∉ next.atlas.collection dbms .schema :=
      not_mem_leaves (hdrawn.atlas.isOpen hdbms.isOpen) hleaves nofun
    have hsame : after.atlas.collection dbms .schema = next.atlas.collection dbms .schema := by
      rw [Atlas.collection, Atlas.collection, hfilled.atlas.same dbms (hdrawn.atlas.isOpen hdbms.isOpen).lt hother]
    refine ⟨after, ?_, ?_⟩
    · rw [Keeping.bind_of_ok hdiscover, if_neg hnone]
      exact hread
    · rw [hsame]
      have htrees := hfilled.atlas.trees
      rw [List.forall₂_map_right_iff] at htrees
      exact htrees.imp fun id name hstands => hstands.frame fun _ _ => ⟨trivial, rfl⟩

end

/-- What a crawl that succeeds was answered: its types are resolved, and both listings of names are read. -/
theorem answered_of_run (plan : Plan) {answer : Call → Except Failure Listing} (hsource : plan.source = fun _ => answer)
    (hschemas : GivesNames (schemaName plan.vendor) (answer .schemas))
    (hcatalogs : GivesNames catalogName (answer .catalogs)) (hok : (run plan dbms before).1 = .ok ()) :
    (∃ mapping, (resolveTypes plan.vendor plan.codes plan.source before).1 = .ok mapping) ∧
      ∃ names, NamesListed plan.vendor answer names := by
  obtain ⟨_, between, htypes, hrest⟩ := Keeping.bind_eq_ok (Prod.ext hok rfl)
  obtain ⟨_, next, hdiscover, -⟩ := Keeping.bind_eq_ok hrest
  obtain ⟨_, middle, hfirst, hrest⟩ := Keeping.bind_eq_ok hdiscover
  obtain ⟨_, _, hsecond, -⟩ := Keeping.bind_eq_ok hrest
  obtain ⟨schemaRows, schemas, hschemaAnswer, hschemaNames⟩ :=
    names_of_discover hsource hschemas (congrArg Prod.fst hfirst)
  obtain ⟨catalogRows, catalogs, hcatalogAnswer, hcatalogNames⟩ :=
    names_of_discover hsource hcatalogs (congrArg Prod.fst hsecond)
  exact ⟨resolved_of_readTypes (congrArg Prod.fst htypes), schemas ++ catalogs, schemas, catalogs, rfl,
    ⟨schemaRows, hschemaAnswer, hschemaNames⟩, catalogRows, hcatalogAnswer, hcatalogNames⟩

/-! ## Narrowing -/

/-- A plan with a filter, and a source whose answers depend on the call only. -/
def Plan.filtered (plan : Plan) (filter : SchemaFilter) (answer : Call → Except Failure Listing) : Plan :=
  { plan with filter := some filter, source := fun _ => answer }

/-- Answers differ in nothing that schemas with passed names depend on: the types, the passed names that are listed,
and the answers to the calls of schemas with such names. -/
structure Undisturbed (vendor : Vendor) (passed : String → Bool) (answer other : Call → Except Failure Listing) :
    Prop where
  types : other .typeInfo = answer .typeInfo
  names : ∀ names, NamesListed vendor answer names → ∃ others, NamesListed vendor other others ∧
    accepted vendor passed others = accepted vendor passed names
  tables : ∀ name, isChosen vendor passed name = true →
    other (.tables (vendor.catalogName (some name)) (vendor.schemaName (some name))) =
      answer (.tables (vendor.catalogName (some name)) (vendor.schemaName (some name)))
  parts : ∀ name, isChosen vendor passed name = true → ∀ part table,
    other (.part part (vendor.catalogName (some name)) (vendor.schemaName (some name)) table) =
      answer (.part part (vendor.catalogName (some name)) (vendor.schemaName (some name)) table)

/-- Answers that are the same do not differ. -/
theorem Undisturbed.refl (vendor : Vendor) (passed : String → Bool) (answer : Call → Except Failure Listing) :
    Undisturbed vendor passed answer answer :=
  ⟨rfl, fun names hnames => ⟨names, hnames, rfl⟩, fun _ _ => rfl, fun _ _ _ _ => rfl⟩

/-- The schemas of a database whose names have a property. -/
def schemasHaving (atlas : Atlas) (dbms : NodeId) (property : Value → Bool) : List NodeId :=
  (atlas.collection dbms .schema).filter fun schema => (atlas.nameOf schema).any fun name => property (.text name)

/-- What a crawl of another database comes to, of which some schemas of a first one are kept: its schemas are these,
in their order and with the same trees, and if there are none it fails for want of a schema. -/
structure KeepsSchemas (levels : Nat) (first : Atlas) (kept : List NodeId) (outcome : Except Failure Unit)
    (second : Survey Notes) (dbms : NodeId) : Prop where
  trees : List.Forall₂ (fun id other => ∃ tree, first.Stands (fun _ => True) levels id tree ∧
    second.atlas.Stands (fun _ => True) levels other tree) kept (second.atlas.collection dbms .schema)
  outcome : outcome = if kept = [] then .error (noSchema second.notes.discarded) else .ok ()

/-- Lists whose items are related to the same items are related. -/
theorem forall₂_join {α β γ : Type} {R : α → γ → Prop} {S : β → γ → Prop} {first : List α} {second : List β}
    {items : List γ} (hfirst : List.Forall₂ R first items) (hsecond : List.Forall₂ S second items) :
    List.Forall₂ (fun a b => ∃ c, R a c ∧ S b c) first second := by
  induction hfirst generalizing second with
  | nil =>
    cases hsecond
    exact .nil
  | cons hone _ ih =>
    obtain _ | ⟨hother, hrest⟩ := hsecond
    exact .cons ⟨_, hone, hother⟩ (ih hrest)

/-- The schemas whose names have a property are those whose trees have such names. -/
theorem stands_schemasHaving {atlas : Atlas} {levels : Nat} {treeOf : String → Tree} {names : List String}
    (property : Value → Bool) (hroot : ∀ name, (treeOf name).name = some name)
    (h : List.Forall₂ (fun id name => atlas.Stands (fun _ => True) levels id (treeOf name))
      (atlas.collection dbms .schema) names) :
    List.Forall₂ (fun id name => atlas.Stands (fun _ => True) levels id (treeOf name))
      (schemasHaving atlas dbms property) (names.filter fun name => property (.text name)) := by
  refine List.rel_filter (fun id name hstands => ?_) h
  obtain ⟨-, node, hnode, hname, -⟩ := hstands.root
  change (atlas.nameOf id).any (fun name => property (.text name)) = true ↔ property (.text name) = true
  rw [Atlas.nameOf, hnode, Option.bind_some, hname, hroot, Option.any_some]

variable {answer : Call → Except Failure Listing} {f g : Value → Bool} {again : Survey Notes} {twin : NodeId}
  {otherLabel otherTypeName : Option String}

/-- A crawl whose filter is narrowed keeps the schemas that pass, also if its source answers otherwise about those that
do not. -/
theorem run_narrowed (plan : Plan) (levels : Nat) (hschemas : GivesNames (schemaName plan.vendor) (answer .schemas))
    (hcatalogs : GivesNames catalogName (answer .catalogs)) (hdbms : before.atlas.IsLeaf dbms label (.dbms typeName))
    (htwin : again.atlas.IsLeaf twin otherLabel (.dbms otherTypeName))
    (hok : (run (plan.filtered (.having f) answer) dbms before).1 = .ok ()) :
    let first := (run (plan.filtered (.having f) answer) dbms before).2.atlas
    let narrowed := plan.filtered (.both (.having f) (.having g))
    KeepsSchemas levels first (schemasHaving first dbms g) (run (narrowed answer) twin again).1
        (run (narrowed answer) twin again).2 twin ∧
      ∀ other, Undisturbed plan.vendor (fun name => f (.text name) && g (.text name)) answer other →
        KeepsSchemas levels first (schemasHaving first dbms g) (run (narrowed other) twin again).1
          (run (narrowed other) twin again).2 twin := by
  intro first narrowed
  suffices h : ∀ other, Undisturbed plan.vendor (fun name => f (.text name) && g (.text name)) answer other →
      KeepsSchemas levels first (schemasHaving first dbms g) (run (narrowed other) twin again).1
        (run (narrowed other) twin again).2 twin from ⟨h answer (.refl ..), h⟩
  intro other hother
  let wide := plan.filtered (.having f) answer
  let narrow := narrowed other
  have hvendor : narrow.vendor = wide.vendor := rfl
  have hsource : wide.source = fun _ => answer := rfl
  have hnarrowSource : narrow.source = fun _ => other := rfl
  obtain ⟨⟨mapping, hresolved⟩, listed, hlisted⟩ := answered_of_run wide rfl hschemas hcatalogs hok
  have hwide : Filters wide fun name => f (.text name) := fun _ => rfl
  have hagrees : ∀ between, ∀ name ∈ accepted wide.vendor (fun name => f (.text name)) listed,
      Agrees between (spaceOf wide name) wide wide :=
    fun _ _ _ => agrees_of_answers rfl rfl rfl rfl _ rfl fun _ _ => rfl
  have halone := alone_of_run rfl hwide hresolved hlisted hdbms hagrees hok
  choose treeOf htrees using readSchema_alone wide mapping levels
  obtain ⟨after, hrun, hfirst⟩ := run_alone htrees rfl hwide hresolved hlisted hdbms hagrees halone
  have hatlas : first = after.atlas := congrArg (fun result => (Prod.snd result).atlas) hrun
  have hkept := stands_schemasHaving g (fun name => (htrees name).root) hfirst
  rw [← hatlas] at hkept
  -- The second crawl accepts the names of the first that pass further.
  obtain ⟨others, hothers, hsame⟩ := hother.names listed hlisted
  have haccepted := hsame.trans
    (accepted_and plan.vendor (fun name => f (.text name)) (fun name => g (.text name)) listed)
  have hnarrow : Filters narrow fun name => f (.text name) && g (.text name) := by
    intro name
    cases hname : f (.text name) <;> simp [SchemaFilter.both, SchemaFilter.having, hname, bind, Except.bind]
  have hchosen : ∀ name ∈ accepted plan.vendor (fun name => f (.text name) && g (.text name)) others,
      isChosen plan.vendor (fun name => f (.text name) && g (.text name)) name = true := fun name hname =>
    (List.mem_filter.mp (List.mem_eraseDups.mp hname)).2
  have hresolvedAgain : (resolveTypes narrow.vendor narrow.codes narrow.source again).1 = .ok mapping :=
    (resolveTypes_answer plan.vendor plan.codes hother.types).trans hresolved
  have hagreesAgain : ∀ between, ∀ name ∈ accepted narrow.vendor (fun name => f (.text name) && g (.text name)) others,
      Agrees between (spaceOf wide name) wide narrow := fun _ name hname =>
    agrees_of_answers hvendor rfl hsource hnarrowSource _ (hother.tables name (hchosen name hname))
      (hother.parts name (hchosen name hname))
  have haloneAgain : ∀ name ∈ accepted narrow.vendor (fun name => f (.text name) && g (.text name)) others,
      (readSchema wide 0 (loneSchema mapping name)).1 = .ok () := by
    intro name hname
    rw [show narrow.vendor = plan.vendor from rfl, haccepted] at hname
    exact halone name (List.mem_filter.mp hname).1
  obtain ⟨last, hrunAgain, hsecond⟩ :=
    run_alone htrees rfl hnarrow hresolvedAgain hothers htwin hagreesAgain haloneAgain
  rw [show narrow.vendor = plan.vendor from rfl, haccepted] at hrunAgain hsecond
  have hnone : schemasHaving first dbms g = [] ↔
      (accepted plan.vendor (fun name => f (.text name)) listed).filter (fun name => g (.text name)) = [] := by
    rw [← List.length_eq_zero_iff, hkept.length_eq, List.length_eq_zero_iff]
    rfl
  change KeepsSchemas levels first _ (run narrow twin again).1 (run narrow twin again).2 twin
  rw [hrunAgain]
  refine ⟨(forall₂_join hkept hsecond).imp ?_, by simp only [hnone]⟩
  rintro id other ⟨name, hone, htwo⟩
  exact ⟨treeOf name, hone, htwo⟩

/-- A shop next to a main schema, which a crawl with the narrower filter leaves out. It builds the same if the main
schema is refused, another one is listed that does not pass and the temporary one is gone. -/
theorem run_narrowed_shop :
    let listed (names : List String) : Listing :=
      { rows := names.map fun name => .ok (.record [("TABLE_SCHEM", .text name)]) }
    let shop (call : Call) : Listing := { rows := match call with
      | .catalogs => [.ok (.record [("TABLE_CAT", .null)])]
      | .tables _ (some "shop") => [.ok (.record [("TABLE_NAME", .text "orders")])]
      | .part .primaryKey _ (some "shop") (some "orders") =>
        [.ok (.record [("COLUMN_NAME", .text "id"), ("KEY_SEQ", .int 1)])]
      | _ => [] }
    let answer (call : Call) : Except Failure Listing :=
      .ok (if call = .schemas then listed ["main", "tmp", "shop"] else shop call)
    let other (call : Call) : Except Failure Listing := match call with
      | .schemas => .ok (listed ["old", "shop", "main"])
      | .tables _ (some "main") => .error (Failure.faultText .runtime "refused")
      | call => .ok (shop call)
    let f (name : Value) : Bool := match name with
      | .text name => name == "main" || name == "shop"
      | _ => false
    let g (name : Value) : Bool := match name with
      | .text name => name != "main"
      | _ => false
    let plan : Plan := { vendor := .generic, source := fun _ _ => .ok {} }
    let before : Survey Notes := { atlas := (Atlas.create {} { content := .dbms none }).1, notes := {} }
    let first := (run (plan.filtered (.having f) answer) 0 before).2.atlas
    let narrowed := plan.filtered (.both (.having f) (.having g))
    (run (plan.filtered (.having f) answer) 0 before).1.toOption = some () ∧ schemasHaving first 0 g = [2] ∧
      Undisturbed .generic (fun name => f (.text name) && g (.text name)) answer other ∧
      KeepsSchemas 3 first [2] (run (narrowed answer) 0 before).1 (run (narrowed answer) 0 before).2 0 ∧
      KeepsSchemas 3 first [2] (run (narrowed other) 0 before).1 (run (narrowed other) 0 before).2 0 := by
  intro listed shop answer other f g plan before first narrowed
  have hleaf : before.atlas.IsLeaf 0 none (.dbms none) := ⟨{ content := .dbms none }, rfl, rfl, rfl, rfl, rfl⟩
  have hfirst : (run (plan.filtered (.having f) answer) 0 before).1.toOption = some () := by decide +kernel
  have hkept : schemasHaving first 0 g = [2] := by decide +kernel
  have hok : (run (plan.filtered (.having f) answer) 0 before).1 = .ok () := by
    generalize (run (plan.filtered (.having f) answer) 0 before).1 = outcome at hfirst
    cases outcome with
    | ok _ => rfl
    | error f => cases hfirst
  have hlisted (names : List String) : Names (schemaName .generic)
      (names.map fun name => .ok (.record [("TABLE_SCHEM", .text name)])) (names.map some) := by
    unfold Names
    rw [List.forall₂_map_left_iff, List.forall₂_map_right_iff, List.forall₂_same]
    exact fun name _ => ⟨_, rfl, rfl⟩
  have hcatalog : Names catalogName [.ok (.record [("TABLE_CAT", .null)])] [none] := .cons ⟨_, rfl, rfl⟩ .nil
  have hother : Undisturbed .generic (fun name => f (.text name) && g (.text name)) answer other := by
    have hchosen : ∀ name, isChosen .generic (fun name => f (.text name) && g (.text name)) name = true →
        name = "shop" := by
      intro name hname
      simp only [isChosen, f, g, Bool.and_eq_true, Bool.or_eq_true, beq_iff_eq, bne_iff_ne] at hname
      exact hname.2.1.resolve_left hname.2.2
    refine ⟨rfl, ?_, ?_, ?_⟩
    · rintro names ⟨_, _, rfl, ⟨rows, hrows, hnames⟩, more, hmore, hothers⟩
      refine ⟨["old", "shop", "main"].map some ++ [none],
        ⟨_, _, rfl, ⟨_, rfl, hlisted _⟩, _, rfl, hcatalog⟩, ?_⟩
      cases hrows
      cases hmore
      rw [← names_unique (hlisted ["main", "tmp", "shop"]) hnames, ← names_unique hcatalog hothers]
      decide +kernel
    · intro name hname
      rw [hchosen name hname]
      rfl
    · intro name hname part table
      rw [hchosen name hname]
      rfl
  have hboth := @run_narrowed 0 before none none answer f g before 0 none none plan 3
    (givesNames_of_names (hlisted ["main", "tmp", "shop"])) (givesNames_of_names hcatalog) hleaf hleaf hok
  refine ⟨hfirst, hkept, hother, ?_, ?_⟩
  · rw [← hkept]
    exact hboth.1
  · rw [← hkept]
    exact hboth.2 other hother

end Crawl

end SchemaAtlas
