import SchemaAtlas.Proofs.Crawl.Calls
import SchemaAtlas.Proofs.Crawl.Discovery

/-!
# Names that are spelled in bytes

A row may give the name of a schema as a text or as bytes that encode one, and the document has the text in both
cases. Whether a name is excluded, and whether there is a schema of it already, is asked of the name as it was
given: bytes are no text and equal no text, so they are neither. What a crawl without a filter makes of two listings
is told here from the values that their rows give. Excluded names are in the document exactly where bytes spell them,
and names are repeated exactly where bytes spell one that was entered before.
-/

namespace SchemaAtlas.Crawl

/-! ## Names as they are entered -/

/-- Whether a vendor excludes a name, whatever its letter case. -/
def excludes (vendor : Vendor) (name : String) : Bool :=
  (vendor.excluded.map Text.lower).contains (Text.lower name)

/-- Bytes that encode a name. -/
def Spells (v : Value) (name : String) : Prop :=
  ∃ bs, v = .bytes bs ∧ Field.textOfBytes? bs = some name

/-- A value that can stand in the place of a name: null, a text, or bytes that encode one. -/
def Legible (v : Value) : Prop :=
  v = .null ∨ ∃ name, v = .text name ∨ Spells v name

/-- The name that a value adds to those that were entered before. A text is compared with them and with the excluded
names, bytes are not. -/
def addition (vendor : Vendor) (done : List String) : Value → Option String
  | .text name => if excludes vendor name = false ∧ name ∉ done then some name else none
  | .bytes bs => Field.textOfBytes? bs
  | _ => none

/-- The names that values enter one after the other, behind those that were entered before. -/
def entered (vendor : Vendor) (done : List String) : List Value → List String
  | [] => done
  | v :: rest => entered vendor (done ++ (addition vendor done v).toList) rest

variable {vendor : Vendor} {done : List String} {v : Value} {values : List Value} {name : String}

/-- A value adds a name if it spells it, or if it is the name, which is neither excluded nor there. -/
theorem addition_eq_some_iff :
    addition vendor done v = some name ↔
      (v = .text name ∧ excludes vendor name = false ∧ name ∉ done) ∨ Spells v name := by
  cases v with
  | text other =>
    have hother : ¬Spells (.text other) name := fun ⟨_, hbytes, _⟩ => nomatch hbytes
    simp only [addition, hother, or_false, Value.text.injEq]
    constructor
    · intro hadd
      split at hadd
      · obtain rfl := Option.some.inj hadd
        exact ⟨rfl, ‹_›⟩
      · cases hadd
    · rintro ⟨rfl, hnew⟩
      exact if_pos hnew
  | bytes bs => simp [addition, Spells]
  | _ => simp [addition, Spells]

/-- Values are entered in two portions as in one. -/
theorem entered_append (first rest : List Value) :
    entered vendor done (first ++ rest) = entered vendor (entered vendor done first) rest := by
  induction first generalizing done with
  | nil => rfl
  | cons v first ih => exact ih

/-- What was entered stays in front. -/
theorem prefix_entered (values : List Value) : done <+: entered vendor done values := by
  induction values generalizing done with
  | nil => exact List.prefix_rfl
  | cons v values ih => exact (List.prefix_append done _).trans ih

/-- A name is entered if it is a text that is not excluded, or if bytes spell it. -/
theorem mem_entered_iff :
    name ∈ entered vendor done values ↔ name ∈ done ∨ (.text name ∈ values ∧ excludes vendor name = false) ∨
      ∃ v ∈ values, Spells v name := by
  induction values generalizing done with
  | nil => simp [entered]
  | cons v values ih =>
    rw [entered, ih, List.mem_append, Option.mem_toList, addition_eq_some_iff]
    simp only [List.mem_cons, exists_eq_or_imp]
    constructor
    · rintro ((hdone | ⟨rfl, hnew, -⟩ | hspells) | ⟨htext, hnew⟩ | hlater)
      · exact .inl hdone
      · exact .inr (.inl ⟨.inl rfl, hnew⟩)
      · exact .inr (.inr (.inl hspells))
      · exact .inr (.inl ⟨.inr htext, hnew⟩)
      · exact .inr (.inr (.inr hlater))
    · rintro (hdone | ⟨rfl | htext, hnew⟩ | hspells | hlater)
      · exact .inl (.inl hdone)
      · by_cases hdone : name ∈ done
        · exact .inl (.inl hdone)
        · exact .inl (.inr (.inl ⟨rfl, hnew, hdone⟩))
      · exact .inr (.inl ⟨htext, hnew⟩)
      · exact .inl (.inr (.inr hspells))
      · exact .inr (.inr hlater)

/-- An excluded name is entered only if bytes spell it. -/
theorem excluded_mem_entered_iff (hexcluded : excludes vendor name = true) :
    name ∈ entered vendor [] values ↔ ∃ v ∈ values, Spells v name := by
  simp [mem_entered_iff, hexcluded]

/-- Bytes among some values that spell a name which was entered before them. -/
def Respells (vendor : Vendor) (done : List String) (values : List Value) : Prop :=
  ∃ earlier v later name, values = earlier ++ v :: later ∧ Spells v name ∧ name ∈ entered vendor done earlier

/-- The first value spells a name again, or a later one does. -/
theorem respells_cons :
    Respells vendor done (v :: values) ↔
      (∃ name ∈ done, Spells v name) ∨ Respells vendor (done ++ (addition vendor done v).toList) values := by
  constructor
  · rintro ⟨earlier, w, later, name, hvalues, hspells, hmem⟩
    cases earlier with
    | nil =>
      obtain ⟨rfl, rfl⟩ := List.cons.inj hvalues
      exact .inl ⟨name, hmem, hspells⟩
    | cons u earlier =>
      obtain ⟨rfl, rfl⟩ := List.cons.inj hvalues
      exact .inr ⟨earlier, w, later, name, rfl, hspells, hmem⟩
  · rintro (⟨name, hmem, hspells⟩ | ⟨earlier, w, later, name, rfl, hspells, hmem⟩)
    · exact ⟨[], v, values, name, rfl, hspells, hmem⟩
    · exact ⟨v :: earlier, w, later, name, rfl, hspells, hmem⟩

/-- What a value adds to different names is another one, unless it spells one of them. -/
theorem nodup_addition_iff (hdone : done.Nodup) :
    (done ++ (addition vendor done v).toList).Nodup ↔ ¬∃ name ∈ done, Spells v name := by
  cases hadd : addition vendor done v with
  | none =>
    have hspells (name : String) : ¬Spells v name := fun hspells => by
      rw [addition_eq_some_iff.mpr (.inr hspells)] at hadd
      cases hadd
    simp [hdone, hspells]
  | some added =>
    rw [Option.toList_some, ← List.concat_eq_append, List.nodup_concat]
    constructor
    · rintro ⟨hnew, -⟩ ⟨name, hmem, hspells⟩
      obtain rfl := Option.some.inj (hadd.symm.trans (addition_eq_some_iff.mpr (.inr hspells)))
      exact hnew hmem
    · intro hnone
      refine ⟨fun hmem => ?_, hdone⟩
      obtain ⟨-, -, hnew⟩ | hspells := addition_eq_some_iff.mp hadd
      · exact hnew hmem
      · exact hnone ⟨added, hmem, hspells⟩

/-- Entered names are different unless bytes spell one again. -/
theorem nodup_entered_iff (hdone : done.Nodup) :
    (entered vendor done values).Nodup ↔ ¬Respells vendor done values := by
  induction values generalizing done with
  | nil =>
    refine iff_of_true hdone ?_
    rintro ⟨earlier, v, later, _, hvalues, -⟩
    cases earlier <;> cases hvalues
  | cons v values ih =>
    rw [respells_cons, not_or, ← nodup_addition_iff hdone]
    constructor
    · intro hall
      have hnext := (prefix_entered values).sublist.nodup hall
      exact ⟨hnext, (ih hnext).mp hall⟩
    · rintro ⟨hnext, hrest⟩
      exact (ih hnext).mpr hrest

/-! ## Reading the listings -/

/-- A listing whose rows give some values, and which is read to its end. -/
def ListsValues (nameOf : Value → Except Failure Value) (answer : Except Failure Listing) (values : List Value) :
    Prop :=
  ∃ rows, answer = .ok { rows } ∧
    List.Forall₂ (fun row v => ∃ fields, row = .ok fields ∧ nameOf fields = .ok v) rows values

/-- Every name is accepted that is not excluded: there is no filter, or it passes all. -/
def AcceptsAll (plan : Plan) : Prop :=
  ∀ filter, plan.filter = some filter → ∀ name, filter name = .ok true

variable {plan : Plan} {dbms : NodeId} {label typeName : Option String}
  {before between after : Survey Notes}

/-- With such a filter the texts that are passed are all of them. -/
theorem AcceptsAll.filters (h : AcceptsAll plan) : Filters plan fun _ => true := by
  unfold Filters
  cases hfilter : plan.filter with
  | none => exact fun _ => rfl
  | some filter => exact fun name => h filter hfilter _

/-- Bytes are accepted. -/
theorem isAccepted_bytes (h : AcceptsAll plan) (bs : List UInt8) (before : Survey Notes) :
    (isAccepted plan (.bytes bs) before).1 = .ok true := by
  change (passes plan (.bytes bs) before).1 = _
  unfold passes
  cases hfilter : plan.filter with
  | none => rfl
  | some filter => exact h filter hfilter _

/-- A text is accepted unless it is excluded. -/
theorem isAccepted_text (h : AcceptsAll plan) (name : String) (before : Survey Notes) :
    (isAccepted plan (.text name) before).1 = .ok (!excludes plan.vendor name) := by
  rw [isAccepted_apply h.filters, isChosen, Bool.and_true, excludes]

/-- A value that is considered without a failure is decided on, which draws nothing, and is entered or discarded. -/
theorem considerName_eq_ok (levels : Nat) (hread : considerName plan dbms v before = (.ok (), after)) :
    ∃ accepted between, (isAccepted plan v before).1 = .ok accepted ∧ between.atlas = before.atlas ∧
      Drawn dbms levels [] before between ∧
      (if accepted then addSchema dbms v else discard v) between = (.ok (), after) := by
  obtain ⟨accepted, between, hdecided, hread⟩ := Keeping.bind_eq_ok hread
  have hsame := keeps_isAccepted_same plan v before
  rw [hdecided] at hsame
  obtain ⟨hatlas, hmapping⟩ := Prod.mk.inj hsame
  exact ⟨accepted, between, congrArg Prod.fst hdecided, hatlas.symm,
    .of_same dbms levels hatlas.symm hmapping.symm, hread⟩

/-- No schema is found under bytes, so they become a schema of the name that they spell. -/
theorem addSchema_bytes (levels : Nat) {bs : List UInt8} (hdbms : before.atlas.IsOpen dbms label (.dbms typeName))
    (hread : addSchema dbms (.bytes bs) before = (.ok (), after)) :
    ∃ name, Field.textOfBytes? bs = some name ∧ Drawn dbms levels [emptySchema name] before after := by
  change (Survey.add dbms .schema >>= fun schema => Survey.setValue schema "name" (.bytes bs)) before = _ at hread
  obtain ⟨_, planted, hadd, rfl, hplanted⟩ := @add_planted dbms before .schema label (.dbms typeName) hdbms rfl
  rw [Keeping.bind_of_ok hadd] at hread
  obtain ⟨known, hknown, hdrawn⟩ := hplanted.named .schema (congrArg Prod.fst hread) levels
  rw [hread] at hdrawn
  change (Field.text (.bytes bs)).map some = _ at hknown
  cases hspelled : Field.textOfBytes? bs with
  | none => simp [Field.text, hspelled, Except.map] at hknown
  | some name =>
    rw [Field.text, hspelled] at hknown
    obtain rfl := Except.ok.inj hknown
    exact ⟨name, rfl, hdrawn⟩

/-- A value that is considered without a failure is legible, and the name that it adds becomes a schema. -/
theorem considerName_enters (levels : Nat) (h : AcceptsAll plan)
    (hdbms : before.atlas.IsOpen dbms label (.dbms typeName))
    (hnames : before.atlas.names dbms .schema = done.map some)
    (hread : considerName plan dbms v before = (.ok (), after)) :
    Legible v ∧ Drawn dbms levels ((addition plan.vendor done v).toList.map emptySchema) before after := by
  obtain ⟨accepted, between, hdecided, hatlas, hnone, hread⟩ := considerName_eq_ok levels hread
  have hopen := hnone.atlas.isOpen hdbms
  rw [← hatlas] at hnames
  have hdiscarded (hdiscard : discard v between = (.ok (), after)) : Drawn dbms levels [] before after := by
    obtain ⟨_, _, hrun, hdrawn⟩ := @discard_drawn between v dbms levels
    obtain ⟨-, rfl⟩ := Prod.mk.inj (hrun.symm.trans hdiscard)
    exact hnone.trans hdrawn hdbms.lt
  cases v with
  | null =>
    obtain rfl : false = accepted := Except.ok.inj hdecided
    exact ⟨.inl rfl, hdiscarded hread⟩
  | text name =>
    refine ⟨.inr ⟨name, .inl rfl⟩, ?_⟩
    obtain rfl := Except.ok.inj ((isAccepted_text h name before).symm.trans hdecided)
    rw [addition]
    cases hexcluded : excludes plan.vendor name with
    | true =>
      rw [hexcluded] at hread
      rw [if_neg fun hnew => Bool.noConfusion hnew.1]
      exact hdiscarded hread
    | false =>
      rw [hexcluded] at hread
      obtain ⟨_, _, hrun, hdrawn⟩ := addSchema_drawn hopen hnames levels
      obtain ⟨-, rfl⟩ := Prod.mk.inj (hrun.symm.trans hread)
      have hall := hnone.trans hdrawn hdbms.lt
      by_cases hmem : name ∈ done <;> simpa [hmem] using hall
  | bytes bs =>
    obtain rfl := Except.ok.inj ((isAccepted_bytes h bs before).symm.trans hdecided)
    obtain ⟨name, hspelled, hdrawn⟩ := addSchema_bytes levels hopen hread
    rw [addition, hspelled]
    exact ⟨.inr ⟨name, .inr ⟨bs, rfl, hspelled⟩⟩, hnone.trans hdrawn hdbms.lt⟩
  | _ => cases hdecided

/-- Rows that are read to their end give legible values, and the names that these enter become schemas. -/
theorem nameRows_enters (h : AcceptsAll plan) {nameOf : Value → Except Failure Value} {rows : List Row}
    (hdbms : before.atlas.IsOpen dbms label (.dbms typeName)) (hsound : before.atlas.Sound dbms)
    (hnames : before.atlas.names dbms .schema = done.map some)
    (hread : nameRows plan dbms nameOf rows before = (.ok (), after)) :
    ∃ values, List.Forall₂ (fun row v => ∃ fields, row = .ok fields ∧ nameOf fields = .ok v) rows values ∧
      (∀ v ∈ values, Legible v) ∧ after.atlas.IsOpen dbms label (.dbms typeName) ∧ after.atlas.Sound dbms ∧
        after.atlas.names dbms .schema = (entered plan.vendor done values).map some := by
  induction rows generalizing before done with
  | nil =>
    cases hread
    exact ⟨[], .nil, nofun, hdbms, hsound, hnames⟩
  | cons row rows ih =>
    cases row with
    | error f => cases hread
    | ok row =>
      obtain ⟨_, between, hone, hrest⟩ := Keeping.bind_eq_ok hread
      obtain ⟨v, _, hname, hone⟩ := Keeping.bind_eq_ok hone
      obtain ⟨hgives, rfl⟩ := Prod.mk.inj hname
      obtain ⟨hlegible, hdrawn⟩ := considerName_enters 1 h hdbms hnames hone
      have hmore : between.atlas.names dbms .schema =
          (done ++ (addition plan.vendor done v).toList).map some := by
        rw [hdrawn.atlas.names_eq hdbms.lt hsound, hnames, names_emptySchema, List.map_append]
      obtain ⟨values, hvalues, hall, hafter⟩ :=
        ih (hdrawn.atlas.isOpen hdbms) (hdrawn.atlas.sound hdbms.lt hsound) hmore hrest
      exact ⟨v :: values, .cons ⟨row, rfl, hgives⟩ hvalues, List.forall_mem_cons.mpr ⟨hlegible, hall⟩, hafter⟩

/-- A listing of names that is read to its end gives legible values, and the names that these enter become schemas. -/
theorem discover_enters (h : AcceptsAll plan) {call : Call} {nameOf : Value → Except Failure Value}
    (hdbms : before.atlas.IsOpen dbms label (.dbms typeName)) (hsound : before.atlas.Sound dbms)
    (hnames : before.atlas.names dbms .schema = done.map some)
    (hread : discover plan dbms call nameOf before = (.ok (), after)) :
    ∃ values, ListsValues nameOf (plan.source (Event.calls before.events) call) values ∧ (∀ v ∈ values, Legible v) ∧
      after.atlas.IsOpen dbms label (.dbms typeName) ∧ after.atlas.Sound dbms ∧
        after.atlas.names dbms .schema = (entered plan.vendor done values).map some := by
  obtain ⟨rows, read, hanswer, hrows, rfl⟩ := Survey.consume_eq_ok (explained_eq_ok hread)
  have hopened : (Survey.opened call before).atlas.IsOpen dbms label (.dbms typeName) := hdbms
  obtain ⟨values, hvalues, hafter⟩ := nameRows_enters h hopened hsound hnames hrows
  exact ⟨values, ⟨rows, hanswer, hvalues⟩, hafter⟩

/-! ## The schemas of a crawl -/

/-- The calls that a crawl has made when it lists the schemas. -/
def earlierCalls (plan : Plan) (before : Survey Notes) : List Call :=
  Event.calls before.events ++ if plan.vendor.types.isEmpty then [.typeInfo] else []

/-- The names of schemas that two listings come to. They are those that the listed values enter; an excluded name is
among them if bytes spell it, and one is repeated if bytes spell it again, and in no other case. -/
structure NamedAs (vendor : Vendor) (listed : List Value) (names : List (Option String)) : Prop where
  legible : ∀ v ∈ listed, Legible v
  schemas : names = (entered vendor [] listed).map some
  excluded : ∀ name, excludes vendor name = true → (some name ∈ names ↔ ∃ v ∈ listed, Spells v name)
  repeated : ¬names.Nodup ↔ Respells vendor [] listed

/-- Names that legible values enter are such names. -/
theorem namedAs_entered (hlegible : ∀ v ∈ values, Legible v) :
    NamedAs vendor values ((entered vendor [] values).map some) := by
  refine ⟨hlegible, rfl, fun name hexcluded => ?_, ?_⟩
  · rw [List.mem_map_of_injective fun _ _ => Option.some.inj, excluded_mem_entered_iff hexcluded]
  · rw [List.nodup_map_iff fun _ _ => Option.some.inj, nodup_entered_iff List.nodup_nil, not_not]

/-- Reading schemas leaves their names as they were discovered. -/
theorem names_run (hdbms : before.atlas.IsLeaf dbms label (.dbms typeName))
    (hopening : (readTypes plan dbms >>= fun _ => discoverSchemas plan dbms) before = (.ok (), between)) :
    (run plan dbms before).2.atlas.names dbms .schema = between.atlas.names dbms .schema := by
  obtain ⟨hopen, hnodup, labels, hleaves⟩ := opening_named hdbms hopening
  have hconfined := (visits_readSchemas plan hleaves hnodup).2
  have hlt : ∀ schema ∈ between.atlas.collection dbms .schema, schema < between.atlas.nodes.size :=
    Atlas.forall_of_forall₂ hleaves fun _ _ _ hleaf => hleaf.isOpen.lt
  rw [run_eq, Keeping.bind_of_ok hopening, Keeping.bind_of_ok (Keeping.get_apply between)]
  exact hconfined.names hopen.lt (not_mem_leaves hopen hleaves nofun) hlt

/-- The names of the schemas that a crawl without a filter read. -/
theorem run_spelled (plan : Plan) (hfilter : AcceptsAll plan) (hdbms : before.atlas.IsLeaf dbms label (.dbms typeName))
    (hok : (run plan dbms before).1 = .ok ()) :
    ∃ schemas catalogs,
      ListsValues (schemaName plan.vendor) (plan.source (earlierCalls plan before) .schemas) schemas ∧
      ListsValues catalogName (plan.source (earlierCalls plan before ++ [.schemas]) .catalogs) catalogs ∧
      NamedAs plan.vendor (schemas ++ catalogs) ((run plan dbms before).2.atlas.names dbms .schema) := by
  have hrun : run plan dbms before = (.ok (), (run plan dbms before).2) := Prod.ext hok rfl
  rw [run_eq] at hrun
  obtain ⟨_, opened, hopening, -⟩ := Keeping.bind_eq_ok hrun
  rw [names_run hdbms hopening]
  obtain ⟨_, typed, htypes, hdiscover⟩ := Keeping.bind_eq_ok hopening
  have hcalls := calls_readTypes plan dbms before
  rw [htypes] at hcalls
  rw [← readTypes_atlas htypes] at hdbms
  obtain ⟨_, between, hfirst, hrest⟩ := Keeping.bind_eq_ok hdiscover
  have hmore := calls_discover plan dbms .schemas (schemaName plan.vendor) typed
  rw [hfirst, hcalls] at hmore
  obtain ⟨_, last, hsecond, hrest⟩ := Keeping.bind_eq_ok hrest
  obtain rfl : last = opened := by
    rw [Keeping.bind_of_ok (Keeping.get_apply last)] at hrest
    split at hrest <;> cases hrest
    rfl
  have hnone : typed.atlas.names dbms .schema = ([] : List String).map some := hdbms.names .schema
  obtain ⟨schemas, hschemas, hlegible, hopen, hsound, hnames⟩ :=
    discover_enters hfilter hdbms.isOpen hdbms.sound hnone hfirst
  obtain ⟨catalogs, hcatalogs, hlegibleToo, -, -, hall⟩ := discover_enters hfilter hopen hsound hnames hsecond
  rw [hcalls] at hschemas
  rw [hmore] at hcatalogs
  refine ⟨schemas, catalogs, hschemas, hcatalogs, ?_⟩
  rw [hall, ← entered_append]
  exact namedAs_entered (List.forall_mem_append.mpr ⟨hlegible, hlegibleToo⟩)

/-- A server that lists its databases as a system database spelled in bytes, a shop, and the shop in bytes. -/
theorem run_spelled_databases :
    let sys : Value := .bytes [115, 121, 115]
    let shop : Value := .bytes [115, 104, 111, 112]
    let source (_ : List Call) (call : Call) : Except Failure Listing := .ok { rows := match call with
      | .catalogs => [sys, .text "shop", shop].map fun name => .ok (.record [("TABLE_CAT", name)])
      | _ => [] }
    let plan : Plan := { vendor := .mysql, source }
    let before : Survey Notes := { atlas := (Atlas.create {} { content := .dbms none }).1, notes := {} }
    AcceptsAll plan ∧ before.atlas.IsLeaf 0 none (.dbms none) ∧ (run plan 0 before).1 = .ok () ∧
      ∃ schemas catalogs,
        ListsValues (schemaName .mysql) (source (earlierCalls plan before) .schemas) schemas ∧
        ListsValues catalogName (source (earlierCalls plan before ++ [.schemas]) .catalogs) catalogs ∧
        NamedAs .mysql (schemas ++ catalogs) ((run plan 0 before).2.atlas.names 0 .schema) := by
  intro sys shop source plan before
  have haccepts : AcceptsAll plan := nofun
  have hleaf : before.atlas.IsLeaf 0 none (.dbms none) := ⟨{ content := .dbms none }, rfl, rfl, rfl, rfl, rfl⟩
  have hok : (run plan 0 before).1 = .ok () := by
    have hsome : (run plan 0 before).1.toOption = some () := by decide +kernel
    generalize (run plan 0 before).1 = outcome at hsome
    cases outcome with
    | ok _ => rfl
    | error f => cases hsome
  exact ⟨haccepts, hleaf, hok, run_spelled plan haccepts hleaf hok⟩

/-- A crawl without a filter enters a system database that its vendor excludes, and a shop twice, if bytes spell
them. -/
theorem run_enters_bytes :
    let source (names : List Value) (_ : List Call) (call : Call) : Except Failure Listing :=
      .ok { rows := match call with
        | .catalogs => names.map fun name => .ok (.record [("TABLE_CAT", name)])
        | _ => [] }
    let crawled (names : List Value) := run { vendor := .mysql, source := source names } 0
      { atlas := (Atlas.create {} { content := .dbms none }).1, notes := {} }
    let system := crawled [.bytes [115, 121, 115], .text "shop"]
    let twice := crawled [.text "shop", .bytes [115, 104, 111, 112]]
    system.1.toOption = some () ∧ excludes .mysql "sys" = true ∧
      system.2.atlas.names 0 .schema = [some "sys", some "shop"] ∧
      twice.1.toOption = some () ∧ twice.2.atlas.names 0 .schema = [some "shop", some "shop"] := by
  decide +kernel

end SchemaAtlas.Crawl
