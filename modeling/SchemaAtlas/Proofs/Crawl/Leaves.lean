import SchemaAtlas.Proofs.Crawl.Course
import SchemaAtlas.Proofs.Crawl.Names

/-!
# Names that were read

A listing of names that was read to its end has made schemas, and a listing of tables has made tables. All of
them are new leaves, and the tables have the names that their rows give, whatever these rows are like otherwise.
-/

namespace SchemaAtlas.Crawl

variable {plan : Plan} {before between after : Survey Notes}

/-- The name that a row gives to its table. -/
def GivesTable (row : Row) (name : Option String) : Prop :=
  ∃ fields v, row = .ok fields ∧ fields.field "TABLE_NAME" = .ok v ∧ Field.optional Field.text v = .ok name

/-- A new child that is named is a leaf of that name. -/
theorem Planted.named {parent : NodeId} (content : Content) {v : Value}
    (h : Planted before parent content.kind { content, parent := some parent } between)
    (hset : (Survey.setValue before.atlas.nodes.size "name" v between).1 = .ok ()) (levels : Nat) :
    ∃ name, Field.optional Field.text v = .ok name ∧ Drawn parent levels [.node name content []] before
      (Survey.setValue before.atlas.nodes.size "name" v between).2 := by
  have hnode : between.atlas.node? before.atlas.nodes.size = some { content, parent := some parent } := by
    rw [h.atlas, Atlas.node?_plant before.atlas _ _ h.lt, if_pos rfl]
  have htold : ({ content, parent := some parent } : Node).isTold "name" = false := by
    simp [Node.isTold]
  cases hname : Field.optional Field.text v with
  | error kind =>
    have hrefused : Node.assign { content, parent := some parent } "name" (.value v) =
        .error (.refused [⟨["name"], kind⟩]) := by
      simp [Node.assign, Atlas.setsAgain, Node.set, htold, Entry.plain, hname]
    rw [Survey.setValue, Survey.set, Keeping.bind_of_ok (Keeping.get_apply _), Keeping.bind_apply,
      Keeping.settle_apply, Atlas.assign_eq hnode, hrefused] at hset
    cases hset
  | ok name =>
    refine ⟨name, rfl, ?_⟩
    have hnext : Node.assign { content, parent := some parent } "name" (.value v) =
        .ok { name, content, parent := some parent } := by
      simp [Node.assign, Atlas.setsAgain, Node.set, htold, Entry.plain, hname]
    obtain ⟨_, after, hrun, hafter⟩ := h.set hnext
    rw [Survey.setValue, hrun]
    exact hafter.drawn levels

/-- A leaf of a name and a content. -/
def leafOf (content : Content) (name : Option String) : Tree :=
  .node name content []

/-- Such leaves that were drawn under a leaf are its children. -/
theorem Drawn.leaves_named {parent : NodeId} {levels : Nat} {label : Option String} {content child : Content}
    {names : List (Option String)} (h : Drawn parent (levels + 1) (names.map (leafOf child)) before after)
    (hleaf : before.atlas.IsLeaf parent label content) :
    List.Forall₂ (fun id name => after.atlas.IsLeaf id name child) (after.atlas.collection parent child.kind) names :=
  Drawn.leaves h hleaf

/-- Rows of tables that are read to their end become tables with the names that they give. -/
theorem tableRows_named {schema : NodeId} {label : Option String} {rows : List Row} {count total : Nat}
    (hschema : before.atlas.IsOpen schema label .schema)
    (hread : (tableRows schema).rows count rows before = (.ok total, after)) :
    ∃ names, List.Forall₂ GivesTable rows names ∧ Drawn schema 1 (names.map (leafOf .table)) before after := by
  induction rows generalizing before count with
  | nil =>
    cases hread
    exact ⟨[], .nil, .refl schema 1 _⟩
  | cons row rows ih =>
    cases row with
    | error f => cases hread
    | ok row =>
      obtain ⟨_, planted, hadd, hplanted⟩ := @add_planted schema before .table label .schema hschema rfl
      obtain ⟨rfl, hnode⟩ := hplanted
      obtain ⟨accepted, _, haccepts, hread⟩ := Keeping.bind_eq_ok hread
      cases haccepts
      obtain ⟨table, _, hchild, hread⟩ := Keeping.bind_eq_ok hread
      obtain ⟨htable, rfl⟩ := Prod.mk.inj (hadd.symm.trans hchild)
      obtain rfl := Except.ok.inj htable
      obtain ⟨_, between, hfill, hrest⟩ := Keeping.bind_eq_ok hread
      obtain ⟨v, _, hlookup, hset⟩ := Keeping.bind_eq_ok hfill
      obtain ⟨hfield, rfl⟩ := Prod.mk.inj hlookup
      obtain ⟨name, hname, hdrawn⟩ := hnode.named .table (congrArg Prod.fst hset) 1
      rw [hset] at hdrawn
      obtain ⟨names, hnames, hmore⟩ := ih (hdrawn.atlas.isOpen hschema) hrest
      exact ⟨name :: names, .cons ⟨row, v, rfl, hfield, hname⟩ hnames, hdrawn.trans hmore hschema.lt⟩

/-- Deciding on a name changes neither the atlas nor the type mapping. -/
theorem keeps_isAccepted_same (plan : Plan) (name : Value) :
    Keeping.Keeps (InvImage Eq fun survey : Survey Notes => (survey.atlas, survey.notes.mapping))
      (isAccepted plan name) := by
  unfold isAccepted
  split
  · exact Keeping.Keeps.pure false
  · refine (Keeping.Keeps.settle _).bind fun excluded => ?_
    split
    · exact Keeping.Keeps.pure false
    · unfold passes
      split
      · exact Keeping.Keeps.pure true
      · exact Keeping.Keeps.bind (Keeping.Keeps.modify fun _ => rfl) fun _ => Keeping.Keeps.settle _

/-- A name that is considered becomes a schema, or nothing. -/
theorem considerName_named {dbms : NodeId} {label typeName : Option String} {name : Value}
    (hdbms : before.atlas.IsOpen dbms label (.dbms typeName))
    (hread : considerName plan dbms name before = (.ok (), after)) :
    ∃ names : List (Option String), Drawn dbms 1 (names.map (leafOf .schema)) before after := by
  obtain ⟨accepted, between, hdecided, hread⟩ := Keeping.bind_eq_ok hread
  have hsame := keeps_isAccepted_same plan name before
  rw [hdecided] at hsame
  obtain ⟨hatlas, hmapping⟩ := Prod.mk.inj hsame
  have hnone : Drawn dbms 1 [] before between := .of_same dbms 1 hatlas.symm hmapping.symm
  cases accepted with
  | false =>
    obtain ⟨_, _, hrun, hdrawn⟩ := @discard_drawn between name dbms 1
    obtain ⟨-, rfl⟩ := Prod.mk.inj (hrun.symm.trans hread)
    exact ⟨[], hnone.trans hdrawn hdbms.lt⟩
  | true =>
    obtain ⟨found, _, hfound, hread⟩ := Keeping.bind_eq_ok hread
    have hkept := Survey.keeps_childNamed (R := Eq) dbms .schema name between
    rw [hfound] at hkept
    subst hkept
    cases found with
    | some schema =>
      obtain ⟨-, rfl⟩ := Prod.mk.inj hread
      exact ⟨[], hnone⟩
    | none =>
      have hopen := hnone.atlas.isOpen hdbms
      obtain ⟨_, planted, hadd, hplanted⟩ := @add_planted dbms between .schema label (.dbms typeName) hopen rfl
      obtain ⟨rfl, hnode⟩ := hplanted
      obtain ⟨schema, _, hchild, hset⟩ := Keeping.bind_eq_ok hread
      obtain ⟨hschema, rfl⟩ := Prod.mk.inj (hadd.symm.trans hchild)
      obtain rfl := Except.ok.inj hschema
      obtain ⟨known, -, hdrawn⟩ := hnode.named .schema (congrArg Prod.fst hset) 1
      rw [hset] at hdrawn
      exact ⟨[known], hnone.trans hdrawn hdbms.lt⟩

/-- Names that are considered one after the other become schemas. -/
theorem nameRows_named {dbms : NodeId} {label typeName : Option String} {nameOf : Value → Except Failure Value}
    {rows : List Row} (hdbms : before.atlas.IsOpen dbms label (.dbms typeName))
    (hread : nameRows plan dbms nameOf rows before = (.ok (), after)) :
    ∃ names : List (Option String), Drawn dbms 1 (names.map (leafOf .schema)) before after := by
  induction rows generalizing before with
  | nil =>
    cases hread
    exact ⟨[], .refl dbms 1 _⟩
  | cons row rows ih =>
    cases row with
    | error f => cases hread
    | ok row =>
      obtain ⟨_, between, hone, hrest⟩ := Keeping.bind_eq_ok hread
      obtain ⟨name, _, hname, hone⟩ := Keeping.bind_eq_ok hone
      obtain ⟨-, rfl⟩ := Prod.mk.inj hname
      obtain ⟨first, hfirst⟩ := considerName_named hdbms hone
      obtain ⟨more, hmore⟩ := ih (hfirst.atlas.isOpen hdbms) hrest
      refine ⟨first ++ more, ?_⟩
      rw [List.map_append]
      exact hfirst.trans hmore hdbms.lt

/-! ## Listings that were read -/

/-- A step of a crawl keeps the children of a node apart. -/
theorem staysApart_allows (parent : NodeId) :
    Survey.Allows (InvImage (Atlas.StaysApart parent) (Survey.atlas : Survey Notes → Atlas)) :=
  Survey.allows_atlas Atlas.staysApart_of_add Atlas.staysApart_of_assign

/-- A listing of names that was read to its end has made schemas. -/
theorem discover_named {dbms : NodeId} {label typeName : Option String} {call : Call}
    {nameOf : Value → Except Failure Value} (hdbms : before.atlas.IsOpen dbms label (.dbms typeName))
    (h : discover plan dbms call nameOf before = (.ok (), after)) :
    ∃ names : List (Option String), Drawn dbms 1 (names.map (leafOf .schema)) before after := by
  obtain ⟨rows, read, -, hread, rfl⟩ := Survey.consume_eq_ok (explained_eq_ok h)
  have hopen : (Survey.opened call before).atlas.IsOpen dbms label (.dbms typeName) := hdbms
  obtain ⟨names, hnames⟩ := nameRows_named hopen hread
  exact ⟨names, hnames.mapping, hnames.atlas⟩

/-- The schemas of a discovery that succeeded are different leaves. -/
theorem discoverSchemas_named {dbms : NodeId} {label typeName : Option String}
    (hdbms : before.atlas.IsLeaf dbms label (.dbms typeName))
    (h : discoverSchemas plan dbms before = (.ok (), after)) :
    after.atlas.IsOpen dbms label (.dbms typeName) ∧ (after.atlas.collection dbms .schema).Nodup ∧
      ∃ names, List.Forall₂ (fun id name => after.atlas.IsLeaf id name .schema)
        (after.atlas.collection dbms .schema) names := by
  have hapart := keeps_discoverSchemas Survey.keeps_record plan (staysApart_allows dbms).spares dbms before
  rw [h] at hapart
  obtain ⟨_, between, hfirst, hrest⟩ := Keeping.bind_eq_ok h
  obtain ⟨_, last, hsecond, hrest⟩ := Keeping.bind_eq_ok hrest
  have hafter : last = after := by
    rw [Keeping.bind_of_ok (Keeping.get_apply last)] at hrest
    split at hrest <;> cases hrest
    rfl
  subst hafter
  obtain ⟨names, hnames⟩ := discover_named hdbms.isOpen hfirst
  obtain ⟨more, hmore⟩ := discover_named (hnames.atlas.isOpen hdbms.isOpen) hsecond
  have hall := hnames.trans hmore hdbms.isOpen.lt
  rw [← List.map_append] at hall
  exact ⟨hall.atlas.isOpen hdbms.isOpen, (hapart hdbms.apart).nodup_collection .schema, _, hall.leaves_named hdbms⟩

/-- The tables of a listing that was read to its end are different leaves with the names that its rows give. -/
theorem tables_named {schema : NodeId} {label : Option String} {call : Call} {count : Nat}
    (hschema : before.atlas.IsLeaf schema label .schema)
    (h : Survey.ingest plan.source call schema "tables" (tableRows schema) before = (.ok count, after)) :
    after.atlas.IsOpen schema label .schema ∧ (after.atlas.collection schema .table).Nodup ∧ ∃ rows names,
      plan.source (Event.calls before.events) call = .ok { rows } ∧ List.Forall₂ GivesTable rows names ∧
      List.Forall₂ (fun id name => after.atlas.IsLeaf id name .table) (after.atlas.collection schema .table) names := by
  have hapart := Survey.keeps_ingest Survey.keeps_record plan.source call schema "tables"
    (keeps_tableRows (staysApart_allows schema).spares.toSparesColumns schema) before
  rw [h] at hapart
  obtain ⟨rows, read, hanswer, hread, rfl⟩ := Survey.consume_eq_ok (ingest_eq_ok h)
  have hopen : (Survey.opened call before).atlas.IsLeaf schema label .schema := hschema
  obtain ⟨names, hnames, hdrawn⟩ := tableRows_named hopen.isOpen hread
  exact ⟨hdrawn.atlas.isOpen hopen.isOpen, (hapart hschema.apart).nodup_collection .table, rows, names, hanswer,
    hnames, hdrawn.leaves_named hopen⟩

end SchemaAtlas.Crawl
