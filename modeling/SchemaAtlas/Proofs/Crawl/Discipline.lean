import SchemaAtlas.Proofs.Crawl.Agenda
import SchemaAtlas.Proofs.Crawl.Course

/-!
# The discipline of a crawl

However a crawl ends, its cursors are closed in time. It fails with one of this library's own failures, which tells what
happened, and it does not succeed where something failed: not a listing, not a row, not the closing of a cursor, and not
the filter.
-/

namespace SchemaAtlas

/-- Which failures of reading a listing are passed on as they are. -/
def Call.passes : Call → Failure → Bool
  | .tables .. => Failure.isDiscovery
  | .part .. => Failure.isDiscovery
  | _ => Failure.isOwn

namespace Crawl

open Survey (Orderly)

variable {α β : Type} {plan : Plan} {dbms : NodeId} {before between after : Survey Notes}

/-! ## Answers that fail -/

/-- A run fails with what a failure is told as. -/
def Raises (passes : Failure → Bool) (f : Failure) (outcome : Except Failure α) : Prop :=
  ∃ told, outcome = .error told ∧ PassedOn passes f told

/-- What an answer that fails makes of a run: the answer is a refusal, or closing its cursor or one of its rows fails.
No call follows it. The failure of the first row is told as such unless closing the cursor fails as well. -/
structure Heeds (passes : Failure → Bool) (answer : Except Failure Listing) (later : List Call)
    (outcome : Except Failure α) : Prop where
  refused : ∀ f, answer = .error f → later = [] ∧ Raises passes f outcome
  unclosed : ∀ listing f, answer = .ok listing → listing.closeFailure = some f →
    later = [] ∧ (Raises passes f outcome ∨ ∃ reading, Raises passes (f.during reading) outcome)
  unread : ∀ listing f, answer = .ok listing → .error f ∈ listing.rows →
    later = [] ∧ ∃ raised, Raises passes raised outcome ∧
      (listing.rows.head? = some (.error f) → listing.closeFailure = none → raised = f)

/-- Rows of types fail if one of them does. -/
theorem typesOfRows_fails {rows : List Row} {f : Failure} (h : .error f ∈ rows) : ∃ g, typesOfRows rows = .error g := by
  induction rows with
  | nil => cases h
  | cons row rest ih =>
    cases row with
    | error g => exact ⟨g, rfl⟩
    | ok row =>
      obtain heq | hrest := List.mem_cons.mp h
      · cases heq
      · obtain ⟨g, hg⟩ := ih hrest
        rw [typesOfRows, hg]
        cases typeOfRow row with
        | error other => exact ⟨other, rfl⟩
        | ok info => exact ⟨g, rfl⟩

/-- What is done with the rows of a listing fails if one of them does, and as the first one does if that fails. -/
structure Minds (body : List Row → Step α) : Prop where
  row : ∀ {rows f}, .error f ∈ rows → Keeping.Fails (body rows)
  first : ∀ {f} rest survey, (body (.error f :: rest) survey).1 = .error f

/-- Names do. -/
theorem minds_nameRows (plan : Plan) (dbms : NodeId) (nameOf : Value → Except Failure Value) :
    Minds (nameRows plan dbms nameOf) :=
  ⟨fun h => Survey.eachRow_fails _ h, fun _ _ => rfl⟩

/-- So do rows that are ingested. -/
theorem minds_rows {γ : Type} (way : Survey.Ingestion Notes γ) : Minds (way.rows 0) :=
  ⟨fun h => way.rows_fails h 0, fun _ _ => rfl⟩

/-- So do types. -/
theorem minds_types : Minds fun rows => (Keeping.settle (typesOfRows rows) : Step (List TypeInfo)) :=
  ⟨fun h _ => typesOfRows_fails h, fun _ _ => rfl⟩

/-- What is done for a task that makes a call is to consume the listing first. -/
theorem Task.consumes (dbms : NodeId) {task : Task} {call : Call} (hcall : task.call? plan before = some call) :
    task.passes = call.passes ∧ ∃ (α : Type) (body : List Row → Step α) (next : α → Step Unit), Minds body ∧
      task.reads plan dbms before = (Survey.consume plan.source call body >>= next) before := by
  cases task with
  | types =>
    rw [call?] at hcall
    split at hcall
    · rename_i hlisted
      cases hcall
      refine ⟨rfl, _, _, fun infos => Keeping.settle (TypeMapping.ofInfos plan.codes [] infos) >>= fun mapping =>
        Survey.note fun notes => { notes with mapping }, minds_types, ?_⟩
      rw [reads, resolveTypes, if_pos hlisted, bind_assoc]
    · cases hcall
  | schemas =>
    cases hcall
    exact ⟨rfl, _, _, pure, minds_nameRows plan dbms _, by rw [bind_pure]; rfl⟩
  | catalogs =>
    cases hcall
    exact ⟨rfl, _, _, pure, minds_nameRows plan dbms _, by rw [bind_pure]; rfl⟩
  | check => cases hcall
  | tables schema =>
    cases hcall
    exact ⟨rfl, _, _, fun _ => pure (), minds_rows (tableRows schema), rfl⟩
  | partOf space table part =>
    cases hcall
    exact ⟨rfl, _, _, fun _ => pure (), minds_rows (rowsOf plan table part), rfl⟩

/-- A run heeds the answer of a listing if it raises what consuming the listing fails with, and ends there. -/
theorem heeds_of_consume {call : Call} {body : List Row → Step α} (hminds : Minds body) {passes : Failure → Bool}
    {later : List Call} {outcome : Except Failure β}
    (h : ∀ f, (Survey.consume plan.source call body before).1 = .error f → later = [] ∧ Raises passes f outcome) :
    Heeds passes (plan.source (Event.calls before.events) call) later outcome := by
  refine ⟨fun f hrefused => h f (by rw [Survey.consume_refused hrefused]), ?_, ?_⟩
  · intro listing f hanswer hclose
    rw [Survey.consume_accepted hanswer, hclose] at h
    cases hbody : (body listing.rows (Survey.opened call before)).1 with
    | ok a =>
      obtain ⟨hlast, hraises⟩ := h f (by rw [hbody]; rfl)
      exact ⟨hlast, .inl hraises⟩
    | error reading =>
      obtain ⟨hlast, hraises⟩ := h (f.during reading) (by rw [hbody]; rfl)
      exact ⟨hlast, .inr ⟨reading, hraises⟩⟩
  · intro listing f hanswer hrow
    rw [Survey.consume_accepted hanswer] at h
    obtain ⟨g, hg⟩ := hminds.row hrow (Survey.opened call before)
    cases hclose : listing.closeFailure with
    | none =>
      obtain ⟨hlast, hraises⟩ := h g (by rw [hg, hclose]; rfl)
      refine ⟨hlast, g, hraises, fun hfirst _ => ?_⟩
      obtain ⟨rest, hrows⟩ := List.head?_eq_some_iff.mp hfirst
      rw [hrows, hminds.first] at hg
      exact (Except.error.inj hg).symm
    | some closing =>
      obtain ⟨hlast, hraises⟩ := h (closing.during g) (by rw [hg, hclose]; rfl)
      exact ⟨hlast, _, hraises, nofun⟩

/-- So does one that raises what doing the task fails with that made the call. -/
theorem heeds_of_reads {task : Task} {call : Call} (hcall : task.call? plan before = some call) {later : List Call}
    {outcome : Except Failure β}
    (h : ∀ f, (task.reads plan dbms before).1 = .error f → later = [] ∧ Raises task.passes f outcome) :
    Heeds call.passes (plan.source (Event.calls before.events) call) later outcome := by
  obtain ⟨hpasses, α, body, next, hminds, hreads⟩ := Task.consumes dbms hcall
  rw [hpasses, hreads] at h
  exact heeds_of_consume hminds fun f hf => h f (by rw [Keeping.bind_of_error (Prod.ext hf rfl)])

/-! ## Calls -/

/-- The calls of what is orderly come behind those made before. -/
theorem calls_of_orderly (h : Orderly before after) : Event.calls before.events <+: Event.calls after.events := by
  obtain ⟨events, hevents, -⟩ := h.events
  rw [hevents, Event.calls, Event.calls, List.filterMap_append]
  exact List.prefix_append _ _

/-- Where a task comes up to a call, this is one of those made before it or the call of the task. -/
theorem comes_up {first earlier later : List Call} {call : Call} {made : Option Call} (hfirst : first <+: earlier)
    (hmade : first ++ made.toList <+: earlier ++ call :: later) :
    first ++ made.toList <+: earlier ∨ first = earlier ∧ made = some call := by
  obtain ⟨more, rfl⟩ := hfirst
  cases made with
  | none => exact .inl ((List.append_nil first).symm ▸ List.prefix_append first more)
  | some own =>
    rw [List.append_assoc, List.prefix_append_right_inj] at hmade
    cases more with
    | nil =>
      obtain ⟨rfl, -⟩ := List.cons_prefix_cons.mp hmade
      exact .inr ⟨(List.append_nil first).symm, rfl⟩
    | cons other more =>
      obtain ⟨rfl, -⟩ := List.cons_prefix_cons.mp hmade
      exact .inl ((List.prefix_append_right_inj first).mpr (List.prefix_append [own] more))

/-- Where an agenda is worked off, every call is made for a task that is done where the earlier calls were made. A
failure of that task is what the run fails with, and no call follows. -/
theorem WorksOff.called {agenda : List Task} {run : Except Failure α × Survey Notes}
    (h : WorksOff plan dbms agenda before run) {earlier later : List Call} {call : Call}
    (hbefore : Event.calls before.events <+: earlier) (hcalls : Event.calls run.2.events = earlier ++ call :: later) :
    ∃ task between, Event.calls between.events = earlier ∧ Task.call? plan between task = some call ∧
      ∀ f, (task.reads plan dbms between).1 = .error f → later = [] ∧ Raises task.passes f run.1 := by
  have hlate : ¬ earlier ++ call :: later <+: earlier := fun hprefix => by
    have hlength := hprefix.length_le
    rw [List.length_append, List.length_cons] at hlength
    omega
  induction h with
  | done => exact absurd (hcalls ▸ hbefore) hlate
  | @stopped task _ before _ _ told hreads hpassed =>
    have hmade := Task.calls_reads plan dbms task before
    rw [hreads, hcalls] at hmade
    have hprefix : Event.calls before.events ++ (task.call? plan before).toList <+: earlier ++ call :: later :=
      hmade ▸ List.prefix_rfl
    obtain hall | ⟨rfl, hown⟩ := comes_up hbefore hprefix
    · exact absurd (hmade ▸ hall) hlate
    · rw [hown, List.append_cancel_left_eq] at hmade
      refine ⟨task, before, rfl, hown, fun g hg => ⟨(List.cons.inj hmade).2, told, rfl, ?_⟩⟩
      rw [hreads] at hg
      exact Except.error.inj hg ▸ hpassed
  | @next task _ before between _ hreads hrest ih =>
    have hmade := Task.calls_reads plan dbms task before
    rw [hreads] at hmade
    have hprefix := calls_of_orderly hrest.orderly
    rw [hcalls, hmade] at hprefix
    obtain hall | ⟨rfl, hown⟩ := comes_up hbefore hprefix
    · exact ih (hmade ▸ hall) hcalls
    · exact ⟨task, before, rfl, hown, fun g hg => by rw [hreads] at hg; cases hg⟩

/-! ## The filter -/

/-- What is answered when the filter is asked about a name. -/
def Plan.verdict (plan : Plan) (name : Value) : Except Failure Bool :=
  match plan.filter with
  | none => .ok true
  | some filter => filter name

/-- A run asks the filter about some names. Where asking fails, this shows in what comes of the run. -/
def Asks (plan : Plan) (shows : Failure → Except Failure α → Prop) (before : Survey Notes)
    (run : Except Failure α × Survey Notes) : Prop :=
  ∃ names, run.2.notes.asked = before.notes.asked ++ names ∧
    ∀ name ∈ names, ∀ f, plan.verdict name = .error f → shows f run.1

/-- A run that asks about no names. -/
theorem Asks.of_eq {shows : Failure → Except Failure α → Prop} {run : Except Failure α × Survey Notes}
    (h : before.notes.asked = run.2.notes.asked) : Asks plan shows before run :=
  ⟨[], by rw [h, List.append_nil], nofun⟩

/-- What shows in a run may show in another way. -/
theorem Asks.imp {shows seen : Failure → Except Failure α → Prop} {run : Except Failure α × Survey Notes}
    (h : Asks plan shows before run) (himp : ∀ f, shows f run.1 → seen f run.1) : Asks plan seen before run := by
  obtain ⟨names, hnames, hshows⟩ := h
  exact ⟨names, hnames, fun name hname f hf => himp f (hshows name hname f hf)⟩

/-- A step asks the filter, and fails as asking it fails. -/
def Asking (plan : Plan) (step : Step α) : Prop :=
  ∀ survey, Asks plan (fun f outcome => outcome = .error f) survey (step survey)

/-- A step asks about no names. -/
abbrev Discreet (step : Step α) : Prop :=
  Keeping.Keeps (InvImage Eq fun survey : Survey Notes => survey.notes.asked) step

/-- A step that asks about no names fails as asking fails. -/
theorem Discreet.asking {step : Step α} (h : Discreet step) : Asking plan step :=
  fun survey => .of_eq (h survey)

/-- Steps that fail as asking fails do so one after the other. -/
theorem Asking.bind {step : Step α} {next : α → Step β} (h : Asking plan step) (hnext : ∀ a, Asking plan (next a)) :
    Asking plan (step >>= next) := by
  intro survey
  obtain ⟨names, hnames, hfails⟩ := h survey
  rcases hstep : step survey with ⟨outcome, between⟩
  rw [hstep] at hnames hfails
  cases outcome with
  | error g =>
    rw [Keeping.bind_of_error hstep]
    refine ⟨names, hnames, fun name hname f hf => ?_⟩
    rw [Except.error.inj (hfails name hname f hf)]
  | ok a =>
    rw [Keeping.bind_of_ok hstep]
    obtain ⟨more, hmore, hfailsMore⟩ := hnext a between
    refine ⟨names ++ more, by rw [hmore, hnames, List.append_assoc], fun name hname f hf => ?_⟩
    obtain hfirst | hlater := List.mem_append.mp hname
    · cases hfails name hfirst f hf
    · exact hfailsMore name hlater f hf

/-- Warnings, added children and set fields ask about no names. -/
theorem builds_discreet : Builds (InvImage Eq fun survey : Survey Notes => survey.notes.asked) where
  warn _ := Keeping.Keeps.modify fun _ => rfl
  add _ _ := Survey.keeps_add fun _ _ _ => rfl
  set _ _ _ := Survey.keeps_set fun _ _ _ => rfl

/-- Deciding on a name asks the filter. -/
theorem asking_isAccepted (plan : Plan) (name : Value) : Asking plan (isAccepted plan name) := by
  have hpure (accepted : Bool) : Asking plan (pure accepted : Step Bool) :=
    Discreet.asking (Keeping.Keeps.pure accepted)
  unfold isAccepted
  split
  · exact hpure false
  · refine Asking.bind (Discreet.asking (Keeping.Keeps.settle _)) fun excluded => ?_
    split
    · exact hpure false
    · intro survey
      unfold passes
      cases hfilter : plan.filter with
      | none => exact hpure true survey
      | some filter =>
        refine ⟨[name], rfl, fun other hother f hf => ?_⟩
        rw [List.mem_singleton.mp hother, Plan.verdict, hfilter] at hf
        exact hf

/-- So does the reading of names. -/
theorem asking_nameRows (plan : Plan) (dbms : NodeId) (nameOf : Value → Except Failure Value) (rows : List Row) :
    Asking plan (nameRows plan dbms nameOf rows) := by
  have hconsider (name : Value) : Asking plan (considerName plan dbms name) := by
    refine (asking_isAccepted plan name).bind fun accepted => Discreet.asking ?_
    cases accepted with
    | true => exact keeps_addSchema builds_discreet.sparesColumns dbms name
    | false => exact Keeping.Keeps.modify fun survey => by dsimp only [InvImage]; split <;> rfl
  induction rows with
  | nil => exact Discreet.asking (Keeping.Keeps.pure ())
  | cons row rest ih =>
    cases row with
    | error f => exact Discreet.asking (Keeping.Keeps.throw f)
    | ok row =>
      exact Asking.bind (Asking.bind (Discreet.asking (Keeping.Keeps.settle _)) fun name => hconsider name) fun _ => ih

/-- A failure is that of asking, or one of closing that took its place. -/
def Masks (raised f : Failure) : Prop :=
  raised = f ∨ ∃ closing : Failure, raised = closing.during f

/-- Names that are consumed are asked about, and a failure of asking shows in that of consuming them. -/
theorem asks_consume {call : Call} {body : List Row → Step α} (hbody : ∀ rows, Asking plan (body rows))
    (before : Survey Notes) : Asks plan (fun f outcome => ∃ raised, Masks raised f ∧ outcome = .error raised) before
      (Survey.consume plan.source call body before) := by
  cases hanswer : plan.source (Event.calls before.events) call with
  | error g =>
    rw [Survey.consume_refused hanswer]
    exact .of_eq rfl
  | ok listing =>
    rw [Survey.consume_accepted hanswer]
    obtain ⟨names, hnames, hfails⟩ := hbody listing.rows (Survey.opened call before)
    refine ⟨names, hnames, fun name hname f hf => ?_⟩
    rw [hfails name hname f hf]
    cases listing.closeFailure with
    | none => exact ⟨f, .inl rfl, rfl⟩
    | some closing => exact ⟨_, .inr ⟨closing, rfl⟩, rfl⟩

/-- Doing a task asks about names only if it lists them. -/
theorem Task.asks_reads (plan : Plan) (dbms : NodeId) (task : Task) (before : Survey Notes) :
    Asks plan (fun f outcome => task.passes = Failure.isOwn ∧ ∃ raised, Masks raised f ∧ outcome = .error raised) before
      (task.reads plan dbms before) := by
  have hrecord (event : Event) : Discreet (Survey.record event) := Keeping.Keeps.modify fun _ => rfl
  cases task with
  | types =>
    have htypes : Discreet (Task.types.reads plan dbms) :=
      Keeping.Keeps.bind (keeps_resolveTypes hrecord plan) fun _ => Keeping.Keeps.modify fun _ => rfl
    exact .of_eq (htypes before)
  | schemas => exact (asks_consume (asking_nameRows plan dbms _) before).imp fun _ hshows => ⟨rfl, hshows⟩
  | catalogs => exact (asks_consume (asking_nameRows plan dbms _) before).imp fun _ hshows => ⟨rfl, hshows⟩
  | check =>
    rw [reads, Keeping.bind_of_ok (Keeping.get_apply before)]
    split <;> exact .of_eq rfl
  | tables schema =>
    rw [reads, Keeping.bind_of_ok (namespaceOf_eq plan schema before)]
    refine .of_eq (Keeping.Keeps.bind (Survey.keeps_consume hrecord _ _ ?_) (fun _ => Keeping.Keeps.pure ()) before)
    exact (keeps_tableRows builds_discreet.sparesColumns schema).rows 0
  | partOf space table part =>
    rw [reads, Keeping.bind_of_ok (Keeping.get_apply before)]
    refine .of_eq (Keeping.Keeps.bind (Survey.keeps_consume hrecord _ _ ?_) (fun _ => Keeping.Keeps.pure ()) before)
    exact (keeps_rowsOf builds_discreet plan table part).rows 0

/-- Where an agenda is worked off, a failure of asking is what the run fails with, or what that was raised for. -/
theorem WorksOff.asks {agenda : List Task} {run : Except Failure α × Survey Notes}
    (h : WorksOff plan dbms agenda before run) :
    Asks plan (fun f outcome => ∃ raised, Masks raised f ∧ Raises Failure.isOwn raised outcome) before run := by
  induction h with
  | done => exact .of_eq rfl
  | @stopped task _ before _ g told hreads hpassed =>
    obtain ⟨names, hnames, hfails⟩ := Task.asks_reads plan dbms task before
    rw [hreads] at hnames hfails
    refine ⟨names, hnames, fun name hname f hf => ?_⟩
    obtain ⟨hown, raised, hmasks, hraised⟩ := hfails name hname f hf
    rw [hown] at hpassed
    exact ⟨raised, hmasks, told, rfl, Except.error.inj hraised ▸ hpassed⟩
  | @next task _ before between run hreads _ ih =>
    obtain ⟨names, hnames, hfails⟩ := Task.asks_reads plan dbms task before
    rw [hreads] at hnames hfails
    obtain ⟨more, hmore, hfailsMore⟩ := ih
    refine ⟨names ++ more, by rw [hmore, hnames, List.append_assoc], fun name hname f hf => ?_⟩
    obtain hfirst | hlater := List.mem_append.mp hname
    · obtain ⟨-, raised, -, hraised⟩ := hfails name hfirst f hf
      cases hraised
    · exact hfailsMore name hlater f hf

/-! ## A crawl -/

/-- What holds of a crawl however it ends. A failure is one of this library's own, and is told as failures of a crawl
are. Conversely, the crawl is a chain of tasks that ends with the first one that fails and raises its failure. So a
listing that is refused, a row or a cursor that fails and a filter that cannot decide make it fail. Calls are made one
at a time, so that every cursor that was opened was closed as often, at most one was open at any point, and none when a
call was made or the crawl ended. -/
structure Disciplined (plan : Plan) (dbms : NodeId) (before : Survey Notes) (outcome : Except Failure Unit)
    (after : Survey Notes) : Prop where
  own : ∀ told, outcome = .error told → told.isOwn = true
  told : ∀ told, outcome = .error told →
    ∃ between, Orderly before between ∧ Fails plan dbms between told after
  course : WorksOff plan dbms Task.opening before (outcome, after)
  heeds : ∀ earlier call later, Event.calls before.events <+: earlier →
    Event.calls after.events = earlier ++ call :: later →
    Heeds call.passes (plan.source earlier call) later outcome
  asks : Asks plan (fun f outcome => ∃ raised, Masks raised f ∧ Raises Failure.isOwn raised outcome) before
    (outcome, after)
  cursors : ∃ events, after.events = before.events ++ events ∧ OneAtATime events ∧
    (∀ call, events.count (.closed call) = events.count (.opened call)) ∧
    ∀ first rest, events = first ++ rest → Event.stillOpen first ≤ 1 ∧
      ((rest = [] ∨ ∃ call, rest.head? = some (.called call)) → Event.stillOpen first = 0)

/-- A crawl that starts in an atlas whose children are nodes keeps discipline, whatever its source, its
filter and its type mappers do. -/
theorem run_disciplined (plan : Plan) (dbms : NodeId) {before : Survey Notes} (hclosed : before.atlas.Closed) :
    Disciplined plan dbms before (run plan dbms before).1 (run plan dbms before).2 := by
  have hcourse : WorksOff plan dbms Task.opening before (run plan dbms before) := works_run_closed hclosed
  obtain ⟨events, hevents, hone⟩ := hcourse.orderly.events
  refine ⟨?_, fun _ => hcourse.fails, hcourse, ?_, hcourse.asks, events, hevents, hone, hone.count_closed, ?_⟩
  · intro told htold
    obtain ⟨between, -, hfailed⟩ := hcourse.fails htold
    exact hfailed.isOwn
  · intro earlier call later hbefore hcalls
    obtain ⟨task, between, rfl, hcall, hraises⟩ := hcourse.called hbefore hcalls
    exact heeds_of_reads hcall hraises
  · rintro first rest rfl
    exact hone.stillOpen_le

/-- A crawl whose schema listing fails in a row and then on closing, and one whose filter fails. Both fail with what
came last as the cause, and close both of their cursors. -/
theorem run_disciplined_broken :
    let row : Row := .ok (.record [("TABLE_SCHEM", .text "main")])
    let lost := Failure.faultText .runtime "lost"
    let unsure := Failure.faultText .runtime "unsure"
    let listing : Listing := { rows := [row, .ok (.record [])], closeFailure := some lost }
    let broken : Plan := { vendor := .generic, source := fun _ call => .ok (if call = .schemas then listing else {}) }
    let unfiltered : Plan := {
      vendor := .generic, filter := some fun _ => .error unsure,
      source := fun _ call => .ok (if call = .schemas then { rows := [row, row] } else {}) }
    let before : Survey Notes := { atlas := (Atlas.create {} { content := .dbms none }).1, notes := {} }
    let events : List Event := [.called .typeInfo, .opened .typeInfo, .closed .typeInfo,
      .called .schemas, .opened .schemas, .closed .schemas]
    before.atlas.Closed ∧ Disciplined broken 0 before (run broken 0 before).1 (run broken 0 before).2 ∧
      Disciplined unfiltered 0 before (run unfiltered 0 before).1 (run unfiltered 0 before).2 ∧
      (run broken 0 before).1 = .error (.becauseOf .discovery "Unable to list schemas of None: lost" lost) ∧
      (run unfiltered 0 before).1 = .error (.becauseOf .discovery "Unable to list schemas of None: unsure" unsure) ∧
      (run broken 0 before).2.events = events ∧ (run unfiltered 0 before).2.events = events := by
  intro row lost unsure listing broken unfiltered before events
  have hclosed : before.atlas.Closed := Atlas.closed_empty.create rfl
  refine ⟨hclosed, run_disciplined broken 0 hclosed, run_disciplined unfiltered 0 hclosed, rfl, rfl, ?_⟩
  clear hclosed
  decide +revert +kernel

end Crawl

end SchemaAtlas
