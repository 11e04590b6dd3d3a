import SchemaAtlas.Proofs.Catalog.Acts
import SchemaAtlas.Proofs.Crawl.Family

/-!
# How a cursor is ingested

Whatever a cursor hands out and whatever is done with its rows, an ingestion is a course of acts that ends with the
rows or with the first act that fails. Then the cursor is closed, and nothing is done or undone besides. It returns the
number of rows that count, or tells the failure, that of closing before any other: a failure of discovery as it is, any
other as the cause of one. Nothing is assumed of what is done with the rows but that the parent stays a node.
-/

namespace SchemaAtlas

namespace Survey

variable {Notes γ : Type}

namespace Ingestion

variable {way : Ingestion Notes γ} {cursor next : Cursor} {survey done : Survey Notes} {row : Value} {f : Failure}

/-! ## One row -/

/-- What is done with a row that was reached. The result tells whether it counts. -/
def handle (way : Ingestion Notes γ) (row : Value) : Keeping (Survey Notes) Bool := do
  let counts ← way.accepts row
  if counts then way.fill (← way.child row) row
  pure counts

/-- A row is handled before the rows behind it. -/
theorem rows_cons (way : Ingestion Notes γ) (count : Nat) (row : Value) (rest : List Row) :
    way.rows count (.ok row :: rest) = way.handle row >>= fun counts => way.rows (count + counts.toNat) rest := by
  simp only [rows, handle, bind_assoc]
  congr 1
  funext accepted
  cases accepted with
  | false => rfl
  | true => simp only [if_true, bind_assoc, pure_bind, Bool.toNat_true]

/-- A row is handled by a course of acts. -/
theorem handle_leads (way : Ingestion Notes γ) (cursor : Cursor) (row : Value) (survey : Survey Notes) :
    ∃ acts, Handles row acts (way.handle row survey).1 ∧
      way.Leads acts ⟨cursor, survey⟩ ⟨cursor, (way.handle row survey).2⟩ := by
  rcases haccepts : way.accepts row survey with ⟨verdict, judged⟩
  have hjudge := happens_judge cursor haccepts
  match verdict with
  | .error f =>
    rw [handle, Keeping.bind_of_error haccepts]
    exact ⟨_, .unjudged, _, hjudge, rfl⟩
  | .ok false =>
    rw [handle, Keeping.bind_of_ok haccepts]
    exact ⟨_, .skipped, _, hjudge, rfl⟩
  | .ok true =>
    rw [handle, Keeping.bind_of_ok haccepts]
    simp only [if_true]
    rcases hchild : way.child row judged with ⟨child, made⟩
    have hmake := happens_make cursor hchild
    match child with
    | .error f =>
      rw [Keeping.bind_of_error hchild]
      exact ⟨_, .unmade, _, hjudge, _, hmake, rfl⟩
    | .ok child =>
      rw [Keeping.bind_of_ok hchild]
      rcases houtcome : way.fill child row made with ⟨outcome, filled⟩
      have hfill := happens_fill cursor houtcome
      match outcome with
      | .error f =>
        rw [Keeping.bind_of_error houtcome]
        exact ⟨_, .unfilled, _, hjudge, _, hmake, _, hfill, rfl⟩
      | .ok () =>
        rw [Keeping.bind_of_ok houtcome]
        exact ⟨_, .counted, _, hjudge, _, hmake, _, hfill, rfl⟩

end Ingestion

/-! ## The rows of a cursor -/

/-- A course of reading: what was done, what reading came to, and the scene that it left. -/
structure Course (Notes γ : Type) where
  acts : List (Act γ)
  reading : Except Failure Nat
  left : Scene Notes

/-- The rows that a course reached. -/
def Course.reached (course : Course Notes γ) : List Row :=
  (course.acts.filterMap Act.reached?).map .ok

namespace Ingestion

variable {way : Ingestion Notes γ} {cursor next : Cursor} {survey done : Survey Notes} {row : Value} {f : Failure}
  {course : Course Notes γ}

/-- The rows of a cursor are ingested by a course of acts, which reaches them in order, and all of them if it
succeeds. -/
structure Follows (way : Ingestion Notes γ) (scene : Scene Notes) (course : Course Notes γ) : Prop where
  proceeds : Proceeds course.acts course.reading
  leads : way.Leads course.acts scene course.left
  rows : ∀ count, way.rows count scene.cursor.rows scene.survey = (course.reading.map (count + ·), course.left.survey)
  reached : course.reached <+: scene.cursor.rows
  complete : ∀ count, course.reading = .ok count → course.reached = scene.cursor.rows

/-- A cursor without rows ends the course. -/
theorem follows_ended (hnext : cursor.next = (.error f, next)) (hexhausted : f.saysExhausted = true)
    (hrows : cursor.rows = []) : way.Follows ⟨cursor, survey⟩ ⟨[.reach (.error f)], .ok 0, ⟨next, survey⟩⟩ where
  proceeds := .ended hexhausted
  leads := ⟨_, ⟨congrArg Prod.fst hnext, by rw [hnext]⟩, rfl⟩
  rows count := by rw [hrows]; rfl
  reached := List.nil_prefix
  complete _ _ := hrows.symm

/-- A row that cannot be reached stops it. -/
theorem follows_unreached (hnext : cursor.next = (.error f, next)) (hexhausted : f.saysExhausted = false)
    {rest : List Row} (hrows : cursor.rows = .error f :: rest) :
    way.Follows ⟨cursor, survey⟩ ⟨[.reach (.error f)], .error f, ⟨next, survey⟩⟩ where
  proceeds := .unreached hexhausted
  leads := ⟨_, ⟨congrArg Prod.fst hnext, by rw [hnext]⟩, rfl⟩
  rows count := by rw [hrows]; rfl
  reached := List.nil_prefix
  complete _ := nofun

section

variable {acts : List (Act γ)} (hnext : cursor.next = (.ok row, next)) (hrows : cursor.rows = .ok row :: next.rows)

include hnext hrows

/-- So does a row that cannot be handled. -/
theorem follows_stopped (hrow : Handles row acts (.error f)) (hleads : way.Leads acts ⟨next, survey⟩ ⟨next, done⟩)
    (hhandle : way.handle row survey = (.error f, done)) :
    way.Follows ⟨cursor, survey⟩ ⟨.reach (.ok row) :: acts, .error f, ⟨next, done⟩⟩ where
  proceeds := .stopped hrow
  leads := ⟨_, ⟨congrArg Prod.fst hnext, by rw [hnext]⟩, hleads⟩
  rows count := by rw [hrows, rows_cons, Keeping.bind_of_error hhandle]; rfl
  reached := by simp [Course.reached, Act.reached?, hrow.reached, hrows]
  complete _ := nofun

/-- A row that is handled is followed by the rows behind it. -/
theorem follows_handled {counts : Bool} (hrow : Handles row acts (.ok counts))
    (hleads : way.Leads acts ⟨next, survey⟩ ⟨next, done⟩) (hhandle : way.handle row survey = (.ok counts, done))
    (h : way.Follows ⟨next, done⟩ course) :
    way.Follows ⟨cursor, survey⟩
      ⟨.reach (.ok row) :: (acts ++ course.acts), course.reading.map (· + counts.toNat), course.left⟩ := by
  have hreached : Course.reached ⟨.reach (.ok row) :: (acts ++ course.acts), course.reading.map (· + counts.toNat),
      course.left⟩ = .ok row :: course.reached := by
    simp [Course.reached, Act.reached?, hrow.reached]
  refine ⟨.handled hrow h.proceeds, ⟨_, ⟨congrArg Prod.fst hnext, by rw [hnext]⟩, hleads.append h.leads⟩, ?_, ?_, ?_⟩
  · intro count
    rw [hrows, rows_cons, Keeping.bind_of_ok hhandle, h.rows]
    cases course.reading with
    | error f => rfl
    | ok further => simp only [Except.map]; congr 2; omega
  · rw [hreached, hrows]
    exact (List.prefix_cons_inj _).mpr h.reached
  · intro count hcount
    rw [hreached, hrows]
    cases hreading : course.reading with
    | error f => rw [hreading] at hcount; cases hcount
    | ok further => rw [h.complete further hreading]

end

/-- The rows of every cursor are ingested by a course of acts. -/
theorem exists_follows (way : Ingestion Notes γ) (cursor : Cursor) (survey : Survey Notes) :
    ∃ course, way.Follows ⟨cursor, survey⟩ course := by
  induction hrows : cursor.rows generalizing cursor survey with
  | nil =>
    rcases hnext : cursor.next with ⟨answer, next⟩
    cases Cursor.hands_of_next hnext with
    | exhausted hexhausted _ => exact ⟨_, follows_ended hnext hexhausted hrows⟩
    | failed _ hhead => rw [hrows] at hhead; cases hhead
    | handed hhanded => rw [hrows] at hhanded; cases hhanded
  | cons row rest ih =>
    rcases hnext : cursor.next with ⟨answer, next⟩
    cases Cursor.hands_of_next hnext with
    | exhausted _ hnone => rw [hrows] at hnone; cases hnone
    | @failed f hexhausted hhead =>
      rw [hrows] at hhead
      obtain rfl : row = .error f := Option.some.inj hhead
      exact ⟨_, follows_unreached hnext hexhausted hrows⟩
    | @handed value hhanded =>
      obtain ⟨rfl, rfl⟩ := List.cons.inj (hrows.symm.trans hhanded)
      obtain ⟨acts, hrow, hleads⟩ := handle_leads way next value survey
      rcases hhandle : way.handle value survey with ⟨outcome, done⟩
      rw [hhandle] at hrow hleads
      cases outcome with
      | error f => exact ⟨_, follows_stopped hnext hhanded hrow hleads hhandle⟩
      | ok counts =>
        obtain ⟨course, hcourse⟩ := ih next done rfl
        exact ⟨_, follows_handled hnext hhanded hrow hleads hhandle hcourse⟩

/-- What a course of reading the rows of a cursor is like. -/
structure Reads (way : Ingestion Notes γ) (scene : Scene Notes) (course : Course Notes γ) : Prop where
  /-- A row is handled before the next one is reached. -/
  proceeds : Proceeds course.acts course.reading
  /-- Each act happens in the scene that the one before it left. -/
  leads : way.Leads course.acts scene course.left
  /-- No other acts could be told instead. -/
  only : ∀ acts reading left, Proceeds acts reading → way.Leads acts scene left → acts = course.acts
  matched : Matched course.acts
  reached : course.reached <+: scene.cursor.rows
  /-- If reading succeeds, no act failed, all rows were reached, and those that count were counted. -/
  counted : ∀ count, course.reading = .ok count → (∀ act ∈ course.acts, act.failure? = none) ∧
    course.reached = scene.cursor.rows ∧ count = (course.acts.filterMap Act.accepted?).length
  /-- If it fails, the first act that failed was the last one. It found what the acts before it left, and what it left
  itself is left. -/
  stopped : ∀ f, course.reading = .error f → ∃ earlier act between, course.acts = earlier ++ [act] ∧
    act.failure? = some f ∧ (∀ act ∈ earlier, act.failure? = none) ∧ way.Leads earlier scene between ∧
    way.Happens act between course.left

/-- A course by which rows are ingested is like that. -/
theorem Follows.reads {scene : Scene Notes} (h : way.Follows scene course) : way.Reads scene course where
  proceeds := h.proceeds
  leads := h.leads
  only acts reading left hproceeds hleads := proceeds_unique hproceeds hleads h.proceeds h.leads
  matched := h.proceeds.matched
  reached := h.reached
  counted count hreading :=
    have hsucceeds := h.proceeds.succeeds hreading
    ⟨hsucceeds.1, h.complete count hreading, hsucceeds.2⟩
  stopped f hreading := by
    obtain ⟨earlier, act, hacts, hfails, hearlier⟩ := h.proceeds.stops hreading
    have hleads := h.leads
    rw [hacts] at hleads
    obtain ⟨between, hfirst, left, hhappens, rfl⟩ := hleads.split
    exact ⟨earlier, act, between, hacts, hfails, hearlier, hfirst, hhappens⟩

end Ingestion

/-! ## What is told -/

/-- A failure that is raised anew is still the same in family, text and cause, whatever was being handled. -/
structure StaysItself (f raised : Failure) : Prop where
  family : raised.family? = f.family?
  message : raised.message = f.message
  cause : raised.cause = f.cause

/-- A failure that takes another's place does. -/
theorem staysItself_during (f earlier : Failure) : StaysItself f (f.during earlier) := by
  unfold Failure.during
  split <;> exact ⟨rfl, rfl, rfl⟩

/-- What is told of a failure of reading the children of a node: a failure of discovery is told as it is, any other as
the cause of one. -/
inductive Tells (node : Node) (what : String) : Failure → Failure → Prop where
  | unchanged {f} : f.isDiscovery = true → Tells node what f f
  | caused {f} : f.isDiscovery = false →
    Tells node what f (.becauseOf .discovery s!"Failed to read {what} of {node.title}: {f.message}" f)

/-- What an ingestion comes to, by what reading and closing came to. -/
inductive Concludes (node : Node) (what : String) :
    Except Failure Nat → Except Failure Unit → Except Failure Nat → Prop where
  | returned {count} : Concludes node what (.ok count) (.ok ()) (.ok count)
  | failed {f told} : Tells node what f told → Concludes node what (.error f) (.ok ()) (.error told)
  | unclosed {count f told} : Tells node what f told → Concludes node what (.ok count) (.error f) (.error told)
  | replaced {earlier f raised told} : StaysItself f raised → raised = f.during earlier → Tells node what raised told →
    Concludes node what (.error earlier) (.error f) (.error told)

section

variable {atlas : Atlas} {parent : NodeId} {node : Node}

/-- A failure of reading the children of a node is told so. -/
theorem tells_unreadable (hnode : atlas.node? parent = some node) (what : String) (f : Failure) :
    Tells node what f (unreadable atlas parent what f) := by
  cases hdiscovery : f.isDiscovery with
  | true =>
    rw [unreadable, if_pos hdiscovery]
    exact .unchanged hdiscovery
  | false =>
    simp only [unreadable, hdiscovery, hnode, Bool.false_eq_true, if_false]
    exact .caused hdiscovery

/-- What closing a cursor leaves of what reading it came to is told so. -/
theorem concludes_closing (hnode : atlas.node? parent = some node) (what : String) (cursor : Cursor)
    (reading : Except Failure Nat) : Concludes node what reading cursor.close.1
      ((closing cursor.listing.closeFailure reading).mapError (unreadable atlas parent what)) := by
  rw [Cursor.listing]
  cases cursor.close.1 with
  | ok _ =>
    cases reading with
    | ok count => exact .returned
    | error f => exact .failed (tells_unreadable hnode what f)
  | error f =>
    cases reading with
    | ok count => exact .unclosed (tells_unreadable hnode what f)
    | error earlier => exact .replaced (staysItself_during f earlier) rfl (tells_unreadable hnode what _)

end

/-! ## Ingesting -/

/-- A node of the atlas stays one. -/
def StaysNode (id : NodeId) (before after : Survey Notes) : Prop :=
  id < before.atlas.nodes.size → id < after.atlas.nodes.size

instance (id : NodeId) : IsPreorder (Survey Notes) (StaysNode id) where
  refl _ h := h
  trans _ _ _ hfirst hsecond h := hsecond (hfirst h)

/-- Steps that are quiet keep every node. -/
theorem Ingestion.Keeps.staysNode {way : Ingestion Notes γ} (h : way.Keeps Quiet) (id : NodeId) :
    way.Keeps (StaysNode id) where
  accepts row survey hid := Nat.lt_of_lt_of_le hid (h.accepts row survey).grows.size
  child row survey hid := Nat.lt_of_lt_of_le hid (h.child row survey).grows.size
  fill child row survey hid := Nat.lt_of_lt_of_le hid (h.fill child row survey).grows.size

/-- An ingestion of a cursor, by the course of reading it. Then the cursor is closed, which runs its hook once, and all
else stays as the acts left it. -/
structure Conducted (call : Call) (parent : NodeId) (what : String) (way : Ingestion Notes γ) (cursor : Cursor)
    (before : Survey Notes) (course : Course Notes γ) (outcome : Except Failure Nat) (after : Survey Notes) :
    Prop where
  reads : way.Reads ⟨cursor, opened call before⟩ course
  kept : after = Survey.closed call course.left.survey
  closed : course.left.cursor.close.2.closed = true
  hook : course.left.cursor.close.2.hookRuns = cursor.hookRuns + (!cursor.closed && cursor.hook.isSome).toNat
  concludes : ∃ node, after.atlas.node? parent = some node ∧
    Concludes node what course.reading course.left.cursor.close.1 outcome

/-- An ingestion: a source that refuses leaves nothing to do, and a cursor is ingested. -/
structure Conducts (source : Source) (call : Call) (parent : NodeId) (what : String) (way : Ingestion Notes γ)
    (before : Survey Notes) (outcome : Except Failure Nat) (after : Survey Notes) : Prop where
  refused : ∀ f, source (Event.calls before.events) call = .error f → after = called call before ∧
    ∃ node told, after.atlas.node? parent = some node ∧ Tells node what f told ∧ outcome = .error told
  read : ∀ cursor : Cursor, source (Event.calls before.events) call = .ok cursor.listing →
    ∃ course, Conducted call parent what way cursor before course outcome after

/-- A cursor is ingested by consuming its listing. -/
theorem conducted_consume {source : Source} {call : Call} {parent : NodeId} (what : String) {way : Ingestion Notes γ}
    {before : Survey Notes} {cursor : Cursor} (hanswer : source (Event.calls before.events) call = .ok cursor.listing)
    (hparent : parent < before.atlas.nodes.size) (hway : way.Keeps (StaysNode parent)) :
    ∃ course, Conducted call parent what way cursor before course (ingest source call parent what way before).1
      (ingest source call parent what way before).2 := by
  obtain ⟨course, hcourse⟩ := way.exists_follows cursor (opened call before)
  have hrows : way.rows 0 cursor.listing.rows (opened call before) = (course.reading, course.left.survey) := by
    rw [show cursor.listing.rows = cursor.rows from rfl, hcourse.rows 0]
    cases course.reading <;> simp [Except.map]
  have hstays := hway.rows 0 cursor.listing.rows (opened call before) hparent
  rw [hrows] at hstays
  obtain ⟨node, hnode⟩ := Atlas.exists_of_lt hstays
  have hclose := Cursor.close_pending cursor course.left.cursor.pending
  rw [← hcourse.leads.cursor] at hclose
  rw [ingest_apply, consume_accepted hanswer, hrows]
  refine ⟨course, hcourse.reads, rfl, Cursor.closed_close _, ?_, node, hnode, ?_⟩
  · rw [hclose, ← Cursor.hookRuns_close]
  · rw [hclose]
    exact concludes_closing hnode what cursor course.reading

/-- Ingestions are conducted so, whatever is done with the rows, provided the parent stays a node. -/
theorem ingest_conducted (source : Source) (call : Call) {parent : NodeId} (what : String) {way : Ingestion Notes γ}
    {before : Survey Notes} (hparent : parent < before.atlas.nodes.size) (hway : way.Keeps (StaysNode parent)) :
    Conducts source call parent what way before (ingest source call parent what way before).1
      (ingest source call parent what way before).2 where
  refused f hanswer := by
    obtain ⟨node, hnode⟩ := Atlas.exists_of_lt hparent
    rw [ingest_apply, consume_refused hanswer]
    exact ⟨rfl, node, _, hnode, tells_unreadable hnode what f, rfl⟩
  read _ hanswer := conducted_consume what hanswer hparent hway

/-- Indexes of a table are ingested so from a cursor that loses its connection behind a row that counts and one that
does not, and that cannot be closed either. What is told is that it cannot be closed. -/
theorem ingest_conducted_indexes :
    let index (name : Value) : Row := .ok (.record [("INDEX_NAME", name), ("NON_UNIQUE", .bool true),
      ("COLUMN_NAME", .text "total"), ("ORDINAL_POSITION", .int 1), ("ASC_OR_DESC", .text "A")])
    let cursor : Cursor := {
      pending := [index (.text "by_total"), index .null, .error (Failure.faultText .runtime "lost"), index .null]
      hook := some (.error (Failure.plain .discovery "not released")) }
    let source : Source := fun _ _ => .ok cursor.listing
    let call : Call := .part .indexes none none (some "orders")
    let way := Crawl.rowsOf { vendor := .generic, source } 0 .indexes
    let before : Survey Crawl.Notes := {
      atlas := (Atlas.create {} { name := some "orders", content := .table }).1, notes := {} }
    let result := ingest source call 0 "indexes" way before
    0 < before.atlas.nodes.size ∧ way.Keeps (StaysNode 0) ∧
      Conducts source call 0 "indexes" way before result.1 result.2 ∧
      (result.1.mapError fun told => (told.message, told.isDiscovery)) = .error ("not released", true) ∧
      result.2.atlas.collection 0 .index = [1] ∧ result.2.atlas.nameOf 1 = some "by_total" ∧
      result.2.events = [.called call, .opened call, .closed call] := by
  intro index cursor source call way before result
  have hparent : 0 < before.atlas.nodes.size := by decide
  have hway : way.Keeps (StaysNode 0) := (Crawl.keeps_rowsOf allows_quiet.builds _ 0 .indexes).staysNode 0
  exact ⟨hparent, hway, ingest_conducted source call "indexes" hparent hway,
    by clear hparent hway; decide +revert +kernel⟩

end Survey

end SchemaAtlas
