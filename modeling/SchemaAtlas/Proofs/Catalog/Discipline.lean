import SchemaAtlas.Catalog.Survey
import SchemaAtlas.Proofs.Atlas.Edits
import SchemaAtlas.Proofs.Failure.Keeping

/-!
# One cursor at a time

Listings are consumed one after the other: a call is refused, or its cursor is opened and closed before
the next call is made. What is done with the rows of a listing makes no calls; it only grows the atlas. So
a survey that consumes listings leaves no cursor open, however it ends.
-/

namespace SchemaAtlas

/-! ## Events -/

/-- Calls made one at a time: each is refused, or its cursor is opened and closed once before the next. -/
inductive OneAtATime : List Event → Prop where
  | none : OneAtATime []
  | refused {call rest} : OneAtATime rest → OneAtATime (.called call :: rest)
  | read {call rest} : OneAtATime rest → OneAtATime (.called call :: .opened call :: .closed call :: rest)

namespace OneAtATime

/-- Calls made one at a time can follow each other. -/
theorem append {first second : List Event} (hfirst : OneAtATime first) (hsecond : OneAtATime second) :
    OneAtATime (first ++ second) := by
  induction hfirst with
  | none => exact hsecond
  | refused _ ih => exact .refused ih
  | read _ ih => exact .read ih

/-- Every cursor that was opened was closed as often. -/
theorem count_closed {events : List Event} (h : OneAtATime events) (call : Call) :
    events.count (.closed call) = events.count (.opened call) := by
  induction h with
  | none => rfl
  | refused _ ih => simpa [List.count_cons] using ih
  | read _ ih => simpa [List.count_cons] using ih

/-- A call opens nothing. -/
theorem stillOpen_called (call : Call) (events : List Event) :
    Event.stillOpen (.called call :: events) = Event.stillOpen events := by
  simp [Event.stillOpen]

/-- A cursor that is opened and closed leaves as many open as there were. -/
theorem stillOpen_read (call : Call) (events : List Event) :
    Event.stillOpen (.called call :: .opened call :: .closed call :: events) = Event.stillOpen events := by
  simp [Event.stillOpen]

/-- The events up to some point of calls made one at a time leave at most one cursor open, and none when
the next call is made or nothing follows. -/
theorem stillOpen_le {first rest : List Event} (h : OneAtATime (first ++ rest)) :
    Event.stillOpen first ≤ 1 ∧
      ((rest = [] ∨ ∃ call, rest.head? = some (.called call)) → Event.stillOpen first = 0) := by
  generalize hevents : first ++ rest = events at h
  induction h generalizing first with
  | none =>
    obtain ⟨rfl, rfl⟩ := List.append_eq_nil_iff.mp hevents
    exact ⟨Nat.zero_le 1, fun _ => rfl⟩
  | @refused call behind _ ih =>
    cases first with
    | nil => exact ⟨Nat.zero_le 1, fun _ => rfl⟩
    | cons event first =>
      simp only [List.cons_append, List.cons.injEq] at hevents
      obtain ⟨rfl, hrest⟩ := hevents
      rw [stillOpen_called]
      exact ih hrest
  | @read call behind _ ih =>
    -- The point is before, within or behind the three events of the first call.
    match first, hevents with
    | [], _ => exact ⟨Nat.zero_le 1, fun _ => rfl⟩
    | [event], hevents =>
      simp only [List.cons_append, List.nil_append, List.cons.injEq] at hevents
      obtain ⟨rfl, rfl⟩ := hevents
      rw [stillOpen_called]
      exact ⟨Nat.zero_le 1, fun _ => rfl⟩
    | [event, other], hevents =>
      simp only [List.cons_append, List.nil_append, List.cons.injEq] at hevents
      obtain ⟨rfl, rfl, rfl⟩ := hevents
      exact ⟨Nat.le_refl 1, by simp⟩
    | event :: other :: last :: first, hevents =>
      simp only [List.cons_append, List.cons.injEq] at hevents
      obtain ⟨rfl, rfl, rfl, hrest⟩ := hevents
      rw [stillOpen_read]
      exact ih hrest

end OneAtATime

namespace Survey

variable {Notes α γ : Type}

/-! ## Quiet steps and orderly ones -/

/-- A quiet step makes no calls and only grows the atlas. -/
structure Quiet (before after : Survey Notes) : Prop where
  events : after.events = before.events
  grows : before.atlas.Grows after.atlas

instance : IsPreorder (Survey Notes) Quiet where
  refl _ := ⟨rfl, Std.Refl.refl _⟩
  trans _ _ _ hfirst hsecond :=
    ⟨hsecond.events.trans hfirst.events, IsTrans.trans _ _ _ hfirst.grows hsecond.grows⟩

/-- An orderly step makes its calls one at a time and only grows the atlas. -/
structure Orderly (before after : Survey Notes) : Prop where
  events : ∃ events, after.events = before.events ++ events ∧ OneAtATime events
  grows : before.atlas.Grows after.atlas

instance : IsPreorder (Survey Notes) Orderly where
  refl _ := ⟨⟨[], (List.append_nil _).symm, .none⟩, Std.Refl.refl _⟩
  trans _ _ _ hfirst hsecond := by
    obtain ⟨first, hfirstEvents, hone⟩ := hfirst.events
    obtain ⟨second, hsecondEvents, hother⟩ := hsecond.events
    refine ⟨⟨first ++ second, ?_, hone.append hother⟩, IsTrans.trans _ _ _ hfirst.grows hsecond.grows⟩
    rw [hsecondEvents, hfirstEvents, List.append_assoc]

/-- A quiet step is orderly. -/
theorem Quiet.orderly {before after : Survey Notes} (h : Quiet before after) : Orderly before after :=
  ⟨⟨[], by rw [List.append_nil, h.events], .none⟩, h.grows⟩

/-! ## What steps on rows keep -/

section

variable {R : Survey Notes → Survey Notes → Prop}

/-- Adding a child keeps what an added child keeps, also if it fails. -/
theorem keeps_add [Std.Refl R] {parent : NodeId} {kind : NodeKind}
    (h : ∀ (s : Survey Notes) result, s.atlas.add parent kind = .ok result → R s { s with atlas := result.1 }) :
    Keeping.Keeps R (add parent kind) := by
  intro s
  cases hadd : s.atlas.add parent kind with
  | error f => simp [add, Keeping.bind_apply, hadd, Std.Refl.refl]
  | ok result =>
    simp only [add, Keeping.bind_apply, Keeping.get_apply, Keeping.settle_apply, hadd,
      Keeping.modify_apply, Keeping.pure_apply]
    exact h s result hadd

/-- Setting a field keeps what a set field keeps, also if it fails. -/
theorem keeps_set [Std.Refl R] {id : NodeId} {field : String} {given : Entry}
    (h : ∀ (s : Survey Notes) atlas, s.atlas.assign id field given = .ok atlas → R s { s with atlas }) :
    Keeping.Keeps R (set id field given) := by
  intro s
  cases hassign : s.atlas.assign id field given with
  | error f => simp [set, Keeping.bind_apply, hassign, Std.Refl.refl]
  | ok atlas =>
    simp only [set, Keeping.bind_apply, Keeping.get_apply, Keeping.settle_apply, hassign,
      Keeping.modify_apply]
    exact h s atlas hassign

/-- Looking a child up keeps everything. -/
theorem keeps_childNamed [Std.Refl R] [IsTrans (Survey Notes) R] (id : NodeId) (kind : NodeKind) (name : Value) :
    Keeping.Keeps R (childNamed id kind name) := by
  refine Keeping.Keeps.get.bind ?_
  intro survey
  cases name <;> exact Keeping.Keeps.pure _

/-- What notes, added children and set fields keep. -/
structure Allows (R : Survey Notes → Survey Notes → Prop) : Prop where
  note : ∀ change, Keeping.Keeps R (note change)
  add : ∀ parent kind, Keeping.Keeps R (add parent kind)
  set : ∀ id field given, Keeping.Keeps R (set id field given)

variable [IsPreorder (Survey Notes) R]

/-- Setting a field to a field of a row keeps what setting it keeps, also if the row lacks it. -/
theorem Allows.setFrom (h : Allows R) (id : NodeId) (field : String) (row : Value) (column : String) :
    Keeping.Keeps R (setFrom id field row column) :=
  (Keeping.Keeps.settle _).bind fun _ => h.set id field _

/-- Handing rows to a step keeps what the step keeps, up to the first row that fails. -/
theorem keeps_eachRow {step : Value → Keeping (Survey Notes) Unit}
    (hstep : ∀ row, Keeping.Keeps R (step row)) (rows : List Row) :
    Keeping.Keeps R (eachRow step rows) := by
  induction rows with
  | nil => exact Keeping.Keeps.pure _
  | cons row rest ih =>
    cases row with
    | error f => exact Keeping.Keeps.throw f
    | ok row => exact (hstep row).bind fun _ => ih

/-- A way of ingesting rows whose steps keep something. -/
structure Ingestion.Keeps (R : Survey Notes → Survey Notes → Prop) (way : Ingestion Notes γ) : Prop where
  accepts : ∀ row, Keeping.Keeps R (way.accepts row)
  child : ∀ row, Keeping.Keeps R (way.child row)
  fill : ∀ child row, Keeping.Keeps R (way.fill child row)

/-- Ingesting rows keeps what the steps keep. -/
theorem Ingestion.Keeps.rows {way : Ingestion Notes γ} (h : way.Keeps R) (count : Nat) (rows : List Row) :
    Keeping.Keeps R (way.rows count rows) := by
  induction rows generalizing count with
  | nil => exact Keeping.Keeps.pure _
  | cons row rest ih =>
    cases row with
    | error f => exact Keeping.Keeps.throw f
    | ok row =>
      refine (h.accepts row).bind ?_
      intro accepted
      cases accepted with
      | false => exact ih count
      | true => exact (h.child row).bind fun child => (h.fill child row).bind fun _ => ih (count + 1)

end

/-! ## What a row that fails does -/

/-- Rows that are handed to a step fail if one of them does. -/
theorem eachRow_fails (step : Value → Keeping (Survey Notes) Unit) {rows : List Row} {f : Failure}
    (h : .error f ∈ rows) : Keeping.Fails (eachRow step rows) := by
  induction rows with
  | nil => cases h
  | cons row rest ih =>
    cases row with
    | error g => exact fun _ => ⟨g, rfl⟩
    | ok row =>
      obtain heq | hrest := List.mem_cons.mp h
      · cases heq
      · exact .bind fun _ => ih hrest

/-- So do rows that are ingested. -/
theorem Ingestion.rows_fails (way : Ingestion Notes γ) {rows : List Row} {f : Failure} (h : .error f ∈ rows)
    (count : Nat) : Keeping.Fails (way.rows count rows) := by
  induction rows generalizing count with
  | nil => cases h
  | cons row rest ih =>
    cases row with
    | error g => exact fun _ => ⟨g, rfl⟩
    | ok row =>
      obtain heq | hrest := List.mem_cons.mp h
      · cases heq
      · refine .bind fun accepted => ?_
        cases accepted with
        | false => exact ih hrest count
        | true => exact .bind fun _ => .bind fun _ => ih hrest (count + 1)

/-- Notes, added children and set fields are quiet. -/
theorem allows_quiet : Allows (@Quiet Notes) where
  note _ := Keeping.Keeps.modify fun _ => ⟨rfl, Std.Refl.refl _⟩
  add _ _ := keeps_add fun _ _ hadd => ⟨rfl, Atlas.grows_of_add hadd⟩
  set _ _ _ := keeps_set fun _ _ hassign => ⟨rfl, Atlas.grows_of_assign hassign⟩

/-! ## Listings -/

/-- The survey when a listing was called. -/
def called (call : Call) (survey : Survey Notes) : Survey Notes :=
  { survey with events := survey.events ++ [.called call] }

/-- The survey when the cursor of a listing was opened. -/
def opened (call : Call) (survey : Survey Notes) : Survey Notes :=
  { survey with events := survey.events ++ [.called call, .opened call] }

/-- The survey when the cursor of a listing was closed. -/
def closed (call : Call) (survey : Survey Notes) : Survey Notes :=
  { survey with events := survey.events ++ [.closed call] }

/-- A listing that is refused is only called. -/
theorem consume_refused {source : Source} {call : Call} {survey : Survey Notes} {f : Failure}
    (h : source (Event.calls survey.events) call = .error f)
    (body : List Row → Keeping (Survey Notes) α) :
    consume source call body survey = (.error f, called call survey) := by
  simp [consume, Keeping.bind_apply, record, h, called]

/-- What comes of a listing whose rows were read: a failure of closing takes the place of any other. -/
def closing (closeFailure : Option Failure) (outcome : Except Failure α) : Except Failure α :=
  match closeFailure, outcome with
  | none, outcome => outcome
  | some f, .ok _ => .error f
  | some f, .error earlier => .error (f.during earlier)

/-- A listing that is accepted is read with its cursor open, and its cursor is closed once, whatever came
of its rows. -/
theorem consume_accepted {source : Source} {call : Call} {survey : Survey Notes} {listing : Listing}
    (h : source (Event.calls survey.events) call = .ok listing)
    (body : List Row → Keeping (Survey Notes) α) :
    consume source call body survey =
      (closing listing.closeFailure (body listing.rows (opened call survey)).1,
        closed call (body listing.rows (opened call survey)).2) := by
  have hopened : ({ survey with events := survey.events ++ [.called call] ++ [.opened call] } : Survey Notes) =
      opened call survey := by
    rw [List.append_assoc]
    rfl
  simp only [consume, Keeping.bind_apply, record, Keeping.get_apply, Keeping.modify_apply,
    Keeping.settle_apply, Keeping.attempt_apply, h, hopened]
  cases listing.closeFailure <;> cases (body listing.rows (opened call survey)).1 <;> rfl

/-- A listing that is consumed without a failure is accepted, its rows are read and its cursor is closed. -/
theorem consume_eq_ok {source : Source} {call : Call} {body : List Row → Keeping (Survey Notes) α}
    {before after : Survey Notes} {a : α} (h : consume source call body before = (.ok a, after)) :
    ∃ rows read, source (Event.calls before.events) call = .ok { rows } ∧
      body rows (opened call before) = (.ok a, read) ∧ after = closed call read := by
  cases hanswer : source (Event.calls before.events) call with
  | error f =>
    rw [consume_refused hanswer] at h
    cases h
  | ok listing =>
    rw [consume_accepted hanswer] at h
    obtain ⟨rows, closeFailure⟩ := listing
    cases hread : body rows (opened call before) with
    | mk outcome read =>
      rw [hread] at h
      obtain ⟨houtcome, rfl⟩ := Prod.mk.inj h
      cases closeFailure <;> cases outcome <;> cases houtcome
      exact ⟨rows, read, rfl, hread, rfl⟩

/-- Ingesting a listing is consuming it, with failures told as those of reading children. -/
theorem ingest_apply (source : Source) (call : Call) (parent : NodeId) (what : String) (way : Ingestion Notes γ)
    (before : Survey Notes) : ingest source call parent what way before =
      ((consume source call (way.rows 0) before).1.mapError
        (unreadable (consume source call (way.rows 0) before).2.atlas parent what),
        (consume source call (way.rows 0) before).2) := by
  rw [ingest, Keeping.bind_apply, Keeping.attempt_apply]
  generalize consume source call (way.rows 0) before = result
  obtain ⟨outcome, after⟩ := result
  cases outcome <;> rfl

/-- Consuming a listing whose rows are handled quietly is orderly. -/
theorem orderly_consume (source : Source) (call : Call) {body : List Row → Keeping (Survey Notes) α}
    (hbody : ∀ rows, Keeping.Keeps Quiet (body rows)) : Keeping.Keeps Orderly (consume source call body) := by
  intro survey
  cases hanswer : source (Event.calls survey.events) call with
  | error f =>
    rw [consume_refused hanswer]
    exact ⟨⟨[.called call], rfl, .refused .none⟩, Std.Refl.refl _⟩
  | ok listing =>
    rw [consume_accepted hanswer]
    obtain ⟨hevents, hgrows⟩ := hbody listing.rows (opened call survey)
    refine ⟨⟨[.called call, .opened call, .closed call], ?_, .read .none⟩, hgrows⟩
    rw [closed, hevents, opened, List.append_assoc]
    rfl

/-- How a listing that is consumed fails: it is refused, its rows fail, or closing its cursor fails, which
takes the place of a failure of the rows. -/
inductive Breaks (source : Source) (call : Call) (body : List Row → Keeping (Survey Notes) α)
    (before : Survey Notes) : Failure → Prop where
  | refused {f} : source (Event.calls before.events) call = .error f → Breaks source call body before f
  | reading {listing f} : source (Event.calls before.events) call = .ok listing →
      (body listing.rows (opened call before)).1 = .error f → listing.closeFailure = none →
      Breaks source call body before f
  | closing {listing f a} : source (Event.calls before.events) call = .ok listing →
      (body listing.rows (opened call before)).1 = .ok a → listing.closeFailure = some f →
      Breaks source call body before f
  | replaced {listing f earlier} : source (Event.calls before.events) call = .ok listing →
      (body listing.rows (opened call before)).1 = .error earlier → listing.closeFailure = some f →
      Breaks source call body before (f.during earlier)

/-- A listing that is consumed fails in one of these ways. -/
theorem breaks_of_consume {source : Source} {call : Call} {body : List Row → Keeping (Survey Notes) α}
    {before : Survey Notes} {f : Failure} (h : (consume source call body before).1 = .error f) :
    Breaks source call body before f := by
  cases hanswer : source (Event.calls before.events) call with
  | error g =>
    rw [consume_refused hanswer] at h
    obtain rfl : g = f := Except.error.inj h
    exact .refused hanswer
  | ok listing =>
    rw [consume_accepted hanswer] at h
    cases hclose : listing.closeFailure with
    | none =>
      rw [hclose] at h
      exact .reading hanswer h hclose
    | some g =>
      cases hbody : (body listing.rows (opened call before)).1 with
      | ok a =>
        obtain rfl : g = f := by simpa [hclose, hbody, Survey.closing] using h
        exact .closing hanswer hbody hclose
      | error earlier =>
        obtain rfl : g.during earlier = f := by simpa [hclose, hbody, Survey.closing] using h
        exact .replaced hanswer hbody hclose

end Survey

end SchemaAtlas
