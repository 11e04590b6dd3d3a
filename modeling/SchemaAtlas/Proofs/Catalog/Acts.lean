import SchemaAtlas.Catalog.Cursor
import SchemaAtlas.Catalog.Survey

/-!
# The acts of an ingestion

An ingestion asks a cursor for one row after the other. A row that it gets is judged; if it counts, its child is made
and then filled. These acts are told here one by one, each with what came of it: what an act does to the cursor and to
the survey, and in which order acts come. What judging, making and filling do is not restricted: they may change the
survey in any way, and fail at any row.
-/

namespace SchemaAtlas

/-! ## What a cursor hands out -/

/-- Whether a failure says that there are no rows left. -/
def Failure.saysExhausted : Failure → Bool
  | .fault .exhausted _ => true
  | _ => false

/-- Whether a row fails by saying that there are none left. -/
def Row.saysExhausted : Row → Bool
  | .ok _ => false
  | .error f => f.saysExhausted

namespace Cursor

/-- The rows that a cursor has yet to hand out. One that says that there are none left is the end of them. -/
def rows (cursor : Cursor) : List Row :=
  if cursor.closed then [] else cursor.pending.takeWhile fun row => !row.saysExhausted

/-- What a source lists that answers a call with a cursor. -/
def listing (cursor : Cursor) : Listing where
  rows := cursor.rows
  closeFailure := match cursor.close.1 with
    | .ok () => none
    | .error f => some f

/-- What a cursor answers that is asked for a row, and what it leaves: nothing if there are no rows left, the failure
of the next row, or the next row. -/
inductive Hands (cursor next : Cursor) : Row → Prop where
  | exhausted {f} : f.saysExhausted = true → cursor.rows = [] → Hands cursor next (.error f)
  | failed {f} : f.saysExhausted = false → cursor.rows.head? = some (.error f) → Hands cursor next (.error f)
  | handed {row} : cursor.rows = .ok row :: next.rows → Hands cursor next (.ok row)

variable {cursor next : Cursor} {row : Row}

/-- A cursor that is asked for a row answers in one of these ways. -/
theorem hands_of_next (h : cursor.next = (row, next)) : Hands cursor next row := by
  obtain ⟨pending, closed, hook, hookRuns⟩ := cursor
  cases closed with
  | true =>
    obtain ⟨rfl, -⟩ := Prod.mk.inj h
    exact .exhausted rfl rfl
  | false =>
    match pending with
    | [] =>
      obtain ⟨rfl, -⟩ := Prod.mk.inj h
      exact .exhausted rfl rfl
    | .ok value :: rest =>
      obtain ⟨rfl, rfl⟩ := Prod.mk.inj h
      exact .handed rfl
    | .error f :: rest =>
      obtain ⟨rfl, -⟩ := Prod.mk.inj h
      cases hexhausted : f.saysExhausted with
      | true => exact .exhausted hexhausted (by simp [rows, Row.saysExhausted, hexhausted])
      | false => exact .failed hexhausted (by simp [rows, Row.saysExhausted, hexhausted])

/-- Asking for a row changes nothing but the rows to come. -/
theorem eq_of_next (h : cursor.next = (row, next)) : next = { cursor with pending := next.pending } := by
  unfold Cursor.next at h
  split at h
  · rw [← (Prod.mk.inj h).2]
  · split at h <;> rw [← (Prod.mk.inj h).2]

/-- Closing a cursor does not depend on the rows to come. -/
theorem close_pending (cursor : Cursor) (pending : List Row) :
    { cursor with pending }.close = (cursor.close.1, { cursor.close.2 with pending }) := by
  obtain ⟨_, closed, hook, _⟩ := cursor
  cases closed <;> cases hook <;> rfl

/-- Closing a cursor runs its hook if it has one, and if it was not closed before. -/
theorem hookRuns_close (cursor : Cursor) :
    cursor.close.2.hookRuns = cursor.hookRuns + (!cursor.closed && cursor.hook.isSome).toNat := by
  obtain ⟨_, closed, hook, _⟩ := cursor
  cases closed <;> cases hook <;> rfl

end Cursor

namespace Survey

variable {Notes γ : Type}

/-! ## Acts and their order -/

/-- An act of an ingestion, with what came of it: the cursor is asked for a row, a row is judged, its child is made,
or the child is filled from the row. -/
inductive Act (γ : Type) where
  | reach (row : Row)
  | judge (row : Value) (verdict : Except Failure Bool)
  | make (row : Value) (child : Except Failure γ)
  | fill (child : γ) (row : Value) (outcome : Except Failure Unit)

namespace Act

/-- The row that an act reached. -/
def reached? : Act γ → Option Value
  | .reach (.ok row) => some row
  | _ => none

/-- The row that an act judged. -/
def judged? : Act γ → Option Value
  | .judge row _ => some row
  | _ => none

/-- The row that an act found to count. -/
def accepted? : Act γ → Option Value
  | .judge row (.ok true) => some row
  | _ => none

/-- The row for which an act asked for a child. -/
def asked? : Act γ → Option Value
  | .make row _ => some row
  | _ => none

/-- The child that an act made, with its row. -/
def made? : Act γ → Option (γ × Value)
  | .make row (.ok child) => some (child, row)
  | _ => none

/-- The child that an act filled, with the row it was filled from. -/
def filled? : Act γ → Option (γ × Value)
  | .fill child row _ => some (child, row)
  | _ => none

/-- How an act failed. That there are no rows left is no failure. -/
def failure? : Act γ → Option Failure
  | .reach (.error f) => if f.saysExhausted then none else some f
  | .judge _ (.error f) => some f
  | .make _ (.error f) => some f
  | .fill _ _ (.error f) => some f
  | _ => none

end Act

/-- The acts on a row that was reached, and whether it counts. They end with the first one that fails. -/
inductive Handles (row : Value) : List (Act γ) → Except Failure Bool → Prop where
  | unjudged {f} : Handles row [.judge row (.error f)] (.error f)
  | skipped : Handles row [.judge row (.ok false)] (.ok false)
  | unmade {f} : Handles row [.judge row (.ok true), .make row (.error f)] (.error f)
  | unfilled {child f} :
    Handles row [.judge row (.ok true), .make row (.ok child), .fill child row (.error f)] (.error f)
  | counted {child} :
    Handles row [.judge row (.ok true), .make row (.ok child), .fill child row (.ok ())] (.ok true)

/-- The acts by which rows are read, and the number of rows that count. A row is handled before the next one is
reached. The acts end when there are no rows left, or with the first one that fails. -/
inductive Proceeds : List (Act γ) → Except Failure Nat → Prop where
  | ended {f} : f.saysExhausted = true → Proceeds [.reach (.error f)] (.ok 0)
  | unreached {f} : f.saysExhausted = false → Proceeds [.reach (.error f)] (.error f)
  | stopped {row acts f} : Handles row acts (.error f) → Proceeds (.reach (.ok row) :: acts) (.error f)
  | handled {row acts counts rest reading} : Handles row acts (.ok counts) → Proceeds rest reading →
    Proceeds (.reach (.ok row) :: (acts ++ rest)) (reading.map (· + counts.toNat))

variable {row : Value} {acts first rest : List (Act γ)} {outcome : Except Failure Bool} {reading : Except Failure Nat}

/-- The first act asks the cursor for a row. -/
theorem Proceeds.reaches (h : Proceeds acts reading) : ∃ answer rest, acts = .reach answer :: rest := by
  cases h <;> exact ⟨_, _, rfl⟩

/-- Nothing follows if there is none. -/
theorem Proceeds.of_error {f : Failure} (h : Proceeds (.reach (.error f) :: rest) reading) : rest = [] := by
  cases h <;> rfl

/-- Otherwise the row is handled, and if it can be, the next one is reached. -/
theorem Proceeds.of_ok (h : Proceeds (.reach (.ok row) :: rest) reading) : (∃ f, Handles row rest (.error f)) ∨
    ∃ acts counts more further, rest = acts ++ more ∧ Handles row acts (.ok counts) ∧ Proceeds more further := by
  cases h with
  | stopped hrow => exact .inl ⟨_, hrow⟩
  | handled hrow hmore => exact .inr ⟨_, _, _, _, rfl, hrow, hmore⟩

/-- Acts that match: the rows judged are those reached, the rows for which a child is asked are those that count, and
the children filled are those made, each from its row, all of them once and in the same order. -/
structure Matched (acts : List (Act γ)) : Prop where
  judged : acts.filterMap Act.judged? = acts.filterMap Act.reached?
  asked : acts.filterMap Act.asked? = acts.filterMap Act.accepted?
  filled : acts.filterMap Act.filled? = acts.filterMap Act.made?

/-- Acts that match go on matching. -/
theorem Matched.append (hfirst : Matched first) (hrest : Matched rest) : Matched (first ++ rest) where
  judged := by rw [List.filterMap_append, List.filterMap_append, hfirst.judged, hrest.judged]
  asked := by rw [List.filterMap_append, List.filterMap_append, hfirst.asked, hrest.asked]
  filled := by rw [List.filterMap_append, List.filterMap_append, hfirst.filled, hrest.filled]

/-- The acts on a row match, with the act that reached it. -/
theorem Handles.matched (h : Handles row acts outcome) : Matched (.reach (.ok row) :: acts) := by
  cases h <;> exact ⟨rfl, rfl, rfl⟩

/-- The acts by which rows are read match. -/
theorem Proceeds.matched (h : Proceeds acts reading) : Matched acts := by
  induction h with
  | ended _ => exact ⟨rfl, rfl, rfl⟩
  | unreached _ => exact ⟨rfl, rfl, rfl⟩
  | stopped hrow => exact hrow.matched
  | handled hrow _ ih => exact hrow.matched.append ih

/-- The acts on a row reach no other. -/
theorem Handles.reached (h : Handles row acts outcome) : acts.filterMap Act.reached? = [] := by
  cases h <;> rfl

/-- Acts stop with the first one that fails. -/
def StopsWith (f : Failure) (acts : List (Act γ)) : Prop :=
  ∃ earlier act, acts = earlier ++ [act] ∧ act.failure? = some f ∧ ∀ act ∈ earlier, act.failure? = none

/-- So they do behind acts that do not fail. -/
theorem StopsWith.behind {f : Failure} (h : StopsWith f rest) (hfirst : ∀ act ∈ first, act.failure? = none) :
    StopsWith f (first ++ rest) := by
  obtain ⟨earlier, act, rfl, hfails, hearlier⟩ := h
  refine ⟨first ++ earlier, act, (List.append_assoc _ _ _).symm, hfails, ?_⟩
  exact fun other hother => (List.mem_append.mp hother).elim (hfirst other) (hearlier other)

/-- A row that was reached is no failure. -/
theorem Act.failure?_reach_ok (row : Value) : ∀ act ∈ ([.reach (.ok row)] : List (Act γ)), act.failure? = none := by
  simp [failure?]

/-- A row that cannot be handled stops the acts on it. -/
theorem Handles.stops {f : Failure} (h : Handles row acts (.error f)) : StopsWith f acts := by
  cases h with
  | unjudged => exact ⟨[], _, rfl, rfl, by simp⟩
  | unmade => exact ⟨[.judge row (.ok true)], _, rfl, rfl, by simp [Act.failure?]⟩
  | @unfilled child =>
    exact ⟨[.judge row (.ok true), .make row (.ok child)], _, rfl, rfl, by simp [Act.failure?]⟩

/-- No act on a row that is handled fails, and it is found to count if it does. -/
theorem Handles.succeeds {counts : Bool} (h : Handles row acts (.ok counts)) :
    (∀ act ∈ acts, act.failure? = none) ∧ (acts.filterMap Act.accepted?).length = counts.toNat := by
  cases h <;> exact ⟨by simp [Act.failure?], rfl⟩

/-- Reading that fails stops with the first act that does. -/
theorem Proceeds.stops {f : Failure} (h : Proceeds acts reading) (hreading : reading = .error f) :
    StopsWith f acts := by
  induction h with
  | ended _ => cases hreading
  | unreached hexhausted =>
    cases hreading
    exact ⟨[], _, rfl, by simp [Act.failure?, hexhausted], by simp⟩
  | @stopped row _ _ hrow =>
    cases hreading
    exact hrow.stops.behind (Act.failure?_reach_ok row)
  | @handled row acts counts rest reading hrow _ ih =>
    cases reading with
    | ok count => cases hreading
    | error g =>
      cases hreading
      exact ((ih rfl).behind hrow.succeeds.1).behind (Act.failure?_reach_ok row)

/-- Reading that succeeds has no act that fails, and comes to the number of rows that were found to count. -/
theorem Proceeds.succeeds {count : Nat} (h : Proceeds acts reading) (hreading : reading = .ok count) :
    (∀ act ∈ acts, act.failure? = none) ∧ count = (acts.filterMap Act.accepted?).length := by
  induction h generalizing count with
  | ended hexhausted =>
    cases hreading
    exact ⟨by simp [Act.failure?, hexhausted], rfl⟩
  | unreached _ => cases hreading
  | stopped _ => cases hreading
  | @handled row acts counts rest reading hrow _ ih =>
    cases reading with
    | error g => cases hreading
    | ok further =>
      cases hreading
      obtain ⟨hnone, haccepted⟩ := hrow.succeeds
      obtain ⟨hrest, hfurther⟩ := ih rfl
      refine ⟨?_, ?_⟩
      · simp only [List.mem_cons, List.mem_append]
        rintro act (rfl | hact | hact)
        · rfl
        · exact hnone act hact
        · exact hrest act hact
      · rw [List.filterMap_cons_none rfl, List.filterMap_append, List.length_append, haccepted, hfurther, Nat.add_comm]

/-! ## What acts do -/

/-- A cursor, and the survey that its rows are ingested into. -/
structure Scene (Notes : Type) where
  cursor : Cursor
  survey : Survey Notes

namespace Ingestion

variable {way : Ingestion Notes γ} {before between after final : Scene Notes} {others : List (Act γ)}

/-- An act happens: what comes of it is what the cursor answers, or what is done with the survey comes to, and the
scene after it is the one that this leaves. -/
def Happens (way : Ingestion Notes γ) (act : Act γ) (before after : Scene Notes) : Prop :=
  match act with
  | .reach row => before.cursor.next.1 = row ∧ after = { before with cursor := before.cursor.next.2 }
  | .judge row verdict =>
    (way.accepts row before.survey).1 = verdict ∧ after = { before with survey := (way.accepts row before.survey).2 }
  | .make row child =>
    (way.child row before.survey).1 = child ∧ after = { before with survey := (way.child row before.survey).2 }
  | .fill child row outcome =>
    (way.fill child row before.survey).1 = outcome ∧
      after = { before with survey := (way.fill child row before.survey).2 }

section

variable (cursor : Cursor) {survey done : Survey Notes}

/-- A row is judged in the survey alone. -/
theorem happens_judge {verdict : Except Failure Bool} (h : way.accepts row survey = (verdict, done)) :
    way.Happens (.judge row verdict) ⟨cursor, survey⟩ ⟨cursor, done⟩ := by
  simp [Happens, h]

/-- So its child is made. -/
theorem happens_make {child : Except Failure γ} (h : way.child row survey = (child, done)) :
    way.Happens (.make row child) ⟨cursor, survey⟩ ⟨cursor, done⟩ := by
  simp [Happens, h]

/-- So the child is filled. -/
theorem happens_fill {child : γ} {outcome : Except Failure Unit} (h : way.fill child row survey = (outcome, done)) :
    way.Happens (.fill child row outcome) ⟨cursor, survey⟩ ⟨cursor, done⟩ := by
  simp [Happens, h]

end

/-- Acts lead from one scene to another: each of them happens in the scene that the one before it left. -/
def Leads (way : Ingestion Notes γ) : List (Act γ) → Scene Notes → Scene Notes → Prop
  | [], before, after => after = before
  | act :: rest, before, after => ∃ between, way.Happens act before between ∧ Leads way rest between after

/-- Acts lead on from where others led. -/
theorem Leads.append (hfirst : way.Leads first before between) (hrest : way.Leads rest between after) :
    way.Leads (first ++ rest) before after := by
  induction first generalizing before with
  | nil => exact (hfirst : between = before) ▸ hrest
  | cons act first ih =>
    obtain ⟨next, hhappens, hmore⟩ := hfirst
    exact ⟨next, hhappens, ih hmore⟩

/-- Acts lead somewhere by a scene between them. -/
theorem Leads.split (h : way.Leads (first ++ rest) before after) :
    ∃ between, way.Leads first before between ∧ way.Leads rest between after := by
  induction first generalizing before with
  | nil => exact ⟨before, rfl, h⟩
  | cons act first ih =>
    obtain ⟨next, hhappens, hmore⟩ := h
    obtain ⟨between, hfirst, hrest⟩ := ih hmore
    exact ⟨between, ⟨next, hhappens, hfirst⟩, hrest⟩

/-- Acts change nothing of the cursor but the rows to come. -/
theorem Leads.cursor (h : way.Leads acts before after) :
    after.cursor = { before.cursor with pending := after.cursor.pending } := by
  induction acts generalizing before with
  | nil => rw [(h : after = before)]
  | cons act acts ih =>
    obtain ⟨between, hhappens, hmore⟩ := h
    have hbetween : between.cursor = { before.cursor with pending := between.cursor.pending } := by
      cases act with
      | reach row =>
        rw [hhappens.2]
        exact Cursor.eq_of_next rfl
      | _ => rw [hhappens.2]
    rw [ih hmore, hbetween]

/-! ## The only acts

What comes of an act is settled by the scene it happens in. So no other acts than those that do happen could be told
instead of them. -/

/-- A cursor gives one answer. -/
theorem reach_unique {row other : Row} (h : way.Happens (.reach row) before after)
    (hother : way.Happens (.reach other) before final) : row = other ∧ after = final :=
  ⟨h.1.symm.trans hother.1, h.2.trans hother.2.symm⟩

/-- A row is handled by one course of acts. -/
theorem handles_unique {ending : Except Failure Bool} (h : Handles row acts outcome)
    (hleads : way.Leads acts before after) (hother : Handles row others ending)
    (hothers : way.Leads others before final) : acts = others ∧ outcome = ending ∧ after = final := by
  -- Two courses part at an act of which different things came in the same scene.
  cases h <;> cases hother <;> simp only [Leads, Happens] at hleads hothers <;> grind

/-- Rows are read by one course of acts. -/
theorem proceeds_unique {ending : Except Failure Nat} (h : Proceeds acts reading)
    (hleads : way.Leads acts before after) (hother : Proceeds others ending)
    (hothers : way.Leads others before final) : acts = others := by
  induction h generalizing before others ending with
  | ended _ | unreached _ =>
    obtain ⟨answer, tail, rfl⟩ := hother.reaches
    obtain ⟨⟨_, hreach, -⟩, _, hagain, -⟩ := And.intro hleads hothers
    obtain ⟨rfl, -⟩ := reach_unique hreach hagain
    rw [hother.of_error]
  | stopped hrow =>
    obtain ⟨answer, tail, rfl⟩ := hother.reaches
    obtain ⟨⟨_, hreach, hleads⟩, _, hagain, hothers⟩ := And.intro hleads hothers
    obtain ⟨rfl, rfl⟩ := reach_unique hreach hagain
    obtain ⟨f, hstopped⟩ | ⟨other, counts, more, further, rfl, hhandled, -⟩ := hother.of_ok
    · rw [(handles_unique hrow hleads hstopped hothers).1]
    · obtain ⟨_, hothers, -⟩ := hothers.split
      cases (handles_unique hrow hleads hhandled hothers).2.1
  | handled hrow _ ih =>
    obtain ⟨answer, tail, rfl⟩ := hother.reaches
    obtain ⟨⟨_, hreach, hleads⟩, _, hagain, hothers⟩ := And.intro hleads hothers
    obtain ⟨rfl, rfl⟩ := reach_unique hreach hagain
    obtain ⟨_, hleads, hmore⟩ := hleads.split
    obtain ⟨f, hstopped⟩ | ⟨other, counts, more, further, rfl, hhandled, hproceeds⟩ := hother.of_ok
    · cases (handles_unique hrow hleads hstopped hothers).2.1
    · obtain ⟨_, hothers, hfurther⟩ := hothers.split
      obtain ⟨rfl, -, rfl⟩ := handles_unique hrow hleads hhandled hothers
      rw [ih hmore hproceeds hfurther]

end Ingestion

end Survey

end SchemaAtlas
