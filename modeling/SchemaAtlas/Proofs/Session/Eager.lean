import Mathlib.Data.List.Forall2
import SchemaAtlas.Proofs.Session.Progress

/-!
# What a query that runs at once comes to

What a query comes to is told here from the next answer of a pool: the first failure of its connection, its rows and
its mapper, the failure that decides where closing fails as well, and how that one surfaces. A statement that the guard
rejects leaves the pool alone. Any other asks for one connection, and closes it once, behind the last row that was
mapped.
-/

namespace SchemaAtlas

/-- The answer that a pool gives next. -/
def Pool.next (pool : Pool) : Except Failure Connection :=
  pool.waiting.headD (.error Pool.empty)

/-- Asking a pool uses its next answer up. -/
theorem Pool.acquire_eq (pool : Pool) : Pool.supplier.acquire pool =
    (pool.next.map Link.fresh, { pool with waiting := pool.waiting.tail, acquired := pool.acquired + 1 }) := by
  obtain ⟨waiting, links, acquired, log⟩ := pool
  match waiting with
  | [] => rfl
  | .error f :: rest => rfl
  | .ok c :: rest => rfl

namespace Query

variable {map : List Value → Except Failure Value}

/-! ## What reading comes to -/

/-- What mapping returned rows comes to, and which rows are mapped: all of them in their order, or those before the
first that cannot be reached, or those up to the first that cannot be mapped. -/
inductive Maps (map : List Value → Except Failure Value) :
    List (Except Failure (List Value)) → List (List Value) → Except Failure (List Value) → Prop where
  | complete {rows values} : List.Forall₂ (fun row v => map row = .ok v) rows values →
      Maps map (rows.map .ok) rows (.ok values)
  | broken {rows values f rest} : List.Forall₂ (fun row v => map row = .ok v) rows values →
      Maps map (rows.map .ok ++ .error f :: rest) rows (.error f)
  | unmapped {rows values row f rest} : List.Forall₂ (fun row v => map row = .ok v) rows values →
      map row = .error f → Maps map (rows.map .ok ++ .ok row :: rest) (rows ++ [row]) (.error f)

/-- A row that is mapped goes in front of the rows behind it. -/
theorem Maps.cons {row : List Value} {v : Value} {returned : List (Except Failure (List Value))}
    {rows : List (List Value)} {outcome : Except Failure (List Value)} (hrow : map row = .ok v)
    (h : Maps map returned rows outcome) :
    Maps map (.ok row :: returned) (row :: rows) (outcome.map (v :: ·)) := by
  cases h with
  | complete hrows => exact .complete (.cons hrow hrows)
  | broken hrows => exact .broken (.cons hrow hrows)
  | unmapped hrows hlast => exact .unmapped (.cons hrow hrows) hlast

/-- Returned rows are mapped so. -/
theorem maps_mapRows (map : List Value → Except Failure Value) (returned : List (Except Failure (List Value))) :
    Maps map returned (mappedRows map returned) (mapRows map returned) := by
  induction returned with
  | nil => exact .complete .nil
  | cons first returned ih =>
    cases first with
    | error f => exact .broken .nil
    | ok row =>
      rw [mapRows, mappedRows]
      cases hrow : map row with
      | error f => exact .unmapped .nil hrow
      | ok v =>
        have hcons := ih.cons hrow
        have houtcome : (mapRows map returned).map (v :: ·) =
            (do let more ← mapRows map returned; .ok (v :: more) : Except Failure (List Value)) := by
          cases mapRows map returned <;> rfl
        rwa [houtcome] at hcons

/-- How a connection replies to the first statement that is run on it: it may have no reply, or refuse. -/
def firstReply (c : Connection) : Except Failure Reply :=
  match c.script with
  | [] => .error Link.scriptExhausted
  | .refused f :: _ => .error f
  | reply :: _ => .ok reply

/-- What reading on a connection comes to, and which rows are mapped: running the statement fails, or the rows of the
reply are mapped. -/
inductive Gathers (map : List Value → Except Failure Value) (c : Connection) :
    List (List Value) → Except Failure (List Value) → Prop where
  | failed {f} : firstReply c = .error f → Gathers map c [] (.error f)
  | replied {reply rows outcome} : firstReply c = .ok reply → Maps map reply.returned rows outcome →
      Gathers map c rows outcome

/-- A statement that is run on a fresh connection gets its first reply. -/
theorem execute_fresh (query : Query) (c : Connection) :
    ∃ pending, (Link.fresh c).execute query.statement (.positional query.parameters) =
      (firstReply c, { Link.fresh c with pending, actions := [.run query.execution] }) := by
  refine ⟨c.script.tail, ?_⟩
  rw [Link.fresh, Link.execute, firstReply]
  cases c.script with
  | nil => rfl
  | cons reply rest => cases reply <;> rfl

/-- Reading on a fresh connection comes to what its script tells. The statement is run, and nothing else is done. -/
theorem read_gathers (query : Query) (map : List Value → Except Failure Value) (c : Connection) :
    ∃ rows, Gathers map c rows (query.read map (.fresh c)).1 ∧ (query.read map (.fresh c)).2.connection = c ∧
      (query.read map (.fresh c)).2.actions = [.run query.execution] ∧
      query.chapter map (.fresh c) = .ran query.execution :: rows.map .mapped ++ [.closed] := by
  obtain ⟨pending, hexecute⟩ := execute_fresh query c
  rw [read_eq, chapter, hexecute]
  cases hreply : firstReply c with
  | error f => exact ⟨[], .failed hreply, rfl, rfl, rfl⟩
  | ok reply => exact ⟨_, .replied hreply (maps_mapRows map reply.returned), rfl, rfl, rfl⟩

/-! ## How failures surface -/

/-- The failure that decides how a query fails, given what reading came to and the failure of closing, and the one whose
place it takes: that of closing if there is one, which takes the place of any before it, else the first. -/
inductive Decides : Except Failure (List Value) → Option Failure → Failure → Option Failure → Prop where
  | first {f} : Decides (.error f) none f none
  | closing {values e} : Decides (.ok values) (some e) e none
  | instead {f e} : Decides (.error f) (some e) e (some f)

/-- How the failure that decides surfaces. One of the database layer becomes the cause of a failed query; any other
stays as it is, and one whose place it takes is known to be behind it. -/
inductive Surfaces (query : Query) (e : Failure) : Option Failure → Failure → Prop where
  | told {displaced} : e.isDatabase = true → Surfaces query e displaced (.becauseOf .query (query.failureText e) e)
  | bare : e.isDatabase = false → Surfaces query e none e
  | behind {first} : e.isDatabase = false → Surfaces query e (some first) (e.during first)

/-- A failure that takes the place of another one is of the database layer if it was before, and then knows of none
behind it. -/
theorem during_cases (f earlier : Failure) :
    (f.during earlier).isDatabase = f.isDatabase ∧ (f.isDatabase = true → f.during earlier = f) := by
  cases f with
  | own family text cause handling => cases handling <;> exact ⟨rfl, nofun⟩
  | _ => exact ⟨rfl, fun _ => rfl⟩

/-- Telling a failure writes to the log at most. -/
theorem tell_error (query : Query) (f : Failure) (pool : Pool) :
    ∃ log, query.tell Pool.supplier (.error f) pool =
      (.error (if f.isDatabase then .becauseOf .query (query.failureText f) f else f), { pool with log }) := by
  cases hdatabase : f.isDatabase with
  | false =>
    refine ⟨pool.log, ?_⟩
    simp [tell, hdatabase]
  | true =>
    refine ⟨pool.log ++ [⟨.error, query.failureText f⟩], ?_⟩
    simp only [tell, hdatabase, if_true]
    rfl

/-- A failure surfaces that takes the place of no other. -/
theorem surfaces_bare (query : Query) (e : Failure) :
    Surfaces query e none (if e.isDatabase then .becauseOf .query (query.failureText e) e else e) := by
  cases hdatabase : e.isDatabase with
  | false => exact .bare hdatabase
  | true => exact .told hdatabase

/-- A failure surfaces that takes the place of another one. -/
theorem surfaces_during (query : Query) (e first : Failure) :
    Surfaces query e (some first) (if (e.during first).isDatabase then
      .becauseOf .query (query.failureText (e.during first)) (e.during first) else e.during first) := by
  obtain ⟨hside, hsame⟩ := during_cases e first
  rw [hside]
  cases hdatabase : e.isDatabase with
  | false => exact .behind hdatabase
  | true =>
    rw [hsame hdatabase]
    exact .told hdatabase

/-- If a failure decides, using the connection fails, and what it fails with is told so that the one that decides
surfaces. -/
theorem Decides.surfaces {outcome : Except Failure (List Value)} {closing displaced : Option Failure} {e : Failure}
    (h : Decides outcome closing e displaced) (query : Query) :
    ∃ f, Failure.afterwards outcome (Link.outcome closing) = .error f ∧
      Surfaces query e displaced (if f.isDatabase then .becauseOf .query (query.failureText f) f else f) := by
  cases h with
  | first => exact ⟨e, rfl, surfaces_bare query e⟩
  | closing => exact ⟨e, rfl, surfaces_bare query e⟩
  | @instead first => exact ⟨e.during first, rfl, surfaces_during query e first⟩

/-- What a query comes to, given what reading came to and the failure of closing: what was read if nothing failed, else
the failure that decides. -/
structure ComesTo (query : Query) (outcome : Except Failure (List Value)) (closing : Option Failure)
    (told : Except Failure (List Value)) : Prop where
  returned : ∀ values, outcome = .ok values → closing = none → told = .ok values
  failed : ∀ e displaced, Decides outcome closing e displaced → ∃ f, told = .error f ∧ Surfaces query e displaced f

/-- So it does when it is told after closing. -/
theorem tell_afterwards (query : Query) (outcome : Except Failure (List Value)) (closing : Option Failure)
    (pool : Pool) :
    ∃ told log, query.tell Pool.supplier (Failure.afterwards outcome (Link.outcome closing)) pool =
      (told, { pool with log }) ∧ ComesTo query outcome closing told := by
  cases hafter : Failure.afterwards outcome (Link.outcome closing) with
  | ok values =>
    refine ⟨.ok values, pool.log, rfl, ?_, ?_⟩
    · intro read hread hclosing
      rw [hread, hclosing] at hafter
      exact hafter.symm
    · intro e displaced hdecides
      obtain ⟨f, hfails, -⟩ := hdecides.surfaces query
      cases hafter.symm.trans hfails
  | error f =>
    obtain ⟨log, htell⟩ := tell_error query f pool
    refine ⟨_, log, htell, ?_, ?_⟩
    · intro read hread hclosing
      rw [hread, hclosing] at hafter
      cases hafter
    · intro e displaced hdecides
      obtain ⟨g, hfails, hsurfaces⟩ := hdecides.surfaces query
      obtain rfl := Except.error.inj (hfails.symm.trans hafter)
      exact ⟨_, rfl, hsurfaces⟩

/-! ## A query -/

/-- What a query does that the guard lets pass: it asks for one connection. If it is refused one, that is the failure
that surfaces. Else it hands the connection its statement with the parameters in their order, and closes it, once,
behind the last row that was mapped; and it comes to what it read, or to the failure that decides. -/
structure RunsOnce (query : Query) (map : List Value → Except Failure Value) (before : Pool)
    (outcome : Except Failure (List Value)) (after : Pool) (moments : List Moment) : Prop where
  asked : after.acquired = before.acquired + 1 ∧ after.waiting = before.waiting.tail
  refused : ∀ f, before.next = .error f → after.links = before.links ∧ moments = [.asked] ∧
    ∃ told, outcome = .error told ∧ Surfaces query f none told
  supplied : ∀ c, before.next = .ok c → ∃ link rows read,
    after.links = before.links ++ [link] ∧ link.connection = c ∧ link.actions = [.run query.execution, .close] ∧
    Gathers map c rows read ∧ moments = .asked :: .ran query.execution :: rows.map .mapped ++ [.closed] ∧
    ComesTo query read c.closeFailure outcome

/-- A query runs once. -/
theorem run_runsOnce (query : Query) (map : List Value → Except Failure Value) (pool : Pool) :
    RunsOnce query map pool (query.run Pool.supplier map pool).1 (query.run Pool.supplier map pool).2
      (query.story Pool.supplier map pool) := by
  rw [run_apply, story, Pool.acquire_eq]
  cases hnext : pool.next with
  | error f =>
    obtain ⟨log, htell⟩ := tell_error query f
      { pool with waiting := pool.waiting.tail, acquired := pool.acquired + 1 }
    simp only [Except.map, htell]
    refine ⟨⟨rfl, rfl⟩, fun g hg => ?_, fun c hc => ?_⟩
    · obtain rfl := Except.error.inj (hnext.symm.trans hg)
      exact ⟨rfl, rfl, _, rfl, surfaces_bare query f⟩
    · rw [hnext] at hc
      cases hc
  | ok c =>
    obtain ⟨rows, hgathers, hconnection, hactions, hchapter⟩ := read_gathers query map c
    simp only [Except.map]
    generalize query.read map (.fresh c) = read at hgathers hconnection hactions
    obtain ⟨outcome, link⟩ := read
    have hrelease : release Pool.supplier link outcome
        { pool with waiting := pool.waiting.tail, acquired := pool.acquired + 1 } =
        (Failure.afterwards outcome (Link.outcome c.closeFailure), { pool with
          waiting := pool.waiting.tail, acquired := pool.acquired + 1, links := pool.links ++ [link.close.2] }) := by
      rw [← hconnection]
      rfl
    obtain ⟨told, log, htell, hcomes⟩ := tell_afterwards query outcome c.closeFailure { pool with
      waiting := pool.waiting.tail, acquired := pool.acquired + 1, links := pool.links ++ [link.close.2] }
    simp only [hrelease, htell, hchapter]
    refine ⟨⟨rfl, rfl⟩, fun g hg => ?_, fun d hd => ?_⟩
    · rw [hnext] at hg
      cases hg
    · obtain rfl := Except.ok.inj (hnext.symm.trans hd)
      refine ⟨link.close.2, rows, outcome, rfl, hconnection, ?_, hgathers, rfl, hcomes⟩
      rw [Link.actions_close, hactions]
      rfl

/-- What a query comes to for which only reading is allowed. If the guard rejects its statement, nothing is asked of the
pool. Else its steps lead from asking for a connection to what it comes to. -/
structure Executes (query : Query) (map : List Value → Except Failure Value) (before : Pool)
    (outcome : Except Failure (List Value)) (after : Pool) : Prop where
  rejected : Sql.isReading query.statement = false →
    outcome = .error (Sql.notReading query.statement) ∧ after = before
  passed : Sql.isReading query.statement = true → ∃ moments, RunsOnce query map before outcome after moments ∧
    ∀ again, Leads Pool.supplier query (fun row => .done (map row)) again ⟨.asks, before, []⟩
      ⟨.ended outcome, after, moments⟩

/-- Every query comes to that, whatever its statement, its parameters, its mapper and the pool are. -/
theorem execute_executes (query : Query) (map : List Value → Except Failure Value) (pool : Pool) :
    Executes query map pool (query.execute Pool.supplier true map pool).1
      (query.execute Pool.supplier true map pool).2 := by
  have hchecked : query.execute Pool.supplier true map pool = match Sql.checkReading query.statement with
      | .ok () => query.run Pool.supplier map pool
      | .error f => (.error f, pool) := by
    rw [execute, Keeping.bind_apply, Keeping.settle_apply, check, if_pos rfl]
    cases Sql.checkReading query.statement <;> rfl
  rw [hchecked, Sql.checkReading]
  cases hreading : Sql.isReading query.statement with
  | false => exact ⟨fun _ => ⟨rfl, rfl⟩, fun h => absurd h (by simp [hreading])⟩
  | true =>
    exact ⟨fun h => absurd h (by simp [hreading]),
      fun _ => ⟨_, run_runsOnce query map pool, fun again => run_leads pool []⟩⟩

end Query

end SchemaAtlas
