import SchemaAtlas.Proofs.Provider.Accounts
import SchemaAtlas.Proofs.Session.Retry
import SchemaAtlas.Provider.Health

/-!
# What a check of a connection comes to

A provider that has an engine hands out what the pool of the engine answers, one answer after the other; one
that has none gets the engine that is made next. What a check comes to is told here from the answers and
from the clock.
-/

namespace SchemaAtlas

open Batch (answerAt)

/-- A pool hands out its first answer and keeps the others. -/
theorem Pool.acquire_spec (pool : Pool) :
    (acquire pool).1 = (answerAt pool.waiting 0).map Link.fresh ∧
      (acquire pool).2.waiting = pool.waiting.tail := by
  obtain ⟨_ | ⟨_ | c, rest⟩, links, acquired, log⟩ := pool <;> exact ⟨rfl, rfl⟩

/-- A failure that is neither one of this library nor one of the database layer. -/
def Failure.IsForeign (f : Failure) : Prop :=
  f.isOwn = false ∧ f.isDatabase = false

/-- What the probe of a check comes to on a connection, which is closed afterwards. -/
def Health.probed (c : Connection) : Except Failure Reply :=
  Failure.afterwards ((Link.fresh c).execute probe .text).1 (Link.outcome c.closeFailure)

namespace Provider

variable (provider : Provider)

/-! ## Connections -/

/-- The provider has an engine, whose pool has some answers left, and the clock has some times left. -/
def Engaged (answers : List (Except Failure Connection)) (clock : List Number.Binary64) (state : State) :
    Prop :=
  ∃ id pool, state.engine = some id ∧ state.world.pools[id]? = some pool ∧ pool.waiting = answers ∧
    state.world.clock = clock

/-- What a failure to get a connection is told as. -/
def toldAs (f : Failure) : Failure :=
  if f.isDatabase then .becauseOf .connectivity provider.unableText f else f

/-- A failure to get a connection that is not told as one of this library is a foreign one. -/
theorem toldAs_escapes_iff (g f : Failure) :
    provider.toldAs g = f ∧ f.isOwn = false ↔ g = f ∧ f.IsForeign := by
  cases hdatabase : g.isDatabase with
  | true =>
    simp only [toldAs, hdatabase, if_true, Failure.IsForeign]
    constructor
    · rintro ⟨rfl, hown⟩
      cases hown
    · rintro ⟨rfl, -, hno⟩
      simp [hdatabase] at hno
  | false =>
    simp only [toldAs, hdatabase, Bool.false_eq_true, if_false, Failure.IsForeign]
    constructor
    · rintro ⟨rfl, hown⟩
      exact ⟨rfl, hown, hdatabase⟩
    · rintro ⟨rfl, hown, -⟩
      exact ⟨rfl, hown⟩

/-- What a provider makes of an answer of a pool. -/
def handsOut : Except Failure Connection → Except Failure Link
  | .ok c => .ok (Link.fresh c)
  | .error f => .error (provider.toldAs f)

variable {answers : List (Except Failure Connection)} {clock : List Number.Binary64}

/-- A provider that has an engine goes on with it. -/
theorem connect_engaged {state : State} {id : EngineId} (h : state.engine = some id) :
    provider.connect state = (.ok id, state) := by
  rw [connect, Keeping.bind_of_ok (Keeping.get_apply state), h]
  rfl

/-- A change of its pool leaves the engine what it is. -/
theorem engaged_onPool {state : State} {id : EngineId} {pool : Pool} (hengine : state.engine = some id)
    (hpool : state.world.pools[id]? = some pool) {α : Type} (body : Keeping Pool α) :
    (onWorld (World.onPool id body) state).1 = (body pool).1 ∧
      Engaged (body pool).2.waiting state.world.clock (onWorld (World.onPool id body) state).2 := by
  have hget : state.world.pools.getD id { waiting := [] } = pool := by
    rw [List.getD_eq_getElem?_getD, hpool]
    rfl
  have hbound : id < state.world.pools.length := (List.getElem?_eq_some_iff.mp hpool).1
  simp only [onWorld, World.onPool, Keeping.onPart_apply, hget]
  exact ⟨trivial, id, (body pool).2, hengine, by simp [hbound], rfl, rfl⟩

/-- A provider that has an engine hands out the first answer of its pool. -/
theorem acquire_engaged {state : State} (h : Engaged answers clock state) :
    (provider.acquire state).1 = provider.handsOut (answerAt answers 0) ∧
      Engaged answers.tail clock (provider.acquire state).2 := by
  obtain ⟨id, pool, hengine, hpool, rfl, rfl⟩ := h
  obtain ⟨hfirst, hwaiting⟩ := Pool.acquire_spec pool
  obtain ⟨houtcome, hengaged⟩ := engaged_onPool hengine hpool Pool.acquire
  rw [hfirst] at houtcome
  rw [hwaiting] at hengaged
  rw [acquire, Keeping.bind_of_ok (provider.connect_engaged hengine),
    Keeping.bind_of_ok (Keeping.attempt_apply _ state)]
  generalize onWorld (World.onPool id Pool.acquire) state = result at houtcome hengaged
  obtain ⟨outcome, after⟩ := result
  simp only at houtcome hengaged
  subst houtcome
  cases hanswer : answerAt pool.waiting 0 with
  | ok c => exact ⟨rfl, hengaged⟩
  | error f =>
    simp only [Except.map]
    cases hdatabase : f.isDatabase with
    | false => simp [handsOut, toldAs, hdatabase, hengaged]
    | true =>
      have hlogged : Engaged pool.waiting.tail state.world.clock
          (onWorld (World.write [⟨.error, provider.unableText⟩]) after).2 := hengaged
      refine ⟨?_, hlogged⟩
      simp only [handsOut, toldAs, hdatabase, if_true]
      rfl

/-- A provider that has no engine gets the next one; where that cannot be made, there is no connection. -/
theorem acquire_refused (world : World) {f : Failure} (h : world.engines.headD (.ok []) = .error f) :
    (provider.acquire { world }).1 = .error (provider.engineFailed f) ∧
      (provider.acquire { world }).2.world.clock = world.clock := by
  rw [acquire, Keeping.bind_apply, connect, Keeping.bind_of_ok (Keeping.get_apply _)]
  simp only
  rw [Keeping.bind_of_ok (Keeping.attempt_apply _ _)]
  simp only [onWorld, Keeping.onPart_apply, World.makeEngine, h]
  exact ⟨rfl, rfl⟩

/-- Where it can be made, the provider goes on with it. -/
theorem acquire_engine (world : World) (h : world.engines.headD (.ok []) = .ok answers) :
    ∃ engaged, Engaged answers world.clock engaged ∧
      provider.acquire { world } = provider.acquire engaged := by
  obtain ⟨engaged, hconnect, hengaged⟩ : ∃ engaged, provider.connect { world } =
      (.ok world.pools.length, engaged) ∧ engaged.engine = some world.pools.length ∧
        engaged.world.pools[world.pools.length]? = some { waiting := answers } ∧
        engaged.world.clock = world.clock := by
    rw [connect, Keeping.bind_of_ok (Keeping.get_apply _)]
    simp only
    rw [Keeping.bind_of_ok (Keeping.attempt_apply _ _)]
    simp only [onWorld, Keeping.onPart_apply, World.makeEngine, h]
    exact ⟨_, rfl, rfl, by simp, rfl⟩
  obtain ⟨hengine, hpool, hclock⟩ := hengaged
  refine ⟨engaged, ⟨_, _, hengine, hpool, rfl, hclock⟩, ?_⟩
  rw [acquire, Keeping.bind_of_ok hconnect, Keeping.bind_of_ok (provider.connect_engaged hengine)]

/-- Handing a connection back changes neither the answers nor the clock. -/
theorem giveBack_engaged {state : State} (h : Engaged answers clock state) (link : Link) :
    (giveBack link state).1 = .ok () ∧ Engaged answers clock (giveBack link state).2 := by
  obtain ⟨id, pool, hengine, hpool, rfl, rfl⟩ := h
  rw [giveBack, Keeping.bind_of_ok (Keeping.get_apply state), hengine]
  exact engaged_onPool hengine hpool (Pool.supplier.giveBack link)

/-! ## Checks -/

/-- The provider once the time was read. -/
def ticked (state : State) : State :=
  { state with world := { state.world with clock := state.world.clock.tail } }

/-- Reading the time gives the first one that the clock shows. -/
theorem time_apply (state : State) :
    onWorld World.time state = (.ok (state.world.clock.headD .zero), ticked state) := by
  obtain ⟨⟨engines, _ | ⟨t, rest⟩, requested, pools, disposed, log⟩, engine⟩ := state <;> rfl

/-- The time between the first two readings of a clock. -/
def elapsed (clock : List Number.Binary64) : Number.Binary64 :=
  (clock.tail.headD .zero).sub (clock.headD .zero)

/-- What a check tells, given what using a connection for the probe came to. -/
def healthOf (clock : List Number.Binary64) : Except Failure Reply → Except Failure Health
  | .ok _ => .ok (.ofOutcome provider.label none (elapsed clock))
  | .error f =>
    if Health.tells f then .ok (.ofOutcome provider.label (some f) (elapsed clock)) else .error f

/-- The use of a connection for the probe of a check. -/
def probing : Keeping State Reply :=
  provider.supplier.withLink fun link => link.execute Health.probe .text

/-- A check is a probe between two readings of the clock. -/
theorem health_of_probing {state after : State} {outcome : Except Failure Reply}
    (h : provider.probing (ticked state) = (outcome, after))
    (hclock : after.world.clock = state.world.clock.tail) :
    provider.health state = match provider.healthOf state.world.clock outcome with
      | .ok health => (.ok health, ticked after)
      | .error f => (.error f, after) := by
  have hattempt : Keeping.attempt (provider.supplier.withLink fun link => link.execute Health.probe .text)
      (ticked state) = (.ok outcome, after) := by
    rw [Keeping.attempt_apply, ← probing, h]
  have hfinish := time_apply after
  rw [hclock] at hfinish
  rw [health, Keeping.bind_of_ok (time_apply state), Keeping.bind_of_ok hattempt]
  cases outcome with
  | ok reply => simp only [Keeping.bind_apply, Keeping.pure_apply, hfinish, healthOf, elapsed]
  | error f =>
    cases htells : Health.tells f with
    | true => simp only [Keeping.bind_apply, Keeping.pure_apply, hfinish, healthOf, elapsed, htells, if_true]
    | false =>
      simp only [Keeping.bind_apply, Keeping.throw_apply, healthOf, htells, Bool.false_eq_true, if_false]

/-- What using a connection for a probe comes to, given the answer that stands for the connection. -/
def probedOn : Except Failure Connection → Except Failure Reply
  | .ok c => Health.probed c
  | .error f => .error (provider.toldAs f)

/-- A provider that has an engine probes the first answer of its pool. -/
theorem probing_engaged {state : State} (h : Engaged answers clock state) :
    (provider.probing state).1 = provider.probedOn (answerAt answers 0) ∧
      Engaged answers.tail clock (provider.probing state).2 := by
  obtain ⟨houtcome, hengaged⟩ := provider.acquire_engaged h
  have hacquire : provider.supplier.acquire state = provider.acquire state := rfl
  rw [probing, Supplier.withLink, Keeping.bind_apply, hacquire]
  generalize provider.acquire state = result at houtcome hengaged
  obtain ⟨outcome, between⟩ := result
  simp only at houtcome hengaged
  subst houtcome
  cases answerAt answers 0 with
  | error f => exact ⟨rfl, hengaged⟩
  | ok c =>
    have hconnection := ((Link.fresh c).execute_kept Health.probe .text).1
    simp only [handsOut, probedOn]
    generalize hused : (Link.fresh c).execute Health.probe .text = used at hconnection
    obtain ⟨reply, link⟩ := used
    obtain ⟨hback, hreturned⟩ := giveBack_engaged hengaged link.close.2
    have hgiveBack : provider.supplier.giveBack link.close.2 between =
        (.ok (), (giveBack link.close.2 between).2) := Prod.ext hback rfl
    simp only
    rw [Keeping.bind_of_ok hgiveBack, Keeping.settle_apply]
    refine ⟨?_, hreturned⟩
    have hclosing : link.close.1 = Link.outcome c.closeFailure :=
      congrArg (fun d : Connection => Link.outcome d.closeFailure) hconnection
    rw [Health.probed, hused, hclosing]

/-- What the probe of a database comes to whose engine is made next. -/
def probedFirst : Except Failure (List (Except Failure Connection)) → Except Failure Reply
  | .error f => .error (provider.engineFailed f)
  | .ok answers => provider.probedOn (answerAt answers 0)

/-- What the check of a database comes to whose engine is made next. -/
def checked (engine : Except Failure (List (Except Failure Connection))) (clock : List Number.Binary64) :
    Except Failure Health :=
  provider.healthOf clock (provider.probedFirst engine)

/-- A check by a provider without an engine takes the next engine, and leaves the answers behind the first
for later. -/
theorem health_spec (world : World) :
    (provider.health { world }).1 = provider.checked (world.engines.headD (.ok [])) world.clock ∧
      ∀ answers, world.engines.headD (.ok []) = .ok answers →
        ∃ clock, Engaged answers.tail clock (provider.health { world }).2 := by
  have hafter {outcome : Except Failure Reply} {after : State}
      (h : provider.probing (ticked { world }) = (outcome, after))
      (hclock : after.world.clock = world.clock.tail) :
      (provider.health { world }).1 = provider.healthOf world.clock outcome ∧
        ∀ answers, Engaged answers world.clock.tail after →
          ∃ clock, Engaged answers clock (provider.health { world }).2 := by
    rw [provider.health_of_probing h hclock]
    cases provider.healthOf world.clock outcome with
    | error f => exact ⟨rfl, fun answers hengaged => ⟨_, hengaged⟩⟩
    | ok health =>
      refine ⟨rfl, ?_⟩
      rintro answers ⟨id, pool, hengine, hpool, hwaiting, -⟩
      exact ⟨_, id, pool, hengine, hpool, hwaiting, rfl⟩
  cases hengine : world.engines.headD (.ok []) with
  | error f =>
    obtain ⟨hrefused, hclock⟩ :=
      provider.acquire_refused { world with clock := world.clock.tail } hengine
    have hprobing : provider.probing (ticked { world }) =
        (.error (provider.engineFailed f), (provider.acquire (ticked { world })).2) :=
      Keeping.bind_of_error (Prod.ext hrefused rfl) _
    exact ⟨(hafter hprobing hclock).1, nofun⟩
  | ok answers =>
    obtain ⟨engaged, hengaged, hsame⟩ :=
      provider.acquire_engine { world with clock := world.clock.tail } hengine
    obtain ⟨houtcome, hleft⟩ := provider.probing_engaged hengaged
    have hprobing : provider.probing (ticked { world }) = provider.probing engaged := by
      have hacquire : provider.supplier.acquire (ticked { world }) = provider.supplier.acquire engaged := hsame
      rw [probing, Supplier.withLink, Keeping.bind_apply, Keeping.bind_apply, hacquire]
    obtain ⟨-, -, -, -, -, hclock⟩ := id hleft
    obtain ⟨hhealth, hlater⟩ := hafter (hprobing.trans (Prod.ext houtcome rfl)) hclock
    refine ⟨hhealth, ?_⟩
    rintro _ ⟨⟩
    exact hlater _ hleft

/-- A check raises the foreign failures of the probe, and none that the database layer knows of. -/
theorem healthOf_escapes_iff (outcome : Except Failure Reply) (f : Failure) :
    provider.healthOf clock outcome = .error f ∧ f.isOwn = false ↔ outcome = .error f ∧ f.IsForeign := by
  cases outcome with
  | ok reply => simp [healthOf]
  | error g =>
    have htells (hown : g.isOwn = false) : Health.tells g = g.isDatabase := by
      cases g <;> first | rfl | cases hown
    simp only [healthOf, Except.error.injEq, Failure.IsForeign]
    constructor
    · rintro ⟨hfails, hown⟩
      split at hfails
      · cases hfails
      · rename_i hno
        obtain rfl := Except.error.inj hfails
        exact ⟨rfl, hown, by simpa [htells hown] using hno⟩
    · rintro ⟨rfl, hown, hdatabase⟩
      simp [htells hown, hdatabase, hown]

/-- What escapes a check: a foreign failure of getting the first connection, or one of the probe on it. -/
theorem checked_escapes_iff (engine : Except Failure (List (Except Failure Connection))) (f : Failure) :
    provider.checked engine clock = .error f ∧ f.isOwn = false ↔
      ∃ answers, engine = .ok answers ∧ f.IsForeign ∧
        (answerAt answers 0 = .error f ∨ ∃ c, answerAt answers 0 = .ok c ∧ Health.probed c = .error f) := by
  rw [checked, healthOf_escapes_iff]
  cases engine with
  | error g =>
    simp only [probedFirst, Except.error.injEq, reduceCtorEq, false_and, exists_false, iff_false]
    rintro ⟨rfl, hown, -⟩
    cases hown
  | ok answers =>
    simp only [probedFirst, Except.ok.injEq, exists_eq_left']
    cases answerAt answers 0 with
    | ok c => simp [probedOn, and_comm]
    | error g =>
      have htold := provider.toldAs_escapes_iff g f
      simp only [probedOn, Except.error.injEq, reduceCtorEq, false_and, exists_false, or_false]
      constructor
      · rintro ⟨hg, hforeign⟩
        exact ⟨hforeign, (htold.mp ⟨hg, hforeign.1⟩).1⟩
      · rintro ⟨hforeign, hg⟩
        exact ⟨(htold.mpr ⟨hg, hforeign⟩).1, hforeign⟩

/-- A database passes a check: a connection can be had, the probe on it succeeds, and that did not take too
long. -/
def Passes (engine : Except Failure (List (Except Failure Connection))) (clock : List Number.Binary64) : Prop :=
  ∃ answers c reply, engine = .ok answers ∧ answerAt answers 0 = .ok c ∧ Health.probed c = .ok reply ∧
    ((elapsed clock).scale 1000).exceeds Health.limit = false

/-- A check that raises nothing tells of a success exactly if the database passes it. -/
theorem checked_success_iff {engine : Except Failure (List (Except Failure Connection))} {health : Health}
    (h : provider.checked engine clock = .ok health) : health.status = .success ↔ Passes engine clock := by
  have hrefused {g : Failure} (hg : provider.healthOf clock (.error g) = .ok health) :
      health.status ≠ .success := by
    simp only [healthOf] at hg
    split at hg
    · obtain rfl := Except.ok.inj hg
      simp [Health.ofOutcome]
    · cases hg
  cases engine with
  | error g => simp [Passes, hrefused h]
  | ok answers =>
    cases hanswer : answerAt answers 0 with
    | error g =>
      simp only [checked, probedFirst, hanswer, probedOn] at h
      simp [Passes, hanswer, hrefused h]
    | ok c =>
      simp only [checked, probedFirst, hanswer, probedOn] at h
      cases hprobed : Health.probed c with
      | error g =>
        rw [hprobed] at h
        simp [Passes, hanswer, hprobed, hrefused h]
      | ok reply =>
        rw [hprobed] at h
        obtain rfl := Except.ok.inj h
        cases hlate : ((elapsed clock).scale 1000).exceeds Health.limit <;>
          simp [Passes, hanswer, hprobed, Health.ofOutcome, hlate]

end Provider

end SchemaAtlas
