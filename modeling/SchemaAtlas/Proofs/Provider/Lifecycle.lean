import SchemaAtlas.Proofs.Provider.Accounts
import SchemaAtlas.Proofs.Provider.Probing
import SchemaAtlas.Proofs.Provider.Secrecy

/-!
# The life of a provider

A provider is asked to connect, for connections, for checks of its database, and to close, in any order, and making
an engine or getting a connection may fail at any time. The engines are made and given up one after the other: those
that were given up and the one that the provider has, if it has one, are at all times all that were made, in order.
Everything else is read off this one equation and off what a single request does to the engine.
-/

namespace SchemaAtlas

/-- The engines that were made and not given up. -/
def World.live (world : World) : List EngineId :=
  (List.range world.pools.length).filter fun id => !world.disposed.contains id

namespace Provider

/-- What a provider goes through: something is asked of it, or a context in which it was used is left. -/
inductive Event where
  | asked (operation : Operation)
  | leaves

/-- What is done then; a provider whose context is left is closed. -/
def Event.operation : Event → Operation
  | .asked operation => operation
  | .leaves => .close

/-- Whether the provider gives up its engine. -/
def Event.closes (event : Event) : Bool :=
  match event.operation with
  | .close => true
  | _ => false

/-- Goes through an event. -/
def undergo (provider : Provider) (event : Event) : Keeping State Answer :=
  provider.perform event.operation

/-- What a provider is left with after some events, in each of which something may have failed. -/
def left (provider : Provider) (state : State) (events : List Event) : State :=
  (provider.performed (events.map Event.operation) state).2

/-- The first event comes before the others. -/
theorem left_cons (provider : Provider) (state : State) (event : Event) (rest : List Event) :
    provider.left state (event :: rest) = provider.left (provider.undergo event state).2 rest := by
  rw [left, List.map_cons, performed, Keeping.bind_of_ok (Keeping.attempt_apply _ state), Keeping.bind_apply]
  change _ = (provider.performed (rest.map Event.operation) (provider.perform event.operation state).2).2
  generalize provider.performed (rest.map Event.operation) _ = result
  obtain ⟨_ | answers, last⟩ := result <;> rfl

/-- Some events come before others. -/
theorem left_append (provider : Provider) (state : State) (earlier span : List Event) :
    provider.left state (earlier ++ span) = provider.left (provider.left state earlier) span := by
  induction earlier generalizing state with
  | nil => rfl
  | cons event rest ih => rw [List.cons_append, left_cons, left_cons, ih]

variable {provider : Provider} {state : State}

/-! ## What leaves the engines -/

/-- The engines are what they were, made, to be made, asked for and given up. -/
structure Steady (before after : State) : Prop where
  engine : after.engine = before.engine
  engines : after.world.engines = before.world.engines
  requested : after.world.requested = before.world.requested
  pools : after.world.pools.length = before.world.pools.length
  disposed : after.world.disposed = before.world.disposed

instance : IsPreorder State Steady where
  refl _ := ⟨rfl, rfl, rfl, rfl, rfl⟩
  trans _ _ _ hfirst hsecond := ⟨hsecond.engine.trans hfirst.engine, hsecond.engines.trans hfirst.engines,
    hsecond.requested.trans hfirst.requested, hsecond.pools.trans hfirst.pools, hsecond.disposed.trans hfirst.disposed⟩

/-- What is done on a pool leaves the engines. -/
theorem steady_onPool {α : Type} (id : EngineId) (body : Keeping Pool α) :
    Keeping.Keeps Steady (onWorld (World.onPool id body)) :=
  fun state => ⟨rfl, rfl, rfl, by simp [onWorld, World.onPool], rfl⟩

/-- So does writing to the log. -/
theorem steady_write (entries : List LogEntry) : Keeping.Keeps Steady (onWorld (World.write entries)) :=
  fun _ => ⟨rfl, rfl, rfl, rfl, rfl⟩

/-- So does reading the time. -/
theorem steady_time : Keeping.Keeps Steady (onWorld World.time) := by
  intro state
  rw [time_apply]
  exact ⟨rfl, rfl, rfl, rfl, rfl⟩

/-- So does handing a connection back. -/
theorem steady_giveBack (link : Link) : Keeping.Keeps Steady (giveBack link) := by
  refine Keeping.Keeps.get.bind fun state => ?_
  cases state.engine with
  | none => exact .pure ()
  | some id => exact steady_onPool id _

/-- What a check does after its probe keeps whatever reading the time keeps. -/
theorem keeps_telling {R : State → State → Prop} [IsPreorder State R] (htime : Keeping.Keeps R (onWorld World.time))
    (start : Number.Binary64) (outcome : Except Failure Reply) : Keeping.Keeps R (do
      let failure ← match outcome with
        | .ok _ => pure none
        | .error f => if Health.tells f then pure (some f) else throw f
      let finish ← onWorld World.time
      pure (Health.ofOutcome provider.label failure (finish.sub start))) := by
  have hfinish (failure : Option Failure) : Keeping.Keeps R (do
      let finish ← onWorld World.time
      pure (Health.ofOutcome provider.label failure (finish.sub start))) :=
    htime.bind fun _ => .pure _
  cases outcome with
  | ok reply => exact hfinish none
  | error f =>
    simp only
    split
    · exact hfinish (some f)
    · exact .throw f

/-! ## What asks for the engine -/

/-- What becomes of the engine when it is needed: the one there is stays; else the next one is asked for, which may
fail to be made. -/
inductive Engages (provider : Provider) (before : State) : State → Prop where
  | held {after : State} (id : EngineId) (hengine : before.engine = some id) (hsteady : Steady before after) :
    Engages provider before after
  | failed {after : State} (f : Failure) (hnone : before.engine = none)
    (hnext : before.world.engines.headD (.ok []) = .error f)
    (hengine : after.engine = none)
    (hrequested : after.world.requested = before.world.requested ++ [⟨provider.address.text false, provider.options⟩])
    (hpools : after.world.pools.length = before.world.pools.length)
    (hdisposed : after.world.disposed = before.world.disposed) : Engages provider before after
  | made {after : State} (answers : List (Except Failure Connection)) (hnone : before.engine = none)
    (hnext : before.world.engines.headD (.ok []) = .ok answers)
    (hengine : after.engine = some before.world.pools.length)
    (hrequested : after.world.requested = before.world.requested ++ [⟨provider.address.text false, provider.options⟩])
    (hpools : after.world.pools.length = before.world.pools.length + 1)
    (hdisposed : after.world.disposed = before.world.disposed) : Engages provider before after

/-- What leaves the engines may happen before. -/
theorem Engages.after_steady {first before after : State} (hfirst : Steady first before)
    (h : Engages provider before after) : Engages provider first after := by
  cases h with
  | held id hengine hsteady => exact .held id (hfirst.engine ▸ hengine) (IsTrans.trans _ _ _ hfirst hsteady)
  | failed f hnone hnext hengine hrequested hpools hdisposed =>
    rw [hfirst.engine] at hnone
    rw [hfirst.engines] at hnext
    rw [hfirst.requested] at hrequested
    exact .failed f hnone hnext hengine hrequested (hpools.trans hfirst.pools) (hdisposed.trans hfirst.disposed)
  | made answers hnone hnext hengine hrequested hpools hdisposed =>
    rw [hfirst.engine] at hnone
    rw [hfirst.engines] at hnext
    rw [hfirst.requested] at hrequested
    rw [hfirst.pools] at hengine hpools
    exact .made answers hnone hnext hengine hrequested hpools (hdisposed.trans hfirst.disposed)

/-- It may happen afterwards as well. -/
theorem Engages.before_steady {before after last : State} (h : Engages provider before after)
    (hlast : Steady after last) : Engages provider before last := by
  cases h with
  | held id hengine hsteady => exact .held id hengine (IsTrans.trans _ _ _ hsteady hlast)
  | failed f hnone hnext hengine hrequested hpools hdisposed =>
    exact .failed f hnone hnext (hlast.engine.trans hengine) (hlast.requested.trans hrequested)
      (hlast.pools.trans hpools) (hlast.disposed.trans hdisposed)
  | made answers hnone hnext hengine hrequested hpools hdisposed =>
    exact .made answers hnone hnext (hlast.engine.trans hengine) (hlast.requested.trans hrequested)
      (hlast.pools.trans hpools) (hlast.disposed.trans hdisposed)

/-- A sequence asks for the engine if its first part does and its second part leaves it. -/
theorem engages_bind {α β : Type} {body : Keeping State α} {next : α → Keeping State β}
    (h : Engages provider state (body state).2) (hnext : ∀ a, Keeping.Keeps Steady (next a)) :
    Engages provider state ((body >>= next) state).2 := by
  rw [Keeping.bind_apply]
  generalize body state = result at h
  obtain ⟨_ | a, between⟩ := result
  · exact h
  · exact h.before_steady (hnext a between)

/-- A sequence asks for the engine if its second part does and its first part leaves it and succeeds. -/
theorem engages_behind {α β : Type} {body : Keeping State α} {next : α → Keeping State β} {a : α} {between : State}
    (hbody : body state = (.ok a, between)) (hsteady : Steady state between)
    (h : Engages provider between (next a between).2) : Engages provider state ((body >>= next) state).2 := by
  rw [Keeping.bind_of_ok hbody]
  exact h.after_steady hsteady

/-- Connecting asks for the engine. -/
theorem engages_connect (provider : Provider) (state : State) :
    Engages provider state (provider.connect state).2 := by
  cases hengine : state.engine with
  | some id =>
    rw [provider.connect_engaged hengine]
    exact .held id hengine (Std.Refl.refl state)
  | none =>
    rw [connect, Keeping.bind_of_ok (Keeping.get_apply state), hengine]
    simp only
    rw [Keeping.bind_of_ok (Keeping.attempt_apply _ state)]
    cases hnext : state.world.engines.headD (.ok []) with
    | error f =>
      simp only [onWorld, Keeping.onPart_apply, World.makeEngine, hnext]
      exact .failed f hengine hnext hengine rfl rfl rfl
    | ok answers =>
      simp only [onWorld, Keeping.onPart_apply, World.makeEngine, hnext]
      have hpools : (state.world.pools ++ [({ waiting := answers } : Pool)]).length = state.world.pools.length + 1 :=
        List.length_append
      exact .made answers hengine hnext rfl rfl hpools rfl

/-- So does getting a connection, whatever comes of that. -/
theorem engages_acquire (provider : Provider) (state : State) :
    Engages provider state (provider.acquire state).2 := by
  refine engages_bind (provider.engages_connect state) fun id => ?_
  refine (steady_onPool id Pool.acquire).attempt.bind fun answer => ?_
  cases answer with
  | ok link => exact .pure link
  | error f =>
    simp only
    split
    · exact (steady_write _).bind fun _ => .throw _
    · exact .throw f

/-- So does using one, which is handed back afterwards. -/
theorem engages_withLink {α : Type} (provider : Provider) (use : Link → Except Failure α × Link) (state : State) :
    Engages provider state (provider.supplier.withLink use state).2 :=
  engages_bind (provider.engages_acquire state) fun _ => (steady_giveBack _).bind fun _ => .settle _

/-- So does a check. -/
theorem engages_health (provider : Provider) (state : State) : Engages provider state (provider.health state).2 := by
  have htime : Steady state (ticked state) := ⟨rfl, rfl, rfl, rfl, rfl⟩
  refine engages_behind (time_apply state) htime ?_
  have hprobing : Engages provider (ticked state) (Keeping.attempt provider.probing (ticked state)).2 := by
    rw [Keeping.attempt_apply]
    exact provider.engages_withLink _ (ticked state)
  exact engages_bind hprobing fun outcome => keeps_telling steady_time _ outcome

/-- So does everything but closing. -/
theorem engages_undergo (provider : Provider) {event : Event} (hopen : event.closes = false) (state : State) :
    Engages provider state (provider.undergo event state).2 := by
  cases event with
  | asked operation =>
    cases operation with
    | connect => exact engages_bind (provider.engages_connect state) fun _ => .pure _
    | acquire => exact engages_bind (provider.engages_acquire state) fun _ => .pure _
    | check => exact engages_bind (provider.engages_health state) fun _ => .pure _
    | close => cases hopen
  | leaves => cases hopen

/-! ## Closing -/

/-- Closing gives up the engine, if there is one, and nothing else. -/
structure GivesUp (before after : State) : Prop where
  engine : after.engine = none
  requested : after.world.requested = before.world.requested
  pools : after.world.pools = before.world.pools
  disposed : after.world.disposed = before.world.disposed ++ before.engine.toList

/-- A provider that closes succeeds and gives up its engine. -/
theorem givesUp_undergo (provider : Provider) {event : Event} (hcloses : event.closes = true) (state : State) :
    (provider.undergo event state).1 = .ok .done ∧ GivesUp state (provider.undergo event state).2 := by
  have hclose : (provider.perform .close state).1 = .ok .done ∧ GivesUp state (provider.perform .close state).2 := by
    rw [perform, Keeping.bind_apply, close, Keeping.bind_of_ok (Keeping.get_apply state)]
    cases hengine : state.engine with
    | none => exact ⟨rfl, hengine, rfl, rfl, by simp [hengine]⟩
    | some id => exact ⟨rfl, rfl, rfl, rfl, by rw [hengine]; rfl⟩
  cases event with
  | asked operation =>
    cases operation with
    | connect | acquire | check => cases hcloses
    | close => exact hclose
  | leaves => exact hclose

/-! ## Whole lives -/

/-- The engines that were given up and the one that there is, if there is one, are those that were made, in order. -/
def Orderly (state : State) : Prop :=
  state.world.disposed ++ state.engine.toList = List.range state.world.pools.length

/-- Every event keeps the engines in order. -/
theorem orderly_undergo (provider : Provider) (event : Event) {state : State} (h : Orderly state) :
    Orderly (provider.undergo event state).2 := by
  unfold Orderly at h ⊢
  cases hcloses : event.closes with
  | true =>
    obtain ⟨-, hengine, -, hpools, hdisposed⟩ := provider.givesUp_undergo hcloses state
    rw [hengine, hpools, hdisposed, Option.toList_none, List.append_nil, h]
  | false =>
    cases provider.engages_undergo hcloses state with
    | held id hengine hsteady => rw [hsteady.disposed, hsteady.engine, hsteady.pools, h]
    | failed f hnone hnext hengine hrequested hpools hdisposed => rw [hdisposed, hengine, hpools, ← hnone, h]
    | made answers hnone hnext hengine hrequested hpools hdisposed =>
      rw [hnone, Option.toList_none, List.append_nil] at h
      rw [hdisposed, hengine, hpools, h, List.range_succ, Option.toList_some]

/-- So do events one after the other. -/
theorem orderly_left (provider : Provider) {state : State} (h : Orderly state) (events : List Event) :
    Orderly (provider.left state events) := by
  induction events generalizing state with
  | nil => exact h
  | cons event rest ih =>
    rw [left_cons]
    exact ih (provider.orderly_undergo event h)

/-- Without closing, no engine is given up. -/
theorem disposed_left (provider : Provider) (state : State) {events : List Event}
    (hopen : ∀ event ∈ events, event.closes = false) :
    (provider.left state events).world.disposed = state.world.disposed := by
  induction events generalizing state with
  | nil => rfl
  | cons event rest ih =>
    obtain ⟨hfirst, hrest⟩ := List.forall_mem_cons.mp hopen
    rw [left_cons, ih _ hrest]
    cases provider.engages_undergo hfirst state with
    | held id hengine hsteady => exact hsteady.disposed
    | failed f hnone hnext hengine hrequested hpools hdisposed => exact hdisposed
    | made answers hnone hnext hengine hrequested hpools hdisposed => exact hdisposed

/-- The engines that were made are those that were given up and the one that there is. -/
theorem Orderly.pools (h : Orderly state) :
    state.world.pools.length = state.world.disposed.length + state.engine.toList.length := by
  rw [← List.length_append, h, List.length_range]

/-- No engine is given up twice, and the one that there is was not given up. -/
theorem Orderly.nodup (h : Orderly state) : (state.world.disposed ++ state.engine.toList).Nodup :=
  h ▸ List.nodup_range

/-- Of the engines that were made, just the one that there is was not given up. -/
theorem Orderly.live (h : Orderly state) : state.world.live = state.engine.toList := by
  have hapart := (List.nodup_append.mp h.nodup).2.2
  rw [World.live, ← h, List.filter_append]
  have hgone : state.world.disposed.filter (fun id => !state.world.disposed.contains id) = [] := by simp
  have hhad : state.engine.toList.filter (fun id => !state.world.disposed.contains id) = state.engine.toList := by
    refine List.filter_eq_self.mpr fun id hid => ?_
    have hkept : id ∉ state.world.disposed := fun hgiven => hapart id hgiven id hid rfl
    simpa using hkept
  rw [hgone, hhad, List.nil_append]

/-- What needs an engine that cannot be made raises a failure to connect, of which a check only tells. -/
structure FailsToEngage (provider : Provider) (state : State) (f : Failure) : Prop where
  connect : (provider.connect state).1 = .error (provider.engineFailed f)
  acquire : (provider.acquire state).1 = .error (provider.engineFailed f)
  check : ∃ health, (provider.health state).1 = .ok health ∧ health.status = .failed ∧
    health.error = some (Health.errorText (provider.engineFailed f))
  family : (provider.engineFailed f).family? = some .connectivity

/-- An engine that cannot be made is told as a failure to connect. -/
theorem failsToEngage (provider : Provider) {f : Failure} (hnone : state.engine = none)
    (hnext : state.world.engines.headD (.ok []) = .error f) : FailsToEngage provider state f := by
  obtain ⟨world, engine⟩ := state
  obtain rfl : engine = none := hnone
  constructor
  case connect =>
    rw [connect, Keeping.bind_of_ok (Keeping.get_apply _)]
    simp only
    rw [Keeping.bind_of_ok (Keeping.attempt_apply _ _)]
    simp only [onWorld, Keeping.onPart_apply, World.makeEngine, hnext]
    rfl
  case acquire => exact (provider.acquire_refused world hnext).1
  case check =>
    obtain ⟨hhealth, -⟩ := provider.health_spec world
    rw [hnext] at hhealth
    exact ⟨_, hhealth, rfl, rfl⟩
  case family => rfl

/-- A check closes the connection that it is given. -/
theorem accounts_check (provider : Provider) : Keeping.Keeps Accounts (provider.undergo (.asked .check)) := by
  have htime : Keeping.Keeps Accounts (onWorld World.time) := by
    intro state
    rw [time_apply]
    exact .of_same rfl rfl
  have hprobing : Keeping.Keeps Accounts provider.probing := by
    refine Supplier.keeps_withLink provider.keeps_supplier _ fun c => ?_
    obtain ⟨hconnection, hactions⟩ := (Link.fresh c).execute_kept Health.probe .text
    refine spent_close hconnection ?_
    rw [hactions]
    simp [Link.fresh]
  refine Keeping.Keeps.bind (htime.bind fun start => hprobing.attempt.bind fun outcome => ?_) fun _ => .pure _
  exact keeps_telling htime start outcome

/-- What holds of a provider after some events, and of the next one. -/
structure Lives (provider : Provider) (world : World) (events : List Event) (state : State) : Prop where
  /-- Just the engine that the provider has, if it has one, was made and not given up, so that there is at most one
  such engine. -/
  live : state.world.live = state.engine.toList ∧ state.world.live.length ≤ 1 ∧
    (state.world.live.length = 1 ↔ state.engine.isSome)
  /-- No engine is given up twice, and none that was not made. -/
  disposed : state.world.disposed.Nodup ∧ ∀ id ∈ state.world.disposed, id < state.world.pools.length
  /-- Without closing, at most one engine is made. -/
  between : ∀ earlier span later, events = earlier ++ span ++ later →
    (∀ event ∈ span, event.closes = false) →
      (provider.left { world } (earlier ++ span)).world.pools.length ≤
        (provider.left { world } earlier).world.pools.length + 1
  /-- An engine that cannot be made is told as a failure to connect. The provider is left without one, and whatever
  needs one asks for it: each time it is asked for while there is none, and never while there is one. -/
  failed : ∀ f, state.engine = none → state.world.engines.headD (.ok []) = .error f →
    FailsToEngage provider state f ∧
      ∀ event, event.closes = false → (provider.undergo event state).2.engine = none
  asks : ∀ event, event.closes = false → (provider.undergo event state).2.world.requested =
    state.world.requested ++ if state.engine.isSome then [] else [⟨provider.address.text false, provider.options⟩]
  /-- Whatever comes of an event other than closing, the engine that there is is kept, and so is one that is
  made for it. -/
  kept : ∀ event, event.closes = false →
    (∀ id, state.engine = some id → (provider.undergo event state).2.engine = some id) ∧
      ∀ answers, state.engine = none → state.world.engines.headD (.ok []) = .ok answers →
        (provider.undergo event state).2.engine = some state.world.pools.length
  /-- Every connection that a check is given has been closed once when it ends, however it does. -/
  checked : state.world.Accounts (provider.undergo (.asked .check) state).2.world

/-- Providers live so, whatever is asked of them and whatever fails. -/
theorem lives_left (provider : Provider) {world : World} (hpools : world.pools = [])
    (hdisposed : world.disposed = []) (events : List Event) :
    Lives provider world events (provider.left { world } events) := by
  have hstart : Orderly { world } := by simp [Orderly, hpools, hdisposed]
  have horderly := provider.orderly_left hstart
  constructor
  case live =>
    rw [(horderly events).live]
    exact ⟨rfl, Option.length_toList_le, by cases (provider.left { world } events).engine <;> simp⟩
  case disposed =>
    refine ⟨(List.nodup_append.mp (horderly events).nodup).1, fun id hid => ?_⟩
    rw [← List.mem_range, ← horderly events]
    exact List.mem_append_left _ hid
  case between =>
    intro earlier span later _ hopen
    have hspan := provider.left_append { world } earlier span
    have hlast := (horderly (earlier ++ span)).pools
    have hfirst := (horderly earlier).pools
    have hatMost : (provider.left { world } (earlier ++ span)).engine.toList.length ≤ 1 :=
      Option.length_toList_le
    rw [hspan, provider.disposed_left _ hopen, ← hspan] at hlast
    omega
  case failed =>
    intro f hnone hnext
    refine ⟨provider.failsToEngage hnone hnext, fun event hopen => ?_⟩
    cases provider.engages_undergo hopen (provider.left { world } events) with
    | held id hengine hsteady => cases hnone.symm.trans hengine
    | failed f hnone hnext hengine hrequested hpools hdisposed => exact hengine
    | made answers hnone hmade hengine hrequested hpools hdisposed => cases hnext.symm.trans hmade
  case asks =>
    intro event hopen
    cases provider.engages_undergo hopen (provider.left { world } events) with
    | held id hengine hsteady => simp [hsteady.requested, hengine]
    | failed f hnone hnext hengine hrequested hpools hdisposed => simp [hrequested, hnone]
    | made answers hnone hnext hengine hrequested hpools hdisposed => simp [hrequested, hnone]
  case kept =>
    intro event hopen
    cases provider.engages_undergo hopen (provider.left { world } events) with
    | held id hengine hsteady =>
      refine ⟨fun _ hid => hsteady.engine.trans hid, fun _ hnone => ?_⟩
      cases hnone.symm.trans hengine
    | failed f hnone hnext hengine hrequested hpools hdisposed =>
      refine ⟨fun id hid => ?_, fun answers _ hmade => ?_⟩
      · cases hnone.symm.trans hid
      · cases hnext.symm.trans hmade
    | made answers hnone hnext hengine hrequested hpools hdisposed =>
      refine ⟨fun id hid => ?_, fun _ _ _ => hengine⟩
      cases hnone.symm.trans hid
  case checked => exact provider.accounts_check _

/-- A world in which the first engine cannot be made, the second one refuses a connection before it gives one on which
the probe is refused, and the third one gives connections. -/
def shaky : World :=
  let failure : Failure := .database "OperationalError" "no access" [] []
  { engines :=
      [.error failure, .ok [.error failure, .ok { script := [.refused failure] }],
        .ok [.ok { script := [.rows [] (.int 0)] }]] }

/-- There, the engine is asked for again once it could not be made, it is kept through the refusals, and another one is
made after it was closed. -/
theorem lives_left_shaky :
    let provider : Provider := { label := "shop", address := { scheme := "sqlite" } }
    let events : List Event :=
      [.asked .connect, .asked .acquire, .asked .check, .asked .close, .leaves, .asked .check]
    let last := provider.left { world := shaky } events
    (shaky.pools = [] ∧ shaky.disposed = [] ∧ Lives provider shaky events last) ∧
      last.engine = some 1 ∧ last.world.disposed = [0] ∧ last.world.requested.length = 3 ∧
      last.world.pools.map (fun pool => pool.links.map Link.actions) =
        [[[.run ⟨Health.probe, .text⟩, .close]], [[.run ⟨Health.probe, .text⟩, .close]]] := by
  refine ⟨⟨rfl, rfl, lives_left _ rfl rfl _⟩, ?_⟩
  simp only [left_cons]
  exact ⟨rfl, rfl, rfl, rfl⟩

end Provider

end SchemaAtlas
