import SchemaAtlas.Proofs.Session.Progress
import SchemaAtlas.Session.Deferred

/-!
# How a deferred query is streamed

A deferred query is called by whoever holds it, and by its own row mapper while it runs. Its calls form a stack: a call
that is accepted goes on top, and a call that ends hands what it came to to the mapper below, or to the holder. It is
followed here move by move. Nothing is assumed of the stack; that it never holds more than one call is proved.
-/

namespace SchemaAtlas

namespace Deferred

open Query (Stage Moment Position Goes Leads)

variable {σ : Type}

/-- Where a call leaves the query that it ran, by what it came to. -/
def left : Except Failure (List Value) → QueryState
  | .ok _ => .completed
  | .error _ => .failed

/-- Where a query stands while none of its calls runs: where the last one left it. -/
def standing (returned : List (Except Failure (List Value))) : QueryState :=
  (returned.getLast?.map left).getD .notStarted

/-- A deferred query between two moves: the supplier, where the query stands, the calls that run, the innermost first,
what the holder's calls came to, and what happened. -/
structure Scene (σ : Type) where
  supply : σ
  state : QueryState := .notStarted
  running : List Stage := []
  returned : List (Except Failure (List Value)) := []
  moments : List Moment := []

namespace Scene

/-- Hands what a call came to to the mapper that made it, or to the holder of the query. -/
def hand (outcome : Except Failure (List Value)) (scene : Scene σ) : Scene σ :=
  match scene.running with
  | .maps link rest gathered (.again next) :: below =>
    { scene with running := .maps link rest gathered (next outcome) :: below }
  | _ => { scene with returned := scene.returned ++ [outcome] }

/-- Calls the query: it refuses, or it is in flight from now on. -/
def call (deferred : Deferred) (scene : Scene σ) : Scene σ :=
  match { deferred with state := scene.state }.admits with
  | .error f => scene.hand (.error f)
  | .ok () => { scene with state := .inFlight, running := .asks :: scene.running }

/-- One step of the innermost call: its mapper calls the query again, or it ends, or it goes on. -/
def step (supplier : Supplier σ) (deferred : Deferred) (scene : Scene σ) : Scene σ :=
  match scene.running with
  | [] => scene
  | .maps _ _ _ (.again _) :: _ => scene.call deferred
  | .ended outcome :: below =>
    { scene with state := left outcome, running := below }.hand outcome
  | stage :: below =>
    -- The calls of the mapper are made above, so what they come to is not asked here.
    let next := Position.advance supplier deferred.query deferred.mapper (.ok []) ⟨stage, scene.supply, scene.moments⟩
    { scene with running := next.stage :: below, supply := next.supply, moments := next.moments }

end Scene

/-- One step, if a call runs. -/
def Steps (supplier : Supplier σ) (deferred : Deferred) (scene next : Scene σ) : Prop :=
  scene.running ≠ [] ∧ next = scene.step supplier deferred

/-- One move: a call that runs goes a step on, or the holder calls the query, which he can if none runs. -/
inductive Moves (supplier : Supplier σ) (deferred : Deferred) (scene : Scene σ) : Scene σ → Prop where
  | stepped {next} : Steps supplier deferred scene next → Moves supplier deferred scene next
  | called : scene.running = [] → Moves supplier deferred scene (scene.call deferred)

/-- What a mapper makes of a row if the query refuses its calls. -/
def refusing (deferred : Deferred) : List Value → Except Failure Value :=
  Query.mapOf deferred.mapper (.error deferred.alreadyRunning)

variable {supplier : Supplier σ} {deferred : Deferred} {supply : σ} {scene next : Scene σ}

/-! ## Calls -/

/-- A query that is not in flight accepts a call. -/
theorem call_of_idle (h : scene.state ≠ .inFlight) :
    scene.call deferred = { scene with state := .inFlight, running := .asks :: scene.running } := by
  simp [Scene.call, admits, h]

/-- A query in flight refuses a call. -/
theorem call_of_flying (h : scene.state = .inFlight) :
    scene.call deferred = scene.hand (.error deferred.alreadyRunning) := by
  simp [Scene.call, admits, h, alreadyRunning]

/-! ## The steps of one call -/

/-- A scene in which one call runs, and stands somewhere. -/
def Scene.at (scene : Scene σ) (p : Position σ) : Scene σ :=
  { scene with state := .inFlight, running := [p.stage], supply := p.supply, moments := p.moments }

/-- The scene after its only call ended. -/
def Scene.after (scene : Scene σ) (outcome : Except Failure (List Value)) (supply : σ) (moments : List Moment) :
    Scene σ :=
  { supply, state := left outcome, returned := scene.returned ++ [outcome], moments }

/-- The only call goes on as a run does whose mapper's calls are refused. -/
theorem steps_at (scene : Scene σ) {p q : Position σ}
    (h : Goes supplier deferred.query deferred.mapper (.error deferred.alreadyRunning) p q) :
    Steps supplier deferred (scene.at p) (scene.at q) := by
  obtain ⟨hended, rfl⟩ := h
  refine ⟨List.cons_ne_nil _ _, ?_⟩
  obtain ⟨stage, supply, moments⟩ := p
  cases stage with
  | maps link rest gathered mapping =>
    cases mapping with
    | done outcome => cases outcome <;> rfl
    | again next =>
      -- The mapper calls the query, which is in flight and so refuses.
      have hcall : Scene.step supplier deferred (scene.at ⟨.maps link rest gathered (.again next), supply, moments⟩) =
          (scene.at ⟨.maps link rest gathered (.again next), supply, moments⟩).call deferred := rfl
      rw [hcall, call_of_flying rfl]
      rfl
  | reaches link rest gathered =>
    match rest with
    | [] => rfl
    | .error f :: rest => rfl
    | .ok row :: rest => rfl
  | ended outcome => cases hended
  | _ => rfl

/-- The only call ends by handing what it came to to the holder. -/
theorem steps_ended (scene : Scene σ) (outcome : Except Failure (List Value)) (supply : σ) (moments : List Moment) :
    Steps supplier deferred (scene.at ⟨.ended outcome, supply, moments⟩) (scene.after outcome supply moments) :=
  ⟨List.cons_ne_nil _ _, rfl⟩

/-- A run that leads to its end is a call that ends. -/
theorem steps_of_leads (scene : Scene σ) {p : Position σ} {outcome : Except Failure (List Value)} {supply : σ}
    {moments : List Moment} (h : Leads supplier deferred.query deferred.mapper (.error deferred.alreadyRunning) p
      ⟨.ended outcome, supply, moments⟩) :
    Relation.ReflTransGen (Steps supplier deferred) (scene.at p) (scene.after outcome supply moments) :=
  (h.lift scene.at fun _ _ => steps_at scene).tail (steps_ended scene outcome supply moments)

/-! ## What every move keeps -/

/-- Either no call runs, and the query stands where the last one left it, or one does, and the query is in flight. As
long as none runs and none has ended, nothing has happened. -/
structure Sound (supply : σ) (scene : Scene σ) : Prop where
  idle : scene.running = [] → scene.state = standing scene.returned
  flying : scene.running ≠ [] → ∃ p : Position σ, scene = scene.at p
  untouched : scene.running = [] → scene.returned = [] → scene = { supply }

/-- A query of which no call runs is not in flight. -/
theorem standing_ne_inFlight (returned : List (Except Failure (List Value))) : standing returned ≠ .inFlight := by
  rw [standing]
  cases returned.getLast? with
  | none => exact nofun
  | some outcome => cases outcome <;> exact nofun

/-- A scene in which one call runs is sound. -/
theorem sound_at (supply : σ) (scene : Scene σ) (p : Position σ) : Sound supply (scene.at p) :=
  ⟨nofun, fun _ => ⟨p, rfl⟩, nofun⟩

/-- A scene after a call is sound. -/
theorem sound_after (start : σ) (scene : Scene σ) (outcome : Except Failure (List Value)) (supply : σ)
    (moments : List Moment) : Sound start (scene.after outcome supply moments) := by
  refine ⟨fun _ => ?_, fun h => absurd rfl h, fun _ hnone => ?_⟩
  · rw [Scene.after, standing, List.getLast?_concat]
    rfl
  · exact absurd (List.append_eq_nil_iff.mp hnone).2 (List.cons_ne_nil _ _)

/-- A query is in flight exactly while a call of it runs. -/
theorem Sound.inFlight_iff (h : Sound supply scene) : scene.state = .inFlight ↔ scene.running ≠ [] := by
  constructor
  · intro hflying hidle
    exact standing_ne_inFlight scene.returned ((h.idle hidle).symm.trans hflying)
  · intro hrunning
    obtain ⟨p, hp⟩ := h.flying hrunning
    rw [hp]
    rfl

/-- A query of which no call runs is not in flight. -/
theorem Sound.not_inFlight (h : Sound supply scene) (hidle : scene.running = []) : scene.state ≠ .inFlight :=
  fun hflying => h.inFlight_iff.mp hflying hidle

/-- A call that an idle query accepts runs alone. -/
theorem call_at (h : Sound supply scene) (hidle : scene.running = []) :
    scene.call deferred = scene.at ⟨.asks, scene.supply, scene.moments⟩ := by
  rw [call_of_idle (h.not_inFlight hidle), hidle]
  rfl

/-- Every move keeps a scene sound. -/
theorem Sound.move (h : Sound supply scene) (hmoves : Moves supplier deferred scene next) : Sound supply next := by
  cases hmoves with
  | called hidle =>
    rw [call_at h hidle]
    exact sound_at supply scene _
  | stepped hsteps =>
    obtain ⟨hrunning, rfl⟩ := hsteps
    obtain ⟨p, hp⟩ := h.flying hrunning
    cases hended : p.stage.hasEnded with
    | false =>
      rw [hp, ← (steps_at scene ⟨hended, rfl⟩).2]
      exact sound_at supply scene _
    | true =>
      obtain ⟨stage, supplied, moments⟩ := p
      cases stage with
      | ended outcome =>
        rw [hp, ← (steps_ended scene outcome supplied moments).2]
        exact sound_after supply scene outcome supplied moments
      | _ => cases hended

/-- So do any number of moves, from where the query was made. -/
theorem sound_of_moves (h : Relation.ReflTransGen (Moves supplier deferred) { supply } scene) :
    Sound supply scene := by
  induction h with
  | refl => exact ⟨fun _ => rfl, fun hrunning => absurd rfl hrunning, fun _ _ => rfl⟩
  | tail _ hmoves ih => exact ih.move hmoves

/-! ## Streaming as a whole -/

/-- Streaming a query in flight fails, and leaves the supplier and the query alone. -/
theorem stream_of_flying (supplier : Supplier σ) (deferred : Deferred) (h : deferred.state = .inFlight) (supply : σ) :
    deferred.stream supplier supply = (.ok (.error deferred.alreadyRunning, deferred), supply) := by
  simp [stream, admits, h]

/-- Streaming any other runs the query, the calls of its mapper being refused. -/
theorem stream_of_idle (supplier : Supplier σ) (deferred : Deferred) (h : deferred.state ≠ .inFlight) (supply : σ) :
    let result := deferred.query.run supplier deferred.refusing supply
    deferred.stream supplier supply = (.ok (result.1, { deferred with state := left result.1 }), result.2) := by
  have hmap : Deferred.mapRow { deferred with state := .inFlight } = deferred.refusing := by
    funext row
    simp [mapRow, refusing, Query.mapOf, admits, alreadyRunning, Except.map]
  rw [stream, admits, if_neg h]
  simp only [Keeping.bind_apply, Keeping.attempt_apply, hmap]
  generalize deferred.query.run supplier deferred.refusing supply = result
  obtain ⟨_ | rows, after⟩ := result <;> rfl

/-- What becomes of a call while another one runs. It fails, and the mapper that made it goes on with the failure. The
supplier is not asked, and the query stays in flight. -/
structure Refuses (supplier : Supplier σ) (deferred : Deferred) (scene : Scene σ) : Prop where
  family : deferred.alreadyRunning.family? = some .query
  handed : ∀ link rest gathered next, scene.running = [.maps link rest gathered (.again next)] →
    scene.step supplier deferred =
      { scene with running := [.maps link rest gathered (next (.error deferred.alreadyRunning))] }
  streamed : { deferred with state := scene.state }.stream supplier scene.supply =
    (.ok (.error deferred.alreadyRunning, { deferred with state := .inFlight }), scene.supply)

/-- What becomes of a call while no other runs. It goes on until it ends, having done what a run does whose mapper is
told that the query is running whenever it calls it, and where it leaves the query tells what it came to. -/
structure Accepts (supplier : Supplier σ) (deferred : Deferred) (scene : Scene σ)
    (outcome : Except Failure (List Value)) (supply : σ) : Prop where
  runs : ∃ moments,
    (∀ again, Leads supplier deferred.query (fun row => .done (deferred.refusing row)) again
      ⟨.asks, scene.supply, []⟩ ⟨.ended outcome, supply, moments⟩) ∧
    Relation.ReflTransGen (Steps supplier deferred) (scene.call deferred)
      (scene.after outcome supply (scene.moments ++ moments))
  streamed : { deferred with state := scene.state }.stream supplier scene.supply =
    (.ok (outcome, { deferred with state := left outcome }), supply)

/-- How a deferred query stands, whatever calls were made: it is in flight exactly while a call runs, and else where the
last one left it. A call that runs is the only one, and ends. A call that is made then is refused; any other comes to
what the query comes to that runs at once. -/
structure Streams (supplier : Supplier σ) (readOnly : Bool) (deferred : Deferred) (supply : σ) (scene : Scene σ) :
    Prop where
  untouched : scene.running = [] → scene.returned = [] → scene = { supply }
  flying : scene.state = .inFlight ↔ scene.running ≠ []
  idle : scene.running = [] → scene.state = standing scene.returned
  single : scene.running.length ≤ 1
  ends : scene.running ≠ [] → ∃ outcome supply moments,
    Relation.ReflTransGen (Steps supplier deferred) scene (scene.after outcome supply moments)
  refused : scene.running ≠ [] → Refuses supplier deferred scene
  accepted : scene.running = [] → Accepts supplier deferred scene
    (deferred.query.execute supplier readOnly deferred.refusing scene.supply).1
    (deferred.query.execute supplier readOnly deferred.refusing scene.supply).2

/-- At most one call runs. -/
theorem Sound.single (h : Sound supply scene) : scene.running.length ≤ 1 := by
  by_cases hidle : scene.running = []
  · rw [hidle]
    exact Nat.zero_le 1
  · obtain ⟨p, hp⟩ := h.flying hidle
    rw [hp]
    exact Nat.le_refl 1

/-- A call is refused while another one runs. -/
theorem Sound.refuses (h : Sound supply scene) (hrunning : scene.running ≠ []) :
    Refuses supplier deferred scene := by
  have hflying := h.inFlight_iff.mpr hrunning
  refine ⟨rfl, ?_, ?_⟩
  · intro link rest gathered next hmaps
    have hstep : scene.step supplier deferred = scene.call deferred := by rw [Scene.step, hmaps]
    rw [hstep, call_of_flying hflying, Scene.hand, hmaps]
  · rw [hflying]
    exact stream_of_flying supplier { deferred with state := .inFlight } rfl scene.supply

/-- A call is accepted while no other runs. -/
theorem Sound.accepts (h : Sound supply scene) (hidle : scene.running = []) :
    Accepts supplier deferred scene (deferred.query.run supplier deferred.refusing scene.supply).1
      (deferred.query.run supplier deferred.refusing scene.supply).2 := by
  refine ⟨⟨deferred.query.story supplier deferred.refusing scene.supply, ?_, ?_⟩, ?_⟩
  · exact fun again => Query.run_leads scene.supply []
  · rw [call_at h hidle]
    exact steps_of_leads scene (Query.run_leads scene.supply scene.moments)
  · exact stream_of_idle supplier { deferred with state := scene.state } (h.not_inFlight hidle) scene.supply

/-- A call that runs ends. -/
theorem Sound.ends (h : Sound supply scene) (hrunning : scene.running ≠ []) : ∃ outcome supply moments,
    Relation.ReflTransGen (Steps supplier deferred) scene (scene.after outcome supply moments) := by
  obtain ⟨p, hp⟩ := h.flying hrunning
  obtain ⟨outcome, supplied, moments, hleads⟩ : ∃ outcome supplied moments, Leads supplier deferred.query
      deferred.mapper (.error deferred.alreadyRunning) p ⟨.ended outcome, supplied, moments⟩ := Query.leads_ended p
  have hsteps := steps_of_leads scene hleads
  rw [← hp] at hsteps
  exact ⟨outcome, supplied, moments, hsteps⟩

/-- A query that may be deferred may be run. -/
theorem execute_of_defer {readOnly : Bool} {query : Query} {mapper : RowMapper}
    (h : query.defer readOnly mapper = .ok deferred) (map : List Value → Except Failure Value) :
    deferred = { query, mapper } ∧ query.execute supplier readOnly map = query.run supplier map := by
  rw [Query.defer] at h
  cases hcheck : Query.check readOnly query.statement with
  | error f =>
    rw [hcheck] at h
    cases h
  | ok =>
    rw [hcheck] at h
    refine ⟨(Except.ok.inj h).symm, ?_⟩
    rw [Query.execute, hcheck]
    rfl

/-- Every deferred query stands so, however often it is called, by its holder or by its mapper. -/
theorem defer_streams (supplier : Supplier σ) {readOnly : Bool} {query : Query} {mapper : RowMapper}
    (h : query.defer readOnly mapper = .ok deferred) (supply : σ)
    (hreached : Relation.ReflTransGen (Moves supplier deferred) { supply } scene) :
    deferred = { query, mapper } ∧ Streams supplier readOnly deferred supply scene := by
  have hsound := sound_of_moves hreached
  obtain ⟨hdeferred, hexecute⟩ := execute_of_defer h deferred.refusing
  refine ⟨hdeferred, hsound.untouched, hsound.inFlight_iff, hsound.idle, hsound.single, hsound.ends, hsound.refuses, ?_⟩
  intro hidle
  have hquery : deferred.query = query := by rw [hdeferred]
  rw [hquery, hexecute, ← hquery]
  exact hsound.accepts hidle

/-- A query whose mapper calls it again, while that call is about to be made. -/
theorem defer_streams_reentrant :
    let deferred : Deferred := { query := { statement := "SELECT 1" }, mapper := .reentrant }
    let pool : Pool := { waiting := [.ok { script := [.rows [.ok [.int 1]] (.int 1)] }] }
    let called := ({ supply := pool } : Scene Pool).call deferred
    let mapping := ((called.step Pool.supplier deferred).step Pool.supplier deferred).step Pool.supplier deferred
    deferred.query.defer true .reentrant = .ok deferred ∧
      Relation.ReflTransGen (Moves Pool.supplier deferred) { supply := pool } mapping ∧
      mapping.running ≠ [] ∧ Streams Pool.supplier true deferred pool mapping := by
  intro deferred pool called mapping
  have hdefer : deferred.query.defer true .reentrant = .ok deferred := by
    rw [Query.defer, Query.check, if_pos rfl, Sql.checkReading, if_pos (by decide +kernel)]
    rfl
  have hcalled : Moves Pool.supplier deferred { supply := pool } called := .called rfl
  have hstep (scene : Scene Pool) (h : scene.running ≠ []) :
      Moves Pool.supplier deferred scene (scene.step Pool.supplier deferred) := .stepped ⟨h, rfl⟩
  have hmoves : Relation.ReflTransGen (Moves Pool.supplier deferred) { supply := pool } mapping :=
    (((Relation.ReflTransGen.single hcalled).tail (hstep _ (List.cons_ne_nil _ _))).tail
      (hstep _ (List.cons_ne_nil _ _))).tail (hstep _ (List.cons_ne_nil _ _))
  exact ⟨hdefer, hmoves, List.cons_ne_nil _ _, (defer_streams Pool.supplier hdefer pool hmoves).2⟩

end Deferred

end SchemaAtlas
