import SchemaAtlas.Proofs.Failure.Simulation
import SchemaAtlas.Provider.Health

/-!
# What a provider tells of its password

A password goes to the engines that are made, and nowhere else. Two providers that differ in their passwords
alone show the same texts about themselves, and whatever is asked of them, one thing after the other and
whatever fails, they answer alike and leave the same log.
-/

namespace SchemaAtlas

namespace Provider

/-! ## What is asked of a provider -/

/-- What can be asked of a provider: to make its engine, to get a connection, to check the database, and to
give up the engine. -/
inductive Operation where
  | connect
  | acquire
  | check
  | close

/-- What a provider answers. -/
inductive Answer where
  | done
  | link (link : Link)
  | health (health : Health)

/-- Does what is asked. -/
def perform (provider : Provider) : Operation → Keeping State Answer
  | .connect => do
    let _ ← provider.connect
    pure .done
  | .acquire => do
    let link ← provider.acquire
    pure (.link link)
  | .check => do
    let health ← provider.health
    pure (.health health)
  | .close => do
    close
    pure .done

/-- The answers to some requests, one after the other, each of which may be a failure. -/
def performed (provider : Provider) : List Operation → Keeping State (List (Except Failure Answer))
  | [] => pure []
  | operation :: rest => do
    let answer ← Keeping.attempt (provider.perform operation)
    let answers ← provider.performed rest
    pure (answer :: answers)

end Provider

/-! ## States that differ in what engines were asked for -/

/-- A world but for what its engines were asked for. -/
def World.withoutRequests (world : World) : World :=
  { world with requested := [] }

/-- What a provider works on, but for what engines were asked for. -/
def Provider.State.withoutRequests (state : Provider.State) : Provider.State :=
  { state with world := state.world.withoutRequests }

namespace World

variable {world other : World}

/-- Worlds are the same but for the requests exactly if exchanging the requests makes them the same. -/
theorem withoutRequests_eq_iff :
    world.withoutRequests = other.withoutRequests ↔ ∃ requested, other = { world with requested } := by
  constructor
  · intro h
    refine ⟨other.requested, ?_⟩
    obtain ⟨_, _, _, _, _, _⟩ := world
    obtain ⟨_, _, _, _, _, _⟩ := other
    simp only [withoutRequests, mk.injEq] at h
    obtain ⟨rfl, rfl, -, rfl, rfl, rfl⟩ := h
    rfl
  · rintro ⟨requested, rfl⟩
    rfl

/-- Two computations come to the same, and leave the same but for what engines were asked for. -/
abbrev Unrevealing {α : Type} (body other : Keeping World α) : Prop :=
  Keeping.Alike (fun world other => world.withoutRequests = other.withoutRequests) Eq body other

/-- Computations reveal nothing if exchanging the requests
changes nothing else in what they come to. -/
theorem unrevealing_of_requests {α : Type} {body otherBody : Keeping World α}
    (h : ∀ world requested, (otherBody { world with requested }).1 = (body world).1 ∧
      ∃ later, (otherBody { world with requested }).2 = { (body world).2 with requested := later }) :
    Unrevealing body otherBody := by
  intro world other hworld
  obtain ⟨requested, rfl⟩ := withoutRequests_eq_iff.mp hworld
  obtain ⟨houtcome, hlater⟩ := h world requested
  exact ⟨houtcome ▸ .refl _, withoutRequests_eq_iff.mpr hlater⟩

/-- Making an engine reveals nothing of what it is asked for. -/
theorem unrevealing_makeEngine (request other : EngineRequest) :
    Unrevealing (makeEngine request) (makeEngine other) := by
  refine unrevealing_of_requests fun world requested => ?_
  simp only [makeEngine]
  cases world.engines.headD (.ok []) with
  | error f => exact ⟨rfl, _, rfl⟩
  | ok waiting => exact ⟨rfl, _, rfl⟩

/-- Nor does what is done on a pool. -/
theorem unrevealing_onPool {α : Type} (id : EngineId) (body : Keeping Pool α) :
    Unrevealing (onPool id body) (onPool id body) :=
  unrevealing_of_requests fun _ _ => ⟨rfl, _, rfl⟩

/-- Nor does the time. -/
theorem unrevealing_time : Unrevealing time time := by
  refine unrevealing_of_requests fun world requested => ?_
  obtain ⟨_, clock, _, _, _, _⟩ := world
  cases clock with
  | nil => exact ⟨rfl, _, rfl⟩
  | cons t rest => exact ⟨rfl, _, rfl⟩

/-- Nor does giving up an engine. -/
theorem unrevealing_dispose (id : EngineId) :
    Unrevealing (dispose id) (dispose id) :=
  unrevealing_of_requests fun _ _ => ⟨rfl, _, rfl⟩

/-- Nor does what is written to the log. -/
theorem unrevealing_write (entries : List LogEntry) :
    Unrevealing (write entries) (write entries) :=
  unrevealing_of_requests fun _ _ => ⟨rfl, _, rfl⟩

end World

namespace Provider

/-- Two computations come to the same, and leave the same but for what engines were asked for. -/
abbrev Unrevealing {α : Type} (body other : Keeping State α) : Prop :=
  Keeping.Alike (fun state other => state.withoutRequests = other.withoutRequests) Eq body other

/-- States that are the same but for the requests have the same engine, and worlds that are. -/
theorem withoutRequests_eq_iff {state other : State} :
    state.withoutRequests = other.withoutRequests ↔
      state.engine = other.engine ∧ state.world.withoutRequests = other.world.withoutRequests := by
  simp only [State.withoutRequests, State.mk.injEq, and_comm]

/-- What is done on the world alone reveals nothing if it does not there. -/
theorem unrevealing_onWorld {α : Type} {body other : Keeping World α}
    (h : World.Unrevealing body other) :
    Unrevealing (onWorld body) (onWorld other) :=
  fun state other hstate =>
    have ⟨hengine, hworld⟩ := withoutRequests_eq_iff.mp hstate
    have hend := h state.world other.world hworld
    ⟨hend.outcome, withoutRequests_eq_iff.mpr ⟨hengine, hend.state⟩⟩

/-- Nor does taking or giving up the engine. -/
theorem unrevealing_engine (engine : Option EngineId) :
    Unrevealing (modify fun state => { state with engine }) (modify fun state => { state with engine }) :=
  .modify fun hstate => withoutRequests_eq_iff.mpr ⟨rfl, (withoutRequests_eq_iff.mp hstate).2⟩

/-- What goes on with the state reveals nothing if it does not with states that have the same engine. -/
theorem unrevealing_ofEngine {α : Type} {next other : State → Keeping State α}
    (h : ∀ {state otherState : State}, state.engine = otherState.engine →
      Unrevealing (next state) (other otherState)) :
    Unrevealing (get >>= next) (get >>= other) :=
  .of_get fun hstate => h (withoutRequests_eq_iff.mp hstate).1 _ _ hstate

/-- Giving up the engine reveals nothing. -/
theorem unrevealing_close : Unrevealing close close := by
  refine unrevealing_ofEngine fun {state otherState} hengine => ?_
  simp only [hengine]
  cases otherState.engine with
  | none => exact .pure rfl
  | some id => exact (unrevealing_onWorld (World.unrevealing_dispose id)).then fun _ => unrevealing_engine none

/-- Nor does handing a connection back. -/
theorem unrevealing_giveBack (link : Link) : Unrevealing (giveBack link) (giveBack link) := by
  refine unrevealing_ofEngine fun {state otherState} hengine => ?_
  simp only [hengine]
  cases otherState.engine with
  | none => exact .pure rfl
  | some id => exact unrevealing_onWorld (World.unrevealing_onPool id _)

/-! ## Providers of the same description -/

section

variable {provider other : Provider} (hlabel : other.label = provider.label)
  (hdescription : other.description = provider.description)
include hdescription

/-- Making the engine reveals no more than the description. -/
theorem unrevealing_connect : Unrevealing provider.connect other.connect := by
  refine unrevealing_ofEngine fun {state otherState} hengine => ?_
  simp only [hengine]
  cases otherState.engine with
  | some id => exact .pure rfl
  | none =>
    refine (unrevealing_onWorld (World.unrevealing_makeEngine _ _)).attempt.then fun outcome => ?_
    cases outcome with
    | error f =>
      have hfailure : other.engineFailed f = provider.engineFailed f := by
        rw [engineFailed, engineFailed, hdescription]
      simp only [hfailure]
      exact .throw _
    | ok id => exact (unrevealing_engine (some id)).then fun _ => .pure rfl

/-- Nor does getting a connection. -/
theorem unrevealing_acquire : Unrevealing provider.acquire other.acquire := by
  refine (unrevealing_connect hdescription).then fun id => ?_
  refine (unrevealing_onWorld (World.unrevealing_onPool id Pool.acquire)).attempt.then fun outcome => ?_
  cases outcome with
  | ok link => exact .pure rfl
  | error f =>
    have htext : other.unableText = provider.unableText :=
      congrArg ("Unable to get connection for " ++ ·) hdescription
    simp only [htext]
    cases f.isDatabase with
    | true =>
      simp only [if_true]
      exact (unrevealing_onWorld (World.unrevealing_write _)).then fun _ => .throw _
    | false =>
      simp only [Bool.false_eq_true, if_false]
      exact .throw _

/-- Nor does using one. -/
theorem unrevealing_withLink {α : Type} (use : Link → Except Failure α × Link) :
    Unrevealing (provider.supplier.withLink use) (other.supplier.withLink use) :=
  (unrevealing_acquire hdescription).then fun _ => (unrevealing_giveBack _).then fun _ => .settle _

include hlabel

/-- A check reveals no more than the label and the description. -/
theorem unrevealing_health : Unrevealing provider.health other.health := by
  refine (unrevealing_onWorld World.unrevealing_time).then fun start => ?_
  refine (unrevealing_withLink hdescription _).attempt.then fun outcome => ?_
  have hrest : ∀ failure : Option Failure, Unrevealing
      (do pure (Health.ofOutcome provider.label failure ((← onWorld World.time).sub start)))
      (do pure (Health.ofOutcome other.label failure ((← onWorld World.time).sub start))) := fun failure =>
    (unrevealing_onWorld World.unrevealing_time).then fun finish => .pure (by rw [hlabel])
  cases outcome with
  | ok reply => exact hrest none
  | error f =>
    cases htells : Health.tells f with
    | true =>
      simp only [htells, if_true]
      exact hrest (some f)
    | false =>
      simp only [htells, Bool.false_eq_true, if_false]
      exact .throw f

/-- Nor does anything else that is asked. -/
theorem unrevealing_perform (operation : Operation) :
    Unrevealing (provider.perform operation) (other.perform operation) := by
  cases operation with
  | connect => exact (unrevealing_connect hdescription).then fun _ => .pure rfl
  | acquire => exact (unrevealing_acquire hdescription).then fun _ => .pure rfl
  | check => exact (unrevealing_health hlabel hdescription).then fun _ => .pure rfl
  | close => exact unrevealing_close.then fun _ => .pure rfl

/-- Nor does what is asked one thing after the other. -/
theorem unrevealing_performed (operations : List Operation) :
    Unrevealing (provider.performed operations) (other.performed operations) := by
  induction operations with
  | nil => exact .pure rfl
  | cons operation rest ih =>
    exact (unrevealing_perform hlabel hdescription operation).attempt.then fun _ => ih.then fun _ => .pure rfl

end

/-! ## Providers that differ in their passwords -/

/-- Two providers cannot be told apart: they show the same address, description, dialect and database, and
whatever is asked of them in whatever state, the answers are the same, failures and all, and so is what they
leave but for what engines were asked for; in particular so is the log. -/
structure Indistinguishable (provider other : Provider) : Prop where
  address : other.address.text true = provider.address.text true
  description : other.description = provider.description
  dialect : other.address.dialect = provider.address.dialect
  database : other.address.database = provider.address.database
  answers : ∀ operations before, (other.performed operations before).1 = (provider.performed operations before).1
  left : ∀ operations before,
    (other.performed operations before).2.withoutRequests = (provider.performed operations before).2.withoutRequests
  log : ∀ operations before,
    (other.performed operations before).2.world.log = (provider.performed operations before).2.world.log

/-- Providers cannot be told apart if they differ in their passwords alone. -/
theorem indistinguishable_password (provider : Provider) (password other : String) :
    Indistinguishable { provider with address := { provider.address with password := some password } }
      { provider with address := { provider.address with password := some other } } := by
  have haddress := provider.address.text_hidden other password
  have hdescription :
      description { provider with address := { provider.address with password := some other } } =
        description { provider with address := { provider.address with password := some password } } := by
    rw [description, description, haddress]
  have hends operations before :=
    unrevealing_performed (by rfl) hdescription operations before before rfl
  refine ⟨haddress, hdescription, rfl, rfl, fun operations before => ?_, fun operations before => ?_,
    fun operations before => ?_⟩
  · exact (hends operations before).outcome.eq
  · exact (hends operations before).state.symm
  · have hlog := congrArg (fun state : State => state.world.log) (hends operations before).state
    exact hlog.symm

/-- For every text of an address and every user, with two passwords in the place of the one in the address
either both texts fail alike, or they give providers that cannot be told apart. -/
theorem ofText_conceals (label address : String) (user : Option String) (options : List (String × Value))
    (password other : String) :
    SameOutcome Indistinguishable (ofText label address user (some password) options)
      (ofText label address user (some other) options) := by
  simp only [ofText]
  cases Address.parse? address with
  | none => exact .error _
  | some parsed =>
    cases parsed with
    | error f => exact .error f
    | ok parsed =>
      exact .ok (indistinguishable_password
        { label, options, address := { parsed with user := user.or parsed.user } } password other)

/-- What an engine is asked for does tell the password. -/
example :
    let provider : Provider := ⟨"shop", { scheme := "sqlite", user := some "u", password := some "p" }, []⟩
    (provider.performed [.connect] {}).2.world.requested.map (·.address) = ["sqlite://u:p@"] := by
  cbv

end Provider

end SchemaAtlas
