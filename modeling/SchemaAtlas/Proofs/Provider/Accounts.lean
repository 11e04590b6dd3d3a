import Mathlib.Data.List.Forall2
import SchemaAtlas.Proofs.Session.Use
import SchemaAtlas.Provider.Basic

/-!
# Connections are accounted for

Whatever is done with a provider, the connections that its engines handed out come back in the order in
which they were handed out, each closed exactly once. Engines that were made in the meantime are part of the
account.
-/

namespace SchemaAtlas

/-- A connection came back after its use: it was closed exactly once, as the last thing done on it. -/
def Spent (c : Connection) (link : Link) : Prop :=
  link.connection = c ∧ ∃ earlier, link.actions = earlier ++ [.close] ∧ .close ∉ earlier

/-- A connection that is closed comes back spent if it was not closed before. -/
theorem spent_close {c : Connection} {link : Link} (hconnection : link.connection = c)
    (hopen : .close ∉ link.actions) : Spent c link.close.2 :=
  ⟨hconnection, link.actions, rfl, hopen⟩

/-- A statement that is run, also one that is refused, is recorded on the connection it is run on. -/
theorem Link.execute_kept (link : Link) (statement : String) (binding : Binding) :
    (link.execute statement binding).2.connection = link.connection ∧
      (link.execute statement binding).2.actions = link.actions ++ [.run ⟨statement, binding⟩] := by
  rw [execute]
  split <;> exact ⟨rfl, rfl⟩

/-- A query comes back with its connection spent. -/
theorem Query.spent_read (query : Query) (mapper : List Value → Except Failure Value) (c : Connection) :
    Spent c (query.read mapper (Link.fresh c)).2.close.2 := by
  have hlink : (query.read mapper (Link.fresh c)).2 =
      ((Link.fresh c).execute query.statement (.positional query.parameters)).2 := by
    rw [read]
    split <;> simp_all
  obtain ⟨hconnection, hactions⟩ :=
    (Link.fresh c).execute_kept query.statement (.positional query.parameters)
  rw [hlink]
  apply spent_close hconnection
  rw [hactions]
  simp [Link.fresh]

/-- So does an attempt of a batch. -/
theorem Batch.spent_of_attempted {policy : Policy} {statements : List Statement} {c : Connection} {link : Link}
    (h : Attempted policy statements c link) : Spent c link :=
  ⟨h.1, h.2.closes⟩

/-- Every connection that a pool handed out in the meantime came back, in order. -/
def Pool.Settles (before after : Pool) : Prop :=
  ∃ taken links, before.waiting = taken ++ after.waiting ∧ after.links = before.links ++ links ∧
    List.Forall₂ Spent (taken.filterMap Except.toOption) links

namespace Pool

instance : IsPreorder Pool Settles where
  refl pool := ⟨[], [], by simp, by simp, by simp⟩
  trans := by
    intro first second third hfirst hsecond
    obtain ⟨taken, links, hwaiting, hlinks, hspent⟩ := hfirst
    obtain ⟨more, others, hmore, hothers, hspentMore⟩ := hsecond
    refine ⟨taken ++ more, links ++ others, by simp [hwaiting, hmore], by simp [hlinks, hothers], ?_⟩
    rw [List.filterMap_append]
    exact List.rel_append hspent hspentMore

/-- A pool settles if it hands out nothing. -/
theorem settles_refused {pool : Pool} {f : Failure} (h : (acquire pool).1 = .error f) :
    pool.Settles (acquire pool).2 := by
  obtain ⟨waiting, links, acquired, log⟩ := pool
  rcases waiting with _ | ⟨_ | c, rest⟩
  · exact ⟨[], [], rfl, by simp [acquire], by simp⟩
  · rename_i refusal
    exact ⟨[.error refusal], [], rfl, by simp [acquire], by simp [Except.toOption]⟩
  · cases h

/-- A connection that is handed out is a fresh one, and the pool settles when it comes back. -/
theorem settles_returned {pool : Pool} {link : Link} (h : (acquire pool).1 = .ok link) :
    ∃ c, link = Link.fresh c ∧
      ∀ after, Spent c after → pool.Settles (supplier.giveBack after (acquire pool).2).2 := by
  obtain ⟨waiting, links, acquired, log⟩ := pool
  rcases waiting with _ | ⟨_ | c, rest⟩
  · cases h
  · cases h
  · cases h
    refine ⟨c, rfl, ?_⟩
    intro after hafter
    exact ⟨[.ok c], [after], rfl, rfl, by simpa [Except.toOption] using hafter⟩

end Pool

namespace World

/-- The pools of the engines that are made next, as they are made. -/
def coming : List (Except Failure (List (Except Failure Connection))) → Nat → List Pool
  | _, 0 => []
  | engines, made + 1 =>
    match engines.headD (.ok []) with
    | .error _ => coming (engines.drop 1) made
    | .ok waiting => { waiting } :: coming (engines.drop 1) made

/-- Some engines are made after others. -/
theorem coming_add (engines : List (Except Failure (List (Except Failure Connection)))) (made more : Nat) :
    coming engines (made + more) = coming engines made ++ coming (engines.drop made) more := by
  induction made generalizing engines with
  | zero => simp [coming]
  | succ made ih =>
    have hdrop : engines.drop (made + 1) = (engines.drop 1).drop made := by
      rw [List.drop_drop, Nat.add_comm]
    rw [Nat.add_right_comm, coming, coming, ih, hdrop]
    cases engines.headD (.ok []) <;> rfl

/-- Some engines are made in the meantime, and all pools, the old and the new ones, settle. -/
def Accounts (before after : World) : Prop :=
  ∃ made, after.engines = before.engines.drop made ∧
    List.Forall₂ Pool.Settles (before.pools ++ coming before.engines made) after.pools

/-- Pools that settle and settle again do so on the whole. -/
theorem settles_trans {first second third : List Pool} (hfirst : List.Forall₂ Pool.Settles first second)
    (hsecond : List.Forall₂ Pool.Settles second third) : List.Forall₂ Pool.Settles first third := by
  induction hfirst generalizing third with
  | nil => exact hsecond
  | cons hpool hrest ih =>
    cases hsecond with
    | cons hnext hmore => exact .cons (IsTrans.trans _ _ _ hpool hnext) (ih hmore)

instance : IsPreorder World Accounts where
  refl world := ⟨0, rfl, by simpa [coming] using List.forall₂_refl world.pools⟩
  trans := by
    intro first second third hfirst hsecond
    obtain ⟨made, hengines, hpools⟩ := hfirst
    obtain ⟨more, hmore, hlast⟩ := hsecond
    refine ⟨made + more, by rw [hmore, hengines, List.drop_drop], ?_⟩
    rw [coming_add, ← List.append_assoc, ← hengines]
    exact settles_trans (List.rel_append hpools (List.forall₂_refl _)) hlast

/-- A world in which engines and pools are the same accounts for them. -/
theorem Accounts.of_same {before after : World} (hengines : after.engines = before.engines)
    (hpools : after.pools = before.pools) : before.Accounts after :=
  ⟨0, hengines, by simpa [coming, hpools] using List.forall₂_refl before.pools⟩

/-- A world accounts for an engine that is made, and for one that cannot be made. -/
theorem accounts_makeEngine (request : EngineRequest) : Keeping.Keeps Accounts (makeEngine request) := by
  intro world
  refine ⟨1, ?_, ?_⟩
  · rw [makeEngine]
    cases world.engines.headD (.ok []) <;> rfl
  · rw [makeEngine, coming, coming]
    cases world.engines.headD (.ok []) with
    | error f => simpa using List.forall₂_refl world.pools
    | ok waiting => exact List.forall₂_refl _

/-- A world accounts for what a pool of it does, if the pool settles. -/
theorem accounts_set {world : World} {id : EngineId} {pool : Pool}
    (h : (world.pools.getD id { waiting := [] }).Settles pool) :
    world.Accounts { world with pools := world.pools.set id pool } := by
  refine ⟨0, rfl, ?_⟩
  simp only [coming, List.append_nil]
  rw [List.forall₂_iff_get]
  refine ⟨by simp, ?_⟩
  intro i hi hset
  simp only [List.get_eq_getElem, List.getElem_set]
  split
  · subst_vars
    simpa [hi] using h
  · exact Std.Refl.refl _

/-- A connection that is handed out is a fresh one, and the world accounts for it when it comes back to the
pool it is from. -/
theorem accounts_returned {world : World} {id : EngineId} {link : Link}
    (h : (onPool id Pool.acquire world).1 = .ok link) :
    ∃ c, link = Link.fresh c ∧ ∀ after, Spent c after →
      world.Accounts (onPool id (Pool.supplier.giveBack after) (onPool id Pool.acquire world).2).2 := by
  have hid : id < world.pools.length := by
    by_contra hmissing
    have hnone : world.pools[id]? = none := List.getElem?_eq_none (Nat.le_of_not_lt hmissing)
    simp [onPool, List.getD_eq_getElem?_getD, hnone, Pool.acquire] at h
  obtain ⟨c, rfl, hreturned⟩ := Pool.settles_returned h
  refine ⟨c, rfl, ?_⟩
  intro after hafter
  have hsettles := accounts_set (hreturned after hafter)
  simpa [onPool, hid] using hsettles

end World

namespace Provider

/-- The world accounts for what is done in it. -/
abbrev Accounts : State → State → Prop :=
  InvImage World.Accounts State.world

/-- What is done in the world is accounted for as the world does. -/
theorem accounts_onWorld {α : Type} {body : Keeping World α} (h : Keeping.Keeps World.Accounts body) :
    Keeping.Keeps Accounts (onWorld body) :=
  h.onPart fun _ _ => rfl

/-- Writing to the log is accounted for. -/
theorem accounts_write (entries : List LogEntry) : Keeping.Keeps Accounts (onWorld (World.write entries)) :=
  accounts_onWorld fun _ => .of_same rfl rfl

/-- So is connecting; afterwards there is an engine. -/
theorem accounts_connect (provider : Provider) (state : State) :
    Accounts state (provider.connect state).2 ∧
      ∀ id, (provider.connect state).1 = .ok id → (provider.connect state).2.engine = some id := by
  rw [connect, Keeping.bind_of_ok (Keeping.get_apply state)]
  cases hengine : state.engine with
  | some id =>
    refine ⟨Std.Refl.refl state.world, ?_⟩
    intro id' hid
    cases hid
    exact hengine
  | none =>
    have hmade := accounts_onWorld (World.accounts_makeEngine ⟨provider.address.text false, provider.options⟩) state
    simp only [Keeping.bind_apply, Keeping.attempt_apply]
    generalize onWorld (World.makeEngine _) state = result at hmade
    obtain ⟨_ | made, after⟩ := result
    · exact ⟨hmade, nofun⟩
    · refine ⟨hmade, ?_⟩
      intro id hid
      cases hid
      rfl

/-- What a refused connection is reported as is accounted for, and is a failure. -/
theorem accounts_refused (provider : Provider) (f : Failure) (state : State) :
    let report : Keeping State Link :=
      if f.isDatabase then do
        onWorld (World.write [⟨.error, provider.unableText⟩])
        throw (.becauseOf .connectivity provider.unableText f)
      else throw f
    Accounts state (report state).2 ∧ ∀ link, (report state).1 ≠ .ok link := by
  cases f.isDatabase with
  | true => exact ⟨(accounts_write _).bind (fun _ => Keeping.Keeps.throw _) state, nofun⟩
  | false => exact ⟨Std.Refl.refl state.world, nofun⟩

/-- A provider hands out connections for which the world accounts when they come back spent. -/
theorem keeps_supplier (provider : Provider) : provider.supplier.Keeps Accounts Spent := by
  have hacquire (state : State) :
      (∀ f, (provider.acquire state).1 = .error f → Accounts state (provider.acquire state).2) ∧
      ∀ link, (provider.acquire state).1 = .ok link → ∃ c, link = Link.fresh c ∧
        ∀ after, Spent c after → Accounts state (giveBack after (provider.acquire state).2).2 := by
    obtain ⟨hconnect, hengine⟩ := accounts_connect provider state
    rw [acquire, Keeping.bind_apply]
    generalize provider.connect state = result at hconnect hengine
    obtain ⟨_ | id, world, engine⟩ := result
    · exact ⟨fun _ _ => hconnect, nofun⟩
    · obtain rfl : engine = some id := hengine id rfl
      have hreturned (link : Link) (h : (World.onPool id Pool.acquire world).1 = .ok link) :=
        World.accounts_returned h
      have hrefused (f : Failure) (h : (World.onPool id Pool.acquire world).1 = .error f) :
          world.Accounts (World.onPool id Pool.acquire world).2 :=
        World.accounts_set (Pool.settles_refused h)
      simp only [Keeping.bind_apply, Keeping.attempt_apply, onWorld, Keeping.onPart_apply]
      generalize World.onPool id Pool.acquire world = answer at hreturned hrefused
      obtain ⟨f | link, left⟩ := answer
      · obtain ⟨hreport, hfails⟩ := accounts_refused provider f ⟨left, some id⟩
        have hpool : Accounts ⟨world, some id⟩ ⟨left, some id⟩ := hrefused f rfl
        exact ⟨fun _ _ => IsTrans.trans _ _ _ (IsTrans.trans _ _ _ hconnect hpool) hreport,
          fun link hlink => absurd hlink (hfails link)⟩
      · obtain ⟨c, rfl, hafter⟩ := hreturned link rfl
        refine ⟨nofun, ?_⟩
        intro link hlink
        refine ⟨c, (Except.ok.inj hlink).symm, ?_⟩
        intro after hspent
        have hback : Accounts ⟨world, some id⟩ (giveBack after ⟨left, some id⟩).2 := hafter after hspent
        exact IsTrans.trans _ _ _ hconnect hback
  exact ⟨fun s => (hacquire s).1, fun s => (hacquire s).2, fun entry => accounts_write [entry]⟩

end Provider

end SchemaAtlas
