import SchemaAtlas.Number.Shortest
import SchemaAtlas.Provider.Address
import SchemaAtlas.Session.Supplier

/-!
# The world of engines

Connections come from engines, and engines come from outside. A world holds what its engines will be,
one after the other, and what its clock will show; it keeps which engines were asked for, what became of
each, and the log.
-/

namespace SchemaAtlas

/-- An engine that was asked for: its address, password included, and its options. -/
structure EngineRequest where
  address : String
  options : List (String × Value)

/-- Which of the engines made so far. -/
abbrev EngineId := Nat

/-- The engines to come and the times to come, with what happened so far. -/
structure World where
  engines : List (Except Failure (List (Except Failure Connection))) := []
  clock : List Number.Binary64 := []
  requested : List EngineRequest := []
  pools : List Pool := []
  disposed : List EngineId := []
  log : List LogEntry := []

namespace World

/-- Makes an engine; one that nothing is known of has no connections. -/
def makeEngine (request : EngineRequest) : Keeping World EngineId := fun before =>
  let world := { before with engines := before.engines.drop 1, requested := before.requested ++ [request] }
  match before.engines.headD (.ok []) with
  | .error f => (.error f, world)
  | .ok waiting =>
    let pool : Pool := { waiting }
    (.ok world.pools.length, { world with pools := world.pools ++ [pool] })

/-- A computation on the pool of an engine. -/
def onPool {α : Type} (id : EngineId) (body : Keeping Pool α) : Keeping World α :=
  Keeping.onPart (fun world => world.pools.getD id { waiting := [] })
    (fun pool world => { world with pools := world.pools.set id pool }) body

/-- Gives up an engine. -/
def dispose (id : EngineId) : Keeping World Unit :=
  modify fun world => { world with disposed := world.disposed ++ [id] }

/-- The time; a clock that has nothing more to show stands at zero. -/
def time : Keeping World Number.Binary64 := fun world =>
  match world.clock with
  | [] => (.ok .zero, world)
  | t :: rest => (.ok t, { world with clock := rest })

/-- Writes to the log. -/
def write (entries : List LogEntry) : Keeping World Unit :=
  modify fun world => { world with log := world.log ++ entries }

end World

end SchemaAtlas
