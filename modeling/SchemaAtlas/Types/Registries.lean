import SchemaAtlas.Types.Mapper

/-!
# Registries that are shared

Registries are passed to those who resolve columns by them, and everyone who knows a registry may register more mappers in
it at any time. Who is passed none makes a registry of the default mappers and goes by that; so does who is passed a
registry that is empty at that time.
-/

namespace SchemaAtlas

/-- A registry that has mappers counts. -/
theorem Registry.given_of_ne {registry : Registry} (h : registry ≠ []) : given (some registry) = registry := by
  cases registry with
  | nil => exact absurd rfl h
  | cons m rest => rfl

/-- What is used in the place of a registry has mappers. -/
theorem Registry.given_ne (registry : Option Registry) : given registry ≠ [] := by
  rcases registry with - | (- | ⟨m, rest⟩) <;> exact List.cons_ne_nil _ _

/-- The place of a registry among all that were made. -/
abbrev RegistryId := Nat

/-- All registries that were made, with the mappers that each has by now. -/
abbrev Registries := List Registry

namespace Registries

variable (registries : Registries)

/-- The mappers that a registry has by now. -/
def mappersOf (id : RegistryId) : Registry :=
  registries[id]?.getD []

/-- Makes a registry of some mappers. -/
def make (mappers : Registry) : Registries × RegistryId :=
  (registries ++ [mappers], registries.length)

/-- Registers a mapper in a registry. -/
def register (id : RegistryId) (m : Mapper) : Registries :=
  registries.modify id fun registry => registry.register m

/-- Finds the registry to go by for who may have been passed one. -/
def take (passed : Option RegistryId) : Registries × RegistryId :=
  match passed with
  | some id => if (registries.mappersOf id).isEmpty then registries.make .default else (registries, id)
  | none => registries.make .default

/-- What may be done with registries. -/
inductive Action where
  /-- A registry is made of some mappers. -/
  | make (mappers : Registry)
  /-- A mapper is registered in a registry. -/
  | register (id : RegistryId) (m : Mapper)
  /-- A registry, or none, is passed to someone. -/
  | take (passed : Option RegistryId)

/-- The registries after an action. -/
def perform : Action → Registries
  | .make mappers => (registries.make mappers).1
  | .register id m => registries.register id m
  | .take passed => (registries.take passed).1

/-- The registries after some actions. -/
def performed (actions : List Action) : Registries :=
  actions.foldl perform registries

/-- The mapper that an action registers in a registry, if it does. -/
def Action.registered? (id : RegistryId) : Action → Option Mapper
  | .register other m => if other = id then some m else none
  | _ => none

/-- The mappers that some actions register in a registry, in order. -/
def registeredIn (id : RegistryId) (actions : List Action) : List Mapper :=
  actions.filterMap (Action.registered? id)

variable {registries} {id : RegistryId}

/-- A registry that has mappers was made. -/
theorem lt_of_mappersOf_ne (h : registries.mappersOf id ≠ []) : id < registries.length :=
  Nat.lt_of_not_le fun hle => h (by rw [mappersOf, List.getElem?_eq_none hle]; rfl)

/-- A registry that is made has the mappers that it is made of. -/
theorem mappersOf_made (registries : Registries) (mappers : Registry) :
    (registries.make mappers).1.mappersOf (registries.make mappers).2 = mappers := by
  simp [make, mappersOf]

/-- Who was passed a registry with mappers goes by that one. -/
theorem take_of_ne (h : registries.mappersOf id ≠ []) : registries.take (some id) = (registries, id) :=
  if_neg fun hempty => h (List.isEmpty_iff.mp hempty)

/-- Who was passed none, or one without mappers, goes by a new one. -/
theorem take_of_eq {passed : Option RegistryId} (h : ∀ id ∈ passed, registries.mappersOf id = []) :
    registries.take passed = registries.make .default := by
  cases passed with
  | none => rfl
  | some id => exact if_pos (by rw [h id rfl]; rfl)

/-- Either way, the mappers are those that are used in the place of the ones passed. -/
theorem mappersOf_taken (registries : Registries) (passed : Option RegistryId) :
    (registries.take passed).1.mappersOf (registries.take passed).2 = .given (passed.map registries.mappersOf) := by
  cases passed with
  | none => exact mappersOf_made registries .default
  | some id =>
    rw [Option.map_some]
    cases hmappers : registries.mappersOf id with
    | nil =>
      rw [take_of_eq fun _ hid => Option.some.inj hid ▸ hmappers, mappersOf_made]
      rfl
    | cons m rest =>
      have hne : registries.mappersOf id ≠ [] := hmappers ▸ List.cons_ne_nil m rest
      rw [take_of_ne hne]
      exact hmappers

/-- Making a registry leaves those that were made. -/
theorem mappersOf_make (mappers : Registry) (h : id < registries.length) :
    id < (registries.make mappers).1.length ∧
      (registries.make mappers).1.mappersOf id = registries.mappersOf id := by
  rw [make, List.length_append, mappersOf, mappersOf, List.getElem?_append_left h]
  exact ⟨Nat.lt_add_right _ h, rfl⟩

/-- An action leaves every registry that was made, but for the mapper that it registers in it. -/
theorem mappersOf_perform (action : Action) (h : id < registries.length) :
    id < (registries.perform action).length ∧
      (registries.perform action).mappersOf id = registries.mappersOf id ++ (action.registered? id).toList := by
  cases action with
  | make mappers => simpa [perform, Action.registered?] using mappersOf_make mappers h
  | register other m =>
    refine ⟨by simpa only [perform, register, List.length_modify] using h, ?_⟩
    simp only [perform, mappersOf, register, Action.registered?, List.getElem?_modify, List.getElem?_eq_getElem h]
    split <;> simp [Registry.register]
  | take passed =>
    by_cases hpassed : ∀ id ∈ passed, registries.mappersOf id = []
    · simpa [perform, take_of_eq hpassed, Action.registered?] using mappersOf_make .default h
    · obtain ⟨other, rfl, hother⟩ : ∃ other, passed = some other ∧ registries.mappersOf other ≠ [] := by
        simpa using hpassed
      simpa [perform, take_of_ne hother, Action.registered?] using h

/-- However registries are used, each has the mappers that it had, and behind them those that were registered in it. -/
theorem mappersOf_performed (actions : List Action) (h : id < registries.length) :
    (registries.performed actions).mappersOf id = registries.mappersOf id ++ registeredIn id actions := by
  induction actions generalizing registries with
  | nil => exact (List.append_nil _).symm
  | cons action rest ih =>
    obtain ⟨hlt, hperform⟩ := mappersOf_perform action h
    have hregistered : registeredIn id (action :: rest) = (action.registered? id).toList ++ registeredIn id rest := by
      rw [registeredIn, List.filterMap_cons]
      cases action.registered? id <;> rfl
    rw [performed, List.foldl_cons, hregistered, ← List.append_assoc, ← hperform]
    exact ih hlt

end Registries

end SchemaAtlas
