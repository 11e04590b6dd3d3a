import SchemaAtlas.Proofs.Failure.Keeping

/-!
# Computations that run alike

Two computations on different states run alike if related states lead to the same failure or to related
results, and to related states. They do if their parts do, one after the other.
-/

namespace SchemaAtlas

/-- Two outcomes are the same failure, or results that are related. -/
inductive SameOutcome {α β : Type} (R : α → β → Prop) : Except Failure α → Except Failure β → Prop where
  | ok {a b} : R a b → SameOutcome R (.ok a) (.ok b)
  | error (f : Failure) : SameOutcome R (.error f) (.error f)

namespace SameOutcome

variable {α : Type} {outcome other : Except Failure α}

/-- Outcomes whose results are the same are the same. -/
theorem eq (h : SameOutcome Eq outcome other) : other = outcome := by
  cases h with
  | ok hresult => rw [hresult]
  | error f => rfl

/-- An outcome is the same as itself. -/
theorem refl (outcome : Except Failure α) : SameOutcome Eq outcome outcome := by
  cases outcome with
  | ok a => exact .ok rfl
  | error f => exact .error f

end SameOutcome

namespace Keeping

variable {σ τ α β γ δ : Type} {S : σ → τ → Prop} {R : α → β → Prop} {Q : γ → δ → Prop}

/-- Two runs end alike: in the same failure or in related results, and in related states. -/
structure EndAlike (S : σ → τ → Prop) (R : α → β → Prop) (end₁ : Except Failure α × σ)
    (end₂ : Except Failure β × τ) : Prop where
  outcome : SameOutcome R end₁.1 end₂.1
  state : S end₁.2 end₂.2

/-- Two computations run alike: from related states, they end alike. -/
def Alike (S : σ → τ → Prop) (R : α → β → Prop) (body : Keeping σ α) (other : Keeping τ β) : Prop :=
  ∀ s t, S s t → EndAlike S R (body s) (other t)

/-- A sequence ends alike if its first part does and what follows runs alike. -/
theorem EndAlike.bind {body : Keeping σ α} {other : Keeping τ β} {next : α → Keeping σ γ} {otherNext : β → Keeping τ δ}
    {s : σ} {t : τ} (h : EndAlike S R (body s) (other t))
    (hnext : ∀ a b, R a b → Alike S Q (next a) (otherNext b)) :
    EndAlike S Q ((body >>= next) s) ((other >>= otherNext) t) := by
  rw [bind_apply, bind_apply]
  obtain ⟨houtcome, hstate⟩ := h
  generalize body s = first at houtcome hstate
  generalize other t = second at houtcome hstate
  obtain ⟨outcome, s⟩ := first
  obtain ⟨otherOutcome, t⟩ := second
  cases houtcome with
  | error f => exact ⟨.error f, hstate⟩
  | ok hresult => exact hnext _ _ hresult _ _ hstate

/-- Sequences run alike if their parts do. -/
theorem Alike.bind {body : Keeping σ α} {other : Keeping τ β} {next : α → Keeping σ γ} {otherNext : β → Keeping τ δ}
    (h : Alike S R body other) (hnext : ∀ a b, R a b → Alike S Q (next a) (otherNext b)) :
    Alike S Q (body >>= next) (other >>= otherNext) :=
  fun s t hstate => (h s t hstate).bind hnext

/-- Sequences whose first results are the same run alike if their parts do. -/
theorem Alike.then {body : Keeping σ α} {other : Keeping τ α} {next : α → Keeping σ γ} {otherNext : α → Keeping τ δ}
    (h : Alike S Eq body other) (hnext : ∀ a, Alike S Q (next a) (otherNext a)) :
    Alike S Q (body >>= next) (other >>= otherNext) :=
  h.bind fun a _ hresult => hresult ▸ hnext a

/-- Computations that go on with the state run alike if they do with related states. -/
theorem Alike.of_get {next : σ → Keeping σ γ} {otherNext : τ → Keeping τ δ}
    (h : ∀ {s t}, S s t → EndAlike S Q (next s s) (otherNext t t)) :
    Alike S Q (MonadState.get >>= next) (MonadState.get >>= otherNext) :=
  fun _ _ hstate => h hstate

/-- Given results run alike if they are related. -/
theorem Alike.pure {a : α} {b : β} (h : R a b) : Alike S R (Pure.pure a) (Pure.pure b) :=
  fun _ _ hstate => ⟨.ok h, hstate⟩

/-- So do failures that are the same. -/
theorem Alike.throw (f : Failure) : Alike S R (MonadExcept.throw f) (MonadExcept.throw f) :=
  fun _ _ hstate => ⟨.error f, hstate⟩

/-- So do outcomes that are the same. -/
theorem Alike.settle (outcome : Except Failure α) : Alike S Eq (Keeping.settle outcome) (Keeping.settle outcome) :=
  fun _ _ hstate => ⟨.refl outcome, hstate⟩

/-- So do changes that lead from related states to related states. -/
theorem Alike.modify {change : σ → σ} {other : τ → τ} (h : ∀ {s t}, S s t → S (change s) (other t)) :
    Alike S Eq (modify change : Keeping σ Unit) (modify other : Keeping τ Unit) :=
  fun _ _ hstate => ⟨.ok rfl, h hstate⟩

/-- The outcomes of computations that run alike are the same, and asking for them is alike. -/
theorem Alike.attempt {body : Keeping σ α} {other : Keeping τ α} (h : Alike S Eq body other) :
    Alike S Eq (Keeping.attempt body) (Keeping.attempt other) :=
  fun s t hstate => ⟨.ok (h s t hstate).outcome.eq.symm, (h s t hstate).state⟩

end Keeping

end SchemaAtlas
