import Mathlib.Order.Defs.Unbundled
import SchemaAtlas.Failure.Keeping

/-!
# Running computations that keep their state

A computation that keeps its state is a function of the state. The equations below run its parts, so
that a computation is followed step by step and its definition need not be opened.
-/

namespace SchemaAtlas.Keeping

variable {σ α β : Type}

/-- A sequence goes on with the result, or stops with the failure and the state as it then is. -/
theorem bind_apply (body : Keeping σ α) (next : α → Keeping σ β) (s : σ) :
    (body >>= next) s = match body s with
      | (.ok a, s) => next a s
      | (.error f, s) => (.error f, s) := by
  change StateT.bind body (ExceptT.bindCont next) s = _
  simp only [StateT.bind, bind]
  generalize body s = result
  obtain ⟨outcome, s⟩ := result
  cases outcome <;> rfl

/-- A sequence goes on after a success. -/
theorem bind_of_ok {body : Keeping σ α} {s t : σ} {a : α} (h : body s = (.ok a, t))
    (next : α → Keeping σ β) : (body >>= next) s = next a t := by
  rw [bind_apply, h]

/-- A sequence stops at a failure. -/
theorem bind_of_error {body : Keeping σ α} {s t : σ} {f : Failure} (h : body s = (.error f, t))
    (next : α → Keeping σ β) : (body >>= next) s = (.error f, t) := by
  rw [bind_apply, h]

/-- A sequence that succeeds does so because its parts do. -/
theorem bind_eq_ok {body : Keeping σ α} {next : α → Keeping σ β} {s u : σ} {b : β}
    (h : (body >>= next) s = (.ok b, u)) : ∃ a t, body s = (.ok a, t) ∧ next a t = (.ok b, u) := by
  rw [bind_apply] at h
  generalize body s = result at h
  obtain ⟨_ | a, t⟩ := result
  · cases h
  · exact ⟨a, t, rfl, h⟩

/-- A sequence whose second part succeeds fails as its first part does. -/
theorem error_of_bind {body : Keeping σ α} {next : α → Keeping σ β} {s t : σ} {f : Failure}
    (hnext : ∀ a t, (next a t).1.isOk = true) (h : (body >>= next) s = (.error f, t)) : body s = (.error f, t) := by
  rw [bind_apply] at h
  generalize body s = result at h ⊢
  obtain ⟨_ | a, u⟩ := result
  · cases h
    rfl
  · have hok := hnext a u
    change next a u = _ at h
    rw [h] at hok
    cases hok

/-- A result that is given changes nothing. -/
@[simp] theorem pure_apply (a : α) (s : σ) : (pure a : Keeping σ α) s = (.ok a, s) := rfl

/-- A failure that is raised changes nothing. -/
@[simp] theorem throw_apply (f : Failure) (s : σ) : (throw f : Keeping σ α) s = (.error f, s) := rfl

/-- Asking for the state gives it. -/
@[simp] theorem get_apply (s : σ) : (get : Keeping σ σ) s = (.ok s, s) := rfl

/-- Changing the state succeeds. -/
@[simp] theorem modify_apply (change : σ → σ) (s : σ) :
    (modify change : Keeping σ Unit) s = (.ok (), change s) := rfl

/-- Settling an outcome changes nothing. -/
@[simp] theorem settle_apply (outcome : Except Failure α) (s : σ) : settle outcome s = (outcome, s) := rfl

/-- Asking for the outcome of a computation succeeds, in the state that the computation leaves. -/
@[simp] theorem attempt_apply (body : Keeping σ α) (s : σ) :
    attempt body s = (.ok (body s).1, (body s).2) := rfl

/-- A computation on a part changes that part. -/
@[simp] theorem onPart_apply {τ : Type} (part : τ → σ) (put : σ → τ → τ) (body : Keeping σ α) (t : τ) :
    onPart part put body t = ((body (part t)).1, put (body (part t)).2 t) := rfl

/-! ## What a computation keeps -/

/-- Whatever state a computation starts in and however it ends, the state it leaves is related to the one
it started in. -/
def Keeps (R : σ → σ → Prop) (body : Keeping σ α) : Prop :=
  ∀ s, R s (body s).2

/-- What is kept by a change of the state. -/
theorem Keeps.modify {R : σ → σ → Prop} {change : σ → σ} (h : ∀ s, R s (change s)) :
    Keeps R (modify change : Keeping σ Unit) := h

/-- What the outcome of a computation keeps is what the computation keeps. -/
theorem Keeps.attempt {R : σ → σ → Prop} {body : Keeping σ α} (h : Keeps R body) :
    Keeps R (attempt body) := h

section

variable {R : σ → σ → Prop} [Std.Refl R]

/-- A result that is given keeps everything. -/
theorem Keeps.pure (a : α) : Keeps R (Pure.pure a : Keeping σ α) := Std.Refl.refl

/-- So does a failure that is raised. -/
theorem Keeps.throw (f : Failure) : Keeps R (MonadExcept.throw f : Keeping σ α) := Std.Refl.refl

/-- So does asking for the state. -/
theorem Keeps.get : Keeps R (MonadState.get : Keeping σ σ) := Std.Refl.refl

/-- So does settling an outcome. -/
theorem Keeps.settle (outcome : Except Failure α) : Keeps R (settle outcome : Keeping σ α) := Std.Refl.refl

end

/-- What is kept of a part is kept as the part is. -/
instance instIsPreorderInvImage {τ : Type} (part : τ → σ) {R : σ → σ → Prop} [IsPreorder σ R] :
    IsPreorder τ (InvImage R part) where
  refl t := Std.Refl.refl (part t)
  trans _ _ _ hfirst hsecond := IsTrans.trans _ _ _ hfirst hsecond

/-- A computation on a part keeps of the part what it keeps. -/
theorem Keeps.onPart {τ : Type} {part : τ → σ} {put : σ → τ → τ} {R : σ → σ → Prop}
    (hput : ∀ s t, part (put s t) = s) {body : Keeping σ α} (h : Keeps R body) :
    Keeps (InvImage R part) (onPart part put body) := by
  intro t
  have hpart := h (part t)
  simp only [InvImage, onPart_apply, hput]
  exact hpart

/-- A sequence keeps what its parts keep. -/
theorem Keeps.bind {R : σ → σ → Prop} [IsTrans σ R] {body : Keeping σ α} {next : α → Keeping σ β}
    (hbody : Keeps R body) (hnext : ∀ a, Keeps R (next a)) : Keeps R (body >>= next) := by
  intro s
  have hfirst := hbody s
  rw [bind_apply]
  generalize body s = result at hfirst
  obtain ⟨outcome, t⟩ := result
  cases outcome with
  | error f => exact hfirst
  | ok a => exact IsTrans.trans _ _ _ hfirst (hnext a t)

/-! ## What a computation succeeds with -/

/-- A computation succeeds from a state, with a result and a state of which something holds. -/
def Succeeds (body : Keeping σ α) (s : σ) (post : α → σ → Prop) : Prop :=
  ∃ a t, body s = (.ok a, t) ∧ post a t

/-- What holds of a success may be weakened. -/
theorem Succeeds.imp {body : Keeping σ α} {s : σ} {post last : α → σ → Prop} (h : Succeeds body s post)
    (himp : ∀ a t, post a t → last a t) : Succeeds body s last := by
  obtain ⟨a, t, hbody, hpost⟩ := h
  exact ⟨a, t, hbody, himp a t hpost⟩

/-- A sequence succeeds if its parts do. -/
theorem Succeeds.bind {body : Keeping σ α} {next : α → Keeping σ β} {s : σ} {post : α → σ → Prop}
    {last : β → σ → Prop} (hbody : Succeeds body s post)
    (hnext : ∀ a t, post a t → Succeeds (next a) t last) : Succeeds (body >>= next) s last := by
  obtain ⟨a, t, hfirst, hpost⟩ := hbody
  obtain ⟨b, u, hsecond, hlast⟩ := hnext a t hpost
  exact ⟨b, u, (bind_of_ok hfirst next).trans hsecond, hlast⟩

/-- A sequence succeeds if what follows the state does. -/
theorem Succeeds.of_get {next : σ → Keeping σ α} {s : σ} {post : α → σ → Prop} (h : Succeeds (next s) s post) :
    Succeeds (get >>= next) s post := h

/-- A sequence succeeds if what follows an outcome that is one of success does. -/
theorem Succeeds.of_settle {outcome : Except Failure α} {next : α → Keeping σ β} {s : σ} {post : β → σ → Prop}
    {a : α} (houtcome : outcome = .ok a) (h : Succeeds (next a) s post) :
    Succeeds (settle outcome >>= next) s post := by
  rw [houtcome]
  exact h

/-! ## Computations that cannot succeed -/

/-- A computation fails from every state. -/
def Fails (body : Keeping σ α) : Prop :=
  ∀ s, ∃ f, (body s).1 = .error f

/-- A sequence fails whose second part does. -/
theorem Fails.bind {body : Keeping σ α} {next : α → Keeping σ β} (hnext : ∀ a, Fails (next a)) :
    Fails (body >>= next) := by
  intro s
  rw [bind_apply]
  obtain ⟨outcome, t⟩ := body s
  cases outcome with
  | error f => exact ⟨f, rfl⟩
  | ok a => exact hnext a t

/-! ## What a computation ends as -/

variable {γ δ : Type}

/-- A computation ends as an outcome says: it succeeds, with a state that fits the result of the outcome, or it fails
as the outcome does, with a state that is fit for a failure. -/
def EndsAs (outcome : Except Failure α) (body : Keeping σ β) (s : σ) (post : α → σ → Prop) (stuck : σ → Prop) :
    Prop :=
  match outcome with
  | .ok a => Succeeds body s fun _ => post a
  | .error f => ∃ t, body s = (.error f, t) ∧ stuck t

variable {outcome : Except Failure α} {body : Keeping σ β} {s : σ} {post : α → σ → Prop} {stuck : σ → Prop}

/-- What holds of the states may be weakened, the outcome being known. -/
theorem EndsAs.imp {last : α → σ → Prop} {halted : σ → Prop} (h : EndsAs outcome body s post stuck)
    (hpost : ∀ a t, outcome = .ok a → post a t → last a t)
    (hstuck : ∀ f t, outcome = .error f → stuck t → halted t) : EndsAs outcome body s last halted := by
  cases outcome with
  | ok a => exact Succeeds.imp h fun _ t ht => hpost a t rfl ht
  | error f =>
    obtain ⟨t, hbody, ht⟩ := h
    exact ⟨t, hbody, hstuck f t rfl ht⟩

/-- It does not matter what a computation does from other states. -/
theorem EndsAs.of_eq {other : Keeping σ β} (hsame : body s = other s) (h : EndsAs outcome other s post stuck) :
    EndsAs outcome body s post stuck := by
  unfold EndsAs Succeeds at h ⊢
  rwa [hsame]

/-- A sequence ends as the sequence of the outcomes of its parts. -/
theorem EndsAs.bind {next : α → Except Failure γ} {follow : β → Keeping σ δ} {last : γ → σ → Prop}
    (h : EndsAs outcome body s post stuck)
    (hnext : ∀ a b t, post a t → EndsAs (next a) (follow b) t last stuck) :
    EndsAs (outcome >>= next) (body >>= follow) s last stuck := by
  cases outcome with
  | ok a =>
    obtain ⟨b, t, hbody, ht⟩ := h
    have hlast := hnext a b t ht
    change EndsAs (next a) (body >>= follow) s last stuck
    unfold EndsAs Succeeds at hlast ⊢
    rwa [bind_of_ok hbody]
  | error f =>
    obtain ⟨t, hbody, ht⟩ := h
    exact ⟨t, bind_of_error hbody follow, ht⟩

/-- What is settled ends as it is settled, and the sequence goes on if that is a result. -/
theorem EndsAs.of_settle {next : α → Except Failure γ} {follow : α → Keeping σ β} {last : γ → σ → Prop}
    (hstuck : stuck s) (hnext : ∀ a, outcome = .ok a → EndsAs (next a) (follow a) s last stuck) :
    EndsAs (outcome >>= next) (settle outcome >>= follow) s last stuck := by
  cases outcome with
  | ok a => exact hnext a rfl
  | error f => exact ⟨s, rfl, hstuck⟩

/-- What goes on with the state ends as it does with the state. -/
theorem EndsAs.of_get {next : σ → Keeping σ β} (h : EndsAs outcome (next s) s post stuck) :
    EndsAs outcome (get >>= next) s post stuck := h

/-- An outcome goes on with its result. -/
theorem EndsAs.of_ok {next : α → Except Failure γ} {last : γ → σ → Prop} {a : α} (houtcome : outcome = .ok a)
    (h : EndsAs (next a) body s last stuck) : EndsAs (outcome >>= next) body s last stuck := by
  rw [houtcome]
  exact h

/-- Sequences may be taken together. -/
theorem EndsAs.assoc {second : β → Keeping σ γ} {follow : γ → Keeping σ δ}
    (h : EndsAs outcome ((body >>= second) >>= follow) s post stuck) :
    EndsAs outcome (body >>= fun b => second b >>= follow) s post stuck := by
  rwa [bind_assoc] at h

/-- A part that succeeds does not show in the outcome. -/
theorem Succeeds.endsAs {follow : β → Keeping σ γ} {between : β → σ → Prop} (h : Succeeds body s between)
    (hnext : ∀ b t, between b t → EndsAs outcome (follow b) t post stuck) :
    EndsAs outcome (body >>= follow) s post stuck := by
  obtain ⟨b, t, hbody, ht⟩ := h
  have hlast := hnext b t ht
  unfold EndsAs Succeeds at hlast ⊢
  rwa [bind_of_ok hbody]

/-- What is done behind a part and succeeds does not show in the outcome either. -/
theorem EndsAs.andThen {follow : β → Keeping σ γ} {last : α → σ → Prop} (h : EndsAs outcome body s post stuck)
    (hnext : ∀ a b t, post a t → Succeeds (follow b) t fun _ => last a) :
    EndsAs outcome (body >>= follow) s last stuck := by
  cases outcome with
  | ok a => exact Succeeds.bind h (hnext a)
  | error f =>
    obtain ⟨t, hbody, ht⟩ := h
    exact ⟨t, bind_of_error hbody follow, ht⟩

/-- An outcome whose result is carried over. -/
theorem EndsAs.map {carry : α → γ} {last : γ → σ → Prop} (h : EndsAs outcome body s (fun a => last (carry a)) stuck) :
    EndsAs (outcome >>= fun a => .ok (carry a)) body s last stuck := by
  cases outcome with
  | ok a => exact h
  | error f => exact h

end SchemaAtlas.Keeping
