import SchemaAtlas.Proofs.Failure.Keeping
import SchemaAtlas.Proofs.Session.Trace
import SchemaAtlas.Session.Deferred

/-!
# How a supplier is used

Whoever uses a supplier as it is meant to be used asks for a connection, uses it, and hands it back before
asking for another. What holds of each such use, of each refusal and of each line that is logged holds of
everything that queries and batches do with the supplier.
-/

namespace SchemaAtlas

variable {σ α : Type} {R : σ → σ → Prop}

/-- A supplier hands out fresh connections. The state is related to the one before by a request that is
refused, by a request together with the return of the connection, used in a certain way, and by a line
that is logged. -/
structure Supplier.Keeps (supplier : Supplier σ) (R : σ → σ → Prop) (Used : Connection → Link → Prop) :
    Prop where
  refused : ∀ s f, (supplier.acquire s).1 = .error f → R s (supplier.acquire s).2
  used : ∀ s link, (supplier.acquire s).1 = .ok link → ∃ c, link = Link.fresh c ∧
    ∀ after, Used c after → R s (supplier.giveBack after (supplier.acquire s).2).2
  logs : ∀ entry, Keeping.Keeps R (supplier.log entry)

namespace Supplier

variable {supplier : Supplier σ}

/-- A supplier keeps as much of a use of a narrower kind. -/
theorem Keeps.narrow {Used Narrow : Connection → Link → Prop} (h : supplier.Keeps R Used)
    (hnarrow : ∀ c link, Narrow c link → Used c link) : supplier.Keeps R Narrow where
  refused := h.refused
  used s link hlink := by
    obtain ⟨c, hfresh, hreturned⟩ := h.used s link hlink
    exact ⟨c, hfresh, fun after hafter => hreturned after (hnarrow c after hafter)⟩
  logs := h.logs

/-- Asking for a connection, using it and handing it back keeps what the supplier keeps of such a use. -/
theorem keeps_use {Used : Connection → Link → Prop} [IsTrans σ R] (h : supplier.Keeps R Used)
    (use : Link → Link) {rest : Link → Keeping σ α} (huse : ∀ c, Used c (use (Link.fresh c)))
    (hrest : ∀ link, Keeping.Keeps R (rest link)) :
    Keeping.Keeps R (do
      let link ← supplier.acquire
      supplier.giveBack (use link)
      rest link) := by
  intro s
  have hrefused := h.refused s
  have hused := h.used s
  simp only [Keeping.bind_apply]
  generalize supplier.acquire s = answer at hrefused hused
  obtain ⟨_ | link, t⟩ := answer
  · exact hrefused _ rfl
  · obtain ⟨c, rfl, hreturned⟩ := hused link rfl
    have hafter := hreturned _ (huse c)
    simp only
    generalize supplier.giveBack (use (Link.fresh c)) t = left at hafter ⊢
    obtain ⟨_ | _, u⟩ := left
    · exact hafter
    · exact IsTrans.trans _ _ _ hafter (hrest _ u)

/-- So does all that is done with one connection, which is closed before it is handed back. -/
theorem keeps_withLink {Used : Connection → Link → Prop} [IsPreorder σ R]
    (h : supplier.Keeps R Used) (use : Link → Except Failure α × Link)
    (huse : ∀ c, Used c (use (Link.fresh c)).2.close.2) : Keeping.Keeps R (supplier.withLink use) :=
  keeps_use h (fun link => (use link).2.close.2) huse fun _ => Keeping.Keeps.settle _

/-- Logging errors keeps what logging a line keeps. -/
theorem keeps_errors {Used : Connection → Link → Prop} [IsPreorder σ R]
    (h : supplier.Keeps R Used) (texts : List String) :
    Keeping.Keeps R (texts.forM supplier.error : Keeping σ Unit) := by
  induction texts with
  | nil => exact Keeping.Keeps.pure ()
  | cons text rest ih => exact (h.logs ⟨.error, text⟩).bind fun _ => ih

end Supplier

/-- A query uses one connection, which is closed after its statement was run. -/
theorem Query.keeps_run {supplier : Supplier σ} {Used : Connection → Link → Prop} [IsPreorder σ R]
    (h : supplier.Keeps R Used) (query : Query) (mapper : List Value → Except Failure Value)
    (huse : ∀ c, Used c (query.read mapper (Link.fresh c)).2.close.2) :
    Keeping.Keeps R (query.run supplier mapper) := by
  have hlink := (Supplier.keeps_withLink h (query.read mapper) huse).attempt
  apply hlink.bind
  intro outcome
  cases outcome with
  | ok rows => exact Keeping.Keeps.pure rows
  | error f =>
    simp only
    split
    · exact (h.logs _).bind fun _ => Keeping.Keeps.throw _
    · exact Keeping.Keeps.throw _

/-- A deferred query that is streamed uses one as well, unless it is running already. -/
theorem Deferred.keeps_stream {supplier : Supplier σ} {Used : Connection → Link → Prop} [IsPreorder σ R]
    (h : supplier.Keeps R Used) (deferred : Deferred)
    (huse : ∀ mapper c, Used c (deferred.query.read mapper (Link.fresh c)).2.close.2) :
    Keeping.Keeps R (deferred.stream supplier) := by
  unfold stream
  cases deferred.admits with
  | error f => exact Keeping.Keeps.pure _
  | ok _ =>
    apply (Query.keeps_run h deferred.query _ (huse _)).attempt.bind
    intro outcome
    cases outcome <;> exact Keeping.Keeps.pure _

namespace Batch

/-- How an attempt uses a connection. -/
def Attempted (policy : Policy) (statements : List Statement) (c : Connection) (link : Link) : Prop :=
  link.connection = c ∧ Traced policy statements c link.actions

/-- A computation of the supplier keeps of its state what it keeps. -/
theorem keeps_onSupply {body : Keeping σ α} (h : Keeping.Keeps R body) :
    Keeping.Keeps (InvImage R State.supply) (onSupply body) :=
  h.onPart fun _ _ => rfl

section

variable {supplier : Supplier σ} [IsPreorder σ R] {policy : Policy}
  {statements : List (StatementId × Statement)}
  (h : supplier.Keeps R (Attempted policy (statements.map Prod.snd)))

include h

/-- An attempt is one use of a connection. -/
theorem keeps_attempt : Keeping.Keeps (InvImage R State.supply) (attempt supplier policy statements) := by
  intro state
  have hrefused := h.refused state.supply
  have hused := h.used state.supply
  simp only [attempt, onSupply, Keeping.bind_apply, Keeping.modify_apply, Keeping.onPart_apply,
    Keeping.get_apply]
  generalize supplier.acquire state.supply = answer at hrefused hused
  obtain ⟨_ | link, t⟩ := answer
  · exact hrefused _ rfl
  · obtain ⟨c, rfl, hreturned⟩ := hused link rfl
    obtain ⟨-, hconnection, hactions, -⟩ :=
      attemptOn_fresh policy statements c (state.keys.clear (statements.map Prod.fst))
    simp only [InvImage]
    generalize attemptOn policy statements _ = made at hconnection hactions ⊢
    obtain ⟨logged, outcome, work⟩ := made
    simp only at hconnection hactions
    have htraced : Traced policy (statements.map Prod.snd) c work.link.actions :=
      hactions ▸ traced_attemptActions policy _ c
    have hafter := hreturned work.link ⟨hconnection, htraced⟩
    simp only
    generalize supplier.giveBack work.link t = left at hafter ⊢
    obtain ⟨_ | _, u⟩ := left
    · exact hafter
    · have hlogged := (Supplier.keeps_errors h logged).bind fun _ => Keeping.Keeps.settle outcome
      refine IsTrans.trans _ _ _ hafter ?_
      simpa only [Keeping.bind_apply] using hlogged u

/-- So are all attempts of a loop. -/
theorem keeps_attempts (left number : Nat) :
    Keeping.Keeps (InvImage R State.supply) (attempts supplier policy statements left number) := by
  induction left generalizing number with
  | zero => exact Keeping.Keeps.pure ()
  | succ left ih =>
    apply (keeps_attempt h).attempt.bind
    intro outcome
    cases outcome with
    | ok _ => exact Keeping.Keeps.pure ()
    | error f =>
      simp only
      split
      · exact (keeps_onSupply (h.logs _)).bind fun _ => ih (number + 1)
      · exact Keeping.Keeps.throw f

omit h in
/-- Delivering keys uses no connection. -/
theorem keeps_deliver (consumers : Consumers) (ids : List StatementId) :
    Keeping.Keeps (InvImage R (State.supply : State σ → σ)) (deliver consumers ids) := by
  intro state
  have hsame : (deliver consumers ids state).2.supply = state.supply := by
    induction ids generalizing state with
    | nil => rfl
    | cons id rest ih =>
      simp only [deliver]
      cases consumers id with
      | none => exact ih state
      | some consumer =>
        simp only [Keeping.bind_apply, Keeping.get_apply, Keeping.modify_apply, Keeping.settle_apply]
        cases consumer (state.keys.of id) with
        | error f => rfl
        | ok _ => exact ih _
  simp only [InvImage, hsame]
  exact Std.Refl.refl _

/-- A batch uses connections one after the other. -/
theorem keeps_run (consumers : Consumers) :
    Keeping.Keeps (InvImage R State.supply) (run supplier policy consumers statements) :=
  (keeps_attempts h policy.maxAttempts 1).bind fun _ => keeps_deliver consumers _

end

end Batch

end SchemaAtlas
