import SchemaAtlas.Proofs.Session.Delivery

/-!
# Which attempts a batch makes

An attempt is followed by another exactly if it failed for a transient reason and was not the last one
allowed. A batch that fails before it delivers anything fails as its last attempt did: with a failed
transaction that carries the attempt's own code and kind, with a failed rollback, with what closing the
connection raised, or with the failure that stood in the place of a connection.
-/

namespace SchemaAtlas.Batch

/-- The failure of an answer that is no connection tells of no failed transaction. -/
theorem transience?_of_answerAt {answers : List (Except Failure Connection)}
    (hplain : ∀ f, .error f ∈ answers → f.transience? = none) {i : Nat} {f : Failure}
    (h : answerAt answers i = .error f) : f.transience? = none := by
  rw [answerAt, List.getD_eq_getElem?_getD] at h
  cases hget : answers[i]? with
  | none =>
    rw [hget] at h
    obtain rfl : Pool.empty = f := Except.error.inj h
    rfl
  | some answer =>
    rw [hget] at h
    obtain rfl : answer = .error f := h
    exact hplain f (List.mem_of_getElem? hget)

/-- If the pool itself tells of no failed transaction, only connections lead to other attempts. -/
theorem asksAgain_iff {policy : Policy} {statements : List Statement}
    {answers : List (Except Failure Connection)}
    (hplain : ∀ f, .error f ∈ answers → f.transience? = none) (i : Nat) :
    AsksAgain policy statements (answerAt answers i) ↔
      ∃ c, answerAt answers i = .ok c ∧ FailsTransiently policy statements c := by
  cases hanswer : answerAt answers i with
  | error f => simp [AsksAgain, retryable?_of_transience? (transience?_of_answerAt hplain hanswer)]
  | ok c => simp [AsksAgain]

/-! ## How a failed attempt is told -/

/-- What a failed transaction is told as when its connection closes. Failures of the database layer are
told with the code and the kind they carry; a failed rollback is told in the place of what it was to undo,
and never as worth another attempt. -/
structure ToldAs (policy : Policy) (statements : List Statement) (c : Connection) (f told : Failure) :
    Prop where
  transaction : (rollbackDue policy statements c = true → c.rollbackFailure = none) → f.isDatabase = true →
    ∃ facts text, told = .becauseOf (.transaction facts) text f ∧
      (∀ code, facts.sqlstate = some code ↔ f.CarriesCode code) ∧
      facts.kind = (facts.sqlstate.bind fun code => policy.transient.lookup code).map TransientKind.text ∧
      (facts.retryable = true ↔ FailsTransiently policy statements c)
  other : (rollbackDue policy statements c = true → c.rollbackFailure = none) → f.isDatabase = false →
    told = f
  rollback : ∀ r, rollbackDue policy statements c = true → c.rollbackFailure = some r → r.isDatabase = true →
    ∃ facts text, told = .becauseOf (.rollback facts) text r ∧
      (∀ code, facts.sqlstate = some code ↔ r.CarriesCode code) ∧ facts.retryable = false
  otherRollback : ∀ r, rollbackDue policy statements c = true → c.rollbackFailure = some r →
    r.isDatabase = false → told = r

/-- Without a failing rollback, what failed the transaction is told. -/
theorem abandonedFailure_of_rollback {policy : Policy} {statements : List Statement} {c : Connection}
    (h : rollbackDue policy statements c = true → c.rollbackFailure = none) (f : Failure) :
    abandonedFailure policy statements c f = toldFailure policy f := by
  cases hdue : rollbackDue policy statements c with
  | false => simp [abandonedFailure, hdue]
  | true => simp [abandonedFailure, h hdue]

/-- A failed transaction is told as it should be. -/
theorem toldAs_abandonedFailure {policy : Policy} {statements : List Statement} {c : Connection} {f : Failure}
    (hf : transactionFailure policy statements c = some f) (hclose : c.closeFailure = none) :
    ToldAs policy statements c f (abandonedFailure policy statements c f) where
  transaction := by
    intro hrollback hdatabase
    rw [abandonedFailure_of_rollback hrollback, toldFailure, if_pos hdatabase]
    refine ⟨_, _, rfl, fun code => Failure.sqlstate_eq_some_iff hdatabase code, rfl, ?_⟩
    rw [transientKind_isSome_iff_carriesCode policy hdatabase]
    constructor
    · rintro ⟨code, hcode, hknown⟩
      exact ⟨f, code, hf, hcode, hknown, hrollback, hclose⟩
    · rintro ⟨g, code, hg, hcode, hknown, -, -⟩
      obtain rfl : f = g := Option.some.inj (hf.symm.trans hg)
      exact ⟨code, hcode, hknown⟩
  other := by
    intro hrollback hdatabase
    rw [abandonedFailure_of_rollback hrollback, toldFailure, hdatabase]
    rfl
  rollback := by
    intro r hdue hr hdatabase
    have htold : abandonedFailure policy statements c f = rollbackFailed r := by
      simp only [abandonedFailure, hdue, hr, toldRollback, hdatabase, if_true]
    rw [htold]
    exact ⟨_, _, rfl, fun code => Failure.sqlstate_eq_some_iff hdatabase code, rfl⟩
  otherRollback := by
    intro r hdue hr hdatabase
    simp [abandonedFailure, hdue, hr, toldRollback, hdatabase]

/-! ## A batch -/

/-- How a batch decides on its attempts, and how it fails before it delivers anything. Attempts are counted
from zero; each is made on the answer of the pool at its place. -/
structure Decides (policy : Policy) (statements : List Statement) (before : State Pool) (made : Nat)
    (outcome : Except Failure Unit) (after : State Pool) : Prop where
  bounded : 1 ≤ made ∧ made ≤ policy.maxAttempts
  acquired : after.supply.acquired = before.supply.acquired + made
  fresh : after.supply.waiting = before.supply.waiting.drop made ∧
    ∃ links, after.supply.links = before.supply.links ++ links ∧
      links.map useOf = usesOf policy statements (before.supply.waiting.take made)
  followed : ∀ i, i + 1 < made ↔ i < made ∧ i + 1 < policy.maxAttempts ∧
    ∃ c, answerAt before.supply.waiting i = .ok c ∧ FailsTransiently policy statements c
  spent : ∀ c, answerAt before.supply.waiting (made - 1) = .ok c → FailsTransiently policy statements c →
    made = policy.maxAttempts
  refused : ∀ f, answerAt before.supply.waiting (made - 1) = .error f → outcome = .error f
  told : ∀ c f, answerAt before.supply.waiting (made - 1) = .ok c → c.closeFailure = none →
    transactionFailure policy statements c = some f →
    ∃ told, outcome = .error told ∧ ToldAs policy statements c f told
  closing : ∀ c g, answerAt before.supply.waiting (made - 1) = .ok c → c.closeFailure = some g →
    outcome = .error g ∨ ∃ earlier, outcome = .error (g.during earlier)
  undelivered : ∀ f, outcome = .error f → after.delivered = before.delivered →
    outcomeOn policy statements (answerAt before.supply.waiting (made - 1)) = .error f

/-- What a last attempt comes to when its connection closes. -/
theorem attemptOutcome_of_closes {policy : Policy} {statements : List Statement} {c : Connection}
    {f : Failure} (hclose : c.closeFailure = none) (hf : transactionFailure policy statements c = some f) :
    attemptOutcome policy statements c = .error (abandonedFailure policy statements c f) := by
  simp [attemptOutcome, hclose, hf, Link.outcome, Failure.afterwards]

/-- A failure of closing the connection is what the attempt comes to. -/
theorem attemptOutcome_of_closeFailure (policy : Policy) (statements : List Statement) {c : Connection}
    {g : Failure} (hclose : c.closeFailure = some g) :
    attemptOutcome policy statements c = .error g ∨
      ∃ earlier, attemptOutcome policy statements c = .error (g.during earlier) := by
  cases hf : transactionFailure policy statements c with
  | none =>
    left
    simp [attemptOutcome, hclose, hf, Link.outcome, Failure.afterwards]
  | some f =>
    right
    exact ⟨abandonedFailure policy statements c f, by
      simp [attemptOutcome, hclose, hf, Link.outcome, Failure.afterwards]⟩

/-- A batch fails as its last attempt did; it fails otherwise only once a consumer was called. -/
theorem run_outcome {policy : Policy} (consumers : Consumers) {statements : List (StatementId × Statement)}
    {state between : State Pool} {outcome : Except Failure Unit}
    (hloop : attempts Pool.supplier policy statements policy.maxAttempts 1 state = (outcome, between))
    {result : Except Failure Unit × State Pool}
    (hresult : run Pool.supplier policy consumers statements state = result) :
    result.2.supply = between.supply ∧ (∀ f, outcome = .error f → result.1 = .error f) ∧
      (∀ f, result.1 = .error f → result.2.delivered = between.delivered → outcome = .error f) := by
  subst hresult
  cases outcome with
  | error g =>
    rw [run_of_error hloop]
    exact ⟨rfl, fun f hf => hf, fun f hf _ => hf⟩
  | ok _ =>
    obtain ⟨calls, hreceived, hafter⟩ := deliver_received consumers (statements.map Prod.fst) between
    rw [run_of_ok hloop, hafter]
    refine ⟨rfl, nofun, ?_⟩
    intro f hf hnone
    obtain rfl : calls = [] := by simpa using hnone
    -- Without a call there is no consumer that fails.
    rw [hf] at hreceived
    exact absurd hreceived (not_received_error consumers _ f)

/-- A batch whose pool tells of no failed transactions itself makes another attempt exactly if one failed
for a transient reason and was not the last one allowed, each on a connection of its own; if it fails
before any delivery, it fails as its last attempt did. -/
theorem run_decides {policy : Policy} (consumers : Consumers) (statements : List (StatementId × Statement))
    {state : State Pool} (hattempts : 1 ≤ policy.maxAttempts)
    (hsupplier : ∀ f, .error f ∈ state.supply.waiting → f.transience? = none)
    (hplain : ∀ c, .ok c ∈ state.supply.waiting → ∀ f, c.raises f → f.transience? = none) :
    ∃ made, Decides policy (statements.map Prod.snd) state made
      (run Pool.supplier policy consumers statements state).1
      (run Pool.supplier policy consumers statements state).2 := by
  obtain ⟨left, hleft⟩ : ∃ left, policy.maxAttempts = left + 1 := ⟨policy.maxAttempts - 1, by omega⟩
  obtain ⟨made, hmade, hbound, hcourse, hstop⟩ := attempts_course statements left 1 hplain
  rw [← hleft] at hcourse hbound
  cases hloop : attempts Pool.supplier policy statements policy.maxAttempts 1 state with
  | mk outcome between =>
    rw [hloop] at hcourse
    obtain ⟨hsupply, hfails, hundelivered⟩ := run_outcome consumers hloop rfl
    generalize run Pool.supplier policy consumers statements state = result at *
    obtain ⟨final, after⟩ := result
    have hended (c : Connection) (hc : answerAt state.supply.waiting (made - 1) = .ok c) :
        outcome = attemptOutcome policy (statements.map Prod.snd) c := by
      have hended := hcourse.ended
      rwa [hc] at hended
    have hspent : AsksAgain policy (statements.map Prod.snd) (answerAt state.supply.waiting (made - 1)) →
        made = policy.maxAttempts := by
      intro hagain
      by_contra hless
      exact hstop (by omega) hagain
    refine ⟨made, {
      bounded := ⟨hmade, hbound⟩
      acquired := by rw [hsupply, hcourse.acquired]
      fresh := by
        rw [hsupply]
        exact ⟨hcourse.waiting, hcourse.used⟩
      followed := ?_
      spent := ?_
      refused := ?_
      told := ?_
      closing := ?_
      undelivered := ?_ }⟩
    · intro i
      rw [← asksAgain_iff hsupplier]
      constructor
      · intro hi
        exact ⟨by omega, by omega, hcourse.followed i hi⟩
      · rintro ⟨hi, hallowed, hagain⟩
        by_contra hlast
        obtain rfl : i = made - 1 := by omega
        have hall := hspent hagain
        omega
    · intro c hc htransient
      exact hspent (hc ▸ htransient)
    · intro f hf
      refine hfails f (hcourse.ended.trans ?_)
      rw [hf]
      rfl
    · intro c f hc hclose hf
      have houtcome := (hended c hc).trans (attemptOutcome_of_closes hclose hf)
      exact ⟨_, hfails _ houtcome, toldAs_abandonedFailure hf hclose⟩
    · intro c g hc hclose
      obtain hg | ⟨earlier, hg⟩ := attemptOutcome_of_closeFailure policy (statements.map Prod.snd) hclose
      · exact .inl (hfails g ((hended c hc).trans hg))
      · exact .inr ⟨earlier, hfails _ ((hended c hc).trans hg)⟩
    · intro f hf hnone
      apply hcourse.ended.symm.trans
      exact hundelivered f hf (hnone.trans hcourse.delivered.symm)

/-- A batch whose first attempt fails on its commit makes a second one. -/
theorem run_decides_retried :
    let deadlock : Failure := .database "OperationalError" "deadlock" [.text "40001"] []
    let first : Connection := { script := [.rows [.ok [.int 7]] (.int 1)], commitFailure := some deadlock }
    let second : Connection := { script := [.rows [.ok [.int 8]] (.int 1)] }
    let state : State Pool := { supply := { waiting := [.ok first, .ok second] }, keys := [[3]] }
    let result := run Pool.supplier {} (fun _ => none) [(0, { statement := "INSERT INTO t VALUES (1)" })] state
    (∃ made, Decides {} [{ statement := "INSERT INTO t VALUES (1)" }] state made result.1 result.2) ∧
      result.2.supply.acquired = 2 := by
  intro deadlock first second state result
  refine ⟨@run_decides {} _ [(0, _)] state (by decide) ?_ ?_, by decide +revert +kernel⟩
  · intro f hf
    simp [state] at hf
  · intro c hc f hf
    have hcases : c = first ∨ c = second := by simpa [state] using hc
    rcases hcases with rfl | rfl
    · obtain rfl : deadlock = f := by simpa [first, Connection.raises, Reply.raises] using hf
      rfl
    · simp [second, Connection.raises, Reply.raises] at hf

end SchemaAtlas.Batch
