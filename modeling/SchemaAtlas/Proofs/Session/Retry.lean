import SchemaAtlas.Proofs.Failure.Keeping
import SchemaAtlas.Proofs.Session.Transient

/-!
# How a batch is tried

A batch is tried on one connection after the other, each of which is the next answer of a pool. An attempt
follows another exactly if that one failed for a transient reason and attempts are left. The loop is
followed attempt by attempt; its course is told from the answers alone.
-/

namespace SchemaAtlas.Batch

/-- The answer that a pool gives at some place; behind its last answer it is empty. -/
def answerAt (answers : List (Except Failure Connection)) (i : Nat) : Except Failure Connection :=
  answers.getD i (.error Pool.empty)

/-- What an attempt comes to, given the answer of the pool. -/
def outcomeOn (policy : Policy) (statements : List Statement) (answer : Except Failure Connection) :
    Except Failure Unit :=
  answer.bind (attemptOutcome policy statements)

/-- Whether an answer of the pool leads to another attempt: a connection on which the attempt fails for a
transient reason, or a failure that tells of such an attempt itself. -/
def AsksAgain (policy : Policy) (statements : List Statement) : Except Failure Connection → Prop
  | .error f => (retryable? f).isSome
  | .ok c => FailsTransiently policy statements c

/-- What was done on the connections among some answers. -/
def usesOf (policy : Policy) (statements : List Statement) (answers : List (Except Failure Connection)) :
    List (Connection × List Action) :=
  (answers.filterMap Except.toOption).map fun c => (c, attemptActions policy statements c)

/-- What was done on a connection in use. -/
def useOf (link : Link) : Connection × List Action :=
  (link.connection, link.actions)

/-! ## One attempt -/

/-- Errors are logged one after the other. -/
theorem forM_error (texts : List String) (pool : Pool) :
    (texts.forM Pool.supplier.error : Keeping Pool Unit) pool =
      (.ok (), { pool with log := pool.log ++ texts.map (⟨.error, ·⟩) }) := by
  induction texts generalizing pool with
  | nil =>
    rw [List.map_nil, List.append_nil]
    rfl
  | cons text rest ih =>
    have hfirst : Pool.supplier.error text pool =
        (.ok (), { pool with log := pool.log ++ [⟨.error, text⟩] }) := rfl
    change (Pool.supplier.error text >>= fun _ => rest.forM Pool.supplier.error) pool = _
    rw [Keeping.bind_of_ok hfirst, ih]
    simp

/-- An attempt without a connection fails as the pool did. -/
theorem attempt_refused (policy : Policy) (statements : List (StatementId × Statement)) {state : State Pool}
    {f : Failure} (h : answerAt state.supply.waiting 0 = .error f) :
    attempt Pool.supplier policy statements state =
      (.error f, { state with
        supply := { state.supply with
          waiting := state.supply.waiting.tail, acquired := state.supply.acquired + 1 },
        keys := state.keys.clear (statements.map Prod.fst) }) := by
  obtain ⟨⟨waiting, links, acquired, log⟩, keys, delivered⟩ := state
  match waiting with
  | [] =>
    obtain rfl : Pool.empty = f := Except.error.inj h
    rfl
  | .error g :: rest =>
    obtain rfl : g = f := Except.error.inj h
    rfl
  | .ok c :: rest => cases h

/-- An attempt with a connection is made on it, and hands it back. -/
theorem attempt_supplied (policy : Policy) (statements : List (StatementId × Statement)) {state : State Pool}
    {c : Connection} (h : answerAt state.supply.waiting 0 = .ok c) :
    attempt Pool.supplier policy statements state =
      let made := attemptOn policy statements
        { link := Link.fresh c, keys := state.keys.clear (statements.map Prod.fst) }
      (made.2.1, { state with
        supply :=
          { waiting := state.supply.waiting.tail, links := state.supply.links ++ [made.2.2.link],
            acquired := state.supply.acquired + 1,
            log := state.supply.log ++ made.1.map (⟨.error, ·⟩) },
        keys := made.2.2.keys }) := by
  obtain ⟨⟨waiting, links, acquired, log⟩, keys, delivered⟩ := state
  match waiting with
  | [] => cases h
  | .error g :: rest => cases h
  | .ok d :: rest =>
    obtain rfl : d = c := Except.ok.inj h
    have hacquire : Pool.supplier.acquire { waiting := .ok d :: rest, links, acquired, log } =
        (.ok (Link.fresh d), { waiting := rest, links, acquired := acquired + 1, log }) := rfl
    have hgiveBack (link : Link) (pool : Pool) : Pool.supplier.giveBack link pool =
        (.ok (), { pool with links := pool.links ++ [link] }) := rfl
    simp only [attempt, onSupply, Keeping.bind_apply, Keeping.modify_apply, Keeping.onPart_apply,
      Keeping.get_apply, Keeping.settle_apply, hacquire, hgiveBack, forM_error]
    rfl

/-! ## The loop -/

/-- The course of a loop that makes a number of attempts: how it leaves the pool, what was done on the
connections, why each attempt but the last was followed by another, and what the last one comes to. -/
structure Course (policy : Policy) (statements : List (StatementId × Statement)) (made : Nat)
    (before : State Pool) (outcome : Except Failure Unit) (after : State Pool) : Prop where
  acquired : after.supply.acquired = before.supply.acquired + made
  waiting : after.supply.waiting = before.supply.waiting.drop made
  delivered : after.delivered = before.delivered
  known : after.keys.length = before.keys.length
  used : ∃ links, after.supply.links = before.supply.links ++ links ∧
    links.map useOf = usesOf policy (statements.map Prod.snd) (before.supply.waiting.take made)
  followed : ∀ i, i + 1 < made →
    AsksAgain policy (statements.map Prod.snd) (answerAt before.supply.waiting i)
  ended : outcome = outcomeOn policy (statements.map Prod.snd) (answerAt before.supply.waiting (made - 1))
  harvested : outcome = .ok () → ∃ c keys, answerAt before.supply.waiting (made - 1) = .ok c ∧
    Harvests policy (statements.map Prod.snd) c.script keys ∧
    ∃ earlier : Keys, earlier.length = before.keys.length ∧
      after.keys = (earlier.clear (statements.map Prod.fst)).addAll ((statements.map Prod.fst).zip keys)

/-- An attempt that succeeds commits, and closes its connection. -/
theorem attemptOutcome_eq_ok_iff (policy : Policy) (statements : List Statement) (c : Connection) :
    attemptOutcome policy statements c = .ok () ↔
      transactionFailure policy statements c = none ∧ c.closeFailure = none := by
  cases hclose : c.closeFailure <;> cases htransaction : transactionFailure policy statements c <;>
    simp [attemptOutcome, hclose, htransaction, Link.outcome, Failure.afterwards]

/-- What was done on the connections among answers is done answer by answer. -/
theorem usesOf_append (policy : Policy) (statements : List Statement)
    (first second : List (Except Failure Connection)) :
    usesOf policy statements (first ++ second) =
      usesOf policy statements first ++ usesOf policy statements second := by
  simp [usesOf]

/-- What was done on the connection of the first answer, if it is one. -/
theorem usesOf_take_one (policy : Policy) (statements : List Statement)
    (answers : List (Except Failure Connection)) :
    usesOf policy statements (answers.take 1) =
      match answerAt answers 0 with
      | .ok c => [(c, attemptActions policy statements c)]
      | .error _ => [] := by
  match answers with
  | [] => rfl
  | .error f :: rest => rfl
  | .ok c :: rest => rfl

/-- A single attempt is the course of a loop of one. -/
theorem attempt_course (policy : Policy) (statements : List (StatementId × Statement)) (state : State Pool) :
    Course policy statements 1 state (attempt Pool.supplier policy statements state).1
      (attempt Pool.supplier policy statements state).2 := by
  cases hanswer : answerAt state.supply.waiting 0 with
  | error f =>
    rw [attempt_refused policy statements hanswer]
    exact {
      acquired := rfl
      waiting := by simp
      delivered := rfl
      known := by simp
      used := ⟨[], by simp, by rw [usesOf_take_one, hanswer]; rfl⟩
      followed := by omega
      ended := by rw [Nat.sub_self, hanswer]; rfl
      harvested := by simp }
  | ok c =>
    have hkeys := transact_keys policy statements (c := c) (state.keys.clear (statements.map Prod.fst))
    obtain ⟨houtcome, hconnection, hactions, hgathered⟩ :=
      attemptOn_fresh policy statements c (state.keys.clear (statements.map Prod.fst))
    rw [attempt_supplied policy statements hanswer]
    exact {
      acquired := rfl
      waiting := by simp
      delivered := rfl
      known := (congrArg List.length hgathered).trans (by rw [transact_known, Keys.length_clear])
      used := ⟨[_], rfl, by rw [usesOf_take_one, hanswer]; simp [useOf, hconnection, hactions]⟩
      followed := by omega
      ended := by rw [Nat.sub_self, hanswer]; exact houtcome
      harvested := by
        intro hok
        obtain ⟨htransaction, -⟩ := (attemptOutcome_eq_ok_iff policy _ c).mp (houtcome.symm.trans hok)
        obtain ⟨keys, hharvest, hadded⟩ := hkeys htransaction
        exact ⟨c, keys, hanswer, hharvest, state.keys, rfl, hgathered.trans hadded⟩ }

/-- Logging leaves everything but the log as it was. -/
theorem log_apply (entry : LogEntry) (state : State Pool) :
    onSupply (Pool.supplier.log entry) state =
      (.ok (), { state with supply := { state.supply with log := state.supply.log ++ [entry] } }) := rfl

/-- A loop ends with an attempt that succeeds. -/
theorem attempts_of_ok {policy : Policy} {statements : List (StatementId × Statement)} {state done : State Pool}
    (h : attempt Pool.supplier policy statements state = (.ok (), done)) (left number : Nat) :
    attempts Pool.supplier policy statements (left + 1) number state = (.ok (), done) := by
  rw [attempts, Keeping.bind_apply]
  simp [h]

/-- A loop ends with an attempt that fails for good, or is the last. -/
theorem attempts_of_stop {policy : Policy} {statements : List (StatementId × Statement)}
    {state done : State Pool} {f : Failure}
    (h : attempt Pool.supplier policy statements state = (.error f, done)) {left : Nat}
    (hstop : retryable? f = none ∨ left = 0) (number : Nat) :
    attempts Pool.supplier policy statements (left + 1) number state = (.error f, done) := by
  rw [attempts, Keeping.bind_apply]
  simp only [Keeping.attempt_apply, h]
  rcases hstop with hnone | rfl
  · simp [hnone]
  · cases retryable? f <;> rfl

/-- Otherwise it goes on, once it has logged why. -/
theorem attempts_of_retry {policy : Policy} {statements : List (StatementId × Statement)}
    {state failed : State Pool} {f : Failure}
    (h : attempt Pool.supplier policy statements state = (.error f, failed)) {facts : Transience}
    (hretry : retryable? f = some facts) (left number : Nat) :
    attempts Pool.supplier policy statements (left + 2) number state =
      attempts Pool.supplier policy statements (left + 1) (number + 1)
        { failed with supply := { failed.supply with
          log := failed.supply.log ++ [⟨.warning, retryText facts number policy.maxAttempts⟩] } } := by
  rw [attempts, Keeping.bind_apply]
  simp only [Keeping.attempt_apply, h, hretry]
  rw [Keeping.bind_of_ok (log_apply _ _)]

/-- The answers behind the first are those of the pool after one attempt. -/
theorem answerAt_tail (answers : List (Except Failure Connection)) (i : Nat) :
    answerAt answers.tail i = answerAt answers (i + 1) := by
  cases answers <;> simp [answerAt]

/-- A loop whose first attempt leads to another goes on as the loop behind that attempt. -/
theorem Course.cons {policy : Policy} {statements : List (StatementId × Statement)} {made : Nat}
    {before between after : State Pool} {failed outcome : Except Failure Unit} {entries : List LogEntry}
    (hagain : AsksAgain policy (statements.map Prod.snd) (answerAt before.supply.waiting 0)) (hmade : 1 ≤ made)
    (hfirst : Course policy statements 1 before failed between)
    (hrest : Course policy statements made
      { between with supply := { between.supply with log := between.supply.log ++ entries } } outcome after) :
    Course policy statements (made + 1) before outcome after := by
  have hwaiting : between.supply.waiting = before.supply.waiting.tail := by
    rw [hfirst.waiting, List.drop_one]
  have hanswers (i : Nat) : answerAt between.supply.waiting i = answerAt before.supply.waiting (i + 1) := by
    rw [hwaiting, answerAt_tail]
  have hlast : made - 1 + 1 = made + 1 - 1 := by omega
  obtain ⟨used, hlinks, hused⟩ := hfirst.used
  obtain ⟨more, hmoreLinks, hmore⟩ := hrest.used
  exact {
    acquired := by rw [hrest.acquired, hfirst.acquired]; omega
    waiting := by simp [hrest.waiting, hwaiting]
    delivered := hrest.delivered.trans hfirst.delivered
    known := hrest.known.trans hfirst.known
    used := by
      refine ⟨used ++ more, by rw [hmoreLinks, hlinks, List.append_assoc], ?_⟩
      have htake : before.supply.waiting.take (made + 1) =
          before.supply.waiting.take 1 ++ before.supply.waiting.tail.take made := by
        cases before.supply.waiting <;> simp
      rw [htake, usesOf_append, List.map_append, hused, hmore, hwaiting]
    followed := by
      intro i hi
      cases i with
      | zero => exact hagain
      | succ i =>
        rw [← hanswers]
        exact hrest.followed i (by omega)
    ended := by rw [hrest.ended, hanswers, hlast]
    harvested := by
      intro hok
      obtain ⟨d, keys, hd, hkeys, earlier, hearlier, hafter⟩ := hrest.harvested hok
      refine ⟨d, keys, ?_, hkeys, earlier, hearlier.trans hfirst.known, hafter⟩
      rw [← hlast, ← hanswers]
      exact hd }

/-- The connections that a pool gives are among its answers. -/
theorem mem_of_answerAt {answers : List (Except Failure Connection)} {i : Nat} {c : Connection}
    (h : answerAt answers i = .ok c) : .ok c ∈ answers := by
  rw [answerAt, List.getD_eq_getElem?_getD] at h
  cases hget : answers[i]? with
  | none =>
    rw [hget] at h
    cases h
  | some answer =>
    rw [hget] at h
    obtain rfl : answer = .ok c := h
    exact List.mem_of_getElem? hget

/-- What an answer comes to asks for another attempt exactly if the answer leads to one. -/
theorem retryable?_outcomeOn {policy : Policy} {statements : List Statement}
    {answer : Except Failure Connection}
    (hplain : ∀ c, answer = .ok c → ∀ f, c.raises f → f.transience? = none) {f : Failure}
    (h : outcomeOn policy statements answer = .error f) :
    (retryable? f).isSome ↔ AsksAgain policy statements answer := by
  cases answer with
  | error g =>
    obtain rfl : g = f := Except.error.inj h
    exact Iff.rfl
  | ok c => exact retryable?_attemptOutcome (hplain c rfl) h

/-- A success asks for no other attempt. -/
theorem not_asksAgain_of_ok {policy : Policy} {statements : List Statement}
    {answer : Except Failure Connection} (h : outcomeOn policy statements answer = .ok ()) :
    ¬AsksAgain policy statements answer := by
  cases answer with
  | error g => cases h
  | ok c =>
    rintro ⟨f, code, hf, -⟩
    rw [((attemptOutcome_eq_ok_iff policy statements c).mp h).1] at hf
    cases hf

/-- A loop makes at least one attempt and at most as many as are left, and ends early only if its last
attempt leads to no other. -/
theorem attempts_course {policy : Policy} (statements : List (StatementId × Statement)) (left number : Nat)
    {state : State Pool}
    (hplain : ∀ c, .ok c ∈ state.supply.waiting → ∀ f, c.raises f → f.transience? = none) :
    ∃ made, 1 ≤ made ∧ made ≤ left + 1 ∧
      Course policy statements made state
        (attempts Pool.supplier policy statements (left + 1) number state).1
        (attempts Pool.supplier policy statements (left + 1) number state).2 ∧
      (made ≤ left →
        ¬AsksAgain policy (statements.map Prod.snd) (answerAt state.supply.waiting (made - 1))) := by
  induction left generalizing number state with
  | zero =>
    have hcourse := attempt_course policy statements state
    refine ⟨1, Nat.le_refl 1, Nat.le_refl 1, ?_, by omega⟩
    cases hattempt : attempt Pool.supplier policy statements state with
    | mk outcome done =>
      rw [hattempt] at hcourse
      cases outcome with
      | ok _ => rwa [attempts_of_ok hattempt]
      | error f => rwa [attempts_of_stop hattempt (.inr rfl)]
  | succ left ih =>
    have hcourse := attempt_course policy statements state
    cases hattempt : attempt Pool.supplier policy statements state with
    | mk outcome done =>
      rw [hattempt] at hcourse
      cases outcome with
      | ok _ =>
        refine ⟨1, Nat.le_refl 1, by omega, by rwa [attempts_of_ok hattempt], ?_⟩
        intro _
        exact not_asksAgain_of_ok hcourse.ended.symm
      | error f =>
        have hasked := retryable?_outcomeOn (fun c hc => hplain c (mem_of_answerAt hc)) hcourse.ended.symm
        cases hretry : retryable? f with
        | none =>
          refine ⟨1, Nat.le_refl 1, by omega, by rwa [attempts_of_stop hattempt (.inl hretry)], ?_⟩
          intro _ hagain
          simpa [hretry] using hasked.mpr hagain
        | some facts =>
          rw [attempts_of_retry hattempt hretry]
          generalize LogEntry.mk .warning (retryText facts number policy.maxAttempts) = entry
          have hwaiting : done.supply.waiting = state.supply.waiting.tail := by
            rw [hcourse.waiting, List.drop_one]
          have hplain' : ∀ c, .ok c ∈ done.supply.waiting → ∀ f, c.raises f → f.transience? = none := by
            intro c hc
            rw [hwaiting] at hc
            exact hplain c (List.mem_of_mem_tail hc)
          obtain ⟨made, hmade, hleft, hrest, hstop⟩ := @ih (number + 1)
            { done with supply := { done.supply with log := done.supply.log ++ [entry] } } hplain'
          have hlast : made - 1 + 1 = made + 1 - 1 := by omega
          refine ⟨made + 1, by omega, by omega,
            Course.cons (hasked.mp (by simp [hretry])) hmade hcourse hrest, ?_⟩
          intro hless
          rw [← hlast, ← answerAt_tail, ← hwaiting]
          exact hstop (by omega)

/-! ## The last attempt -/

/-- What a loop does before its last attempt leaves the pool with the answers behind those that were used. -/
structure Before (made : Nat) (state between : State Pool) : Prop where
  waiting : between.supply.waiting = state.supply.waiting.drop made
  acquired : between.supply.acquired = state.supply.acquired + made
  known : between.keys.length = state.keys.length
  delivered : between.delivered = state.delivered

/-- A loop ends as its last attempt does. -/
theorem attempts_last (policy : Policy) (statements : List (StatementId × Statement)) (left number : Nat)
    (state : State Pool) :
    ∃ made between, made ≤ left ∧ Before made state between ∧
      attempts Pool.supplier policy statements (left + 1) number state =
        attempt Pool.supplier policy statements between := by
  induction left generalizing number state with
  | zero =>
    refine ⟨0, state, Nat.le_refl 0, ⟨rfl, rfl, rfl, rfl⟩, ?_⟩
    cases hattempt : attempt Pool.supplier policy statements state with
    | mk outcome done =>
      cases outcome with
      | ok _ => exact attempts_of_ok hattempt 0 number
      | error f => exact attempts_of_stop hattempt (.inr rfl) number
  | succ left ih =>
    have hcourse := attempt_course policy statements state
    cases hattempt : attempt Pool.supplier policy statements state with
    | mk outcome done =>
      rw [hattempt] at hcourse
      cases outcome with
      | ok _ =>
        exact ⟨0, state, Nat.zero_le _, ⟨rfl, rfl, rfl, rfl⟩, (attempts_of_ok hattempt _ number).trans hattempt.symm⟩
      | error f =>
        cases hretry : retryable? f with
        | none =>
          exact ⟨0, state, Nat.zero_le _, ⟨rfl, rfl, rfl, rfl⟩,
            (attempts_of_stop hattempt (.inl hretry) number).trans hattempt.symm⟩
        | some facts =>
          obtain ⟨made, between, hmade, hbefore, hrun⟩ := ih (number + 1)
            { done with supply := { done.supply with
              log := done.supply.log ++ [⟨.warning, retryText facts number policy.maxAttempts⟩] } }
          refine ⟨made + 1, between, Nat.succ_le_succ hmade, ⟨?_, ?_, ?_, ?_⟩,
            (attempts_of_retry hattempt hretry left number).trans hrun⟩
          · rw [hbefore.waiting, hcourse.waiting, List.drop_drop, Nat.add_comm]
          · rw [hbefore.acquired, hcourse.acquired]
            omega
          · exact hbefore.known.trans hcourse.known
          · exact hbefore.delivered.trans hcourse.delivered

end SchemaAtlas.Batch
