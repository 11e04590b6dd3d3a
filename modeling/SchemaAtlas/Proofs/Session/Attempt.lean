import SchemaAtlas.Proofs.Session.Harvest

/-!
# What an attempt comes to

An attempt runs the statements of a batch in one transaction on one connection. What it comes to is told
here from the script of the connection alone: the first failure of the transaction, whether a rollback is
due, the failure that leaves the attempt, and the actions taken on the connection. The definitions that
run are shown to agree with this, whatever keys were gathered before.
-/

namespace SchemaAtlas

/-- The failures that a connection raises. -/
def Connection.raises (c : Connection) (f : Failure) : Prop :=
  c.beginFailure = some f ∨ (∃ reply ∈ c.script, reply.raises f) ∨ c.commitFailure = some f ∨
    c.rollbackFailure = some f ∨ c.closeFailure = some f

namespace Batch

/-! ## The transaction -/

/-- The first failure of statements that are replied to in order: of running one, of reaching a row, or
of a key that is no integer. -/
def statementsFailure (policy : Policy) : List Statement → List Reply → Option Failure
  | [], _ => none
  | _ :: _, [] => some Link.scriptExhausted
  | s :: rest, reply :: replies =>
    match (keysOfReply policy s reply).2 with
    | .error f => some f
    | .ok () => statementsFailure policy rest replies

/-- An action that runs a statement with its parameters. -/
def runAction (s : Statement) : Action :=
  .run ⟨s.statement, .positional s.parameters⟩

/-- The actions of statements that are replied to in order: each is run until one fails. -/
def statementsActions (policy : Policy) : List Statement → List Reply → List Action
  | [], _ => []
  | s :: _, [] => [runAction s]
  | s :: rest, reply :: replies =>
    runAction s ::
      match (keysOfReply policy s reply).2 with
      | .error _ => []
      | .ok () => statementsActions policy rest replies

/-- The first failure of a transaction: of its beginning, of its statements or of its commit. -/
def transactionFailure (policy : Policy) (statements : List Statement) (c : Connection) : Option Failure :=
  c.beginFailure.or ((statementsFailure policy statements c.script).or c.commitFailure)

/-- Statements fail with what a reply raises or with a fault of gathering keys. -/
theorem statementsFailure_eq_some {policy : Policy} {statements : List Statement} {replies : List Reply}
    {f : Failure} (h : statementsFailure policy statements replies = some f) :
    (∃ reply ∈ replies, reply.raises f) ∨ IsHarvestFault f := by
  induction statements generalizing replies with
  | nil => simp [statementsFailure] at h
  | cons s rest ih =>
    cases replies with
    | nil => exact .inr (.inl ⟨_, _, (Option.some.inj h).symm⟩)
    | cons reply replies =>
      cases hreply : (keysOfReply policy s reply).2 with
      | error g =>
        obtain rfl : g = f := by simpa [statementsFailure, hreply] using h
        exact (keysOfReply_eq_error hreply).imp_left fun hraises => ⟨reply, List.mem_cons_self, hraises⟩
      | ok _ =>
        have hrest : statementsFailure policy rest replies = some f := by
          simpa [statementsFailure, hreply] using h
        exact (ih hrest).imp_left fun ⟨other, hmem, hraises⟩ =>
          ⟨other, List.mem_cons_of_mem _ hmem, hraises⟩

/-- A transaction fails with what the connection raises or with a fault of gathering keys. -/
theorem transactionFailure_eq_some {policy : Policy} {statements : List Statement} {c : Connection}
    {f : Failure} (h : transactionFailure policy statements c = some f) : c.raises f ∨ IsHarvestFault f := by
  simp only [transactionFailure, Option.or_eq_some_iff] at h
  rcases h with hbegin | ⟨-, hrun | ⟨-, hcommit⟩⟩
  · exact .inl (.inl hbegin)
  · exact (statementsFailure_eq_some hrun).imp_left fun hraises => .inr (.inl hraises)
  · exact .inl (.inr (.inr (.inl hcommit)))

/-- The actions of a transaction; the commit is reached if nothing failed before. -/
def transactionActions (policy : Policy) (statements : List Statement) (c : Connection) : List Action :=
  .begin :: if c.beginFailure.isSome then [] else
    statementsActions policy statements c.script ++
      if (statementsFailure policy statements c.script).isSome then [] else [.commit]

/-- Whether a transaction that failed is still active: it was begun, not ended by its commit, and not dropped
by the connection. -/
def rollbackDue (policy : Policy) (statements : List Statement) (c : Connection) : Bool :=
  c.beginFailure.isNone &&
    ((statementsFailure policy statements c.script).isSome || c.commitFailure.isSome && !c.failureEnds) &&
    !c.drops (transactionActions policy statements c)

/-- A connection on which some statements were run, one reply being used for each. -/
def ran (link : Link) (actions : List Action) : Link :=
  { link with pending := link.pending.drop actions.length, actions := link.actions ++ actions }

/-- A connection without replies left refuses a statement. -/
theorem execute_exhausted (s : Statement) {link : Link} (h : link.pending = []) :
    link.execute s.statement (.positional s.parameters) =
      (.error Link.scriptExhausted, ran link [runAction s]) := by
  obtain ⟨connection, pending, active, actions, inspected⟩ := link
  subst h
  rfl

/-- A reply that is no refusal. -/
def accepted : Reply → Except Failure Reply
  | .refused f => .error f
  | reply => .ok reply

/-- Otherwise a statement gets the next reply, which may be a refusal. -/
theorem execute_cons (s : Statement) {link : Link} {reply : Reply} {replies : List Reply}
    (h : link.pending = reply :: replies) :
    link.execute s.statement (.positional s.parameters) =
      (accepted reply, ran link [runAction s]) := by
  obtain ⟨connection, pending, active, actions, inspected⟩ := link
  subst h
  cases reply <;> rfl

/-- Running statements uses one reply at a time, and stops at the first that fails. -/
theorem runStatements_cons (policy : Policy) (id : StatementId) (s : Statement)
    (rest : List (StatementId × Statement)) {work : Work} {reply : Reply} {replies : List Reply}
    (h : work.link.pending = reply :: replies) :
    runStatements policy ((id, s) :: rest) work =
      let next : Work :=
        { link := ran work.link [runAction s], keys := work.keys.add id (keysOfReply policy s reply).1,
          reached := some s }
      match (keysOfReply policy s reply).2 with
      | .error f => (.error f, next)
      | .ok () => runStatements policy rest next := by
  simp only [runStatements, execute_cons s h]
  cases reply with
  | refused f =>
    have hkeys : work.keys.add id [] = work.keys := by
      simp only [Keys.add, List.append_nil]
      exact List.modify_id id work.keys
    simp [accepted, keysOfReply, hkeys]
  | rows returned count =>
    simp only [accepted]
    generalize keysOfReply policy s (.rows returned count) = harvest
    obtain ⟨own, _ | _⟩ := harvest <;> rfl
  | changed lastRow count =>
    simp only [accepted]
    generalize keysOfReply policy s (.changed lastRow count) = harvest
    obtain ⟨own, _ | _⟩ := harvest <;> rfl

/-- Without replies left, running statements fails at the first. -/
theorem runStatements_exhausted (policy : Policy) (id : StatementId) (s : Statement)
    (rest : List (StatementId × Statement)) {work : Work} (h : work.link.pending = []) :
    runStatements policy ((id, s) :: rest) work =
      (.error Link.scriptExhausted, { work with link := ran work.link [runAction s], reached := some s }) := by
  simp only [runStatements, execute_exhausted s h]

/-- What statements come to on a connection is told by its replies. -/
theorem runStatements_fst (policy : Policy) (statements : List (StatementId × Statement)) (work : Work) :
    (runStatements policy statements work).1 =
      Link.outcome (statementsFailure policy (statements.map Prod.snd) work.link.pending) := by
  induction statements generalizing work with
  | nil => rfl
  | cons entry rest ih =>
    obtain ⟨id, s⟩ := entry
    cases hpending : work.link.pending with
    | nil => rw [runStatements_exhausted policy id s rest hpending]; rfl
    | cons reply replies =>
      rw [runStatements_cons policy id s rest hpending]
      simp only [List.map_cons, statementsFailure]
      cases hreply : (keysOfReply policy s reply).2 with
      | error f => rfl
      | ok _ =>
        rw [ih]
        simp [ran, hpending]

/-- Statements that run leave the connection with the replies that are left and with their actions. -/
theorem runStatements_link (policy : Policy) (statements : List (StatementId × Statement)) (work : Work) :
    (runStatements policy statements work).2.link =
      ran work.link (statementsActions policy (statements.map Prod.snd) work.link.pending) := by
  induction statements generalizing work with
  | nil => simp [runStatements, statementsActions, ran]
  | cons entry rest ih =>
    obtain ⟨id, s⟩ := entry
    cases hpending : work.link.pending with
    | nil => rw [runStatements_exhausted policy id s rest hpending]; rfl
    | cons reply replies =>
      rw [runStatements_cons policy id s rest hpending]
      simp only [List.map_cons, statementsActions]
      cases hreply : (keysOfReply policy s reply).2 with
      | error f => rfl
      | ok _ =>
        simp [ih, ran, hpending, runAction]

/-- Statements that all succeed add the keys that their replies stand for. -/
theorem runStatements_keys (policy : Policy) (statements : List (StatementId × Statement)) (work : Work)
    (h : statementsFailure policy (statements.map Prod.snd) work.link.pending = none) :
    ∃ keys, Harvests policy (statements.map Prod.snd) work.link.pending keys ∧
      (runStatements policy statements work).2.keys =
        work.keys.addAll ((statements.map Prod.fst).zip keys) := by
  induction statements generalizing work with
  | nil => exact ⟨[], rfl, rfl⟩
  | cons entry rest ih =>
    obtain ⟨id, s⟩ := entry
    cases hpending : work.link.pending with
    | nil => simp [hpending, statementsFailure] at h
    | cons reply replies =>
      rw [runStatements_cons policy id s rest hpending]
      cases hreply : keysOfReply policy s reply with
      | mk own outcome =>
        cases outcome with
        | error f => simp [hpending, statementsFailure, hreply] at h
        | ok _ =>
          have hrest : statementsFailure policy (rest.map Prod.snd) (ran work.link [runAction s]).pending =
              none := by
            simpa [hpending, statementsFailure, hreply, ran] using h
          obtain ⟨others, hothers, hkeys⟩ :=
            ih { link := ran work.link [runAction s], keys := work.keys.add id own, reached := some s } hrest
          refine ⟨own :: others, ⟨own, others, ?_, ?_, rfl⟩, hkeys⟩
          · exact (keysOfReply_eq_ok_iff policy s reply own).mp hreply
          · simpa [ran, hpending] using hothers

/-- Running statements makes no statement known or unknown. -/
theorem runStatements_known (policy : Policy) (statements : List (StatementId × Statement)) (work : Work) :
    (runStatements policy statements work).2.keys.length = work.keys.length := by
  induction statements generalizing work with
  | nil => rfl
  | cons entry rest ih =>
    obtain ⟨id, s⟩ := entry
    cases hpending : work.link.pending with
    | nil => rw [runStatements_exhausted policy id s rest hpending]
    | cons reply replies =>
      rw [runStatements_cons policy id s rest hpending]
      cases hreply : (keysOfReply policy s reply).2 with
      | error f => simp
      | ok _ => simp [ih]

/-- An attempt whose transaction was begun. -/
def begun (c : Connection) (keys : Keys) : Work :=
  { link := { (Link.fresh c).record .begin with active := true }, keys }

/-- A transaction that was begun runs the statements and commits if all succeed. -/
theorem transact_begun (policy : Policy) (statements : List (StatementId × Statement)) {c : Connection}
    (keys : Keys) (h : c.beginFailure = none) :
    transact policy statements { link := Link.fresh c, keys } =
      match runStatements policy statements (begun c keys) with
      | (.error f, work) => (.error f, work)
      | (.ok (), work) => (work.link.commit.1, { work with link := work.link.commit.2 }) := by
  simp only [transact, Link.begin, Link.fresh, Link.record, Link.outcome, h]
  rfl

/-- A transaction on a fresh connection comes to what its script tells, and leaves it so. -/
theorem transact_fresh (policy : Policy) (statements : List (StatementId × Statement)) (c : Connection)
    (keys : Keys) :
    let made := transact policy statements { link := Link.fresh c, keys }
    let plain := statements.map Prod.snd
    made.1 = Link.outcome (transactionFailure policy plain c) ∧ made.2.link.connection = c ∧
      made.2.link.actions = transactionActions policy plain c ∧
      made.2.link.isActive = rollbackDue policy plain c := by
  cases hbegin : c.beginFailure with
  | some f =>
    simp [transact, Link.begin, hbegin, Link.fresh, Link.record, Link.outcome, Link.isActive,
      transactionFailure, transactionActions, rollbackDue]
  | none =>
    have hfst := runStatements_fst policy statements (begun c keys)
    have hlink := runStatements_link policy statements (begun c keys)
    rw [transact_begun policy statements keys hbegin]
    generalize runStatements policy statements (begun c keys) = result at hfst hlink
    obtain ⟨outcome, link, gathered, reached⟩ := result
    simp only [begun, Link.record, Link.fresh] at hfst hlink
    subst hfst hlink
    cases hrun : statementsFailure policy (statements.map Prod.snd) c.script with
    | some f =>
      simp [hbegin, hrun, Link.outcome, Link.isActive, transactionFailure, transactionActions, rollbackDue, ran]
    | none =>
      simp [hbegin, hrun, Link.outcome, Link.commit, Link.record, Link.activeAfter, Link.isActive,
        transactionFailure, transactionActions, rollbackDue, ran]

/-- A transaction that succeeds adds the keys that the replies stand for. -/
theorem transact_keys (policy : Policy) (statements : List (StatementId × Statement)) {c : Connection}
    (keys : Keys) (h : transactionFailure policy (statements.map Prod.snd) c = none) :
    ∃ harvest, Harvests policy (statements.map Prod.snd) c.script harvest ∧
      (transact policy statements { link := Link.fresh c, keys }).2.keys =
        keys.addAll ((statements.map Prod.fst).zip harvest) := by
  simp only [transactionFailure, Option.or_eq_none_iff] at h
  obtain ⟨hbegin, hrun, hcommit⟩ := h
  obtain ⟨harvest, hharvest, hkeys⟩ := runStatements_keys policy statements (begun c keys) hrun
  refine ⟨harvest, hharvest, ?_⟩
  have hfst := runStatements_fst policy statements (begun c keys)
  rw [transact_begun policy statements keys hbegin]
  generalize runStatements policy statements (begun c keys) = result at hfst hkeys
  obtain ⟨outcome, work⟩ := result
  simp only [begun, Link.record, Link.fresh, hrun] at hfst
  subst hfst
  exact hkeys

/-- A transaction makes no statement known or unknown. -/
theorem transact_known (policy : Policy) (statements : List (StatementId × Statement)) (c : Connection)
    (keys : Keys) :
    (transact policy statements { link := Link.fresh c, keys }).2.keys.length = keys.length := by
  cases hbegin : c.beginFailure with
  | some f => simp [transact, Link.begin, Link.fresh, Link.record, Link.outcome, hbegin]
  | none =>
    have hknown := runStatements_known policy statements (begun c keys)
    rw [transact_begun policy statements keys hbegin]
    generalize runStatements policy statements (begun c keys) = result at hknown
    obtain ⟨_ | _, work⟩ := result <;> exact hknown

/-! ## The attempt -/

/-- The failure that a failed transaction is told as. -/
def toldFailure (policy : Policy) (f : Failure) : Failure :=
  if f.isDatabase then transactionFailed policy f else f

/-- The failure that a failed rollback is told as. -/
def toldRollback (r : Failure) : Failure :=
  if r.isDatabase then rollbackFailed r else r

/-- The failure that leaves a failed transaction: that of its rollback, if one was due and failed. -/
def abandonedFailure (policy : Policy) (statements : List Statement) (c : Connection) (f : Failure) :
    Failure :=
  match rollbackDue policy statements c, c.rollbackFailure with
  | true, some r => toldRollback r
  | _, _ => toldFailure policy f

/-- What an attempt on a connection comes to; a failure of closing it takes the place of any other. -/
def attemptOutcome (policy : Policy) (statements : List Statement) (c : Connection) : Except Failure Unit :=
  Failure.afterwards
    (Link.outcome ((transactionFailure policy statements c).map (abandonedFailure policy statements c)))
    (Link.outcome c.closeFailure)

/-- The actions of an attempt. -/
def attemptActions (policy : Policy) (statements : List Statement) (c : Connection) : List Action :=
  transactionActions policy statements c ++
    (if rollbackDue policy statements c then [.rollback] else []) ++ [.close]

/-- No rollback is due after a success. -/
theorem rollbackDue_of_success {policy : Policy} {statements : List Statement} {c : Connection}
    (h : transactionFailure policy statements c = none) : rollbackDue policy statements c = false := by
  simp only [transactionFailure, Option.or_eq_none_iff] at h
  simp [rollbackDue, h]

/-- A failed transaction on a connection comes to what its script tells once it is rolled back. -/
theorem abandon_spec (policy : Policy) (statements : List Statement) (f : Failure) (work : Work)
    (h : work.link.isActive = rollbackDue policy statements work.link.connection) :
    let left := abandon policy statements f work
    left.2.1 = abandonedFailure policy statements work.link.connection f ∧
      left.2.2.connection = work.link.connection ∧
      left.2.2.actions = work.link.actions ++
        if rollbackDue policy statements work.link.connection then [.rollback] else [] := by
  cases hdue : rollbackDue policy statements work.link.connection with
  | false => simp [abandon, h, hdue, abandonedFailure, toldFailure]
  | true =>
    cases hrollback : work.link.connection.rollbackFailure with
    | none =>
      simp [abandon, h, hdue, Link.rollback, Link.record, Link.outcome, hrollback, abandonedFailure,
        toldFailure]
    | some r =>
      cases hr : r.isDatabase <;>
        simp [abandon, h, hdue, Link.rollback, Link.record, Link.outcome, hrollback, hr, abandonedFailure,
          toldRollback]

/-- An attempt on a fresh connection comes to what its script tells, and leaves it so. -/
theorem attemptOn_fresh (policy : Policy) (statements : List (StatementId × Statement)) (c : Connection)
    (keys : Keys) :
    let made := attemptOn policy statements { link := Link.fresh c, keys }
    let plain := statements.map Prod.snd
    made.2.1 = attemptOutcome policy plain c ∧ made.2.2.link.connection = c ∧
      made.2.2.link.actions = attemptActions policy plain c ∧
      made.2.2.keys = (transact policy statements { link := Link.fresh c, keys }).2.keys := by
  obtain ⟨hfst, hconnection, hactions, hactive⟩ := transact_fresh policy statements c keys
  simp only [attemptOn]
  generalize transact policy statements { link := Link.fresh c, keys } = made at *
  obtain ⟨outcome, work⟩ := made
  simp only at hfst hconnection hactions hactive
  subst hfst
  cases htransaction : transactionFailure policy (statements.map Prod.snd) c with
  | none =>
    have hdue := rollbackDue_of_success htransaction
    simp [Link.outcome, Link.close, Link.record, attemptOutcome, attemptActions, htransaction, hdue,
      hconnection, hactions]
  | some f =>
    obtain ⟨htold, hleft, hdone⟩ :=
      abandon_spec policy (statements.map Prod.snd) f work (by rw [hactive, hconnection])
    simp [Link.outcome, Link.close, Link.record, attemptOutcome, attemptActions, htransaction, htold, hleft,
      hdone, hconnection, hactions]

end Batch

end SchemaAtlas
