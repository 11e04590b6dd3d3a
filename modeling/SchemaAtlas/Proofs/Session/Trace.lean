import SchemaAtlas.Proofs.Session.Attempt

/-!
# What is done on a connection during an attempt

The actions of an attempt are told here from what each statement comes to: a transaction is begun, the
statements run up to the first that fails, a commit follows if none fails, a rollback follows if something
failed and the transaction is still active, and the connection is closed. Which failures are raised plays
no part.
-/

namespace SchemaAtlas.Batch

/-- A statement of a batch is served: it gets a reply, and the keys of the reply can be gathered. -/
def Served (policy : Policy) (statements : List Statement) (replies : List Reply) (i : Nat) : Prop :=
  ∃ s reply keys, statements[i]? = some s ∧ replies[i]? = some reply ∧ Yields policy s reply keys

/-- The first statement is served by the first reply. -/
theorem served_zero (policy : Policy) (s : Statement) (rest : List Statement) (reply : Reply)
    (replies : List Reply) :
    Served policy (s :: rest) (reply :: replies) 0 ↔ (keysOfReply policy s reply).2 = .ok () := by
  constructor
  · rintro ⟨s', reply', keys, hs, hreply, hyields⟩
    obtain rfl : s = s' := Option.some.inj hs
    obtain rfl : reply = reply' := Option.some.inj hreply
    rw [(keysOfReply_eq_ok_iff policy s reply keys).mpr hyields]
  · intro hok
    have hyields : Yields policy s reply (keysOfReply policy s reply).1 :=
      (keysOfReply_eq_ok_iff policy s reply _).mp (Prod.ext rfl hok)
    exact ⟨s, reply, _, rfl, rfl, hyields⟩

/-- The statements behind the first are served by the replies behind the first. -/
theorem served_succ (policy : Policy) (s : Statement) (rest : List Statement) (reply : Reply)
    (replies : List Reply) (i : Nat) :
    Served policy (s :: rest) (reply :: replies) (i + 1) ↔ Served policy rest replies i := by
  simp only [Served, List.getElem?_cons_succ]

/-- No statement is served without a reply. -/
theorem not_served_nil (policy : Policy) (statements : List Statement) (i : Nat) :
    ¬Served policy statements [] i := by
  simp [Served]

/-- Statements come to no failure exactly if all of them are served. -/
theorem statementsFailure_eq_none_iff (policy : Policy) (statements : List Statement)
    (replies : List Reply) :
    statementsFailure policy statements replies = none ↔
      ∀ i < statements.length, Served policy statements replies i := by
  induction statements generalizing replies with
  | nil => simp [statementsFailure]
  | cons s rest ih =>
    cases replies with
    | nil =>
      simp only [statementsFailure, reduceCtorEq, false_iff]
      intro hall
      exact not_served_nil policy _ 0 (hall 0 (by simp))
    | cons reply replies =>
      have hsplit : (∀ i < (s :: rest).length, Served policy (s :: rest) (reply :: replies) i) ↔
          (keysOfReply policy s reply).2 = .ok () ∧ ∀ i < rest.length, Served policy rest replies i := by
        simp only [List.length_cons, Nat.forall_lt_succ_left, served_zero, served_succ]
      rw [hsplit, ← ih]
      cases hreply : (keysOfReply policy s reply).2 with
      | error f => simp [statementsFailure, hreply]
      | ok _ => simp [statementsFailure, hreply]

/-- A statement is run exactly if all statements before it are served; the statements that are run come
first, in their order. -/
theorem statementsActions_eq_take (policy : Policy) (statements : List Statement) (replies : List Reply) :
    ∃ n ≤ statements.length, statementsActions policy statements replies = (statements.take n).map runAction ∧
      ∀ i < statements.length, i < n ↔ ∀ j < i, Served policy statements replies j := by
  induction statements generalizing replies with
  | nil => exact ⟨0, Nat.le_refl 0, rfl, by simp⟩
  | cons s rest ih =>
    -- Without a served first statement, that statement is the only one to be run.
    have hsingle (hfirst : ¬Served policy (s :: rest) replies 0) :
        ∀ i < (s :: rest).length, i < 1 ↔ ∀ j < i, Served policy (s :: rest) replies j := by
      intro i hi
      constructor
      · omega
      · intro hserved
        by_contra hlate
        exact hfirst (hserved 0 (by omega))
    cases replies with
    | nil => exact ⟨1, by simp, rfl, hsingle (not_served_nil policy _ 0)⟩
    | cons reply replies =>
      cases hreply : (keysOfReply policy s reply).2 with
      | error f =>
        have hfirst : ¬Served policy (s :: rest) (reply :: replies) 0 := by simp [served_zero, hreply]
        exact ⟨1, by simp, by simp [statementsActions, hreply], hsingle hfirst⟩
      | ok _ =>
        obtain ⟨n, hle, hactions, hreached⟩ := ih replies
        refine ⟨n + 1, by simpa using hle, by simp [statementsActions, hreply, hactions], ?_⟩
        intro i hi
        cases i with
        | zero => simp
        | succ i =>
          have hi : i < rest.length := by simpa using hi
          simp only [Nat.add_lt_add_iff_right, hreached i hi, Nat.forall_lt_succ_left, served_zero, hreply,
            served_succ, true_and]

/-! ## The trace of an attempt -/

/-- How far an attempt got: how many statements it ran, whether it tried to commit, and whether it tried
to roll back. -/
structure Trace where
  reached : Nat
  commits : Bool
  rollsBack : Bool

/-- What was done in the transaction of an attempt that got so far. -/
def Trace.earlier (trace : Trace) (statements : List Statement) : List Action :=
  .begin :: ((statements.take trace.reached).map runAction ++ if trace.commits then [.commit] else [])

/-- The actions of an attempt that got so far. -/
def Trace.actions (trace : Trace) (statements : List Statement) : List Action :=
  trace.earlier statements ++ (if trace.rollsBack then [.rollback] else []) ++ [.close]

/-- How far an attempt on a connection gets. A statement is run if the transaction was begun and all
statements before it were served, and a commit is tried if all were. A rollback is tried if the transaction
was begun, something failed, and the transaction is still active then: neither has a failed commit ended it
nor has the connection dropped it. None is tried after a commit that succeeded. -/
structure Trace.Fits (policy : Policy) (statements : List Statement) (c : Connection) (trace : Trace) :
    Prop where
  bounded : trace.reached ≤ statements.length
  reached : ∀ i < statements.length,
    i < trace.reached ↔ c.beginFailure = none ∧ ∀ j < i, Served policy statements c.script j
  commits : trace.commits = true ↔
    c.beginFailure = none ∧ ∀ j < statements.length, Served policy statements c.script j
  rollsBack : trace.rollsBack = true ↔ c.beginFailure = none ∧
    ((∃ j < statements.length, ¬Served policy statements c.script j) ∨ c.commitFailure.isSome) ∧
    (trace.commits = true → c.failureEnds = false) ∧ c.drops (trace.earlier statements) = false
  settled : trace.commits = true → c.commitFailure = none → trace.rollsBack = false

/-- What was done on a connection is what an attempt does. -/
def Traced (policy : Policy) (statements : List Statement) (c : Connection) (actions : List Action) : Prop :=
  ∃ trace : Trace, trace.Fits policy statements c ∧ actions = trace.actions statements

/-- A connection is closed exactly once, as the last thing that is done on it. -/
theorem Traced.closes {policy : Policy} {statements : List Statement} {c : Connection} {actions : List Action}
    (h : Traced policy statements c actions) :
    ∃ earlier, actions = earlier ++ [.close] ∧ .close ∉ earlier := by
  obtain ⟨trace, -, rfl⟩ := h
  refine ⟨trace.earlier statements ++ (if trace.rollsBack then [.rollback] else []), rfl, ?_⟩
  have hruns : .close ∉ (statements.take trace.reached).map runAction := by
    intro hmem
    obtain ⟨s, -, hs⟩ := List.mem_map.mp hmem
    cases hs
  simp only [Trace.earlier, List.mem_cons, List.mem_append, hruns]
  cases trace.commits <;> cases trace.rollsBack <;> simp

/-- What an attempt does on a connection. -/
theorem traced_attemptActions (policy : Policy) (statements : List Statement) (c : Connection) :
    Traced policy statements c (attemptActions policy statements c) := by
  have hnone := statementsFailure_eq_none_iff policy statements c.script
  have hserved : (∃ j < statements.length, ¬Served policy statements c.script j) ↔
      (statementsFailure policy statements c.script).isSome := by
    rw [Option.isSome_iff_ne_none, Ne, hnone]
    push Not
    rfl
  cases hbegin : c.beginFailure with
  | some f =>
    have hfits : Trace.Fits policy statements c ⟨0, false, false⟩ :=
      ⟨by simp, by simp [hbegin], by simp [hbegin], by simp [hbegin], by simp⟩
    refine ⟨_, hfits, ?_⟩
    simp [attemptActions, transactionActions, rollbackDue, Trace.actions, Trace.earlier, hbegin]
  | none =>
    obtain ⟨n, hle, hactions, hreached⟩ := statementsActions_eq_take policy statements c.script
    let trace : Trace :=
      ⟨n, (statementsFailure policy statements c.script).isNone, rollbackDue policy statements c⟩
    have hearlier : transactionActions policy statements c = trace.earlier statements := by
      cases hrun : statementsFailure policy statements c.script <;>
        simp [transactionActions, Trace.earlier, trace, hbegin, hactions, hrun]
    have hfits : Trace.Fits policy statements c trace := {
      bounded := hle
      reached := by simpa [hbegin] using hreached
      commits := by simp [trace, hbegin, hnone]
      rollsBack := by
        rw [hserved, ← hearlier]
        cases hrun : statementsFailure policy statements c.script <;>
          simp [trace, rollbackDue, hbegin, hrun, and_assoc]
      settled := by
        intro hcommits hcommit
        have hrun : statementsFailure policy statements c.script = none := by simpa [trace] using hcommits
        simp [trace, rollbackDue, hrun, hcommit] }
    exact ⟨trace, hfits, by rw [attemptActions, hearlier, Trace.actions]⟩

end SchemaAtlas.Batch
