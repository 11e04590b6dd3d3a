import Mathlib.Algebra.GroupWithZero.Nat
import SchemaAtlas.Proofs.Session.Retry

/-!
# What a batch delivers

A batch commits at most once, and then in its last attempt. Keys are delivered only after a commit that
came back, statement by statement, and they are the keys that the replies on that connection stand for:
whatever earlier attempts and earlier batches gathered for the same statements is gone.
-/

namespace SchemaAtlas

/-- Whether an action is a commit. -/
def Action.isCommit : Action → Bool
  | .commit => true
  | _ => false

/-- How many commits came back among the actions on a connection. -/
def Connection.commitsAmong (c : Connection) (actions : List Action) : Nat :=
  if c.commitFailure.isNone then actions.countP Action.isCommit else 0

/-- How many commits came back on a connection in use. -/
def Link.commits (link : Link) : Nat :=
  link.connection.commitsAmong link.actions

namespace Batch

/-! ## Deliveries -/

/-- Which consumers are called, given what there is for each statement, and what that comes to: each in
order, up to the first that fails. -/
inductive Received (consumers : Consumers) :
    List (StatementId × List Int) → List (StatementId × List Int) → Except Failure Unit → Prop where
  | done : Received consumers [] [] (.ok ())
  | skipped {id keys rest calls outcome} : consumers id = none → Received consumers rest calls outcome →
      Received consumers ((id, keys) :: rest) calls outcome
  | taken {id keys rest calls outcome consumer} : consumers id = some consumer → consumer keys = .ok () →
      Received consumers rest calls outcome →
      Received consumers ((id, keys) :: rest) ((id, keys) :: calls) outcome
  | failed {id keys rest consumer f} : consumers id = some consumer → consumer keys = .error f →
      Received consumers ((id, keys) :: rest) [(id, keys)] (.error f)

/-- Without a call, no consumer fails. -/
theorem not_received_error (consumers : Consumers) (harvest : List (StatementId × List Int)) (f : Failure) :
    ¬Received consumers harvest [] (.error f) := by
  induction harvest with
  | nil => nofun
  | cons entry rest ih =>
    rintro (_ | ⟨-, hrest⟩)
    exact ih hrest

/-- Delivering calls the consumers with the keys gathered, and changes nothing else. -/
theorem deliver_received {σ : Type} (consumers : Consumers) (ids : List StatementId) (state : State σ) :
    ∃ calls, Received consumers (ids.map fun id => (id, state.keys.of id)) calls
        (deliver consumers ids state).1 ∧
      (deliver consumers ids state).2 = { state with delivered := state.delivered ++ calls } := by
  induction ids generalizing state with
  | nil => exact ⟨[], .done, by simp [deliver]⟩
  | cons id rest ih =>
    cases hconsumer : consumers id with
    | none =>
      obtain ⟨calls, hreceived, hafter⟩ := ih state
      simp only [deliver, hconsumer, List.map_cons]
      exact ⟨calls, .skipped hconsumer hreceived, hafter⟩
    | some consumer =>
      cases hcall : consumer (state.keys.of id) with
      | error f =>
        refine ⟨[(id, state.keys.of id)], ?_, ?_⟩
        · simpa [deliver, hconsumer, Keeping.bind_apply, hcall] using Received.failed hconsumer hcall
        · simp [deliver, hconsumer, Keeping.bind_apply, hcall]
      | ok _ =>
        obtain ⟨calls, hreceived, hafter⟩ :=
          ih { state with delivered := state.delivered ++ [(id, state.keys.of id)] }
        refine ⟨(id, state.keys.of id) :: calls, ?_, ?_⟩
        · simpa [deliver, hconsumer, Keeping.bind_apply, hcall] using
            Received.taken hconsumer hcall hreceived
        · simp [deliver, hconsumer, Keeping.bind_apply, hcall, hafter]

/-- A batch whose attempts fail delivers nothing. -/
theorem run_of_error {policy : Policy} {statements : List (StatementId × Statement)} {state after : State Pool}
    {f : Failure}
    (h : attempts Pool.supplier policy statements policy.maxAttempts 1 state = (.error f, after))
    (consumers : Consumers) :
    run Pool.supplier policy consumers statements state = (.error f, after) := by
  rw [run, Keeping.bind_of_error h]

/-- A batch that has an attempt succeed delivers after it. -/
theorem run_of_ok {policy : Policy} {statements : List (StatementId × Statement)} {state after : State Pool}
    (h : attempts Pool.supplier policy statements policy.maxAttempts 1 state = (.ok (), after))
    (consumers : Consumers) :
    run Pool.supplier policy consumers statements state =
      deliver consumers (statements.map Prod.fst) after := by
  rw [run, Keeping.bind_of_ok h]

/-! ## Commits -/

/-- Running statements commits nothing. -/
theorem countP_statementsActions (policy : Policy) (statements : List Statement) (replies : List Reply) :
    (statementsActions policy statements replies).countP Action.isCommit = 0 := by
  induction statements generalizing replies with
  | nil => rfl
  | cons s rest ih =>
    cases replies with
    | nil => rfl
    | cons reply replies =>
      cases hreply : (keysOfReply policy s reply).2 with
      | error f => simp [statementsActions, hreply, runAction, Action.isCommit]
      | ok _ => simp [statementsActions, hreply, runAction, Action.isCommit, ih]

/-- An attempt has one commit come back if its transaction succeeds, and else none. -/
theorem commitsAmong_attemptActions (policy : Policy) (statements : List Statement) (c : Connection) :
    c.commitsAmong (attemptActions policy statements c) =
      if transactionFailure policy statements c = none then 1 else 0 := by
  have hquiet := countP_statementsActions policy statements c.script
  cases hcommit : c.commitFailure with
  | some f => simp [Connection.commitsAmong, hcommit, transactionFailure]
  | none =>
    cases hbegin : c.beginFailure with
    | some f =>
      simp [Connection.commitsAmong, hcommit, hbegin, transactionFailure, attemptActions,
        transactionActions, rollbackDue, Action.isCommit]
    | none =>
      cases hrun : statementsFailure policy statements c.script with
      | some f =>
        simp [Connection.commitsAmong, hcommit, hbegin, hrun, transactionFailure, attemptActions,
          transactionActions, rollbackDue, Action.isCommit, hquiet]
      | none =>
        have hends : [Action.commit, .close].countP Action.isCommit = 1 := rfl
        simp [Connection.commitsAmong, hcommit, hbegin, hrun, transactionFailure, attemptActions,
          transactionActions, rollbackDue, Action.isCommit, hquiet, hends]

/-- A connection that leads to another attempt has no commit come back. -/
theorem commitsAmong_of_asksAgain {policy : Policy} {statements : List Statement} {c : Connection}
    (h : AsksAgain policy statements (.ok c)) :
    c.commitsAmong (attemptActions policy statements c) = 0 := by
  obtain ⟨f, code, hf, -⟩ := h
  rw [commitsAmong_attemptActions, hf]
  rfl

/-- On an answer that is no connection, nothing is done. -/
theorem usesOf_error (policy : Policy) (statements : List Statement) (f : Failure) :
    usesOf policy statements [.error f] = [] := rfl

/-- On an answer that is a connection, an attempt is made. -/
theorem usesOf_ok (policy : Policy) (statements : List Statement) (c : Connection) :
    usesOf policy statements [.ok c] = [(c, attemptActions policy statements c)] := rfl

/-- The connections of a number of attempts are those of all but the last, and that of the last. -/
theorem usesOf_take (policy : Policy) (statements : List Statement)
    (answers : List (Except Failure Connection)) (earlier : Nat) :
    usesOf policy statements (answers.take (earlier + 1)) =
      usesOf policy statements (answers.take earlier) ++
        usesOf policy statements [answerAt answers earlier] := by
  rw [List.take_add_one, usesOf_append, answerAt, List.getD_eq_getElem?_getD]
  cases answers[earlier]? <;> rfl

/-- Connections among answers that each lead to another attempt have no commit come back. -/
theorem commitsAmong_of_mem_usesOf {policy : Policy} {statements : List Statement}
    {answers : List (Except Failure Connection)} {earlier : Nat}
    (hagain : ∀ i, i < earlier → AsksAgain policy statements (answerAt answers i))
    {use : Connection × List Action} (h : use ∈ usesOf policy statements (answers.take earlier)) :
    use.1.commitsAmong use.2 = 0 := by
  simp only [usesOf, List.mem_map, List.mem_filterMap] at h
  obtain ⟨c, ⟨answer, hanswer, hc⟩, rfl⟩ := h
  obtain ⟨i, hi, rfl⟩ := List.getElem_of_mem hanswer
  have hearlier : i < earlier := by
    rw [List.length_take] at hi
    omega
  have hok : answerAt answers i = .ok c := by
    rw [List.getElem_take] at hc
    have hlength : i < answers.length := by
      rw [List.length_take] at hi
      omega
    rw [answerAt, List.getD_eq_getElem?_getD, List.getElem?_eq_getElem hlength, Option.getD_some]
    cases hget : answers[i] with
    | error f => simp [hget, Except.toOption] at hc
    | ok d =>
      rw [hget] at hc
      exact congrArg Except.ok (Option.some.inj hc)
  exact commitsAmong_of_asksAgain (hok ▸ hagain i hearlier)

/-- A commit that came back in the course of a loop did so in the last attempt. -/
structure CommitsLast (policy : Policy) (statements : List Statement) (answer : Except Failure Connection)
    (links : List Link) : Prop where
  once : (links.map Link.commits).sum ≤ 1
  last : ∀ i link, links[i]? = some link → link.commits ≠ 0 →
    i + 1 = links.length ∧ answer = .ok link.connection ∧
      transactionFailure policy statements link.connection = none
  present : ∀ c, answer = .ok c → transactionFailure policy statements c = none →
    ∃ link ∈ links, link.connection = c ∧ link.commits ≠ 0

/-- The loop commits at most once, in its last attempt. -/
theorem Course.commitsLast {policy : Policy} {statements : List (StatementId × Statement)} {made : Nat}
    {before after : State Pool} {outcome : Except Failure Unit}
    (h : Course policy statements made before outcome after) (hmade : 1 ≤ made) :
    ∃ links, after.supply.links = before.supply.links ++ links ∧
      CommitsLast policy (statements.map Prod.snd) (answerAt before.supply.waiting (made - 1)) links := by
  obtain ⟨made, rfl⟩ : ∃ earlier, made = earlier + 1 := ⟨made - 1, by omega⟩
  obtain ⟨links, hlinks, hused⟩ := h.used
  rw [usesOf_take, List.map_eq_append_iff] at hused
  obtain ⟨earlier, last, rfl, hearlier, hlast⟩ := hused
  refine ⟨earlier ++ last, hlinks, ?_⟩
  have hagain : ∀ i, i < made →
      AsksAgain policy (statements.map Prod.snd) (answerAt before.supply.waiting i) :=
    fun i hi => h.followed i (by omega)
  have hnone : ∀ link ∈ earlier, link.commits = 0 := by
    intro link hmem
    have huse := List.mem_map_of_mem (f := useOf) hmem
    rw [hearlier] at huse
    exact commitsAmong_of_mem_usesOf hagain huse
  have hsum : (earlier.map Link.commits).sum = 0 := by
    apply List.sum_eq_zero_iff_forall_eq_nat.mpr
    intro n hn
    obtain ⟨link, hmem, rfl⟩ := List.mem_map.mp hn
    exact hnone link hmem
  rw [Nat.add_sub_cancel]
  cases hanswer : answerAt before.supply.waiting made with
  | error f =>
    obtain rfl : last = [] := by
      rw [hanswer, usesOf_error, List.map_eq_nil_iff] at hlast
      exact hlast
    rw [List.append_nil]
    refine ⟨by omega, ?_, by simp⟩
    intro i link hget hcommits
    exact absurd (hnone link (List.mem_of_getElem? hget)) hcommits
  | ok c =>
    obtain ⟨link, rfl, huse⟩ : ∃ link, last = [link] ∧
        useOf link = (c, attemptActions policy (statements.map Prod.snd) c) := by
      rw [hanswer, usesOf_ok, List.map_eq_singleton_iff] at hlast
      exact hlast
    obtain ⟨hconnection, hactions⟩ := Prod.mk.inj huse
    have hcommits : link.commits =
        if transactionFailure policy (statements.map Prod.snd) c = none then 1 else 0 := by
      rw [Link.commits, hconnection, hactions, commitsAmong_attemptActions]
    refine ⟨?_, ?_, ?_⟩
    · rw [List.map_append, List.sum_append, hsum, List.map_singleton, List.sum_singleton, hcommits]
      split <;> omega
    · intro i other hget hother
      by_cases hi : i < earlier.length
      · rw [List.getElem?_append_left hi] at hget
        exact absurd (hnone other (List.mem_of_getElem? hget)) hother
      · rw [List.getElem?_append_right (by omega), List.getElem?_singleton] at hget
        split at hget
        · rename_i hzero
          obtain rfl : link = other := Option.some.inj hget
          refine ⟨by simp; omega, by rw [hconnection], ?_⟩
          by_contra hfails
          rw [hconnection] at hfails
          rw [hcommits, if_neg hfails] at hother
          exact hother rfl
        · cases hget
    · intro d hd hsucceeds
      obtain rfl : c = d := Except.ok.inj hd
      exact ⟨link, by simp, hconnection, by simp [hcommits, hsucceeds]⟩

/-! ## A batch -/

/-- The keys that a successful loop leaves for its statements are those that the replies on its last
connection stand for. -/
theorem Course.gathered {policy : Policy} {statements : List (StatementId × Statement)} {made : Nat}
    {before after : State Pool} (h : Course policy statements made before (.ok ()) after)
    (hdistinct : (statements.map Prod.fst).Nodup)
    (hknown : ∀ id ∈ statements.map Prod.fst, id < before.keys.length) {c : Connection}
    (hc : answerAt before.supply.waiting (made - 1) = .ok c) :
    ∃ keys, Harvests policy (statements.map Prod.snd) c.script keys ∧
      (statements.map Prod.fst).map (fun id => (id, after.keys.of id)) = (statements.map Prod.fst).zip keys := by
  obtain ⟨d, keys, hd, hkeys, earlier, hearlier, hafter⟩ := h.harvested rfl
  obtain rfl : d = c := Except.ok.inj (hd.symm.trans hc)
  refine ⟨keys, hkeys, ?_⟩
  generalize hids : statements.map Prod.fst = ids at *
  have hfirsts : (ids.zip keys).map Prod.fst = ids := by
    refine List.map_fst_zip (Nat.le_of_eq ?_)
    rw [← hids, harvests_length hkeys, List.length_map, List.length_map]
  have hdelivered := @Keys.map_of_addAll (earlier.clear ids) (ids.zip keys)
    (by rwa [hfirsts])
    (by
      intro id hid
      rw [hfirsts] at hid
      rw [Keys.length_clear, hearlier]
      exact hknown id hid)
    (by
      intro id hid
      rw [hfirsts] at hid
      rw [Keys.of_clear, if_pos hid])
  rw [hfirsts, ← hafter] at hdelivered
  exact hdelivered

/-- What a batch does exactly once: the links of its attempts, of which only the last may have its commit
come back, and the calls of consumers, which tell the keys gathered on that link. -/
structure DeliversOnce (policy : Policy) (consumers : Consumers) (statements : List (StatementId × Statement))
    (before : State Pool) (made : Nat) (links : List Link) (calls : List (StatementId × List Int))
    (outcome : Except Failure Unit) (after : State Pool) : Prop where
  attempted : 1 ≤ made ∧ after.supply.acquired = before.supply.acquired + made
  linked : after.supply.links = before.supply.links ++ links
  called : after.delivered = before.delivered ++ calls
  once : (links.map Link.commits).sum ≤ 1
  last : ∀ i link, links[i]? = some link → link.commits ≠ 0 →
    i + 1 = links.length ∧ answerAt before.supply.waiting (made - 1) = .ok link.connection
  committed : calls ≠ [] ∨ outcome = .ok () →
    ∃ link ∈ links, link.commits ≠ 0 ∧ link.connection.closeFailure = none
  received : ∀ link ∈ links, link.commits ≠ 0 → link.connection.closeFailure = none →
    ∃ keys, Harvests policy (statements.map Prod.snd) link.connection.script keys ∧
      Received consumers ((statements.map Prod.fst).zip keys) calls outcome

/-- A batch of distinct statements commits at most once, in its last attempt, and then delivers to each
consumer the keys that its statement generated in that attempt. -/
theorem run_deliversOnce {policy : Policy} (consumers : Consumers)
    {statements : List (StatementId × Statement)} {state : State Pool} (hattempts : 1 ≤ policy.maxAttempts)
    (hdistinct : (statements.map Prod.fst).Nodup)
    (hknown : ∀ id ∈ statements.map Prod.fst, id < state.keys.length)
    (hplain : ∀ c, .ok c ∈ state.supply.waiting → ∀ f, c.raises f → f.transience? = none) :
    ∃ made links calls, DeliversOnce policy consumers statements state made links calls
      (run Pool.supplier policy consumers statements state).1
      (run Pool.supplier policy consumers statements state).2 := by
  obtain ⟨left, hleft⟩ : ∃ left, policy.maxAttempts = left + 1 := ⟨policy.maxAttempts - 1, by omega⟩
  obtain ⟨made, hmade, -, hcourse, -⟩ := attempts_course statements left 1 hplain
  rw [← hleft] at hcourse
  obtain ⟨links, hlinks, hcommits⟩ := hcourse.commitsLast hmade
  cases hloop : attempts Pool.supplier policy statements policy.maxAttempts 1 state with
  | mk outcome between =>
    rw [hloop] at hcourse hlinks
    cases outcome with
    | error f =>
      rw [run_of_error hloop]
      refine ⟨made, links, [], ⟨hmade, hcourse.acquired⟩, hlinks, ?_, hcommits.once, ?_, by simp, ?_⟩
      · rw [List.append_nil]
        exact hcourse.delivered
      · intro i link hget hcommit
        obtain ⟨hlast, hanswer, -⟩ := hcommits.last i link hget hcommit
        exact ⟨hlast, hanswer⟩
      · -- A commit that came back on a connection that closes is a success.
        intro link hmem hcommit hclose
        obtain ⟨i, hget⟩ := List.getElem?_of_mem hmem
        obtain ⟨-, hanswer, hsucceeds⟩ := hcommits.last i link hget hcommit
        have hok := (attemptOutcome_eq_ok_iff policy _ link.connection).mpr ⟨hsucceeds, hclose⟩
        have hended := hcourse.ended
        rw [hanswer] at hended
        cases hended.trans hok
    | ok _ =>
      obtain ⟨calls, hreceived, hafter⟩ := deliver_received consumers (statements.map Prod.fst) between
      obtain ⟨c, -, hc, -⟩ := hcourse.harvested rfl
      obtain ⟨keys, hkeys, hgathered⟩ := hcourse.gathered hdistinct hknown hc
      have hended : attemptOutcome policy (statements.map Prod.snd) c = .ok () := by
        have hended := hcourse.ended
        rw [hc] at hended
        exact hended.symm
      obtain ⟨hsucceeds, hclose⟩ := (attemptOutcome_eq_ok_iff policy _ c).mp hended
      obtain ⟨committing, hmem, hconnection, hcommit⟩ := hcommits.present c hc hsucceeds
      rw [run_of_ok hloop, hafter]
      refine ⟨made, links, calls, ⟨hmade, hcourse.acquired⟩, hlinks, ?_, hcommits.once, ?_, ?_, ?_⟩
      · rw [hcourse.delivered]
      · intro i link hget hcommit
        obtain ⟨hlast, hanswer, -⟩ := hcommits.last i link hget hcommit
        exact ⟨hlast, hanswer⟩
      · intro _
        exact ⟨committing, hmem, hcommit, by rw [hconnection, hclose]⟩
      · intro link hother hcommits' _
        obtain ⟨i, hget⟩ := List.getElem?_of_mem hother
        obtain ⟨-, hanswer, -⟩ := hcommits.last i link hget hcommits'
        obtain rfl : c = link.connection := Except.ok.inj (hc.symm.trans hanswer)
        refine ⟨keys, hkeys, ?_⟩
        rw [← hgathered]
        exact hreceived

/-- A batch whose first attempt fails on its commit delivers the key of the second attempt. -/
theorem run_deliversOnce_retried :
    let deadlock : Failure := .database "OperationalError" "deadlock" [.text "40001"] []
    let first : Connection := { script := [.rows [.ok [.int 7]] (.int 1)], commitFailure := some deadlock }
    let second : Connection := { script := [.rows [.ok [.int 8]] (.int 1)] }
    let state : State Pool := { supply := { waiting := [.ok first, .ok second] }, keys := [[3]] }
    let result := run Pool.supplier {} (fun _ => some fun _ => .ok ())
      [(0, { statement := "INSERT INTO t VALUES (1)" })] state
    (∃ made links calls, DeliversOnce {} (fun _ => some fun _ => .ok ())
      [(0, { statement := "INSERT INTO t VALUES (1)" })] state made links calls result.1 result.2) ∧
      result.2.delivered = [(0, [8])] := by
  intro deadlock first second state result
  refine ⟨run_deliversOnce _ (by decide) (by decide) (by decide) ?_, by decide +revert +kernel⟩
  intro c hc f hf
  have hcases : c = first ∨ c = second := by simpa [state] using hc
  rcases hcases with rfl | rfl
  · obtain rfl : deadlock = f := by simpa [first, Connection.raises, Reply.raises] using hf
    rfl
  · simp [second, Connection.raises, Reply.raises] at hf

end Batch

end SchemaAtlas
