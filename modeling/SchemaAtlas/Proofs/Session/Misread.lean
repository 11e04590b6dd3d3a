import SchemaAtlas.Proofs.Session.Decision
import SchemaAtlas.Proofs.Session.Trace

/-!
# Keys that are no integers

A batch whose connections raise only failures of the database layer fails with a failure of this library,
unless it stumbles over a key that is no integer. Which failure such a key is told as depends on where it
was found: a returned key is told as a failed transaction, which is not tried again, but an infinite one
and the last row of an insertion are told as they are. The transaction is rolled back in all cases.
-/

namespace SchemaAtlas

/-- Whether a value is an infinite number. -/
def Value.isInfinite : Value → Bool
  | .float (.infinite _) => true
  | .decimal (.infinite _) => true
  | _ => false

/-- Only an infinite number overflows; whatever else is no integer is of the wrong type or value. -/
theorem Value.toInteger_fault {v : Value} {f : Failure} (h : v.toInteger = .error f) :
    ∃ kind arguments, f = .fault kind arguments ∧
      if v.isInfinite then kind = .overflow else kind = .wrongType ∨ kind = .wrongValue := by
  unfold Value.toInteger at h
  split at h
  all_goals first
    | (obtain rfl := Except.error.inj h
       exact ⟨_, _, rfl, by simp [Value.isInfinite]⟩)
    | (split at h <;> first
        | (obtain rfl := Except.error.inj h
           exact ⟨_, _, rfl, by simp [Value.isInfinite]⟩)
        | cases h)
    | cases h

namespace Batch

/-! ## The key that stops the reading of a reply -/

/-- The reading of a reply reaches a value that has to be an integer: a returned row stands for a key, and
all rows before it are read; or a last row is the key of an insertion that added exactly one. -/
inductive Reads (policy : Policy) (s : Statement) : Reply → Value → Prop where
  | row {before rest : List (Except Failure (List Value))} {v : Value} {others : List Value} {count : Value}
      {keys : List Int} : Yields policy s (.rows before count) keys → isKey policy v = true →
      Reads policy s (.rows (before ++ .ok (v :: others) :: rest) count) v
  | lastRow {lastRow count : Value} : s.isInsert = true → count.equalsInteger 1 = true →
      lastRow.isTrue = true → Reads policy s (.changed lastRow count) lastRow

/-- What a key that is no integer is told as: a returned one as a failed transaction unless it is infinite,
any other as the fault itself. -/
def toldKey (s : Statement) (v : Value) (f : Failure) : Reply → Failure
  | .rows .. => if v.isInfinite then f else notAnInteger s v f
  | _ => f

/-- Whether a key that is no integer is told as the fault itself. -/
def isBare (v : Value) : Reply → Bool
  | .rows .. => v.isInfinite
  | _ => true

/-- A row whose first column is no integer, and should be one, fails with what the key is told as. -/
theorem keyOfRow_of_misread {policy : Policy} (s : Statement) {v : Value} (others : List Value)
    (h : isKey policy v = true) {f : Failure} (hv : v.toInteger = .error f)
    (rows : List (Except Failure (List Value))) (count : Value) :
    keyOfRow policy s (v :: others) = .error (toldKey s v f (.rows rows count)) := by
  have hkeep : (v.isNull || isRowIdentifier policy v) = false := by
    simpa [isKey] using h
  obtain ⟨kind, arguments, rfl, hkind⟩ := Value.toInteger_fault hv
  cases hinfinite : v.isInfinite with
  | true =>
    obtain rfl : kind = .overflow := by simpa [hinfinite] using hkind
    simp [keyOfRow, hkeep, hv, toldKey, hinfinite]
  | false =>
    obtain rfl | rfl : kind = .wrongType ∨ kind = .wrongValue := by simpa [hinfinite] using hkind
    all_goals simp [keyOfRow, hkeep, hv, toldKey, hinfinite]

/-- Rows that can be read leave it to the rows behind them what the reading comes to. -/
theorem keysOfRows_append {policy : Policy} {s : Statement} {count : Value}
    {before : List (Except Failure (List Value))} {keys : List Int}
    (h : Yields policy s (.rows before count) keys) (rest : List (Except Failure (List Value))) :
    (keysOfRows policy s (before ++ rest)).2 = (keysOfRows policy s rest).2 := by
  have hread := (keysOfRows_eq_ok_iff policy s count before keys).mpr h
  clear h
  induction before generalizing keys with
  | nil => rfl
  | cons row before ih =>
    match row with
    | .error f => simp [keysOfRows] at hread
    | .ok row =>
      cases hkey : keyOfRow policy s row with
      | error f => simp [keysOfRows, hkey] at hread
      | ok key =>
        simp only [keysOfRows, hkey, Prod.mk.injEq] at hread
        simp only [List.cons_append, keysOfRows, hkey]
        exact ih (Prod.ext rfl hread.2)

/-- A key that is no integer stops the reading of a reply with what it is told as. -/
theorem keysOfReply_of_misread {policy : Policy} {s : Statement} {reply : Reply} {v : Value} {f : Failure}
    (h : Reads policy s reply v) (hv : v.toInteger = .error f) :
    (keysOfReply policy s reply).2 = .error (toldKey s v f reply) := by
  cases h with
  | row hbefore hkey =>
    simp only [keysOfReply]
    rw [keysOfRows_append hbefore, keysOfRows, keyOfRow_of_misread s _ hkey hv]
  | lastRow hinsert hcount htrue => simp [keysOfReply, hinsert, hcount, htrue, hv, toldKey]

/-- The reading of rows, none of which is empty, stops at a row that fails or at a key that is no
integer. -/
theorem reads_of_rows_error {policy : Policy} {s : Statement} {count : Value} {g : Failure}
    {before rows : List (Except Failure (List Value))} {keys : List Int}
    (hbefore : Yields policy s (.rows before count) keys) (hempty : .ok [] ∉ rows)
    (h : (keysOfRows policy s rows).2 = .error g) :
    .error g ∈ rows ∨ ∃ v f, Reads policy s (.rows (before ++ rows) count) v ∧ v.toInteger = .error f ∧
      g = toldKey s v f (.rows (before ++ rows) count) := by
  induction rows generalizing before keys with
  | nil => simp [keysOfRows] at h
  | cons row rows ih =>
    cases row with
    | error f =>
      obtain rfl : f = g := by simpa [keysOfRows] using h
      exact .inl List.mem_cons_self
    | ok values =>
      cases values with
      | nil => exact absurd List.mem_cons_self hempty
      | cons v others =>
        have hrest {key : Option Int} (hkey : keyOfRow policy s (v :: others) = .ok key) :
            .error g ∈ .ok (v :: others) :: rows ∨
              ∃ w f, Reads policy s (.rows (before ++ .ok (v :: others) :: rows) count) w ∧
                w.toInteger = .error f ∧ g = toldKey s w f (.rows (before ++ .ok (v :: others) :: rows) count) := by
          have hread : keysOfRows policy s (before ++ [.ok (v :: others)]) =
              ((keysOfRows policy s (before ++ [.ok (v :: others)])).1, .ok ()) := by
            refine Prod.ext rfl ?_
            rw [keysOfRows_append hbefore, keysOfRows, hkey]
            rfl
          have hmore := ih ((keysOfRows_eq_ok_iff policy s count _ _).mp hread)
            (fun hmem => hempty (List.mem_cons_of_mem _ hmem)) (by simpa [keysOfRows, hkey] using h)
          rw [List.append_assoc] at hmore
          exact hmore.imp_left (List.mem_cons_of_mem _)
        by_cases hkey : isKey policy v = true
        · cases hv : v.toInteger with
          | ok key => exact hrest (keyOfRow_of_isKey s others hkey hv)
          | error f =>
            refine .inr ⟨v, f, .row hbefore hkey, hv, ?_⟩
            have hrow := keyOfRow_of_misread s others hkey hv (before ++ .ok (v :: others) :: rows) count
            simpa [keysOfRows, hrow, eq_comm] using h
        · exact hrest (keyOfRow_of_not_isKey s others (by simpa using hkey))

/-- The reading of a reply without empty rows stops at what the reply raises or at a key that is no
integer. -/
theorem reads_of_error {policy : Policy} {s : Statement} {reply : Reply} {g : Failure}
    (hempty : ∀ rows count, reply = .rows rows count → .ok [] ∉ rows)
    (h : (keysOfReply policy s reply).2 = .error g) :
    reply.raises g ∨ ∃ v f, Reads policy s reply v ∧ v.toInteger = .error f ∧ g = toldKey s v f reply := by
  cases reply with
  | refused f => exact .inl (Except.error.inj h)
  | rows rows count =>
    exact reads_of_rows_error ((yields_nil policy s count []).mpr rfl) (hempty rows count rfl) h
  | changed lastRow count =>
    simp only [keysOfReply] at h
    split at h
    · rename_i hcounts
      simp only [Bool.and_eq_true] at hcounts
      cases hlast : lastRow.toInteger with
      | ok key => simp [hlast] at h
      | error f =>
        obtain rfl : f = g := by simpa [hlast] using h
        exact .inr ⟨lastRow, f, .lastRow hcounts.1.1 hcounts.1.2 hcounts.2, hlast, rfl⟩
    · simp at h

/-! ## The key that a transaction stumbles over -/

/-- A transaction stumbles over a value: it was begun, all statements before one are served, and the reading
of the reply to that one reaches the value, which is no integer. -/
structure Stumbles (policy : Policy) (statements : List Statement) (c : Connection) (s : Statement)
    (reply : Reply) (v : Value) (f : Failure) : Prop where
  begun : c.beginFailure = none
  reached : ∃ i, statements[i]? = some s ∧ c.script[i]? = some reply ∧
    ∀ j < i, Served policy statements c.script j
  reads : Reads policy s reply v
  misread : v.toInteger = .error f

/-- Statements fail at the first that is not served. -/
theorem statementsFailure_of_reached {policy : Policy} {statements : List Statement} {replies : List Reply}
    {i : Nat} {s : Statement} {reply : Reply} {g : Failure} (hs : statements[i]? = some s)
    (hreply : replies[i]? = some reply) (hserved : ∀ j < i, Served policy statements replies j)
    (h : (keysOfReply policy s reply).2 = .error g) :
    statementsFailure policy statements replies = some g := by
  induction i generalizing statements replies with
  | zero =>
    obtain ⟨rest, rfl⟩ : ∃ rest, statements = s :: rest := by
      cases statements <;> simp_all
    obtain ⟨others, rfl⟩ : ∃ others, replies = reply :: others := by
      cases replies <;> simp_all
    simp [statementsFailure, h]
  | succ i ih =>
    cases statements with
    | nil => cases hs
    | cons first rest =>
      cases replies with
      | nil => cases hreply
      | cons reply replies =>
        have hfirst := (served_zero policy first rest reply replies).mp (hserved 0 (by omega))
        simp only [statementsFailure, hfirst]
        refine ih hs hreply fun j hj => ?_
        exact (served_succ policy first rest reply replies j).mp (hserved (j + 1) (by omega))

/-- Statements that get a reply each fail at the reply to the first that is not served. -/
theorem reached_of_statementsFailure {policy : Policy} {statements : List Statement} {replies : List Reply}
    {g : Failure} (hreplies : statements.length ≤ replies.length)
    (h : statementsFailure policy statements replies = some g) :
    ∃ i s reply, statements[i]? = some s ∧ replies[i]? = some reply ∧
      (∀ j < i, Served policy statements replies j) ∧ (keysOfReply policy s reply).2 = .error g := by
  induction statements generalizing replies with
  | nil => simp [statementsFailure] at h
  | cons s rest ih =>
    cases replies with
    | nil => simp at hreplies
    | cons reply replies =>
      cases hreply : (keysOfReply policy s reply).2 with
      | error f =>
        obtain rfl : f = g := by simpa [statementsFailure, hreply] using h
        exact ⟨0, s, reply, rfl, rfl, by simp, hreply⟩
      | ok _ =>
        obtain ⟨i, s', reply', hs, hr, hserved, hfails⟩ :=
          ih (by simpa using hreplies) (by simpa [statementsFailure, hreply] using h)
        refine ⟨i + 1, s', reply', hs, hr, ?_, hfails⟩
        intro j hj
        cases j with
        | zero => exact (served_zero policy s rest reply replies).mpr hreply
        | succ j => exact (served_succ policy s rest reply replies j).mpr (hserved j (by omega))

/-- A connection raises only failures of the database layer: it has a reply to each statement, no returned
row is empty, and it closes. The values in the rows, and the last rows, are arbitrary. -/
structure RepliesPlainly (statements : List Statement) (c : Connection) : Prop where
  raises : ∀ f, c.raises f → f.isDatabase = true
  replies : statements.length ≤ c.script.length
  rows : ∀ rows count, .rows rows count ∈ c.script → .ok [] ∉ rows
  closes : c.closeFailure = none

/-- A transaction that stumbles fails with what the key is told as. -/
theorem Stumbles.fails {policy : Policy} {statements : List Statement} {c : Connection} {s : Statement}
    {reply : Reply} {v : Value} {f : Failure} (h : Stumbles policy statements c s reply v f) :
    statementsFailure policy statements c.script = some (toldKey s v f reply) ∧
      transactionFailure policy statements c = some (toldKey s v f reply) := by
  obtain ⟨i, hs, hreply, hserved⟩ := h.reached
  have hrun := statementsFailure_of_reached hs hreply hserved (keysOfReply_of_misread h.reads h.misread)
  exact ⟨hrun, by simp [transactionFailure, h.begun, hrun]⟩

/-- On a plain connection a transaction fails with a failure of the database layer, or it stumbles. -/
theorem stumbles_of_transactionFailure {policy : Policy} {statements : List Statement} {c : Connection}
    (hplain : RepliesPlainly statements c) {g : Failure}
    (h : transactionFailure policy statements c = some g) :
    g.isDatabase = true ∨
      ∃ s reply v f, Stumbles policy statements c s reply v f ∧ g = toldKey s v f reply := by
  simp only [transactionFailure, Option.or_eq_some_iff] at h
  rcases h with hbegin | ⟨hbegin, hrun | ⟨-, hcommit⟩⟩
  · exact .inl (hplain.raises g (.inl hbegin))
  · obtain ⟨i, s, reply, hs, hreply, hserved, hfails⟩ := reached_of_statementsFailure hplain.replies hrun
    have hmem : reply ∈ c.script := List.mem_of_getElem? hreply
    rcases reads_of_error (fun rows count hrows => hplain.rows rows count (hrows ▸ hmem)) hfails with
      hraises | ⟨v, f, hreads, hmisread, rfl⟩
    · exact .inl (hplain.raises g (.inr (.inl ⟨reply, hmem, hraises⟩)))
    · exact .inr ⟨s, reply, v, f, ⟨hbegin, ⟨i, hs, hreply, hserved⟩, hreads, hmisread⟩, rfl⟩
  · exact .inl (hplain.raises g (.inr (.inr (.inl hcommit))))

/-- What a key is told as is a failure of this library exactly if it is not the fault itself. -/
theorem isOwn_toldKey {s : Statement} {v : Value} {f : Failure} (hv : v.toInteger = .error f)
    (reply : Reply) : (toldKey s v f reply).isOwn = !isBare v reply := by
  obtain ⟨kind, arguments, rfl, -⟩ := Value.toInteger_fault hv
  cases reply with
  | rows rows count => cases hinfinite : v.isInfinite <;> simp [toldKey, isBare, hinfinite] <;> rfl
  | _ => rfl

/-- No key that is no integer is a failure of the database layer. -/
theorem isDatabase_toldKey {s : Statement} {v : Value} {f : Failure} (hv : v.toInteger = .error f)
    (reply : Reply) : (toldKey s v f reply).isDatabase = false := by
  obtain ⟨kind, arguments, rfl, -⟩ := Value.toInteger_fault hv
  cases reply with
  | rows rows count => cases hinfinite : v.isInfinite <;> simp [toldKey, hinfinite] <;> rfl
  | _ => rfl

/-- A rollback is due after a transaction stumbled, unless the connection dropped the transaction. -/
theorem Stumbles.rollbackDue {policy : Policy} {statements : List Statement} {c : Connection} {s : Statement}
    {reply : Reply} {v : Value} {f : Failure} (h : Stumbles policy statements c s reply v f) :
    rollbackDue policy statements c = !c.drops (transactionActions policy statements c) := by
  simp [Batch.rollbackDue, h.begun, h.fails.1]

/-- A failed transaction of the database layer, and a failed rollback of it, are told as failures of this
library. -/
theorem isOwn_abandonedFailure {policy : Policy} {statements : List Statement} {c : Connection}
    (hplain : RepliesPlainly statements c) {g : Failure}
    (hg : (toldFailure policy g).isOwn = true) :
    (abandonedFailure policy statements c g).isOwn = true := by
  unfold abandonedFailure
  split
  · rename_i r _ hr
    rw [toldRollback, if_pos (hplain.raises r (.inr (.inr (.inr (.inl hr)))))]
    rfl
  · exact hg

/-- An attempt that stumbles asks for no other. -/
theorem Stumbles.not_failsTransiently {policy : Policy} {statements : List Statement} {c : Connection}
    {s : Statement} {reply : Reply} {v : Value} {f : Failure}
    (h : Stumbles policy statements c s reply v f) : ¬FailsTransiently policy statements c := by
  rintro ⟨g, code, hg, hcode, -⟩
  obtain rfl : toldKey s v f reply = g := Option.some.inj (h.fails.2.symm.trans hg)
  have hdatabase := isDatabase_of_carriesCode hcode
  rw [isDatabase_toldKey h.misread reply] at hdatabase
  cases hdatabase

/-! ## A batch -/

/-- How a batch of a number of attempts fails before it delivers anything: with a failure of this library,
or with the bare fault of a key that its last attempt stumbled over. An attempt that stumbles is the last;
its key is told unless rolling back fails, and its transaction is rolled back if it is still active. -/
structure FailsTyped (policy : Policy) (statements : List Statement) (before : State Pool) (made : Nat)
    (outcome : Except Failure Unit) (after : State Pool) : Prop where
  attempted : 1 ≤ made ∧ made ≤ policy.maxAttempts ∧ after.supply.acquired = before.supply.acquired + made
  typed : ∀ g, outcome = .error g → after.delivered = before.delivered → g.isOwn = true ∨
    ∃ c s reply v, answerAt before.supply.waiting (made - 1) = .ok c ∧
      Stumbles policy statements c s reply v g ∧ isBare v reply = true
  last : ∀ i c s reply v f, i < made → answerAt before.supply.waiting i = .ok c →
    Stumbles policy statements c s reply v f → i = made - 1
  told : ∀ c s reply v f, answerAt before.supply.waiting (made - 1) = .ok c →
    Stumbles policy statements c s reply v f →
    (c.drops (transactionActions policy statements c) = false → c.rollbackFailure = none) →
    after.delivered = before.delivered ∧ outcome = .error (toldKey s v f reply)
  undone : ∀ c s reply v f, answerAt before.supply.waiting (made - 1) = .ok c →
    Stumbles policy statements c s reply v f →
    ∃ link ∈ after.supply.links, link.connection = c ∧ link.actions = transactionActions policy statements c ++
      (if c.drops (transactionActions policy statements c) then [] else [.rollback]) ++ [.close]

/-- A key that is told as the fault itself is that fault. -/
theorem toldKey_of_isBare {v : Value} {reply : Reply} (h : isBare v reply = true) (s : Statement)
    (f : Failure) : toldKey s v f reply = f := by
  cases reply with
  | rows rows count =>
    have hinfinite : v.isInfinite = true := h
    simp [toldKey, hinfinite]
  | _ => rfl

/-- An attempt on a plain connection fails with a failure of this library, or with the bare fault of a key
that it stumbled over. -/
theorem typed_of_attemptOutcome {policy : Policy} {statements : List Statement} {c : Connection}
    (hplain : RepliesPlainly statements c) {g : Failure}
    (h : attemptOutcome policy statements c = .error g) :
    g.isOwn = true ∨
      ∃ s reply v, Stumbles policy statements c s reply v g ∧ isBare v reply = true := by
  cases hf : transactionFailure policy statements c with
  | none => simp [attemptOutcome, hf, hplain.closes, Link.outcome, Failure.afterwards] at h
  | some e =>
    obtain rfl : abandonedFailure policy statements c e = g := by
      simpa [attemptOutcome_of_closes hplain.closes hf] using h
    rcases stumbles_of_transactionFailure hplain hf with hdatabase | ⟨s, reply, v, f, hstumbles, rfl⟩
    · left
      apply isOwn_abandonedFailure hplain
      rw [toldFailure, if_pos hdatabase]
      rfl
    · have htold : toldFailure policy (toldKey s v f reply) = toldKey s v f reply := by
        simp [toldFailure, isDatabase_toldKey hstumbles.misread]
      cases hbare : isBare v reply with
      | false =>
        left
        apply isOwn_abandonedFailure hplain
        rw [htold, isOwn_toldKey hstumbles.misread, hbare]
        rfl
      | true =>
        by_cases hrollback : rollbackDue policy statements c = true → c.rollbackFailure = none
        · right
          rw [abandonedFailure_of_rollback hrollback, htold, toldKey_of_isBare hbare]
          exact ⟨s, reply, v, hstumbles, hbare⟩
        · -- The failure of the rollback takes the place of the key's.
          obtain ⟨hdue, hfails⟩ := Classical.not_imp.mp hrollback
          obtain ⟨r, hr⟩ := Option.ne_none_iff_exists'.mp hfails
          left
          have hr' : r.isDatabase = true := hplain.raises r (.inr (.inr (.inr (.inl hr))))
          simp only [abandonedFailure, hdue, hr, toldRollback, hr', if_true]
          rfl

/-- The failures that a pool gives before it is empty are among its answers. -/
theorem mem_of_answerAt_error {answers : List (Except Failure Connection)} {i : Nat} {f : Failure}
    (hi : i < answers.length) (h : answerAt answers i = .error f) : .error f ∈ answers := by
  rw [answerAt, List.getD_eq_getElem?_getD, List.getElem?_eq_getElem hi, Option.getD_some] at h
  exact h ▸ List.getElem_mem hi

/-- A batch on plain connections, from a pool that raises only failures of this library, fails with a
failure of this library before it delivers anything, unless its last attempt stumbles over a key that is
told as it is. -/
theorem run_failsTyped {policy : Policy} (consumers : Consumers) (statements : List (StatementId × Statement))
    {state : State Pool} (hattempts : 1 ≤ policy.maxAttempts)
    (hsupplied : policy.maxAttempts ≤ state.supply.waiting.length)
    (hsupplier : ∀ f, .error f ∈ state.supply.waiting → f.isOwn = true)
    (hplain : ∀ c, .ok c ∈ state.supply.waiting → RepliesPlainly (statements.map Prod.snd) c) :
    ∃ made, FailsTyped policy (statements.map Prod.snd) state made
      (run Pool.supplier policy consumers statements state).1
      (run Pool.supplier policy consumers statements state).2 := by
  have hquiet : ∀ c, .ok c ∈ state.supply.waiting → ∀ f, c.raises f → f.transience? = none := by
    intro c hc f hf
    have hdatabase := (hplain c hc).raises f hf
    cases f <;> first | rfl | cases hdatabase
  obtain ⟨left, hleft⟩ : ∃ left, policy.maxAttempts = left + 1 := ⟨policy.maxAttempts - 1, by omega⟩
  obtain ⟨made, hmade, hbound, hcourse, -⟩ := attempts_course statements left 1 hquiet
  rw [← hleft] at hcourse hbound
  cases hloop : attempts Pool.supplier policy statements policy.maxAttempts 1 state with
  | mk outcome between =>
    rw [hloop] at hcourse
    obtain ⟨hsupply, -, hundelivered⟩ := run_outcome consumers hloop rfl
    have hstumbled {i : Nat} {c : Connection} {s : Statement} {reply : Reply} {v : Value} {f : Failure}
        (hi : i < made) (hc : answerAt state.supply.waiting i = .ok c)
        (h : Stumbles policy (statements.map Prod.snd) c s reply v f) : i = made - 1 := by
      by_contra hless
      have hagain := hcourse.followed i (by omega)
      rw [hc] at hagain
      exact h.not_failsTransiently hagain
    have hended (c : Connection) (hc : answerAt state.supply.waiting (made - 1) = .ok c) :
        outcome = attemptOutcome policy (statements.map Prod.snd) c := by
      have hended := hcourse.ended
      rwa [hc] at hended
    refine ⟨made, {
      attempted := ⟨hmade, hbound, by rw [hsupply, hcourse.acquired]⟩
      typed := ?_
      last := fun i c s reply v f hi hc h => hstumbled hi hc h
      told := ?_
      undone := ?_ }⟩
    · intro g hg hnone
      have houtcome := hundelivered g hg (hnone.trans hcourse.delivered.symm)
      cases hanswer : answerAt state.supply.waiting (made - 1) with
      | error f =>
        left
        have hended := hcourse.ended
        rw [hanswer, houtcome] at hended
        obtain rfl : g = f := Except.error.inj hended
        exact hsupplier g (mem_of_answerAt_error (by omega) hanswer)
      | ok c =>
        have hattempt := (hended c hanswer).symm.trans houtcome
        obtain hown | ⟨s, reply, v, hstumbles, hbare⟩ :=
          typed_of_attemptOutcome (hplain c (mem_of_answerAt hanswer)) hattempt
        · exact .inl hown
        · exact .inr ⟨c, s, reply, v, rfl, hstumbles, hbare⟩
    · intro c s reply v f hc hstumbles hrollback
      have hdue : rollbackDue policy (statements.map Prod.snd) c = true → c.rollbackFailure = none := by
        simpa [hstumbles.rollbackDue] using hrollback
      have htold : outcome = .error (toldKey s v f reply) := by
        rw [hended c hc, attemptOutcome_of_closes (hplain c (mem_of_answerAt hc)).closes hstumbles.fails.2,
          abandonedFailure_of_rollback hdue]
        simp [toldFailure, isDatabase_toldKey hstumbles.misread]
      rw [htold] at hloop
      rw [run_of_error hloop]
      exact ⟨hcourse.delivered, rfl⟩
    · intro c s reply v f hc hstumbles
      obtain ⟨links, hlinks, hused⟩ := hcourse.used
      have hlast : made - 1 + 1 = made := by omega
      rw [← hlast, usesOf_take, hc, usesOf_ok] at hused
      have hmem : (c, attemptActions policy (statements.map Prod.snd) c) ∈ links.map useOf := by
        simp [hused]
      obtain ⟨link, hlink, huse⟩ := List.mem_map.mp hmem
      obtain ⟨hconnection, hactions⟩ := Prod.mk.inj huse
      have hkept : link ∈ between.supply.links := by
        rw [show between.supply.links = state.supply.links ++ links from hlinks]
        exact List.mem_append_right _ hlink
      refine ⟨link, hsupply ▸ hkept, hconnection, ?_⟩
      rw [hactions, attemptActions, hstumbles.rollbackDue]
      cases c.drops (transactionActions policy (statements.map Prod.snd) c) <;> rfl

/-- A returned key that is a text is told as a failed transaction, which is rolled back and not tried
again. -/
theorem run_failsTyped_text :
    let c : Connection := { script := [.rows [.ok [.text "abc"]] (.int 1)] }
    let state : State Pool := { supply := { waiting := [.ok c, .ok c] }, keys := [[]] }
    let result := run Pool.supplier { maxAttempts := 2 } (fun _ => none)
      [(0, { statement := "INSERT INTO t VALUES (1) RETURNING id" })] state
    (∃ made, FailsTyped { maxAttempts := 2 } [{ statement := "INSERT INTO t VALUES (1) RETURNING id" }] state made
      result.1 result.2) ∧ result.2.supply.acquired = 1 := by
  intro c state result
  refine ⟨@run_failsTyped { maxAttempts := 2 } _ [(0, _)] state (by decide) (by decide) ?_ ?_,
    by decide +revert +kernel⟩
  · intro f hf
    simp [state] at hf
  · intro d hd
    obtain rfl : d = c := by simpa [state] using hd
    refine ⟨?_, by decide, ?_, rfl⟩
    · intro f hf
      simp [c, Connection.raises, Reply.raises] at hf
    · intro rows count hrows
      simp only [c, List.mem_singleton, Reply.rows.injEq] at hrows
      simp [hrows.1]

/-- The last row of an insertion that is a text, and an infinite number that is returned as a key, leave a
batch as bare faults, though all connections are plain. -/
theorem run_misread_bare :
    let rowText : Connection := { script := [.changed (.text "AAAR3sAAEAAAACXAAA") (.int 1)] }
    let infinite : Connection := { script := [.rows [.ok [.float (.infinite false)]] (.int 1)] }
    let insertion : Statement := { statement := "INSERT INTO t VALUES (1)" }
    let fails (c : Connection) : Option Bool :=
      match (run Pool.supplier {} (fun _ => none) [(0, insertion)]
        { supply := { waiting := List.replicate 5 (.ok c) }, keys := [[]] }).1 with
      | .ok () => none
      | .error f => some f.isOwn
    (RepliesPlainly [insertion] rowText ∧ fails rowText = some false) ∧
      RepliesPlainly [insertion] infinite ∧ fails infinite = some false := by
  intro rowText infinite insertion fails
  refine ⟨⟨⟨?_, by decide, ?_, rfl⟩, by decide +revert +kernel⟩, ⟨?_, by decide, ?_, rfl⟩,
    by decide +revert +kernel⟩
  · intro f hf
    simp [rowText, Connection.raises, Reply.raises] at hf
  · intro rows count hrows
    simp [rowText] at hrows
  · intro f hf
    simp [infinite, Connection.raises, Reply.raises] at hf
  · intro rows count hrows
    simp only [infinite, List.mem_singleton, Reply.rows.injEq] at hrows
    simp [hrows.1]

end Batch

end SchemaAtlas
