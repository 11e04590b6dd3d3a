import SchemaAtlas.Proofs.Number.Whole
import SchemaAtlas.Proofs.Session.Misread

/-!
# What keys are recorded for

A key is recorded as the integer that its value is read as. It denotes that value, unless the value is a number with
a fraction, which is recorded as its whole part, or an identifier, which is recorded as the number of its bits. So a
fraction never fails a batch. This is told of the keys that the last attempt of a batch leaves if its commit came
back, and of those that are delivered, for any pool and any statements.
-/

namespace SchemaAtlas

/-- The integer that is recorded for a value. It denotes the value exactly if the value is no fraction and no
identifier. -/
structure Value.RecordedAs (v : Value) (key : Int) : Prop where
  number : ∀ q, v.number? = some q → key = Number.wholePart q
  identifier : ∀ bits, v = .uuid bits → key = bits
  exact : v.Denotes key ↔ ¬v.IsFraction ∧ ∀ bits, v ≠ .uuid bits

/-- A value is recorded as the integer that it is read as. -/
theorem Value.recordedAs {v : Value} {key : Int} (h : v.toInteger = .ok key) : v.RecordedAs key := by
  obtain ⟨q, hq, rfl⟩ | ⟨bits, rfl, rfl⟩ | ⟨cs, hcs, hread⟩ := toInteger_eq_ok_iff.mp h
  · have hwrites : v.characters? = none := by
      cases v <;> first | rfl | cases hq
    have hidentifier (bits : Nat) : v ≠ .uuid bits := by
      rintro rfl
      cases hq
    refine ⟨fun r hr => congrArg _ (Option.some.inj (hq.symm.trans hr)), fun bits hbits =>
      absurd hbits (hidentifier bits), ?_⟩
    simp only [Denotes, IsFraction, hq, hwrites, Option.some.injEq, reduceCtorEq, false_and, exists_false, or_false,
      exists_eq_left', hidentifier, ne_eq, not_false_eq_true, implies_true, and_true, not_forall, not_not]
    constructor
    · exact fun hwhole => ⟨_, hwhole⟩
    · rintro ⟨n, rfl⟩
      rw [Number.wholePart_intCast]
  · refine ⟨nofun, fun other hother => ?_, ?_⟩
    · rw [Value.uuid.inj hother]
    · simp [Denotes, number?, characters?]
  · have hnumber : v.number? = none := by
      cases v <;> first | rfl | cases hcs
    have hidentifier (bits : Nat) : v ≠ .uuid bits := by
      rintro rfl
      cases hcs
    refine ⟨fun q hq => ?_, fun bits hbits => absurd hbits (hidentifier bits), ?_⟩
    · rw [hnumber] at hq
      cases hq
    · simp [Denotes, IsFraction, hnumber, hcs, hread, hidentifier]

/-- A fraction is read as an integer, which it does not denote. -/
theorem Value.IsFraction.misread {v : Value} (h : v.IsFraction) :
    ∃ key, v.toInteger = .ok key ∧ ¬v.Denotes key := by
  obtain ⟨q, hq, hfraction⟩ := h
  have hread : v.toInteger = .ok (Number.wholePart q) := toInteger_eq_ok_iff.mpr (.inl ⟨q, hq, rfl⟩)
  exact ⟨_, hread, fun hdenotes => ((recordedAs hread).exact.mp hdenotes).1 ⟨q, hq, hfraction⟩⟩

namespace Batch

/-! ## Recorded rows -/

/-- The keys of returned rows: one for each first column that stands for a key, recorded for it. -/
def RecordsRows (policy : Policy) (rows : List (Except Failure (List Value))) (keys : List Int) : Prop :=
  ∃ tuples : List (Value × List Value), rows = tuples.map (fun tuple => .ok (tuple.1 :: tuple.2)) ∧
    List.Forall₂ Value.RecordedAs ((tuples.map Prod.fst).filter (isKey policy)) keys

/-- The keys of statements: those of a statement that had rows returned are recorded for these rows. -/
def Records (policy : Policy) (statements : List Statement) (replies : List Reply) (harvest : List (List Int)) :
    Prop :=
  ∀ i rows count keys, i < statements.length → replies[i]? = some (.rows rows count) → harvest[i]? = some keys →
    RecordsRows policy rows keys

/-- The keys that statements generate are recorded for the rows that they had returned. -/
theorem Harvests.records {policy : Policy} {statements : List Statement} {replies : List Reply}
    {harvest : List (List Int)} (h : Harvests policy statements replies harvest) :
    Records policy statements replies harvest := by
  induction statements generalizing replies harvest with
  | nil => exact fun i _ _ _ hi => absurd hi (Nat.not_lt_zero i)
  | cons s rest ih =>
    cases replies with
    | nil => exact h.elim
    | cons reply replies =>
      obtain ⟨own, others, hyields, hrest, rfl⟩ := h
      intro i rows count keys hi hreply hkeys
      cases i with
      | zero =>
        obtain rfl : reply = .rows rows count := Option.some.inj hreply
        obtain rfl : own = keys := Option.some.inj hkeys
        obtain ⟨tuples, hrows, hfirsts⟩ := hyields
        exact ⟨tuples, hrows, hfirsts.imp fun _ _ => Value.recordedAs⟩
      | succ i => exact ih hrest i rows count keys (Nat.lt_of_succ_lt_succ hi) hreply hkeys

/-- The keys that a batch leaves are recorded for the rows of some replies: those of its statements were cleared, and
the keys that the statements generated were added. -/
def Recorded (policy : Policy) (statements : List (StatementId × Statement)) (replies : List Reply) (known : Nat)
    (keys : Keys) : Prop :=
  ∃ (harvest : List (List Int)) (earlier : Keys), Records policy (statements.map Prod.snd) replies harvest ∧
    harvest.length = statements.length ∧ earlier.length = known ∧
    keys = (earlier.clear (statements.map Prod.fst)).addAll ((statements.map Prod.fst).zip harvest)

/-! ## The last attempt -/

/-- An attempt on a connection leaves it as the last one in use, and keys that are recorded for its rows if its commit
came back. -/
theorem attempt_records (policy : Policy) (statements : List (StatementId × Statement)) {state : State Pool}
    {c : Connection} (h : answerAt state.supply.waiting 0 = .ok c) :
    ∃ link, (attempt Pool.supplier policy statements state).2.supply.links.getLast? = some link ∧
      link.connection = c ∧ (link.commits ≠ 0 → Recorded policy statements c.script state.keys.length
        (attempt Pool.supplier policy statements state).2.keys) := by
  obtain ⟨-, hconnection, hactions, hgathered⟩ :=
    attemptOn_fresh policy statements c (state.keys.clear (statements.map Prod.fst))
  rw [attempt_supplied policy statements h]
  refine ⟨_, List.getLast?_concat .., hconnection, fun hcommits => ?_⟩
  have hsucceeds : transactionFailure policy (statements.map Prod.snd) c = none := by
    by_contra hfails
    rw [Link.commits, hconnection, hactions, commitsAmong_attemptActions, if_neg hfails] at hcommits
    exact hcommits rfl
  obtain ⟨harvest, hharvest, hkeys⟩ :=
    transact_keys policy statements (state.keys.clear (statements.map Prod.fst)) hsucceeds
  have hlength : harvest.length = statements.length := by
    rw [harvests_length hharvest, List.length_map]
  exact ⟨harvest, state.keys, hharvest.records, hlength, rfl, hgathered.trans hkeys⟩

/-! ## A batch -/

/-- What a batch records. If the commit of its last attempt came back, the keys of its statements are those recorded
for the rows of that attempt; and what is delivered are recorded keys. No attempt stumbles over a fraction. -/
structure RecordsKeys (policy : Policy) (consumers : Consumers) (statements : List (StatementId × Statement))
    (before : State Pool) (made : Nat) (outcome : Except Failure Unit) (after : State Pool) : Prop where
  attempted : 1 ≤ made ∧ made ≤ policy.maxAttempts ∧ after.supply.acquired = before.supply.acquired + made
  recorded : ∀ c, answerAt before.supply.waiting (made - 1) = .ok c →
    ∃ link, after.supply.links.getLast? = some link ∧ link.connection = c ∧
      (link.commits ≠ 0 → Recorded policy statements c.script before.keys.length after.keys)
  delivered : ∃ calls, after.delivered = before.delivered ++ calls ∧ (calls = [] ∨
    Received consumers ((statements.map Prod.fst).map fun id => (id, after.keys.of id)) calls outcome)
  whole : ∀ c s reply v f, Stumbles policy (statements.map Prod.snd) c s reply v f → ¬v.IsFraction

/-- What a batch records of the values that are returned. -/
theorem run_recordsKeys {policy : Policy} (consumers : Consumers) (statements : List (StatementId × Statement))
    (state : State Pool) (hattempts : 1 ≤ policy.maxAttempts) :
    ∃ made, RecordsKeys policy consumers statements state made
      (run Pool.supplier policy consumers statements state).1
      (run Pool.supplier policy consumers statements state).2 := by
  obtain ⟨left, hleft⟩ : ∃ left, policy.maxAttempts = left + 1 := ⟨policy.maxAttempts - 1, by omega⟩
  obtain ⟨made, between, hmade, hbefore, hloop⟩ := attempts_last policy statements left 1 state
  have hcourse := attempt_course policy statements between
  have hanswer (c : Connection) (hc : answerAt state.supply.waiting made = .ok c) :
      answerAt between.supply.waiting 0 = .ok c := by
    rw [hbefore.waiting, answerAt, List.getD_eq_getElem?_getD, List.getElem?_drop]
    rwa [answerAt, List.getD_eq_getElem?_getD] at hc
  have hrecorded (c : Connection) (hc : answerAt state.supply.waiting made = .ok c) :=
    attempt_records policy statements (hanswer c hc)
  have hwhole : ∀ c s reply v f, Stumbles policy (statements.map Prod.snd) c s reply v f → ¬v.IsFraction := by
    intro c s reply v f hstumbles hfraction
    obtain ⟨key, hread, -⟩ := hfraction.misread
    rw [hstumbles.misread] at hread
    cases hread
  have hacquired := hcourse.acquired
  rw [hbefore.acquired, Nat.add_assoc] at hacquired
  have hundelivered := hcourse.delivered.trans hbefore.delivered
  rw [← hleft] at hloop
  cases hattempt : attempt Pool.supplier policy statements between with
  | mk outcome last =>
    rw [hattempt] at hloop hrecorded hacquired hundelivered
    rw [hbefore.known] at hrecorded
    cases outcome with
    | error f =>
      rw [run_of_error hloop]
      exact ⟨made + 1, ⟨by omega, by omega, hacquired⟩, hrecorded, ⟨[], by simpa using hundelivered, .inl rfl⟩, hwhole⟩
    | ok _ =>
      obtain ⟨calls, hreceived, hafter⟩ := deliver_received consumers (statements.map Prod.fst) last
      rw [run_of_ok hloop, hafter]
      exact ⟨made + 1, ⟨by omega, by omega, hacquired⟩, hrecorded, ⟨calls, by rw [hundelivered], .inr hreceived⟩,
        hwhole⟩

/-- A batch that has a whole number, a text and a fraction returned. -/
theorem run_recordsKeys_three :
    let c : Connection := { script := [.rows [.ok [.int 7], .ok [.text "8"], .ok [.decimal (.finite false 150 (-2))]]
      (.int 3)] }
    let state : State Pool := { supply := { waiting := [.ok c] }, keys := [[]] }
    let result := run Pool.supplier {} (fun _ => some fun _ => .ok ())
      [(0, { statement := "INSERT INTO t VALUES (1) RETURNING id" })] state
    (1 ≤ ({} : Policy).maxAttempts ∧ ∃ made, RecordsKeys {} (fun _ => some fun _ => .ok ())
      [(0, { statement := "INSERT INTO t VALUES (1) RETURNING id" })] state made result.1 result.2) ∧
      result.2.delivered = [(0, [7, 8, 1])] := by
  intro c state result
  exact ⟨⟨by decide, run_recordsKeys _ _ state (by decide)⟩, by decide +revert +kernel⟩

/-- A number with a fraction that is returned as a key is delivered as another one: 1.5 as 1, be it binary or decimal,
and 1.5 is a fraction. -/
theorem run_delivers_whole :
    let returned (v : Value) : Connection := { script := [.rows [.ok [v]] (.int 1)] }
    let batch (v : Value) := run Pool.supplier {} (fun _ => some fun _ => .ok ())
      [(0, { statement := "INSERT INTO t VALUES (1) RETURNING id" })]
      { supply := { waiting := [.ok (returned v)] }, keys := [[]] }
    let half : Value := .float (.finite false 3 (-1))
    let decimalHalf : Value := .decimal (.finite false 150 (-2))
    half.IsFraction ∧ (batch half).1.toOption = some () ∧ (batch half).2.delivered = [(0, [1])] ∧
      decimalHalf.IsFraction ∧ (batch decimalHalf).1.toOption = some () ∧
      (batch decimalHalf).2.delivered = [(0, [1])] := by
  intro returned batch half decimalHalf
  have hfraction : ∀ n : Int, (3 / 2 : ℚ) ≠ n := by
    intro n hn
    have hdouble : (3 : Int) = 2 * n := by
      have : (3 : ℚ) = 2 * n := by linarith
      exact_mod_cast this
    omega
  refine ⟨⟨3 / 2, ?_, hfraction⟩, by decide +revert +kernel, by decide +revert +kernel, ⟨3 / 2, ?_, hfraction⟩,
    by decide +revert +kernel, by decide +revert +kernel⟩
  · simp only [half, Value.number?, Number.Binary64.signedMantissa]
    norm_num
  · simp only [decimalHalf, Value.number?, Number.Binary64.signedMantissa]
    norm_num

end Batch

end SchemaAtlas
