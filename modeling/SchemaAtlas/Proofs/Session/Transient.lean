import SchemaAtlas.Proofs.Session.Attempt

/-!
# When an attempt asks for another

An attempt asks for another one if it failed for a transient reason. The reason is read off the script of
the connection: the database layer failed the transaction with a code of the transient table, and neither
a rollback that was due nor closing the connection failed after that.

The connections are assumed not to raise failures that tell of a failed transaction themselves; such a
failure could ask for another attempt on its own account.
-/

namespace SchemaAtlas

namespace Failure

/-- The status code that a failure of the database layer carries: the first of its codes that counts as
true, else the integer that leads its arguments. -/
def CarriesCode (f : Failure) (code : String) : Prop :=
  ∃ label text codes arguments, f = .database label text codes arguments ∧
    ((∃ v, codes.find? Value.isTrue = some v ∧ code = v.display) ∨
      ((∀ v ∈ codes, v.isTrue = false) ∧ ∃ n rest, arguments = .int n :: rest ∧ code = toString n))

/-- The integer that leads the arguments of a failure is told as a text. -/
theorem leadingCode_eq_some_iff (arguments : List Value) (code : String) :
    leadingCode arguments = some code ↔ ∃ n rest, arguments = .int n :: rest ∧ code = toString n := by
  unfold leadingCode
  split
  · simp [eq_comm]
  · rename_i hno
    simp only [reduceCtorEq, false_iff]
    rintro ⟨n, rest, rfl, -⟩
    exact hno n rest rfl

/-- The code that is read of a failure of the database layer is the one it carries. -/
theorem sqlstate_eq_some_iff {f : Failure} (h : f.isDatabase = true) (code : String) :
    f.sqlstate = some code ↔ f.CarriesCode code := by
  cases f with
  | database label text codes arguments =>
    simp only [sqlstate, CarriesCode, database.injEq]
    cases hfind : codes.find? Value.isTrue with
    | some v =>
      have hmem := List.mem_of_find?_eq_some hfind
      have htrue := List.find?_some hfind
      constructor
      · intro hcode
        exact ⟨label, text, codes, arguments, by simp, .inl ⟨v, hfind, (Option.some.inj hcode).symm⟩⟩
      · rintro ⟨_, _, _, _, ⟨rfl, rfl, rfl, rfl⟩, ⟨w, hw, rfl⟩ | ⟨hnone, -⟩⟩
        · rw [hfind] at hw
          rw [Option.some.inj hw]
        · rw [hnone v hmem] at htrue
          cases htrue
    | none =>
      have hnone : ∀ v ∈ codes, v.isTrue = false := by simpa using hfind
      constructor
      · intro hcode
        exact ⟨label, text, codes, arguments, by simp, .inr ⟨hnone, (leadingCode_eq_some_iff _ _).mp hcode⟩⟩
      · rintro ⟨_, _, _, _, ⟨rfl, rfl, rfl, rfl⟩, ⟨w, hw, -⟩ | ⟨-, hlead⟩⟩
        · rw [hfind] at hw
          cases hw
        · exact (leadingCode_eq_some_iff _ _).mpr hlead
  | _ => cases h

/-- A failure that takes another's place tells of a failed transaction as it did before. -/
@[simp] theorem transience?_during (f earlier : Failure) :
    (f.during earlier).transience? = f.transience? := by
  unfold during
  split
  · rename_i family text cause
    cases family <;> rfl
  · rfl

/-- A last failure decides what an outcome tells of a failed transaction. -/
theorem transience?_afterwards {α : Type} {outcome : Except Failure α} {f g : Failure}
    (h : afterwards outcome (.error g) = .error f) : f.transience? = g.transience? := by
  cases outcome with
  | ok a =>
    obtain rfl : g = f := by simpa [afterwards] using h
    rfl
  | error earlier =>
    obtain rfl : g.during earlier = f := by simpa [afterwards] using h
    exact transience?_during g earlier

end Failure

/-- A table knows a code if one of its entries is for it. -/
theorem TransientTable.lookup_isSome_iff (table : TransientTable) (code : String) :
    (table.lookup code).isSome ↔ code ∈ table.map Prod.fst := by
  induction table with
  | nil => simp
  | cons entry rest ih =>
    obtain ⟨known, kind⟩ := entry
    by_cases hcode : code = known
    · simp [hcode]
    · have hb : (code == known) = false := by simpa using hcode
      simp [List.lookup_cons, hb, ih, hcode]

namespace Batch

/-- An attempt on a connection fails for a transient reason: the database layer failed the transaction
with a code that the table knows, and nothing failed after that. -/
def FailsTransiently (policy : Policy) (statements : List Statement) (c : Connection) : Prop :=
  ∃ f code, transactionFailure policy statements c = some f ∧ f.CarriesCode code ∧
    code ∈ policy.transient.map Prod.fst ∧
    (rollbackDue policy statements c = true → c.rollbackFailure = none) ∧ c.closeFailure = none

/-- A failure that carries a code is one of the database layer. -/
theorem isDatabase_of_carriesCode {f : Failure} {code : String} (h : f.CarriesCode code) :
    f.isDatabase = true := by
  obtain ⟨label, text, codes, arguments, rfl, -⟩ := h
  rfl

/-- A failure that does not tell of a failed transaction asks for no other attempt. -/
theorem retryable?_of_transience? {f : Failure} (h : f.transience? = none) : retryable? f = none := by
  simp [retryable?, h]

/-- Nor does a fault of gathering keys. -/
theorem retryable?_of_harvestFault {f : Failure} (h : IsHarvestFault f) : retryable? f = none := by
  obtain ⟨kind, arguments, rfl⟩ | ⟨s, key, g, rfl⟩ := h <;> rfl

/-- The kind of a failure is known if the table knows the code that it carries. -/
theorem transientKind_isSome_iff_carriesCode (policy : Policy) {f : Failure} (h : f.isDatabase = true) :
    (f.transientKind policy.transient).isSome ↔
      ∃ code, f.CarriesCode code ∧ code ∈ policy.transient.map Prod.fst := by
  rw [Failure.transientKind_isSome_iff]
  constructor
  · rintro ⟨code, kind, hcode, hkind⟩
    refine ⟨code, (Failure.sqlstate_eq_some_iff h code).mp hcode, ?_⟩
    exact (TransientTable.lookup_isSome_iff _ _).mp (by simp [hkind])
  · rintro ⟨code, hcode, hknown⟩
    obtain ⟨kind, hkind⟩ := Option.isSome_iff_exists.mp ((TransientTable.lookup_isSome_iff _ _).mpr hknown)
    exact ⟨code, kind, (Failure.sqlstate_eq_some_iff h code).mpr hcode, hkind⟩

/-- A failed transaction asks for another attempt exactly if the table knows its code. -/
theorem retryable?_toldFailure {policy : Policy} {f : Failure} (hplain : retryable? f = none) :
    (retryable? (toldFailure policy f)).isSome ↔
      ∃ code, f.CarriesCode code ∧ code ∈ policy.transient.map Prod.fst := by
  cases hdatabase : f.isDatabase with
  | false =>
    simp only [toldFailure, hdatabase, Bool.false_eq_true, if_false, hplain, Option.isSome_none, false_iff]
    rintro ⟨code, hcode, -⟩
    simp [isDatabase_of_carriesCode hcode] at hdatabase
  | true =>
    have hretryable : (retryable? (toldFailure policy f)).isSome = (f.transientKind policy.transient).isSome := by
      cases hkind : f.transientKind policy.transient <;>
        simp [toldFailure, hdatabase, transactionFailed, Failure.becauseOf, retryable?, Failure.transience?,
          hkind]
    rw [hretryable, transientKind_isSome_iff_carriesCode policy hdatabase]

/-- An attempt asks for another one exactly if it failed for a transient reason. -/
theorem retryable?_attemptOutcome {policy : Policy} {statements : List Statement} {c : Connection}
    (hplain : ∀ f, c.raises f → f.transience? = none) {f : Failure}
    (h : attemptOutcome policy statements c = .error f) :
    (retryable? f).isSome ↔ FailsTransiently policy statements c := by
  have hraised {g : Failure} (hg : c.raises g) : retryable? g = none :=
    retryable?_of_transience? (hplain g hg)
  cases hclose : c.closeFailure with
  | some g =>
    -- Whatever failed before, closing decides, and its failure asks for nothing.
    have hg : g.transience? = none := hplain g (.inr (.inr (.inr (.inr hclose))))
    have hf : retryable? f = none := by
      rw [attemptOutcome, hclose] at h
      exact retryable?_of_transience? ((Failure.transience?_afterwards h).trans hg)
    simp [hf, FailsTransiently, hclose]
  | none =>
    cases htransaction : transactionFailure policy statements c with
    | none => simp [attemptOutcome, htransaction, hclose, Link.outcome, Failure.afterwards] at h
    | some e =>
      obtain rfl : abandonedFailure policy statements c e = f := by
        simpa [attemptOutcome, htransaction, hclose, Link.outcome, Failure.afterwards] using h
      have he : retryable? e = none :=
        (transactionFailure_eq_some htransaction).elim hraised retryable?_of_harvestFault
      have hiff := @retryable?_toldFailure policy e he
      cases hdue : rollbackDue policy statements c with
      | false => simp [abandonedFailure, hdue, hiff, FailsTransiently, htransaction, hclose]
      | true =>
        cases hrollback : c.rollbackFailure with
        | none => simp [abandonedFailure, hdue, hrollback, hiff, FailsTransiently, htransaction, hclose]
        | some r =>
          have hr : retryable? (toldRollback r) = none := by
            unfold toldRollback
            split
            · rfl
            · exact hraised (.inr (.inr (.inr (.inl hrollback))))
          simp [abandonedFailure, hdue, hrollback, hr, FailsTransiently]

end Batch

end SchemaAtlas
