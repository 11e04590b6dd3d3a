import SchemaAtlas.CommandLine.Basic
import SchemaAtlas.Proofs.Handler.Escape
import SchemaAtlas.Proofs.Session.Harvest

/-!
# Checking all databases

Databases are checked in order, each is reported, and the exit code tells whether all checks succeeded. One
thing keeps later databases from being checked: a failure that escapes the check of an earlier one. Which
failures escape is told here exactly.
-/

namespace SchemaAtlas

open Batch (answerAt answerAt_tail)

/-- The engine that is made next. -/
def World.nextEngine (world : World) : Except Failure (List (Except Failure Connection)) :=
  world.engines.headD (.ok [])

/-- An address whose port cannot be read fails with a failure that is not of this library. -/
theorem Address.isOwn_of_parse? {s : String} {f : Failure} (h : parse? s = some (.error f)) :
    f.isOwn = false := by
  obtain ⟨⟨scheme, rest⟩, -, hread⟩ := Option.map_eq_some_iff.mp h
  dsimp only at hread
  generalize splitPart ':' (fun c => c != '/' && c != '?') (splitHost (splitUser rest).2).2 = part at hread
  obtain ⟨_ | cs, rest⟩ := part
  · cases hread
  · simp only [readPort] at hread
    cases hport : (Value.text (String.ofList cs)).toInteger with
    | ok n =>
      rw [hport] at hread
      cases hread
    | error g =>
      rw [hport] at hread
      obtain rfl : g = f := Except.error.inj hread
      obtain ⟨kind, arguments, rfl⟩ := Batch.toInteger_eq_error hport
      rfl

/-! ## One database -/

/-- What escapes the diagnosis of a database: what escapes the check, or, if the database passes it, what
escapes the reading on the second connection. -/
theorem Handler.diagnose_escapes_iff (handler : Handler) (filter : Option SchemaFilter) (world : World)
    (f : Failure) :
    ((handler.diagnose filter { reach := { world } }).1 = .error f ∧ f.isOwn = false) ↔
      ∃ answers, world.nextEngine = .ok answers ∧
        ((f.IsForeign ∧ (answerAt answers 0 = .error f ∨
            ∃ c, answerAt answers 0 = .ok c ∧ Health.probed c = .error f)) ∨
          (Provider.Passes world.nextEngine world.clock ∧
            ((answerAt answers 1 = .error f ∧ f.IsForeign) ∨
              ∃ d, answerAt answers 1 = .ok d ∧
                (d.closeFailure = some f ∨ d.closeFailure = none ∧ d.inspectorFailure = some f) ∧
                f.isOwn = false))) := by
  obtain ⟨hchecked, hengaged⟩ := handler.provider.health_spec world
  have hescapes := @Provider.checked_escapes_iff handler.provider world.clock world.nextEngine f
  change _ = handler.provider.checked world.nextEngine world.clock at hchecked
  change ∀ answers, world.nextEngine = .ok answers → _ at hengaged
  cases hcheck : handler.provider.checked world.nextEngine world.clock with
  | error g =>
    have hdiagnosed : (handler.diagnose filter { reach := { world } }).1 = .error g := by
      rw [diagnose, Keeping.bind_apply, onReach, Keeping.onPart_apply, hchecked, hcheck]
    have hfails : ¬Provider.Passes world.nextEngine world.clock := by
      rintro ⟨answers, c, reply, hengine, hanswer, hprobed, -⟩
      rw [hengine] at hcheck
      simp [Provider.checked, Provider.probedFirst, Provider.probedOn, hanswer, hprobed, Provider.healthOf] at hcheck
    rw [hdiagnosed]
    rw [hcheck] at hescapes
    simpa only [Except.error.injEq, hfails, false_and, or_false] using hescapes
  | ok health =>
    have hnone : ¬∃ answers, world.nextEngine = .ok answers ∧ f.IsForeign ∧ (answerAt answers 0 = .error f ∨
        ∃ c, answerAt answers 0 = .ok c ∧ Health.probed c = .error f) := by
      rw [← hescapes, hcheck]
      simp
    have hsuccess := handler.provider.checked_success_iff hcheck
    rw [diagnose, Keeping.bind_apply, onReach, Keeping.onPart_apply, hchecked, hcheck]
    cases hstatus : health.status with
    | success =>
      have hpasses := hsuccess.mp hstatus
      obtain ⟨answers, c, reply, hengine, -⟩ := id hpasses
      obtain ⟨clock, hleft⟩ := hengaged answers hengine
      have hread := @read_escapes_iff handler filter answers.tail clock
        { reach := (handler.provider.health { world }).2 } hleft rfl f
      simp only [answerAt_tail, Nat.zero_add] at hread
      simp only [hengine, Except.ok.injEq, exists_eq_left'] at hnone hpasses ⊢
      rw [or_iff_right hnone, and_iff_right hpasses, ← hread]
      simp only [hstatus]
      rw [Keeping.bind_apply]
      generalize handler.read filter { reach := (handler.provider.health { world }).2 } = result
      obtain ⟨_ | charted, after⟩ := result <;> simp
    | _ =>
      have hfails : ¬Provider.Passes world.nextEngine world.clock := by
        rw [← hsuccess, hstatus]
        simp
      simp only [hstatus, Keeping.pure_apply, reduceCtorEq, false_and, false_iff, hfails, or_false]
      exact hnone

namespace CommandLine

/-- The failures that escape the check of a database, which takes the engine that is made next: an address
whose port cannot be read; foreign failures of getting a connection or of the probe; and, once the probe
succeeded in time, foreign failures of getting the connection for the reading, and all failures of
inspecting the database or of closing that connection that are not of this library. -/
inductive Escapes (settings : DatabaseSettings) (world : World) : Failure → Prop where
  | address {f : Failure} : Address.parse? settings.address = some (.error f) → Escapes settings world f
  | connecting {address : Address} {answers : List (Except Failure Connection)} {f : Failure} :
      Address.parse? settings.address = some (.ok address) → world.nextEngine = .ok answers →
      answerAt answers 0 = .error f → f.IsForeign → Escapes settings world f
  | probing {address : Address} {answers : List (Except Failure Connection)} {c : Connection} {f : Failure} :
      Address.parse? settings.address = some (.ok address) → world.nextEngine = .ok answers →
      answerAt answers 0 = .ok c → Health.probed c = .error f → f.IsForeign → Escapes settings world f
  | reconnecting {address : Address} {answers : List (Except Failure Connection)} {f : Failure} :
      Address.parse? settings.address = some (.ok address) → world.nextEngine = .ok answers →
      Provider.Passes world.nextEngine world.clock → answerAt answers 1 = .error f → f.IsForeign →
      Escapes settings world f
  | inspecting {address : Address} {answers : List (Except Failure Connection)} {d : Connection} {f : Failure} :
      Address.parse? settings.address = some (.ok address) → world.nextEngine = .ok answers →
      Provider.Passes world.nextEngine world.clock → answerAt answers 1 = .ok d → d.closeFailure = none →
      d.inspectorFailure = some f → f.isOwn = false → Escapes settings world f
  | closing {address : Address} {answers : List (Except Failure Connection)} {d : Connection} {f : Failure} :
      Address.parse? settings.address = some (.ok address) → world.nextEngine = .ok answers →
      Provider.Passes world.nextEngine world.clock → answerAt answers 1 = .ok d → d.closeFailure = some f →
      f.isOwn = false → Escapes settings world f

/-- An address without a scheme, and one whose port cannot be read, have no handler. -/
theorem ofSettings_eq (settings : DatabaseSettings) (execution : ExecutionSettings) :
    (Address.parse? settings.address = none ∧
        Handler.ofSettings settings execution = .error (Provider.invalidAddress settings.label)) ∨
      (∃ f, Address.parse? settings.address = some (.error f) ∧
        Handler.ofSettings settings execution = .error f) ∨
      ∃ address handler, Address.parse? settings.address = some (.ok address) ∧
        Handler.ofSettings settings execution = .ok handler := by
  unfold Handler.ofSettings Handler.providerOf Provider.ofText
  rcases Address.parse? settings.address with _ | _ | address
  · exact .inl ⟨rfl, rfl⟩
  · exact .inr (.inl ⟨_, rfl, rfl⟩)
  · exact .inr (.inr ⟨address, _, rfl, rfl⟩)

/-- These are the failures of a check that are not of this library. -/
theorem diagnose_escapes_iff (settings : DatabaseSettings) (execution : ExecutionSettings) (world : World)
    (f : Failure) :
    ((diagnose settings execution world).1 = .error f ∧ f.isOwn = false) ↔ Escapes settings world f := by
  rcases ofSettings_eq settings execution with ⟨hparse, hsettings⟩ | ⟨g, hparse, hsettings⟩ |
    ⟨address, handler, hparse, hsettings⟩
  · have hdiagnosed : (diagnose settings execution world).1 =
        .error (Provider.invalidAddress settings.label) := by
      rw [diagnose, hsettings]
      rfl
    rw [hdiagnosed]
    constructor
    · rintro ⟨hf, hown⟩
      obtain rfl := Except.error.inj hf
      cases hown
    · intro h
      cases h <;> simp_all
  · have hdiagnosed : (diagnose settings execution world).1 = .error g := by
      rw [diagnose, hsettings]
      rfl
    rw [hdiagnosed]
    constructor
    · rintro ⟨hf, -⟩
      obtain rfl := Except.error.inj hf
      exact .address hparse
    · intro h
      cases h with
      | address h =>
        obtain rfl : g = f := by simpa [hparse] using h
        exact ⟨rfl, Address.isOwn_of_parse? h⟩
      | _ => simp_all
  · have hdiagnosed : (diagnose settings execution world).1 =
        (handler.diagnose (some settings.filter) { reach := { world } }).1 := by
      rw [diagnose, hsettings]
      rfl
    rw [hdiagnosed, handler.diagnose_escapes_iff]
    constructor
    · rintro ⟨answers, hengine, ⟨hforeign, hfirst | ⟨c, hfirst, hprobed⟩⟩ | ⟨hpasses, hsecond⟩⟩
      · exact .connecting hparse hengine hfirst hforeign
      · exact .probing hparse hengine hfirst hprobed hforeign
      · rcases hsecond with ⟨hanswer, hforeign⟩ | ⟨d, hanswer, hclose | ⟨hclose, hinspector⟩, hown⟩
        · exact .reconnecting hparse hengine hpasses hanswer hforeign
        · exact .closing hparse hengine hpasses hanswer hclose hown
        · exact .inspecting hparse hengine hpasses hanswer hclose hinspector hown
    · intro h
      cases h with
      | address h => simp [hparse] at h
      | connecting _ hengine hfirst hforeign => exact ⟨_, hengine, .inl ⟨hforeign, .inl hfirst⟩⟩
      | probing _ hengine hfirst hprobed hforeign =>
        exact ⟨_, hengine, .inl ⟨hforeign, .inr ⟨_, hfirst, hprobed⟩⟩⟩
      | reconnecting _ hengine hpasses hanswer hforeign =>
        exact ⟨_, hengine, .inr ⟨hpasses, .inl ⟨hanswer, hforeign⟩⟩⟩
      | inspecting _ hengine hpasses hanswer hclose hinspector hown =>
        exact ⟨_, hengine, .inr ⟨hpasses, .inr ⟨_, hanswer, .inr ⟨hclose, hinspector⟩, hown⟩⟩⟩
      | closing _ hengine hpasses hanswer hclose hown =>
        exact ⟨_, hengine, .inr ⟨hpasses, .inr ⟨_, hanswer, .inl hclose, hown⟩⟩⟩

/-! ## All databases -/

/-- What a check of a database comes to. -/
abbrev Finding := Except Failure (Health × Option Charted)

/-- Whether a check succeeded: the database was read. -/
def Finding.succeeded : Finding → Bool
  | .ok (_, charted) => charted.isSome
  | .error _ => false

/-- The failure that escaped a check. -/
def Finding.escaped : Finding → Option Failure
  | .ok _ => none
  | .error f => if f.isOwn then none else some f

/-- What is told of a database: that it is checked, and what came of it. -/
def Finding.lines (settings : DatabaseSettings) : Finding → List String
  | .ok (health, charted) => checkingText settings :: (reportTexts settings.label health charted false).1
  | .error f =>
    checkingText settings :: if f.isOwn then [processingText settings.label f] else []

/-- Databases are checked one after the other, each in the world that the checks before it left; a check
that a failure escapes is the last. -/
inductive Checks (execution : ExecutionSettings) : List DatabaseSettings → World → List Finding → Prop where
  | done {world : World} : Checks execution [] world []
  | ended {settings : DatabaseSettings} {rest : List DatabaseSettings} {world : World} {f : Failure} :
      (diagnose settings execution world).1 = .error f → Escapes settings world f →
      Checks execution (settings :: rest) world [.error f]
  | next {settings : DatabaseSettings} {rest : List DatabaseSettings} {world after : World} {finding : Finding}
      {findings : List Finding} :
      diagnose settings execution world = (finding, after) → (∀ f, ¬Escapes settings world f) →
      Checks execution rest after findings → Checks execution (settings :: rest) world (finding :: findings)

/-- Lines as they are printed. -/
def printed (lines : List String) : String :=
  String.join (lines.map (· ++ "\n"))

/-- Lines are printed in order. -/
theorem printed_append (first second : List String) : printed (first ++ second) = printed first ++ printed second := by
  simp [printed]

/-- What all checks tell. -/
def reported (databases : List DatabaseSettings) (findings : List Finding) : List String :=
  (databases.zip findings).flatMap fun entry => Finding.lines entry.1 entry.2

/-- A check is told; the next one follows unless a failure escaped it. -/
theorem checkAll_cons (execution : ExecutionSettings) (settings : DatabaseSettings)
    (rest : List DatabaseSettings) (outcome : Outcome) {world after : World} {finding : Finding}
    (h : diagnose settings execution world = (finding, after)) :
    checkAll execution false (settings :: rest) outcome world =
      let told : Outcome := { outcome with
        output := outcome.output ++ printed (finding.lines settings)
        exitCode := if finding.succeeded then outcome.exitCode else 1 }
      match finding.escaped with
      | some f => ({ told with escaped := some f }, after)
      | none => checkAll execution false rest told after := by
  rw [checkAll]
  simp only [h]
  rcases finding with f | ⟨health, _ | charted⟩
  · cases hown : f.isOwn <;>
      simp [Finding.lines, Finding.succeeded, Finding.escaped, Outcome.say, Outcome.failed, Outcome.escape, printed,
        hown, String.append_assoc]
  · simp [Finding.lines, Finding.succeeded, Finding.escaped, reportTexts, Outcome.say, Outcome.failed, printed,
      String.append_assoc]
  · simp [Finding.lines, Finding.succeeded, Finding.escaped, reportTexts, foundTexts, Outcome.say, printed,
      String.append_assoc]

/-- What checks come to, given what was told before. -/
theorem checkAll_checks (execution : ExecutionSettings) (databases : List DatabaseSettings) (outcome : Outcome)
    (world : World) :
    ∃ findings, Checks execution databases world findings ∧
      (checkAll execution false databases outcome world).1 = { outcome with
        output := outcome.output ++ printed (reported databases findings)
        exitCode := if findings.all Finding.succeeded then outcome.exitCode else 1
        escaped := (findings.findSome? Finding.escaped).or outcome.escaped } := by
  induction databases generalizing outcome world with
  | nil => exact ⟨[], .done, by simp [checkAll, reported, printed]⟩
  | cons settings rest ih =>
    have hescapes := diagnose_escapes_iff settings execution world
    cases hdiagnose : diagnose settings execution world with
    | mk finding after =>
      rw [hdiagnose] at hescapes
      rw [checkAll_cons execution settings rest outcome hdiagnose]
      cases hescaped : Finding.escaped finding with
      | some f =>
        obtain ⟨rfl, hown⟩ : finding = Except.error f ∧ f.isOwn = false := by
          cases finding with
          | ok _ => cases hescaped
          | error g =>
            simp only [Finding.escaped] at hescaped
            split at hescaped
            · cases hescaped
            · rename_i hown
              obtain rfl := Option.some.inj hescaped
              exact ⟨rfl, by simpa using hown⟩
        refine ⟨[.error f], .ended (congrArg Prod.fst hdiagnose) ((hescapes f).mp ⟨rfl, hown⟩), ?_⟩
        simp [hescaped, reported, Finding.succeeded]
      | none =>
        have hnone (f : Failure) : ¬Escapes settings world f := by
          rw [← hescapes]
          rintro ⟨hf, hown⟩
          obtain rfl : finding = .error f := hf
          simp [Finding.escaped, hown] at hescaped
        obtain ⟨findings, hchecks, hrest⟩ := ih { outcome with
          output := outcome.output ++ printed (Finding.lines settings finding)
          exitCode := if Finding.succeeded finding then outcome.exitCode else 1 } after
        refine ⟨finding :: findings, .next hdiagnose hnone hchecks, ?_⟩
        have hcode (a b : Bool) (n : Nat) : (if b then if a then n else 1 else 1) = if a && b then n else 1 := by
          cases a <;> cases b <;> rfl
        simp only [hrest, reported, List.zip_cons_cons, List.flatMap_cons, printed_append, List.all_cons,
          List.findSome?_cons, hescaped, String.append_assoc, hcode]
        rfl

/-- A failure escapes only the last check, and all databases are checked unless one does. -/
theorem Checks.complete {execution : ExecutionSettings} {databases : List DatabaseSettings} {world : World}
    {findings : List Finding} (h : Checks execution databases world findings) :
    findings.length ≤ databases.length ∧
      (findings.findSome? Finding.escaped = none → findings.length = databases.length) ∧
      ∀ i finding, findings[i]? = some finding → finding.escaped.isSome → i + 1 = findings.length := by
  induction h with
  | done => simp
  | @ended settings rest world f hf hescapes =>
    have hown : f.isOwn = false := ((diagnose_escapes_iff settings execution world f).mpr hescapes).2
    refine ⟨by simp, by simp [Finding.escaped, hown], ?_⟩
    intro i finding hget _
    cases i with
    | zero => rfl
    | succ i => cases hget
  | @next settings rest world after finding findings hdiagnose hnone hrest ih =>
    obtain ⟨hshort, hall, hlast⟩ := ih
    have hquiet : finding.escaped = none := by
      cases finding with
      | ok _ => rfl
      | error f =>
        cases hown : f.isOwn with
        | true => simp [Finding.escaped, hown]
        | false => exact absurd ((diagnose_escapes_iff settings execution world f).mp ⟨by rw [hdiagnose], hown⟩) (hnone f)
    refine ⟨by simpa using hshort, by simpa [hquiet] using hall, ?_⟩
    intro i finding' hget hescaped
    cases i with
    | zero =>
      obtain rfl : finding = finding' := Option.some.inj hget
      simp [hquiet] at hescaped
    | succ i =>
      have hlater := hlast i finding' hget hescaped
      simp [hlater]

/-- What is told of all databases: each that was checked is reported in order, the exit code is one exactly if
a check did not succeed, and all databases were checked unless a failure escaped the last check. -/
structure Isolated (settings : Settings) (world : World) (findings : List Finding) (outcome : Outcome) :
    Prop where
  checks : Checks settings.execution settings.databases world findings
  output : outcome.output =
    printed (s!"Starting connectivity check for {settings.databases.length} databases..." ::
      reported settings.databases findings)
  exitCode : outcome.exitCode = if ∀ finding ∈ findings, finding.succeeded = true then 0 else 1
  escaped : outcome.escaped = findings.findSome? Finding.escaped
  complete : outcome.escaped = none → findings.length = settings.databases.length
  last : ∀ i finding, findings[i]? = some finding → finding.escaped.isSome → i + 1 = findings.length

/-- Checking goes through the databases in order and reports each, up to the first whose check lets a failure
escape. -/
theorem check_isolated (settings : Settings) (world : World) :
    ∃ findings, Isolated settings world findings (check settings false world).1 := by
  obtain ⟨findings, hchecks, houtcome⟩ := checkAll_checks settings.execution settings.databases
    (({} : Outcome).say s!"Starting connectivity check for {settings.databases.length} databases...") world
  obtain ⟨-, hall, hlast⟩ := hchecks.complete
  change (check settings false world).1 = _ at houtcome
  rw [houtcome]
  refine ⟨findings, hchecks, ?_, ?_, ?_, ?_, hlast⟩
  · simp [Outcome.say, printed, String.append_assoc]
  · simp [Outcome.say]
  · simp [Outcome.say]
  · intro hnone
    exact hall (by simpa [Outcome.say] using hnone)

/-- A database whose port cannot be read keeps the next one, which can be read, from being checked. -/
theorem check_port_hides :
    let bad : DatabaseSettings := { label := "bad", address := "postgresql://host:port/db" }
    let good : DatabaseSettings := { label := "shop", address := "sqlite:///shop.db" }
    let tables : Inspection → Except Failure Value
      | .schemaNames => .ok (.list [.text "main"])
      | _ => .ok (.list [])
    let world : World := { engines := [.ok [.ok { script := [.rows [.ok [.int 1]] (.int 1)] }, .ok { inspect := tables }]] }
    let both : Outcome × World := check { databases := [bad, good] } false world
    both.1.output = "Starting connectivity check for 2 databases...\nChecking bad (auto)...\n" ∧
      both.1.escaped.isSome = true ∧ both.2.requested.isEmpty = true ∧
      (check { databases := [good] } false world).1.exitCode = 0 := by
  decide +kernel

end CommandLine

end SchemaAtlas
