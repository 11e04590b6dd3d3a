import SchemaAtlas.Proofs.Settings.Sources

/-!
# Files cover the environment

The settings of a file and the environment are read setting by setting: what the file gives for a setting decides,
otherwise what the environment gives does, and where neither gives anything the setting has its default. In the table
of transient failures this holds code by code. So a variable of the environment does not override a file.
-/

namespace SchemaAtlas

open Yaml (Datum Entries)

namespace Yaml

/-- What a name gives among the entries whose keys are texts. -/
theorem Entries.lookup_named (entries : Entries) (name : String) :
    entries.named.lookup name = entries.get? (.text name) := by
  induction entries with
  | nil => rfl
  | cons entry rest ih =>
    obtain ⟨key, datum⟩ := entry
    rw [get?_cons]
    cases hsame : sameKey key (.text name) with
    | true =>
      obtain rfl := (sameKey_text_iff key name).mp hsame
      exact List.lookup_cons_self
    | false =>
      rw [if_neg Bool.false_ne_true, ← ih]
      cases key
      case text s =>
        have hother : (name == s) = false := beq_false_of_ne fun heq =>
          Bool.false_ne_true (hsame.symm.trans ((sameKey_text_iff _ name).mpr (heq ▸ rfl)))
        change ((s, datum) :: named rest).lookup name = _
        rw [List.lookup_cons, hother]
      all_goals rfl

namespace Datum

/-- A path goes on in the mapping where another one ends. -/
theorem at?_append_name {datum : Datum} {path : List String} {entries : Entries}
    (h : datum.at? path = some (.mapping entries)) (name : String) :
    datum.at? (path ++ [name]) = entries.get? (.text name) := by
  rw [at?_append, h, Option.bind_some, at?_mapping_name]

/-- A name leads through the mapping that it stands in. -/
theorem leads_mapping_name (entries : Entries) (name : String) : (Datum.mapping entries).leads [name] = true := by
  rw [leads]
  cases Entries.get? entries (.text name) with
  | none => rfl
  | some inner =>
    change inner.leads [] = true
    rw [leads]

/-- A path through a mapping leads as far as a name in the mapping. -/
theorem leads_append_name {datum : Datum} {path : List String} (h : datum.leads path = true)
    (hmapping : ∀ inner, datum.at? path = some inner → ∃ entries, inner = .mapping entries) (name : String) :
    datum.leads (path ++ [name]) = true := by
  induction path generalizing datum with
  | nil =>
    obtain ⟨entries, rfl⟩ := hmapping datum (by rw [at?])
    exact leads_mapping_name entries name
  | cons first rest ih =>
    cases datum with
    | scalar v => cases h
    | list items => cases h
    | mapping entries =>
      rw [List.cons_append, leads]
      rw [leads] at h
      cases hfound : Entries.get? entries (.text first) with
      | none => rfl
      | some next =>
        rw [hfound] at h
        refine ih h fun inner hinner => hmapping inner ?_
        rw [at?, hfound]
        exact hinner

/-- What stands at the end of a path is built as the datum is. -/
theorem Built.at? {scalars : Value → Prop} {mappings : Entries → Prop} {datum inner : Datum} {path : List String}
    (h : Built scalars mappings datum) (hinner : datum.at? path = some inner) : Built scalars mappings inner := by
  induction path generalizing datum with
  | nil =>
    rw [Datum.at?] at hinner
    exact Option.some.inj hinner ▸ h
  | cons name rest ih =>
    cases datum with
    | scalar v => cases hinner
    | list items => cases hinner
    | mapping entries =>
      rw [Datum.at?] at hinner
      obtain ⟨next, hnext, hrest⟩ := Option.bind_eq_some_iff.mp hinner
      exact ih (h.get? hnext) hrest

/-- What entries over others give at the end of a path. -/
theorem at?_mergeEntries (under : Entries) {above : Entries} (habove : (Datum.mapping above).Sound)
    (path : List String) :
    (Datum.mapping (mergeEntries under above)).at? path =
      match (Datum.mapping above).at? path with
      | some datum => some (mergeOver ((Datum.mapping under).at? path) datum)
      | none => if (Datum.mapping above).leads path then (Datum.mapping under).at? path else none := by
  have hmerged : Datum.mapping (mergeEntries under above) = mergeOver (some (.mapping under)) (.mapping above) := by
    rw [mergeOver, merge]
  have hdistinct : (Datum.mapping above).Distinct := habove.mono (fun _ _ => trivial) fun _ h => h.2
  rw [hmerged, at?_mergeOver _ hdistinct]
  rfl

end Datum

end Yaml

namespace Checked

/-- A reading below a place succeeds as the reading does. -/
theorem below_eq_ok_iff {α : Type} {place : String} {reading : Checked α} {a : α} :
    below place reading = .ok a ↔ reading = .ok a := by
  cases reading <;> simp [below]

end Checked

namespace Settings

/-! ## Reading a setting -/

/-- What is read of a datum where one is given, and the default where none is. -/
def Reads {ε α : Type} (given : Option Datum) (read : Datum → Except ε α) (default a : α) : Prop :=
  match given with
  | none => a = default
  | some datum => read datum = .ok a

variable {ε α : Type} {default a : α}

/-- A field that may be absent is read where it is given. -/
theorem reads_of_field {given : Option Datum} {place : String} {read : Datum → Checked α}
    (h : (match given with
      | none => .ok default
      | some datum => Checked.below place (read datum) : Checked α) = .ok a) :
    Reads given read default a := by
  cases given with
  | none =>
    cases h
    rfl
  | some datum => exact Checked.below_eq_ok_iff.mp h

/-- What is read is read by other readers that read the same. -/
theorem Reads.imp {η : Type} {given : Option Datum} {read : Datum → Except ε α} {other : Datum → Except η α}
    (h : Reads given read default a) (himp : ∀ datum, read datum = .ok a → other datum = .ok a) :
    Reads given other default a := by
  cases given with
  | none => exact h
  | some datum => exact himp datum h

/-- The outermost fields are read each. -/
theorem reads_of_ofFields {entries : Entries} {settings : Settings} (h : ofFields entries.named = .ok settings) :
    Reads ((Datum.mapping entries).at? ["databases"]) readDatabases [] settings.databases ∧
      Reads ((Datum.mapping entries).at? ["execution"]) ExecutionSettings.ofDatum {} settings.execution := by
  unfold ofFields at h
  simp only [Checked.map_eq_ok_iff, Prod.exists, Checked.both_eq_ok_iff, Entries.lookup_named] at h
  obtain ⟨databases, execution, _, ⟨hdatabases, hexecution, -⟩, rfl⟩ := h
  simp only [Datum.at?_mapping_name]
  exact ⟨reads_of_field hdatabases, reads_of_field hexecution⟩

/-- What is seen of a result stands in it. -/
theorem exists_ok_of_toOption {β : Type} {result : Except ε α} {view : α → β} {b : β}
    (h : result.toOption.map view = some b) : ∃ a, result = .ok a ∧ view a = b := by
  cases result with
  | ok a => exact ⟨a, rfl, Option.some.inj h⟩
  | error e => cases h

/-! ## Settings of write batches -/

/-- The settings of write batches are read each, and of nothing but a mapping. -/
theorem exists_of_executionOfDatum {datum : Datum} {execution : ExecutionSettings}
    (h : ExecutionSettings.ofDatum datum = .ok execution) :
    ∃ entries, datum = .mapping entries ∧
      Reads (Entries.get? entries (.text "max_attempts")) (fun datum => ExecutionSettings.readAttempts datum.toValue)
        5 execution.maxAttempts ∧
      Reads (Entries.get? entries (.text "transient_sqlstates")) ExecutionSettings.readTransient .default
        execution.transient ∧
      Reads (Entries.get? entries (.text "row_identifier_types"))
        (fun datum => DatabaseSettings.readTexts datum.toValue) ["ROWID", "oracle.sql.ROWID"]
        execution.rowIdentifiers := by
  cases datum with
  | scalar v => cases h
  | list items => cases h
  | mapping entries =>
    rw [ExecutionSettings.ofDatum, ExecutionSettings.ofEntries] at h
    simp only [Checked.map_eq_ok_iff, Prod.exists, Checked.both_eq_ok_iff] at h
    obtain ⟨attempts, table, rows, ⟨hattempts, htable, hrows⟩, rfl⟩ := h
    have hread := (reads_of_field hattempts).imp fun _ => Checked.atPlace_eq_ok_iff.mp
    exact ⟨entries, rfl, hread, reads_of_field htable, reads_of_field hrows⟩

/-- The settings of write batches are read each where they are given, and have their defaults where none are. -/
theorem reads_of_execution {datum : Datum} {execution : ExecutionSettings}
    (h : Reads (datum.at? ["execution"]) ExecutionSettings.ofDatum {} execution) :
    Reads (datum.at? ["execution", "max_attempts"]) (fun datum => ExecutionSettings.readAttempts datum.toValue) 5
        execution.maxAttempts ∧
      Reads (datum.at? ["execution", "transient_sqlstates"]) ExecutionSettings.readTransient .default
        execution.transient ∧
      Reads (datum.at? ["execution", "row_identifier_types"])
        (fun datum => DatabaseSettings.readTexts datum.toValue) ["ROWID", "oracle.sql.ROWID"]
        execution.rowIdentifiers := by
  have hfield (name : String) :
      datum.at? ["execution", name] = (datum.at? ["execution"]).bind fun inner => inner.at? [name] :=
    Datum.at?_append datum ["execution"] [name]
  simp only [hfield]
  cases hgiven : datum.at? ["execution"] with
  | none =>
    rw [hgiven] at h
    cases h
    exact ⟨rfl, rfl, rfl⟩
  | some inner =>
    rw [hgiven] at h
    obtain ⟨entries, rfl, hfields⟩ := exists_of_executionOfDatum h
    simp only [Option.bind_some, Datum.at?_mapping_name]
    exact hfields

/-- The kind of transient failures that a datum tells. -/
def readKind (datum : Datum) : Reading TransientKind :=
  Field.oneOf .enumeration TransientKind.byText datum.toValue

/-- The table of transient failures is read of nothing but a mapping. -/
theorem exists_of_readTransient {datum : Datum} {table : TransientTable}
    (h : ExecutionSettings.readTransient datum = .ok table) : ∃ entries, datum = .mapping entries := by
  cases datum with
  | mapping entries => exact ⟨entries, rfl⟩
  | _ => cases h

/-- The table of transient failures is read code by code. -/
theorem reads_of_readTransient {entries : Entries} (hkeys : ∀ key ∈ entries.keys, key.IsLegible)
    {table : TransientTable} (h : ExecutionSettings.readTransient (.mapping entries) = .ok table) (code : String) :
    Reads (Entries.get? entries (.text code)) (fun datum => (readKind datum).map some) none (table.lookup code) := by
  rw [ExecutionSettings.readTransient] at h
  induction entries generalizing table with
  | nil =>
    cases h
    rfl
  | cons entry rest ih =>
    obtain ⟨key, datum⟩ := entry
    obtain ⟨hkey, hkeysRest⟩ := List.forall_mem_cons.mp hkeys
    rw [List.map_cons, Checked.all, Checked.map_eq_ok_iff] at h
    obtain ⟨⟨⟨name, kind⟩, more⟩, hboth, rfl⟩ := h
    obtain ⟨hentry, hmore⟩ := Checked.both_eq_ok_iff.mp hboth
    obtain ⟨hname, hkind⟩ := Checked.both_eq_ok_iff.mp (Checked.below_eq_ok_iff.mp hentry)
    -- A key that is read is a text, as it is no byte string.
    obtain rfl : key = .text name := by
      cases key with
      | text s => exact congrArg _ (Except.ok.inj (Checked.atPlace_eq_ok_iff.mp hname))
      | bytes bs => exact hkey.elim
      | _ => cases hname
    rw [Entries.get?_cons, List.lookup_cons]
    cases hcode : code == name with
    | true =>
      obtain rfl := eq_of_beq hcode
      rw [if_pos ((Yaml.sameKey_text_iff _ _).mpr rfl)]
      have hread : readKind datum = .ok kind := Checked.atPlace_eq_ok_iff.mp hkind
      change (readKind datum).map some = _
      rw [hread]
      rfl
    | false =>
      rw [if_neg fun hsame => ?_]
      · exact ih hkeysRest hmore
      · have heq := Value.text.inj ((Yaml.sameKey_text_iff _ _).mp hsame)
        rw [heq, beq_self_eq_true] at hcode
        cases hcode

/-! ## Two sources -/

/-- What is given for a setting: what the upper source gives, or else the lower one. -/
def given (under above : Entries) (path : List String) : Option Datum :=
  ((Datum.mapping above).at? path).or ((Datum.mapping under).at? path)

variable {under above : Entries} {path : List String} {read : Datum → Except ε α}

/-- Where the upper source leads, the merged sources give nothing just if neither of them gives anything. -/
theorem at?_mergeEntries_eq_none_iff (habove : (Datum.mapping above).Sound)
    (hleads : (Datum.mapping above).leads path = true) :
    (Datum.mapping (Datum.mergeEntries under above)).at? path = none ↔ given under above path = none := by
  rw [Datum.at?_mergeEntries under habove, hleads, given]
  cases (Datum.mapping above).at? path <;> simp

/-- A setting that is no mapping is read as the one source or the other gives it. -/
theorem Reads.given (habove : (Datum.mapping above).Sound) (hleads : (Datum.mapping above).leads path = true)
    (hrefuses : ∀ entries a, read (.mapping entries) ≠ .ok a)
    (h : Reads ((Datum.mapping (Datum.mergeEntries under above)).at? path) read default a) :
    Reads (given under above path) read default a := by
  rw [Datum.at?_mergeEntries under habove, hleads] at h
  rw [Settings.given]
  cases hfound : (Datum.mapping above).at? path with
  | none =>
    rw [hfound] at h
    exact h
  | some datum =>
    rw [hfound] at h
    dsimp only at h
    -- A mapping would stay one over anything, and would not be read.
    have hplain : ∀ entries, datum ≠ .mapping entries := by
      rintro entries rfl
      obtain ⟨merged, hmerged⟩ := (Datum.exists_mergeOver_iff ((Datum.mapping under).at? path) _).mpr ⟨entries, rfl⟩
      refine hrefuses merged a ?_
      rw [← hmerged]
      exact h
    rwa [Datum.mergeOver_of_not_mapping _ hplain] at h

/-- The upper source leads on below what is read of mappings only. -/
theorem Reads.leads (habove : (Datum.mapping above).Sound) (hleads : (Datum.mapping above).leads path = true)
    (hread : ∀ datum a, read datum = .ok a → ∃ entries, datum = .mapping entries)
    (h : Reads ((Datum.mapping (Datum.mergeEntries under above)).at? path) read default a) (name : String) :
    (Datum.mapping above).leads (path ++ [name]) = true := by
  refine Datum.leads_append_name hleads (fun inner hinner => ?_) name
  rw [Datum.at?_mergeEntries under habove, hinner] at h
  exact (Datum.exists_mergeOver_iff _ inner).mp (hread _ a h)

/-- The codes of a merged table are those of both sources. -/
theorem reads_codes (hunder : (Datum.mapping under).Keyed) (habove : (Datum.mapping above).Sound)
    (hleads : (Datum.mapping above).leads path = true) {otherwise table : TransientTable}
    (h : Reads ((Datum.mapping (Datum.mergeEntries under above)).at? path) ExecutionSettings.readTransient otherwise
      table) (hsome : (given under above path).isSome) (code : String) :
    Reads (given under above (path ++ [code])) (fun datum => (readKind datum).map some) none (table.lookup code) := by
  have hdeeper := h.leads habove hleads (fun _ _ => exists_of_readTransient) code
  have hkeyed : (Datum.mapping (Datum.mergeEntries under above)).Keyed := by
    have hmerged := Datum.keyed_merge hunder (habove.mono (fun _ _ => trivial) fun _ hentries => hentries.1)
    rwa [Datum.merge] at hmerged
  cases hfound : (Datum.mapping (Datum.mergeEntries under above)).at? path with
  | none =>
    rw [(at?_mergeEntries_eq_none_iff habove hleads).mp hfound] at hsome
    cases hsome
  | some datum =>
    rw [hfound] at h
    obtain ⟨entries, rfl⟩ := exists_of_readTransient h
    have hcode := reads_of_readTransient (hkeyed.at? hfound).entries.1 h code
    rw [← Datum.at?_append_name hfound] at hcode
    refine hcode.given habove hdeeper fun codes kind hread => ?_
    rw [readKind, Datum.toValue] at hread
    cases hread

/-- The settings are those of two sources, of which the upper one decides wherever it gives something: for every single
setting, for the table of transient failures as a whole, and for every code in it. -/
structure Covers (under above : Entries) (settings : Settings) : Prop where
  databases : Reads (given under above ["databases"]) readDatabases [] settings.databases
  maxAttempts : Reads (given under above ["execution", "max_attempts"])
    (fun datum => ExecutionSettings.readAttempts datum.toValue) 5 settings.execution.maxAttempts
  rowIdentifiers : Reads (given under above ["execution", "row_identifier_types"])
    (fun datum => DatabaseSettings.readTexts datum.toValue) ["ROWID", "oracle.sql.ROWID"]
    settings.execution.rowIdentifiers
  table : given under above ["execution", "transient_sqlstates"] = none → settings.execution.transient = .default
  codes : (given under above ["execution", "transient_sqlstates"]).isSome → ∀ code,
    Reads (given under above ["execution", "transient_sqlstates", code]) (fun datum => (readKind datum).map some) none
      (settings.execution.transient.lookup code)

/-- Settings that are read of merged sources are those of both, where the upper one decides. -/
theorem covers_of_ofFields (hunder : (Datum.mapping under).Keyed) (habove : (Datum.mapping above).Sound)
    {settings : Settings} (h : ofFields (Datum.mergeEntries under above).named = .ok settings) :
    Covers under above settings := by
  obtain ⟨hdatabases, hexecution⟩ := reads_of_ofFields h
  obtain ⟨hattempts, htable, hrows⟩ := reads_of_execution hexecution
  have hgrouped (datum : Datum) (execution : ExecutionSettings)
      (hread : ExecutionSettings.ofDatum datum = .ok execution) : ∃ entries, datum = .mapping entries :=
    (exists_of_executionOfDatum hread).imp fun _ => And.left
  have hgroup (name : String) : (Datum.mapping above).leads ["execution", name] = true :=
    hexecution.leads habove (Datum.leads_mapping_name _ _) hgrouped name
  refine ⟨hdatabases.given habove (Datum.leads_mapping_name _ _) ?_, hattempts.given habove (hgroup _) ?_,
    hrows.given habove (hgroup _) ?_, fun hnone => ?_, reads_codes hunder habove (hgroup _) htable⟩
  · intro entries databases hread
    cases hread
  · intro entries attempts hread
    rw [Datum.toValue] at hread
    cases hread
  · intro entries rows hread
    rw [Datum.toValue] at hread
    cases hread
  · rw [(at?_mergeEntries_eq_none_iff habove (hgroup _)).mpr hnone] at htable
    exact htable

/-- What is loaded of a file and the environment are the settings of both, and the file decides. -/
theorem load_covers {path text : String} {environment : List (String × String)} {settings : Settings}
    (h : load path (some text) environment = .ok settings) :
    ∃ file surroundings, fileFields text = .ok file ∧ Environment.settings environment = .ok surroundings ∧
      Covers surroundings file settings := by
  unfold load at h
  obtain ⟨file, hfile, hrest⟩ := ColumnLine.bind_eq_ok_iff.mp h
  obtain ⟨under, hunder, hload⟩ := ColumnLine.bind_eq_ok_iff.mp hrest
  refine ⟨file, under, hfile, hunder, ?_⟩
  unfold ofEntries at hload
  split at hload
  · rename_i read hread
    cases hload
    exact covers_of_ofFields (Environment.keyed_of_settings hunder) (sound_of_fileFields hfile) hread
  · cases hload

/-- A file that gives a number of attempts and a code. -/
def attemptsText : String :=
  "execution:\n  max_attempts: 3\n  transient_sqlstates: \x7b'40001': serialization_failure\x7d"

/-- Variables that give another number of attempts, another code, and the types of row identifiers. -/
def attemptsVariables : List (String × String) :=
  [("DBCRAWL_EXECUTION__MAX_ATTEMPTS", "7"),
   ("DBCRAWL_EXECUTION__TRANSIENT_SQLSTATES__57P01", "communication_link_failure"),
   ("DBCRAWL_EXECUTION__ROW_IDENTIFIER_TYPES", "[\"RID\"]")]

/-- The number of attempts stays the file's, both codes are in the table, the types of row identifiers are those of the
environment, and there are no databases. -/
theorem load_covers_attempts :
    ∃ settings file surroundings,
      load "dbcrawl.yaml" (some attemptsText) attemptsVariables = .ok settings ∧ fileFields attemptsText = .ok file ∧
      Environment.settings attemptsVariables = .ok surroundings ∧ Covers surroundings file settings ∧
      settings.databases = [] ∧ settings.execution.maxAttempts = 3 ∧
      settings.execution.transient.lookup "40001" = some .serializationFailure ∧
      settings.execution.transient.lookup "57p01" = some .communicationLinkFailure ∧
      settings.execution.rowIdentifiers = ["RID"] := by
  have hview : (load "dbcrawl.yaml" (some attemptsText) attemptsVariables).toOption.map (fun settings =>
      (settings.databases, settings.execution.maxAttempts, settings.execution.transient.lookup "40001",
        settings.execution.transient.lookup "57p01", settings.execution.rowIdentifiers)) =
      some ([], 3, some .serializationFailure, some .communicationLinkFailure, ["RID"]) := by
    decide +kernel
  obtain ⟨settings, hload, hseen⟩ := exists_ok_of_toOption hview
  obtain ⟨file, surroundings, hfile, hsurroundings, hcovers⟩ := load_covers hload
  simp only [Prod.mk.injEq] at hseen
  exact ⟨settings, file, surroundings, hload, hfile, hsurroundings, hcovers, hseen⟩

/-- The environment does not cover a file: it gives seven attempts, and the settings have the three of the file. -/
theorem load_keeps_attempts :
    ∃ settings file surroundings,
      load "dbcrawl.yaml" (some "execution:\n  max_attempts: 3\n") [("DBCRAWL_EXECUTION__MAX_ATTEMPTS", "7")] =
        .ok settings ∧
      fileFields "execution:\n  max_attempts: 3\n" = .ok file ∧
      Environment.settings [("DBCRAWL_EXECUTION__MAX_ATTEMPTS", "7")] = .ok surroundings ∧
      ¬Covers file surroundings settings := by
  have hloaded : (load "dbcrawl.yaml" (some "execution:\n  max_attempts: 3\n")
      [("DBCRAWL_EXECUTION__MAX_ATTEMPTS", "7")]).toOption.map (fun settings => settings.execution.maxAttempts) =
      some 3 := by decide +kernel
  have hread : (fileFields "execution:\n  max_attempts: 3\n").toOption.map (fun _ => ()) = some () := by
    decide +kernel
  have hset : (Environment.settings [("DBCRAWL_EXECUTION__MAX_ATTEMPTS", "7")]).toOption.map (fun surroundings =>
      ((Datum.mapping surroundings).at? ["execution", "max_attempts"]).map fun datum =>
        (ExecutionSettings.readAttempts datum.toValue).toOption) = some (some (some 7)) := by decide +kernel
  obtain ⟨settings, hload, hattempts⟩ := exists_ok_of_toOption hloaded
  obtain ⟨file, hfile, -⟩ := exists_ok_of_toOption hread
  obtain ⟨surroundings, hsurroundings, hgiven⟩ := exists_ok_of_toOption hset
  refine ⟨settings, file, surroundings, hload, hfile, hsurroundings, fun hcovers => ?_⟩
  obtain ⟨datum, hdatum, hseven⟩ := Option.map_eq_some_iff.mp hgiven
  have hthree := hcovers.maxAttempts
  rw [given, hdatum, hattempts] at hthree
  change ExecutionSettings.readAttempts datum.toValue = .ok 3 at hthree
  rw [hthree] at hseven
  cases hseven

end Settings

end SchemaAtlas
