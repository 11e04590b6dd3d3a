import SchemaAtlas.Proofs.Crawl.TypeListing
import SchemaAtlas.Proofs.Yaml.Reading
import SchemaAtlas.Settings.File

/-!
# What the environment and a file set

The variables of the environment are put below names, and structured text in them has texts as its keys; a file is
sound as its text is. So neither sets a byte string as a key, and this outlasts the merging of both.
-/

namespace SchemaAtlas

open Yaml (Datum Entries)

namespace Yaml.Datum

/-! ## Keys of the environment -/

/-- A mapping without entries has no keys. -/
theorem keyed_mapping_nil : (Datum.mapping []).Keyed :=
  .mapping (List.forall_mem_nil _) (List.forall_mem_nil _)

/-- The datum of a value has texts as its keys. -/
theorem keyed_ofValue (v : Value) : (ofValue v).Keyed := by
  refine ofValue.induct (fun v => (ofValue v).Keyed) (fun fields => (Datum.mapping (ofFields fields)).Keyed)
    (fun values => ∀ datum ∈ ofValues values, datum.Keyed) ?list ?record ?scalar ?nil ?cons ?bare ?field v
  case list =>
    intro items ih
    rw [ofValue]
    exact .list ih
  case record =>
    intro fields ih
    rw [ofValue]
    exact ih
  case scalar =>
    intro v hlist hrecord
    rw [ofValue.eq_3 v hlist hrecord]
    exact .scalar trivial
  case nil => exact List.forall_mem_nil _
  case cons =>
    intro v rest hfirst hrest
    rw [ofValues]
    exact List.forall_mem_cons.mpr ⟨hfirst, hrest⟩
  case bare =>
    rw [ofFields]
    exact keyed_mapping_nil
  case field =>
    intro name v rest hfirst hrest
    obtain ⟨hkeys, hdata⟩ := hrest.entries
    rw [ofFields]
    exact .mapping (List.forall_mem_cons.mpr ⟨trivial, hkeys⟩) (List.forall_mem_cons.mpr ⟨hfirst, hdata⟩)

/-- A datum that is put leaves no byte strings among the keys. -/
theorem Keyed.put {entries : Entries} {key : Value} {datum : Datum} (h : (Datum.mapping entries).Keyed)
    (hkey : key.IsLegible) (hdatum : datum.Keyed) : (Datum.mapping (entries.put key datum)).Keyed :=
  Built.put h (Entries.legible_put h.entries.1 hkey datum) hdatum

/-- Merged data have the keys of both. -/
theorem keyed_merge {under above : Datum} (hunder : under.Keyed) (habove : above.Keyed) :
    (merge under above).Keyed := by
  refine merge.induct (fun under above => under.Keyed → above.Keyed → (merge under above).Keyed)
    (fun under above => (Datum.mapping under).Keyed → (Datum.mapping above).Keyed →
      (Datum.mapping (mergeEntries under above)).Keyed) ?both ?covers ?plain ?nil ?cons under above hunder habove
  case both =>
    intro entries base ih hbase hentries
    rw [merge]
    exact ih hbase hentries
  case covers =>
    intro under entries hother _ hentries
    rw [merge.eq_2 under entries hother]
    exact hentries
  case plain =>
    intro above under hother _ habove
    rw [merge.eq_3 under above hother]
    exact habove
  case nil =>
    intro under hunder _
    rw [mergeEntries]
    exact hunder
  case cons =>
    intro under key datum rest merged hmerge hrest hunder habove
    obtain ⟨hkeys, hdata⟩ := habove.entries
    obtain ⟨hkey, hkeysRest⟩ := List.forall_mem_cons.mp hkeys
    obtain ⟨hdatum, hdataRest⟩ := List.forall_mem_cons.mp hdata
    have hmerged : merged.Keyed := by
      simp only [merged]
      split
      · rename_i old hold
        exact hmerge old (hunder.get? hold) hdatum
      · exact hdatum
    rw [mergeEntries]
    exact hrest (Keyed.put hunder hkey hmerged) (.mapping hkeysRest hdataRest)

/-- What every step of a fold that may fail keeps free of byte strings among the keys stays so. -/
theorem keyed_of_foldlM {α : Type} {step : Entries → α → Except Failure Entries}
    (hstep : ∀ entries item next, (Datum.mapping entries).Keyed → step entries item = .ok next →
      (Datum.mapping next).Keyed) {items : List α} {entries result : Entries}
    (hentries : (Datum.mapping entries).Keyed) (h : items.foldlM step entries = .ok result) :
    (Datum.mapping result).Keyed := by
  induction items generalizing entries with
  | nil =>
    cases h
    exact hentries
  | cons item rest ih =>
    rw [List.foldlM_cons] at h
    obtain ⟨next, hnext, hrest⟩ := ColumnLine.bind_eq_ok_iff.mp h
    exact ih (hstep entries item next hentries hnext) hrest

end Yaml.Datum

namespace Environment

/-- What a variable stands for has no byte strings among its keys. -/
theorem keyed_of_read {shape : Option Shape} {text : String} {datum : Datum} (h : read shape text = some datum) :
    datum.Keyed := by
  have hstrict (h : read.strict text = some datum) : datum.Keyed := by
    unfold read.strict at h
    split at h
    · cases h
      exact .scalar trivial
    · obtain ⟨v, -, rfl⟩ := Option.map_eq_some_iff.mp h
      exact Datum.keyed_ofValue v
  unfold read at h
  split at h
  case h_4 =>
    cases h
    cases Json.parse text with
    | none => exact .scalar trivial
    | some v => exact Datum.keyed_ofValue v
  case h_5 =>
    cases h
    exact .scalar trivial
  all_goals exact hstrict h

/-- A datum is set below names, which are texts. -/
theorem keyed_setBelow {entries : Entries} (h : (Datum.mapping entries).Keyed) (path : List String) (last : String)
    {datum : Datum} (hdatum : datum.Keyed) : (Datum.mapping (setBelow entries path last datum)).Keyed := by
  induction path generalizing entries with
  | nil =>
    rw [setBelow]
    exact Datum.Keyed.put h trivial hdatum
  | cons name rest ih =>
    rw [setBelow]
    split
    · rename_i inner hinner
      refine Datum.Keyed.put h trivial (ih ?_)
      cases hfound : Entries.get? entries (.text name) with
      | none =>
        rw [hfound] at hinner
        cases hinner
        exact Datum.keyed_mapping_nil
      | some old =>
        rw [hfound] at hinner
        cases hinner
        exact h.get? hfound
    · exact h

/-- The variables below an outermost field set no byte strings as keys. -/
theorem keyed_of_below {field : String} {shape : Shape} {texts : List (String × String)} {entries : Entries}
    (h : below field shape texts = .ok entries) : (Datum.mapping entries).Keyed := by
  refine Datum.keyed_of_foldlM (fun entries named next hentries hnext => ?_) Datum.keyed_mapping_nil h
  obtain ⟨name, text⟩ := named
  unfold addVariable at hnext
  dsimp only at hnext
  split at hnext
  · split at hnext
    · rename_i datum hdatum
      cases hnext
      exact keyed_setBelow hentries _ _ (keyed_of_read hdatum)
    · cases hnext
  · cases hnext
    exact hentries

/-- Fields keep their data under their own names, which are texts. -/
theorem keyed_ownNames (fields : List (String × Shape)) {entries : Entries} (h : (Datum.mapping entries).Keyed) :
    (Datum.mapping (ownNames fields entries)).Keyed := by
  obtain ⟨hkeys, hdata⟩ := h.entries
  refine List.foldlRecOn (motive := fun known => (Datum.mapping known).Keyed) entries _ Datum.keyed_mapping_nil
    fun known hknown entry hentry => ?_
  obtain ⟨key, datum⟩ := entry
  cases key
  case text name => exact Datum.Keyed.put hknown trivial (hdata _ hentry)
  all_goals exact Datum.Keyed.put hknown (hkeys _ (List.mem_map_of_mem hentry)) (hdata _ hentry)

/-- What the environment sets an outermost field to has no byte strings among its keys. -/
theorem keyed_of_field? {name : String} {shape : Shape} {texts : List (String × String)} {datum : Datum}
    (h : field? name shape texts = .ok (some datum)) : datum.Keyed := by
  unfold field? at h
  split at h
  · obtain ⟨entries, hentries, hfield⟩ := ColumnLine.bind_eq_ok_iff.mp h
    split at hfield
    · cases hfield
    · cases hfield
      exact keyed_of_below hentries
  · rename_i text _
    have hparsed {parsed : Datum} (h : (Json.parse text).map Datum.ofValue = some parsed) : parsed.Keyed := by
      obtain ⟨v, -, rfl⟩ := Option.map_eq_some_iff.mp h
      exact Datum.keyed_ofValue v
    split at h
    · cases h
    · cases h
    · rename_i entries hentries
      obtain ⟨inner, hinner, hfield⟩ := ColumnLine.bind_eq_ok_iff.mp h
      cases hfield
      exact Datum.keyed_merge (hparsed hentries) (keyed_of_below hinner)
    · rename_i parsed _ _ hfound
      cases h
      exact hparsed hfound

/-- It stays so under the fields' own names. -/
theorem keyed_named (name : String) (shape : Shape) {datum : Datum} (h : datum.Keyed) :
    (named name shape datum).Keyed := by
  unfold named
  split
  · split
    · exact keyed_ownNames _ h
    · exact h
  · exact h

/-- The environment sets no byte strings as keys. -/
theorem keyed_of_settings {environment : List (String × String)} {entries : Entries}
    (h : settings environment = .ok entries) : (Datum.mapping entries).Keyed := by
  refine Datum.keyed_of_foldlM (fun known field next hknown hnext => ?_) Datum.keyed_mapping_nil h
  obtain ⟨name, shape⟩ := field
  obtain ⟨found, hfound, hadded⟩ := ColumnLine.bind_eq_ok_iff.mp hnext
  cases found with
  | none =>
    cases hadded
    exact hknown
  | some datum =>
    cases hadded
    obtain ⟨hkeys, hdata⟩ := hknown.entries
    refine .mapping ?_ (List.forall_mem_append.mpr ⟨hdata, List.forall_mem_singleton.mpr ?_⟩)
    · rw [Entries.keys, List.map_append]
      exact List.forall_mem_append.mpr ⟨hkeys, List.forall_mem_singleton.mpr trivial⟩
    · exact keyed_named name shape (keyed_of_field? hfound)

end Environment

namespace Settings

/-! ## Fields of a file -/

/-- Fields stay sound under their own names. -/
theorem sound_ownNames {entries : Entries} (h : (Datum.mapping entries).Sound) :
    (Datum.mapping (ownNames entries)).Sound := by
  obtain ⟨⟨hkeys, -⟩, hdata⟩ := h.entries
  refine List.foldlRecOn (motive := fun fields => (Datum.mapping fields).Sound) entries _ Datum.sound_mapping_nil
    fun fields hfields entry hentry => ?_
  have hkey : entry.1.IsLegible := hkeys _ (List.mem_map_of_mem hentry)
  have hput (key : Value) (hkey : key.IsLegible) : (Datum.mapping (Entries.put fields key entry.2)).Sound :=
    hfields.put ⟨Entries.legible_put hfields.entries.1.1 hkey _, hfields.entries.1.2.put key _⟩ (hdata _ hentry)
  dsimp only
  split
  · refine hput _ ?_
    split
    · split
      · trivial
      · exact hkey
    · exact hkey
  · exact hfields

/-- The fields of a file are sound. -/
theorem sound_of_fileFields {text : String} {file : Entries} (h : fileFields text = .ok file) :
    (Datum.mapping file).Sound := by
  unfold fileFields at h
  split at h
  · cases h
  · rename_i datum hdatum
    split at h
    · rename_i entries hentries
      cases h
      refine sound_ownNames ?_
      unfold fileEntries at hentries
      split at hentries
      · split at hentries
        · split at hentries
          · cases hentries
            exact Yaml.sound_of_parse? hdatum
          · cases hentries
        · cases hentries
      · cases hentries
        exact Datum.sound_mapping_nil
    · cases h

end Settings

end SchemaAtlas
