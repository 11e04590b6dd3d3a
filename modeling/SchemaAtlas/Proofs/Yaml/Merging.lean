import Mathlib.Logic.Basic
import SchemaAtlas.Yaml.Datum

/-!
# What merged data give

A datum gives another one at the end of a path of names that leads through mappings. What a merged datum gives is told
path by path: what the upper one gives there, merged with what is below it, and otherwise what the lower one gives,
unless the upper one has something on the way that is no mapping and covers everything below. For that a mapping of
the upper datum must not have two entries with the same key.
-/

namespace SchemaAtlas.Yaml

/-! ## Keys that are texts -/

/-- A key is the same as a text just if it is the text. -/
theorem sameKey_text_iff (key : Value) (name : String) : sameKey key (.text name) = true ↔ key = .text name := by
  cases key <;> simp [sameKey, keyInteger?]
  case float x => cases x.integer? <;> simp

/-- So it is the other way round. -/
theorem sameKey_text_left_iff (key : Value) (name : String) : sameKey (.text name) key = true ↔ key = .text name := by
  cases key <;> simp [sameKey, keyInteger?]
  case text s => exact eq_comm
  case float x => cases x.integer? <;> simp

namespace Entries

/-- The keys of entries, in order. -/
def keys (entries : Entries) : List Value :=
  entries.map Prod.fst

/-- No two entries have the same key. -/
def Distinct (entries : Entries) : Prop :=
  entries.keys.Pairwise fun key other => sameKey key other = false

/-- The first entry decides what a key gives if it has the key. -/
theorem get?_cons (key wanted : Value) (datum : Datum) (rest : Entries) :
    get? ((key, datum) :: rest) wanted = if sameKey key wanted then some datum else get? rest wanted := by
  rw [get?, List.find?_cons]
  cases sameKey key wanted <;> rfl

/-- A text that gives something is the key of an entry. -/
theorem mem_of_get?_text {entries : Entries} {name : String} {datum : Datum}
    (h : get? entries (.text name) = some datum) : (.text name, datum) ∈ entries := by
  induction entries with
  | nil => cases h
  | cons entry rest ih =>
    obtain ⟨key, first⟩ := entry
    rw [get?_cons] at h
    split at h
    · rename_i hkey
      rw [(sameKey_text_iff key name).mp hkey, Option.some.inj h]
      exact List.mem_cons_self
    · exact List.mem_cons_of_mem _ (ih h)

/-- A datum that is put is given by its key, and no other text gives anything else. -/
theorem get?_put_text (entries : Entries) (key : Value) (datum : Datum) (name : String) :
    get? (put entries key datum) (.text name) =
      if sameKey key (.text name) then some datum else get? entries (.text name) := by
  induction entries with
  | nil => rw [put, get?_cons]
  | cons entry rest ih =>
    obtain ⟨first, old⟩ := entry
    rw [put]
    split
    · rename_i hsame
      -- The key that stands there is the same, though it need not be equal; as a text it is.
      have hiff : sameKey first (.text name) = sameKey key (.text name) := by
        rw [Bool.eq_iff_iff, sameKey_text_iff, sameKey_text_iff]
        constructor
        · rintro rfl
          exact (sameKey_text_left_iff key name).mp hsame
        · rintro rfl
          exact (sameKey_text_iff first name).mp hsame
      rw [get?_cons, get?_cons, hiff]
      split <;> rfl
    · rename_i hother
      rw [get?_cons, ih, get?_cons]
      cases hfirst : sameKey first (.text name) with
      | false => rfl
      | true =>
        obtain rfl := (sameKey_text_iff first name).mp hfirst
        have hkey : sameKey key (.text name) = false := Bool.eq_false_iff.mpr fun hkey => hother
          ((sameKey_text_left_iff key name).mpr ((sameKey_text_iff key name).mp hkey))
        simp [hkey]

/-- Every entry after a datum was put stood there before, or has the datum and the key, or the datum and an old key. -/
theorem mem_put {entries : Entries} {key : Value} {datum : Datum} {entry : Value × Datum}
    (h : entry ∈ put entries key datum) :
    entry ∈ entries ∨ entry.2 = datum ∧ (entry.1 = key ∨ entry.1 ∈ entries.keys) := by
  induction entries with
  | nil => exact .inr ⟨congrArg Prod.snd (List.mem_singleton.mp h), .inl (congrArg Prod.fst (List.mem_singleton.mp h))⟩
  | cons first rest ih =>
    rw [put] at h
    split at h
    · rcases List.mem_cons.mp h with rfl | hrest
      · exact .inr ⟨rfl, .inr List.mem_cons_self⟩
      · exact .inl (List.mem_cons_of_mem _ hrest)
    · rcases List.mem_cons.mp h with rfl | hrest
      · exact .inl List.mem_cons_self
      · exact (ih hrest).imp (List.mem_cons_of_mem _) (And.imp_right (Or.imp_right (List.mem_cons_of_mem _)))

/-- A key that is put stands among the others, or behind them if none of them is the same. -/
theorem keys_put (entries : Entries) (key : Value) (datum : Datum) :
    (put entries key datum).keys = entries.keys ∨
      (put entries key datum).keys = entries.keys ++ [key] ∧ ∀ other ∈ entries.keys, sameKey other key = false := by
  induction entries with
  | nil => exact .inr ⟨rfl, List.forall_mem_nil _⟩
  | cons first rest ih =>
    rw [put]
    split
    · exact .inl rfl
    · rename_i hother
      refine ih.imp (congrArg (List.cons first.1)) fun hbehind => ⟨congrArg (List.cons first.1) hbehind.1, ?_⟩
      exact List.forall_mem_cons.mpr ⟨Bool.eq_false_iff.mpr hother, hbehind.2⟩

/-- Keys stay distinct when a datum is put. -/
theorem Distinct.put {entries : Entries} (h : entries.Distinct) (key : Value) (datum : Datum) :
    (put entries key datum).Distinct := by
  unfold Distinct
  obtain hkeys | ⟨hkeys, hnew⟩ := keys_put entries key datum
  · rw [hkeys]
    exact h
  · rw [hkeys, List.pairwise_append]
    exact ⟨h, List.pairwise_singleton _ _, fun other hother last hlast => List.mem_singleton.mp hlast ▸ hnew other hother⟩

end Entries

/-! ## Merging -/

namespace Datum

/-- A datum over one that there may be. -/
def mergeOver (under : Option Datum) (above : Datum) : Datum :=
  match under with
  | some old => merge old above
  | none => above

/-- What a text gives in merged entries: what it gives in the upper ones, merged with what it gives in the lower ones,
or else this. -/
theorem get?_mergeEntries (under : Entries) {above : Entries} (hdistinct : above.Distinct) (name : String) :
    Entries.get? (mergeEntries under above) (.text name) =
      match Entries.get? above (.text name) with
      | some datum => some (mergeOver (Entries.get? under (.text name)) datum)
      | none => Entries.get? under (.text name) := by
  induction above generalizing under with
  | nil => rw [mergeEntries]; rfl
  | cons entry rest ih =>
    obtain ⟨key, datum⟩ := entry
    obtain ⟨hfirst, hrest⟩ := List.pairwise_cons.mp hdistinct
    rw [mergeEntries, ih _ hrest, Entries.get?_put_text, Entries.get?_cons]
    cases hkey : sameKey key (.text name) with
    | false => rfl
    | true =>
      -- The key stands in no later entry.
      obtain rfl := (sameKey_text_iff key name).mp hkey
      have hnone : Entries.get? rest (.text name) = none := by
        refine Option.eq_none_iff_forall_ne_some.mpr fun later hfound => ?_
        have hmem : .text name ∈ Entries.keys rest := List.mem_map_of_mem (Entries.mem_of_get?_text hfound)
        rw [hfirst _ hmem] at hkey
        cases hkey
      simp only [hnone, if_true]
      rfl

/-- A datum that is no mapping covers what it is merged over. -/
theorem mergeOver_of_not_mapping (under : Option Datum) {above : Datum} (h : ∀ entries, above ≠ .mapping entries) :
    mergeOver under above = above := by
  cases under with
  | none => rfl
  | some old =>
    cases above with
    | scalar v => simp [mergeOver, merge]
    | list items => exact merge_list old items
    | mapping entries => exact absurd rfl (h entries)

/-- A mapping stays one when it is merged over something, and only mappings become one. -/
theorem exists_mergeOver_iff (under : Option Datum) (above : Datum) :
    (∃ entries, mergeOver under above = .mapping entries) ↔ ∃ entries, above = .mapping entries := by
  cases under with
  | none => rfl
  | some old => cases above <;> cases old <;> simp [mergeOver, merge]

/-! ## What data are built of -/

/-- Every scalar and every mapping in a datum is of some kind. -/
inductive Built (scalars : Value → Prop) (mappings : Entries → Prop) : Datum → Prop
  | scalar {v : Value} (h : scalars v) : Built scalars mappings (.scalar v)
  | list {items : List Datum} (h : ∀ item ∈ items, Built scalars mappings item) : Built scalars mappings (.list items)
  | mapping {entries : Entries} (h : mappings entries) (hdata : ∀ entry ∈ entries, Built scalars mappings entry.2) :
    Built scalars mappings (.mapping entries)

variable {scalars wider : Value → Prop} {mappings more : Entries → Prop}

/-- They are of a wider kind as well. -/
theorem Built.mono {datum : Datum} (h : Built scalars mappings datum) (hscalars : ∀ v, scalars v → wider v)
    (hmappings : ∀ entries, mappings entries → more entries) : Built wider more datum := by
  induction h with
  | scalar h => exact .scalar (hscalars _ h)
  | list _ ih => exact .list ih
  | mapping h _ ih => exact .mapping (hmappings _ h) ih

/-- A mapping is of the kind, and so is everything in it. -/
theorem Built.entries {entries : Entries} (h : Built scalars mappings (.mapping entries)) :
    mappings entries ∧ ∀ entry ∈ entries, Built scalars mappings entry.2 := by
  cases h with
  | mapping h hdata => exact ⟨h, hdata⟩

/-- So is what a key gives there. -/
theorem Built.get? {entries : Entries} (h : Built scalars mappings (.mapping entries)) {key : Value} {datum : Datum}
    (hfound : Entries.get? entries key = some datum) : Built scalars mappings datum := by
  obtain ⟨entry, hentry, rfl⟩ := Option.map_eq_some_iff.mp hfound
  exact h.entries.2 entry (List.mem_of_find?_eq_some hentry)

/-- No mapping in a datum has two entries with the same key. -/
abbrev Distinct : Datum → Prop :=
  Built (fun _ => True) Entries.Distinct

/-! ## Paths -/

/-- The datum at the end of a path of names. -/
def at? : Datum → List String → Option Datum
  | datum, [] => some datum
  | .mapping entries, name :: rest => (Entries.get? entries (.text name)).bind fun inner => at? inner rest
  | _, _ :: _ => none

/-- Whether everything that a datum has on a path before its end is a mapping. -/
def leads : Datum → List String → Bool
  | _, [] => true
  | .mapping entries, name :: rest =>
    match Entries.get? entries (.text name) with
    | some inner => leads inner rest
    | none => true
  | _, _ :: _ => false

/-- A mapping gives at the end of a name what the name gives in it. -/
theorem at?_mapping_name (entries : Entries) (name : String) :
    (Datum.mapping entries).at? [name] = Entries.get? entries (.text name) := by
  rw [at?]
  cases Entries.get? entries (.text name) <;> rfl

/-- A path goes on where another one ends. -/
theorem at?_append (datum : Datum) (path rest : List String) :
    datum.at? (path ++ rest) = (datum.at? path).bind fun inner => inner.at? rest := by
  induction path generalizing datum with
  | nil => rw [List.nil_append, at?]; rfl
  | cons name path ih =>
    cases datum with
    | scalar v => rfl
    | list items => rfl
    | mapping entries =>
      rw [List.cons_append, at?, at?]
      cases Entries.get? entries (.text name) with
      | none => rfl
      | some inner => exact ih inner

/-- What a mapping that is merged over something gives behind a name. -/
theorem at?_mapping_mergeOver (under : Option Datum) {entries : Entries} (hdistinct : entries.Distinct) (name : String)
    (rest : List String) :
    (mergeOver under (.mapping entries)).at? (name :: rest) =
      (match Entries.get? entries (.text name) with
        | some datum => some (mergeOver (under.bind fun old => old.at? [name]) datum)
        | none => under.bind fun old => old.at? [name]).bind fun inner => inner.at? rest := by
  have halone : (Datum.mapping entries).at? (name :: rest) =
      (match Entries.get? entries (.text name) with
        | some datum => some (mergeOver none datum)
        | none => none).bind fun inner => inner.at? rest := by
    rw [at?]
    cases Entries.get? entries (.text name) <;> rfl
  cases under with
  | none => exact halone
  | some old =>
    cases old with
    | scalar v =>
      have hcovered : mergeOver (some (.scalar v)) (.mapping entries) = .mapping entries := by simp [mergeOver, merge]
      rw [hcovered]
      exact halone
    | list items =>
      have hcovered : mergeOver (some (.list items)) (.mapping entries) = .mapping entries := by simp [mergeOver, merge]
      rw [hcovered]
      exact halone
    | mapping base =>
      rw [mergeOver, merge, at?, get?_mergeEntries base hdistinct, Option.bind_some, at?_mapping_name]

/-- What a merged datum gives at the end of a path. -/
theorem at?_mergeOver (under : Option Datum) {above : Datum} (hdistinct : above.Distinct) (path : List String) :
    (mergeOver under above).at? path =
      match above.at? path with
      | some datum => some (mergeOver (under.bind fun old => old.at? path) datum)
      | none => if above.leads path then under.bind fun old => old.at? path else none := by
  induction path generalizing under above with
  | nil =>
    rw [at?, at?]
    cases under <;> rfl
  | cons name rest ih =>
    cases above with
    | scalar v =>
      rw [mergeOver_of_not_mapping under (by simp)]
      rfl
    | list items =>
      rw [mergeOver_of_not_mapping under (by simp)]
      rfl
    | mapping entries =>
      have hbelow : (under.bind fun old => old.at? (name :: rest)) =
          (under.bind fun old => old.at? [name]).bind fun inner => inner.at? rest := by
        rw [Option.bind_assoc]
        exact Option.bind_congr fun old _ => at?_append old [name] rest
      rw [at?_mapping_mergeOver under hdistinct.entries.1, hbelow, at?, leads]
      generalize (under.bind fun old => old.at? [name]) = below
      cases hfound : Entries.get? entries (.text name) with
      | none => rfl
      | some inner => exact ih below (hdistinct.get? hfound)

end Datum

end SchemaAtlas.Yaml
