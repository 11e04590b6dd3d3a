import SchemaAtlas.Proofs.Yaml.Merging
import SchemaAtlas.Yaml.Reader

/-!
# What data that are read are built of

A text holds no byte strings, and of equal keys the last counts. So there are no byte strings in the datum of a text,
neither as scalars nor as keys, and no mapping in it has two entries with the same key. Readers keep this of the data
that have a name, as these can stand again wherever their names are called.
-/

namespace SchemaAtlas

/-- A value is no byte string. -/
def Value.IsLegible : Value → Prop
  | .bytes _ => False
  | _ => True

namespace Yaml

namespace Datum

/-- Data are put into mappings of a kind that are of the kind still. -/
theorem Built.put {scalars : Value → Prop} {mappings : Entries → Prop} {entries : Entries} {key : Value} {datum : Datum}
    (h : Built scalars mappings (.mapping entries)) (hput : mappings (entries.put key datum))
    (hdatum : Built scalars mappings datum) : Built scalars mappings (.mapping (entries.put key datum)) := by
  refine .mapping hput fun entry hentry => ?_
  obtain hold | ⟨hnew, -⟩ := Entries.mem_put hentry
  · exact h.entries.2 entry hold
  · rw [hnew]
    exact hdatum

/-- There are no byte strings in a datum, and no mapping in it has two entries with the same key. -/
abbrev Sound : Datum → Prop :=
  Built Value.IsLegible fun entries => (∀ key ∈ entries.keys, key.IsLegible) ∧ entries.Distinct

/-- There are no byte strings among the keys of a datum. -/
abbrev Keyed : Datum → Prop :=
  Built (fun _ => True) fun entries => ∀ key ∈ entries.keys, key.IsLegible

end Datum

/-- No byte string becomes a key unless it is put. -/
theorem Entries.legible_put {entries : Entries} (h : ∀ key ∈ entries.keys, key.IsLegible) {key : Value}
    (hkey : key.IsLegible) (datum : Datum) : ∀ other ∈ (entries.put key datum).keys, other.IsLegible := by
  obtain hkeys | ⟨hkeys, -⟩ := keys_put entries key datum
  · rwa [hkeys]
  · rw [hkeys]
    exact List.forall_mem_append.mpr ⟨h, List.forall_mem_singleton.mpr hkey⟩

/-- A mapping without entries is sound. -/
theorem Datum.sound_mapping_nil : (Datum.mapping []).Sound :=
  .mapping ⟨List.forall_mem_nil _, List.Pairwise.nil⟩ (List.forall_mem_nil _)

/-- Null is sound. -/
theorem Datum.sound_null : (Datum.scalar .null).Sound :=
  .scalar trivial

/-- A plain scalar stands for no byte string. -/
theorem isLegible_of_plainValue? {s : String} {v : Value} (h : plainValue? s = some v) : v.IsLegible := by
  have hwords : ∀ entry ∈ plainWords, entry.2.IsLegible := by simp [plainWords, Value.IsLegible]
  unfold plainValue? at h
  simp only at h
  split at h
  · cases h
  · cases hword : plainWords.lookup s with
    | some word =>
      rw [hword] at h
      obtain rfl : word = v := Option.some.inj h
      obtain ⟨earlier, later, hsplit, -⟩ := List.lookup_eq_some_iff.mp hword
      exact hwords (s, word) (by simp [hsplit])
    | none =>
      rw [hword] at h
      split at h
      all_goals first
        | (cases h; trivial)
        | (obtain rfl := Option.some.inj h; split <;> trivial)

/-! ## Readers that keep named data sound -/

/-- All data that have a name are sound. -/
def Stand.Sound (stand : Stand) : Prop :=
  ∀ entry ∈ stand.anchors, entry.2.Sound

/-- From where the named data are sound, a reader comes to where they are, and what it reads has a property. -/
def Yields {α : Type} (P : α → Prop) (reader : Reader α) : Prop :=
  ∀ (stand : Stand) (a : α) (next : Stand), stand.Sound → reader stand = some (a, next) → P a ∧ next.Sound

namespace Yields

variable {α β : Type} {P : α → Prop} {Q : β → Prop} {reader : Reader α}

/-- What is just told must have the property. -/
theorem pure {a : α} (h : P a) : Yields P (Pure.pure a : Reader α) := by
  intro stand b next hstand hread
  cases hread
  exact ⟨h, hstand⟩

/-- A reader that reads nothing. -/
theorem failure : Yields P (Alternative.failure : Reader α) := by
  intro stand a next _ hread
  cases hread

/-- Readers one after the other. -/
theorem bind {behind : α → Reader β} (h : Yields P reader) (hbehind : ∀ a, P a → Yields Q (behind a)) :
    Yields Q (reader >>= behind) := by
  intro stand b next hstand hread
  change (reader stand).bind (fun result => behind result.1 result.2) = some (b, next) at hread
  obtain ⟨⟨a, between⟩, hfirst, hsecond⟩ := Option.bind_eq_some_iff.mp hread
  obtain ⟨ha, hbetween⟩ := h stand a between hstand hfirst
  exact hbehind a ha between b next hbetween hsecond

/-- Nothing is read behind a reader that reads nothing. -/
theorem stop (behind : α → Reader β) : Yields Q ((Alternative.failure : Reader α) >>= behind) :=
  bind (show Yields (fun _ => False) _ from failure) nofun

/-- Readers of which a condition chooses one. -/
theorem ite {condition : Prop} [Decidable condition] {other : Reader α} (h : Yields P reader) (hother : Yields P other) :
    Yields P (if condition then reader else other) := by
  split
  · exact h
  · exact hother

/-- Where a reader stands, named data are sound. -/
theorem get : Yields Stand.Sound (MonadState.get : Reader Stand) := by
  intro stand a next hstand hread
  cases hread
  exact ⟨hstand, hstand⟩

/-- A reader can be moved to where they are. -/
theorem set {stand : Stand} (h : stand.Sound) : Yields (fun _ => True) (MonadStateOf.set stand : Reader PUnit) := by
  intro before a next _ hread
  cases hread
  exact ⟨trivial, h⟩

/-- Readers of which a condition chooses one, and what is read behind either. -/
theorem join {condition : Prop} [Decidable condition] {other : Reader α} {behind : α → Reader β}
    (hbehind : ∀ a, P a → Yields Q (behind a)) (h : Yields P reader) (hother : Yields P other) :
    Yields Q (if condition then reader >>= behind else other >>= behind) :=
  .ite (h.bind hbehind) (hother.bind hbehind)

/-- Moving on in the text leaves them. -/
theorem moveTo (place : Place) : Yields (fun _ => True) (Reader.moveTo place) := by
  intro stand a next hstand hread
  cases hread
  exact ⟨trivial, hstand⟩

/-- So does looking where one stands. -/
theorem place : Yields (fun _ => True) Reader.place :=
  get.bind fun _ _ => pure trivial

/-- So does skipping characters. -/
theorem skip (count : Nat) : Yields (fun _ => True) (Reader.skip count) :=
  place.bind fun _ _ => moveTo _

/-- So does skipping a gap. -/
theorem skipGap : Yields (fun _ => True) Reader.skipGap :=
  place.bind fun _ _ => (moveTo _).bind fun _ _ => pure trivial

/-- So does skipping blanks. -/
theorem skipBlanks : Yields (fun _ => True) Reader.skipBlanks :=
  place.bind fun _ _ => skip _

/-- So does a text that must be there. -/
theorem expect (c : Char) : Yields (fun _ => True) (Reader.expect c) := by
  refine place.bind fun start _ => ?_
  split
  · exact skip 1
  · exact failure

/-- A reader of a partial result reads it or nothing. -/
theorem lift (found : Option α) : Yields (fun _ => True) (liftM found : Reader α) := by
  intro stand a next hstand hread
  cases found with
  | none => cases hread
  | some b =>
    cases hread
    exact ⟨trivial, hstand⟩

/-- So does taking what the text yields. -/
theorem take (read : Place → Option (α × Place)) : Yields (fun _ => True) (Reader.take read) :=
  place.bind fun start _ => (lift (read start)).bind fun _ _ => (moveTo _).bind fun _ _ => pure trivial

end Yields

/-! ## Names, scalars and entries -/

/-- A name of a datum is read without a change of the named data. -/
theorem yields_readName : Yields (fun _ => True) readName := by
  refine (Yields.skip 1).bind fun _ _ => Yields.place.bind fun start _ => (Yields.skip _).bind fun _ _ =>
    Yields.place.bind fun behind _ => ?_
  exact .ite (.stop _) (.pure trivial)

/-- The datum that a name calls is sound. -/
theorem yields_readAlias : Yields Datum.Sound readAlias := by
  refine yields_readName.bind fun name _ => Yields.get.bind fun stand hstand => ?_
  split
  · rename_i datum hfound
    obtain ⟨earlier, later, hsplit, -⟩ := List.lookup_eq_some_iff.mp hfound
    exact .pure (hstand (name, datum) (by simp [hsplit]))
  · exact .failure

/-- So is what stands in front of a datum. -/
theorem yields_readProperties (fuel : Nat) (properties : Properties) :
    Yields (fun _ => True) (readProperties fuel properties) := by
  induction fuel generalizing properties with
  | zero => exact .pure trivial
  | succ fuel ih =>
    refine Yields.place.bind fun start _ => ?_
    split
    · exact yields_readName.bind fun name _ => Yields.skipBlanks.bind fun _ _ => ih _
    · split
      · exact (Yields.skip 5).bind fun _ _ => Yields.skipBlanks.bind fun _ _ => ih _
      · exact .pure trivial

/-- A sound datum can be named. -/
theorem yields_nameDatum (properties : Properties) {datum : Datum} (h : datum.Sound) :
    Yields Datum.Sound (nameDatum properties datum) := by
  rw [nameDatum]
  split
  · exact .pure h
  · rename_i name _
    refine Yields.get.bind fun stand hstand => ?_
    have hnamed : Yields Datum.Sound (do
        modify fun stand => { stand with anchors := (name, datum) :: stand.anchors }
        pure datum : Reader Datum) := by
      intro before a next hbefore hread
      cases hread
      exact ⟨h, List.forall_mem_cons.mpr ⟨h, hbefore⟩⟩
    exact .ite (.stop _) hnamed

/-- A scalar is sound. -/
theorem yields_readScalar (flow : Bool) (indent : Nat) (isText : Bool) :
    Yields Datum.Sound (readScalar flow indent isText) := by
  have htext (s : String) : (Datum.scalar (.text s)).Sound := .scalar trivial
  refine Yields.place.bind fun start _ => ?_
  split
  · exact (Yields.take _).bind fun s _ => .pure (htext s)
  · split
    · refine (Yields.moveTo _).bind fun _ _ => .ite (.pure (htext _)) ?_
      split
      · rename_i v hvalue
        exact .pure (.scalar (isLegible_of_plainValue? hvalue))
      · exact .failure
    · exact .failure

/-- A datum that is absent is sound. -/
theorem sound_absentDatum (properties : Properties) : (absentDatum properties).Sound := by
  rw [absentDatum]
  split <;> exact .scalar trivial

/-- Sound mappings take entries of sound data. -/
theorem yields_addEntry {entries : Entries} {key datum : Datum} (hentries : (Datum.mapping entries).Sound)
    (hkey : key.Sound) (hdatum : datum.Sound) :
    Yields (fun entries => (Datum.mapping entries).Sound) (addEntry entries key datum) := by
  cases key with
  | scalar v =>
    cases hkey with
    | scalar hlegible =>
      obtain ⟨⟨hkeys, hdistinct⟩, -⟩ := hentries.entries
      exact .pure (hentries.put ⟨Entries.legible_put hkeys hlegible datum, hdistinct.put v datum⟩ hdatum)
  | list items => exact .failure
  | mapping inner => exact .failure

/-! ## Flows -/

/-- The data of flows are sound. -/
structure FlowsSound (fuel : Nat) : Prop where
  flow : Yields Datum.Sound (readFlow fuel)
  value : ∀ close, Yields Datum.Sound (readFlowValue fuel close)
  items : ∀ before, (∀ item ∈ before, item.Sound) →
    Yields (fun items => ∀ item ∈ items, item.Sound) (readItems fuel before)
  entries : ∀ before, (Datum.mapping before).Sound →
    Yields (fun entries => (Datum.mapping entries).Sound) (readEntries fuel before)

namespace FlowsSound

variable {fuel : Nat}

/-- What is one level up is sound if the flows in it are. -/
theorem flow_succ (ih : FlowsSound fuel) : Yields Datum.Sound (readFlow (fuel + 1)) := by
  rw [readFlow]
  refine (yields_readProperties 3 {}).bind fun properties _ => Yields.skipGap.bind fun start _ => ?_
  refine .ite yields_readAlias <| .ite ?items <| .ite ?entries <| .ite ?scalar (yields_readScalar true 0 false)
  case items =>
    exact (Yields.skip 1).bind fun _ _ => (ih.items [] (List.forall_mem_nil _)).bind fun items hitems =>
      yields_nameDatum properties (.list hitems)
  case entries =>
    exact (Yields.skip 1).bind fun _ _ => (ih.entries [] Datum.sound_mapping_nil).bind fun entries hentries =>
      yields_nameDatum properties hentries
  case scalar =>
    exact .ite ((yields_readScalar true 0 _).bind fun datum hdatum => yields_nameDatum properties hdatum)
      (yields_nameDatum properties (sound_absentDatum properties))

/-- So is a value in a mapping. -/
theorem value_succ (ih : FlowsSound fuel) (close : Char) : Yields Datum.Sound (readFlowValue (fuel + 1) close) := by
  rw [readFlowValue]
  exact (Yields.skip 1).bind fun _ _ => Yields.skipGap.bind fun next _ => .ite (.pure Datum.sound_null) ih.flow

/-- So are the items of a list. -/
theorem items_succ (ih : FlowsSound fuel) (before : List Datum) (hbefore : ∀ item ∈ before, item.Sound) :
    Yields (fun items => ∀ item ∈ items, item.Sound) (readItems (fuel + 1) before) := by
  rw [readItems]
  have hlast {items : List Datum} (hitems : ∀ item ∈ items, item.Sound) :
      Yields (fun items => ∀ item ∈ items, item.Sound) (pure items.reverse : Reader (List Datum)) :=
    .pure fun item hitem => hitems item (List.mem_reverse.mp hitem)
  refine Yields.skipGap.bind fun start _ => .ite ((Yields.skip 1).bind fun _ _ => hlast hbefore) ?_
  refine ih.flow.bind fun item hitem => Yields.skipGap.bind fun next _ => ?_
  refine .join (fun item hitem => Yields.skipGap.bind fun next _ => ?_) ?pair (.pure hitem)
  · have hitems := List.forall_mem_cons.mpr ⟨hitem, hbefore⟩
    exact .ite ((Yields.skip 1).bind fun _ _ => ih.items _ hitems) ((Yields.expect ']').bind fun _ _ => hlast hitems)
  case pair =>
    exact (ih.value ']').bind fun datum hdatum =>
      (yields_addEntry Datum.sound_mapping_nil hitem hdatum).bind fun entries hentries => .pure hentries

/-- So are the entries of a mapping. -/
theorem entries_succ (ih : FlowsSound fuel) (before : Entries) (hbefore : (Datum.mapping before).Sound) :
    Yields (fun entries => (Datum.mapping entries).Sound) (readEntries (fuel + 1) before) := by
  rw [readEntries]
  refine Yields.skipGap.bind fun start _ => .ite ((Yields.skip 1).bind fun _ _ => .pure hbefore) ?_
  refine ih.flow.bind fun key hkey => Yields.skipGap.bind fun next _ => ?_
  refine .join (fun datum hdatum => ?_) (ih.value '\x7d') (.pure Datum.sound_null)
  refine (yields_addEntry hbefore hkey hdatum).bind fun entries hentries => Yields.skipGap.bind fun next _ => ?_
  exact .ite ((Yields.skip 1).bind fun _ _ => ih.entries entries hentries)
    ((Yields.expect '\x7d').bind fun _ _ => .pure hentries)

end FlowsSound

/-- They are so at whatever depth. -/
theorem flowsSound (fuel : Nat) : FlowsSound fuel := by
  induction fuel with
  | zero => exact ⟨.failure, fun _ => .failure, fun _ _ => .failure, fun _ _ => .failure⟩
  | succ fuel ih => exact ⟨ih.flow_succ, ih.value_succ, ih.items_succ, ih.entries_succ⟩

/-! ## Blocks -/

/-- A datum on one line is sound. -/
theorem yields_readInline (fuel indent : Nat) (properties : Properties) :
    Yields Datum.Sound (readInline fuel indent properties) := by
  refine Yields.place.bind fun start _ => .ite yields_readAlias <| .ite ?flow <| .ite ?block ?scalar
  case flow => exact (flowsSound fuel).flow.bind fun datum hdatum => yields_nameDatum properties hdatum
  case block => exact (Yields.take _).bind fun s _ => yields_nameDatum properties (.scalar trivial)
  case scalar =>
    exact (yields_readScalar false indent _).bind fun datum hdatum => yields_nameDatum properties hdatum

/-- A key is sound if there is one. -/
theorem yields_readKey? (fuel : Nat) : Yields (fun key => ∀ datum ∈ key, datum.Sound) (readKey? fuel) := by
  intro stand key next hstand hread
  unfold readKey? at hread
  simp only at hread
  split at hread
  · rename_i datum behind hfound
    cases hread
    have hkey : datum.Sound ∧ next.Sound := by
      refine Yields.place.bind (fun start _ => ?_) stand datum next hstand hfound
      refine (yields_readProperties 3 {}).bind fun properties _ => Yields.place.bind fun here _ => .ite (.stop _) ?_
      refine (yields_readInline fuel 0 properties).bind fun datum hdatum => Yields.skipGap.bind fun next _ => ?_
      exact .ite ((Yields.skip 1).bind fun _ _ => .pure hdatum) .failure
    exact ⟨fun other hother => Option.mem_some.mp hother ▸ hkey.1, hkey.2⟩
  · cases hread
    exact ⟨nofun, hstand⟩

/-- The data of blocks are sound. -/
structure BlocksSound (fuel : Nat) : Prop where
  block : ∀ parent nested, Yields Datum.Sound (readBlock fuel parent nested)
  value : ∀ column line, Yields Datum.Sound (readBlockValue fuel column line)
  entries : ∀ column before, (Datum.mapping before).Sound → Yields Datum.Sound (readBlockEntries fuel column before)
  items : ∀ column amongKeys before, (∀ item ∈ before, item.Sound) →
    Yields (fun items => ∀ item ∈ items, item.Sound) (readBlockItems fuel column amongKeys before)

namespace BlocksSound

variable {fuel : Nat}

/-- What is one level up is sound if the blocks in it are. -/
theorem block_succ (ih : BlocksSound fuel) (parent : Nat) (nested : Bool) :
    Yields Datum.Sound (readBlock (fuel + 1) parent nested) := by
  rw [readBlock]
  refine Yields.place.bind fun start _ => .ite ?items ?other
  case items =>
    exact (ih.items _ false [] (List.forall_mem_nil _)).bind fun items hitems => .pure (.list hitems)
  case other =>
    have hnokey : ∀ datum ∈ (none : Option Datum), datum.Sound := fun _ hkey => absurd hkey (Option.not_mem_none _)
    refine .join (fun key hkey => ?_) (yields_readKey? fuel) (.pure hnokey)
    cases key with
    | some key =>
      exact (ih.value _ _).bind fun datum hdatum =>
        (yields_addEntry Datum.sound_mapping_nil (hkey key rfl) hdatum).bind fun entries hentries =>
          ih.entries _ entries hentries
    | none =>
      refine (yields_readProperties 3 {}).bind fun properties _ => Yields.place.bind fun here _ =>
        Yields.skipGap.bind fun next _ => .ite (.ite ?absent ?nested) (yields_readInline fuel parent properties)
      case absent => exact yields_nameDatum properties (sound_absentDatum properties)
      case nested => exact (ih.block parent true).bind fun datum hdatum => yields_nameDatum properties hdatum

/-- So is a value in a mapping. -/
theorem value_succ (ih : BlocksSound fuel) (column line : Nat) :
    Yields Datum.Sound (readBlockValue (fuel + 1) column line) := by
  rw [readBlockValue]
  refine Yields.get.bind fun before hbefore => Yields.skipGap.bind fun next _ => ?_
  have hnone : Yields Datum.Sound (do
      set before
      pure (.scalar .null)) := (Yields.set hbefore).bind fun _ _ => .pure Datum.sound_null
  refine .ite hnone <| .ite (ih.block _ _) <| .ite (ih.block _ _) <| .ite ?items hnone
  case items => exact (ih.items column true [] (List.forall_mem_nil _)).bind fun items hitems => .pure (.list hitems)

/-- So are the entries of a mapping. -/
theorem entries_succ (ih : BlocksSound fuel) (column : Nat) (before : Entries)
    (hbefore : (Datum.mapping before).Sound) : Yields Datum.Sound (readBlockEntries (fuel + 1) column before) := by
  rw [readBlockEntries]
  refine Yields.get.bind fun stand hstand => Yields.skipGap.bind fun next _ => ?_
  have hended : Yields Datum.Sound (do
      set stand
      pure (.mapping before)) := (Yields.set hstand).bind fun _ _ => .pure hbefore
  refine .ite hended <| .ite .failure <| .ite ?more <| .ite hended .failure
  case more =>
    refine (yields_readKey? fuel).bind fun key hkey => ?_
    cases key with
    | none => exact .failure
    | some key =>
      exact (ih.value column _).bind fun datum hdatum => (yields_addEntry hbefore (hkey key rfl) hdatum).bind
        fun entries hentries => ih.entries column entries hentries

/-- So are the items of a list. -/
theorem items_succ (ih : BlocksSound fuel) (column : Nat) (amongKeys : Bool) (before : List Datum)
    (hbefore : ∀ item ∈ before, item.Sound) :
    Yields (fun items => ∀ item ∈ items, item.Sound) (readBlockItems (fuel + 1) column amongKeys before) := by
  rw [readBlockItems]
  refine Yields.place.bind fun hyphen _ => (Yields.skip 1).bind fun _ _ => Yields.get.bind fun behind hbehind =>
    Yields.skipGap.bind fun next _ => ?_
  refine .join (fun item hitem => ?_) ((Yields.set hbehind).bind fun _ _ => .pure Datum.sound_null) (ih.block _ true)
  have hitems := List.forall_mem_cons.mpr ⟨hitem, hbefore⟩
  refine Yields.get.bind fun ended hended => Yields.skipGap.bind fun next _ => ?_
  have hall : Yields (fun items => ∀ item ∈ items, item.Sound) (do
      set ended
      pure (item :: before).reverse : Reader (List Datum)) :=
    (Yields.set hended).bind fun _ _ => .pure fun other hother => hitems other (List.mem_reverse.mp hother)
  exact .ite hall <| .ite .failure <|
    .ite (.ite (ih.items column amongKeys _ hitems) (.ite hall .failure)) (.ite hall .failure)

end BlocksSound

/-- They are so at whatever depth. -/
theorem blocksSound (fuel : Nat) : BlocksSound fuel := by
  induction fuel with
  | zero =>
    constructor <;> intros
    · rw [readBlock]
      exact .failure
    · rw [readBlockValue]
      exact .failure
    · rw [readBlockEntries]
      exact .failure
    · rw [readBlockItems]
      exact .failure
  | succ fuel ih => exact ⟨ih.block_succ, ih.value_succ, ih.entries_succ, ih.items_succ⟩

/-! ## Documents -/

/-- The end of a text changes nothing. -/
theorem yields_readEnd (fuel : Nat) : Yields (fun _ => True) (readEnd fuel) := by
  induction fuel with
  | zero => exact .failure
  | succ fuel ih =>
    exact Yields.skipGap.bind fun next _ =>
      .ite (.pure trivial) (.ite ((Yields.skip 3).bind fun _ _ => ih) .failure)

/-- A document is sound. -/
theorem yields_readDocument (fuel : Nat) : Yields Datum.Sound (readDocument fuel) := by
  refine Yields.skipGap.bind fun start _ => .ite (.pure Datum.sound_null) ?_
  refine .join (fun _ _ => Yields.skipGap.bind fun next _ => ?_) (Yields.skip 3)
    (show Yields _ (pure () : Reader Unit) from .pure trivial)
  exact .join (fun datum hdatum => (yields_readEnd fuel).bind fun _ _ => .pure hdatum) (.pure Datum.sound_null)
    ((blocksSound fuel).block 0 _)

/-- The datum of a text is sound. -/
theorem sound_of_parse? {s : String} {datum : Datum} (h : parse? s = some datum) : datum.Sound := by
  have hread (cs : List Char) (hread : (if cs.all isAllowed then
      (readDocument (4 * cs.length + 8) { place := { rest := cs } }).map (·.1) else none) = some datum) :
      datum.Sound := by
    split at hread
    · obtain ⟨⟨read, next⟩, hfound, rfl⟩ := Option.map_eq_some_iff.mp hread
      exact (yields_readDocument _ _ read next (fun _ hentry => by cases hentry) hfound).1
    · cases hread
  exact hread _ h

end Yaml

end SchemaAtlas
