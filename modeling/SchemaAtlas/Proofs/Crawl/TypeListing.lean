import SchemaAtlas.Crawl.Types
import SchemaAtlas.Proofs.Catalog.Discipline
import SchemaAtlas.Proofs.Crawl.Resolution
import SchemaAtlas.Proofs.Types.Mapping

/-!
# Resolving the types that a source lists

A vendor that declares no types is resolved from the listing of its source. What comes of it is told from the answer
of the source alone. The rows are read to their end and the cursor is closed before the first type is mapped, so that
a mapping of another kind, even one that looks at the survey, would start from the same point. Whatever fails, no
mapping is returned and the cursor is closed.
-/

namespace SchemaAtlas

/-! ## Rows of vendor types -/

namespace Checked

variable {α β : Type}

/-- Both readings succeed exactly if each of them does. -/
theorem both_eq_ok_iff {first : Checked α} {second : Checked β} {a : α} {b : β} :
    both first second = .ok (a, b) ↔ first = .ok a ∧ second = .ok b := by
  cases first <;> cases second <;> simp [both]

/-- What is made of a reading succeeds exactly if the reading does. -/
theorem map_eq_ok_iff {make : α → β} {reading : Checked α} {b : β} :
    reading.map make = .ok b ↔ ∃ a, reading = .ok a ∧ make a = b := by
  cases reading <;> simp [Except.map]

/-- A reading at a place succeeds as the reading does. -/
theorem atPlace_eq_ok_iff {location : List String} {reading : Reading α} {a : α} :
    atPlace location reading = .ok a ↔ reading = .ok a := by
  cases reading <;> simp [atPlace]

/-- A checked reading does not fail exactly if it succeeds. -/
theorem orFail_eq_ok_iff {reading : Checked α} {a : α} : orFail reading = .ok a ↔ reading = .ok a := by
  cases reading <;> simp [orFail]

end Checked

/-- A row tells a vendor type: its fields can be converted to those of the type. An absent precision is zero, and an
absent class is none. -/
structure TypeInfo.Told (info : TypeInfo) (row : Value) : Prop where
  name : ∃ v, row.field "TYPE_NAME" = .ok v ∧ Field.text v = .ok info.name
  code : ∃ v, row.field "DATA_TYPE" = .ok v ∧ Field.integer v = .ok info.code
  precision : ∃ v, row.fieldOrNull "PRECISION" = .ok v ∧
    Field.integer (if v.isTrue then v else .int 0) = .ok info.precision
  typeClass : ∃ v, row.fieldOrNull "SQL_TYPE" = .ok v ∧
    Field.optional TypeInfo.readClass v = .ok info.typeClass

namespace Crawl

/-- A row is read as the vendor type that it tells. -/
theorem typeOfRow_eq_ok_iff {row : Value} {info : TypeInfo} : typeOfRow row = .ok info ↔ info.Told row := by
  obtain ⟨name, code, precision, typeClass⟩ := info
  have hfields (named coded sized classed : Value) :
      TypeInfo.ofFields [("sql_type_name", named), ("data_type", coded), ("precision", sized), ("sql_type", classed)] =
          .ok { name, code, precision, typeClass } ↔
        Field.text named = .ok name ∧ Field.integer coded = .ok code ∧ Field.integer sized = .ok precision ∧
          Field.optional TypeInfo.readClass classed = .ok typeClass := by
    simp only [TypeInfo.ofFields, Checked.orFail_eq_ok_iff, Checked.required, Checked.withDefault, List.lookup_cons,
      beq_self_eq_true, String.reduceBEq]
    simp only [Checked.map_eq_ok_iff, Prod.exists, Checked.both_eq_ok_iff, Checked.atPlace_eq_ok_iff, TypeInfo.mk.injEq]
    constructor
    · rintro ⟨_, _, _, _, hall, rfl, rfl, rfl, rfl⟩
      exact hall
    · exact fun hall => ⟨_, _, _, _, hall, rfl, rfl, rfl, rfl⟩
  simp only [typeOfRow, ColumnLine.bind_eq_ok_iff, hfields]
  constructor
  · rintro ⟨named, hnamed, coded, hcoded, sized, hsized, classed, hclassed, hname, hcode, hprecision, hclass⟩
    exact ⟨⟨named, hnamed, hname⟩, ⟨coded, hcoded, hcode⟩, ⟨sized, hsized, hprecision⟩, ⟨classed, hclassed, hclass⟩⟩
  · rintro ⟨⟨named, hnamed, hname⟩, ⟨coded, hcoded, hcode⟩, ⟨sized, hsized, hprecision⟩, ⟨classed, hclassed, hclass⟩⟩
    exact ⟨named, hnamed, coded, hcoded, sized, hsized, classed, hclassed, hname, hcode, hprecision, hclass⟩

/-- What a row tells, unless it cannot be reached. -/
def readType (row : Row) : Except Failure TypeInfo :=
  row >>= typeOfRow

/-- Rows of vendor types are read one after the other. -/
theorem typesOfRows_eq_mapM (rows : List Row) : typesOfRows rows = rows.mapM readType := by
  induction rows with
  | nil => rfl
  | cons row rest ih =>
    cases row with
    | error f => rfl
    | ok row =>
      rw [typesOfRows, ih, List.mapM_cons]
      rfl

/-! ## Mapping as a step of its own -/

variable {Notes : Type}

/-- Maps vendor types by a step that may fail and may look at the survey and change it. -/
def mapBy (mapper : TypeInfo → Keeping (Survey Notes) (Option TypeName)) (mapping : TypeMapping) :
    List TypeInfo → Keeping (Survey Notes) TypeMapping
  | [] => pure mapping
  | info :: rest => do
    match ← mapper info with
    | none => mapBy mapper mapping rest
    | some t => mapBy mapper (mapping.put info.name t) rest

/-- Resolves the types that a source lists by such a step. -/
def resolveBy (source : Source) (mapper : TypeInfo → Keeping (Survey Notes) (Option TypeName)) :
    Keeping (Survey Notes) TypeMapping := do
  let infos ← Survey.consume source .typeInfo fun rows => Keeping.settle (typesOfRows rows)
  mapBy mapper [] infos

/-- Mapping vendor types by the type of their values is such a step. -/
theorem settle_ofInfos (codes : CodeTable) (mapping : TypeMapping) (infos : List TypeInfo) :
    (Keeping.settle (TypeMapping.ofInfos codes mapping infos) : Keeping (Survey Notes) TypeMapping) =
      mapBy (fun info => Keeping.settle (info.valueType codes)) mapping infos := by
  induction infos generalizing mapping with
  | nil => rfl
  | cons info rest ih =>
    funext survey
    rw [mapBy, Keeping.bind_apply, Keeping.settle_apply, TypeMapping.ofInfos]
    cases info.valueType codes with
    | error f => rfl
    | ok found => cases found <;> simp only [← ih] <;> rfl

/-- Resolving a vendor without types of its own is resolving by that step. -/
theorem resolveTypes_eq_resolveBy {vendor : Vendor} (hdynamic : vendor.types = []) (codes : CodeTable)
    (source : Source) :
    (resolveTypes vendor codes source : Keeping (Survey Notes) TypeMapping) =
      resolveBy source fun info => Keeping.settle (info.valueType codes) := by
  have hempty : vendor.types.isEmpty = true := by rw [hdynamic]; rfl
  simp only [resolveTypes, hempty, if_true, resolveBy, settle_ofInfos]

/-! ## What comes of a listing -/

/-- Items that are not read to their end stop at one of them. -/
theorem stops_of_mapM {α β : Type} {read : α → Except Failure β} {items : List α} {f : Failure}
    (h : items.mapM read = .error f) : ∃ results item, Stops read items results item f := by
  induction items with
  | nil => cases h
  | cons item items ih =>
    rw [List.mapM_cons] at h
    cases hfirst : read item with
    | error g =>
      rw [hfirst] at h
      obtain rfl : g = f := Except.error.inj h
      exact ⟨[], item, [], items, rfl, .nil, hfirst⟩
    | ok result =>
      have hmore : items.mapM read = .error f := by
        rw [hfirst] at h
        cases hrest : items.mapM read with
        | error g =>
          rw [hrest] at h
          exact congrArg _ (Except.error.inj h)
        | ok results =>
          rw [hrest] at h
          cases h
      obtain ⟨results, last, hstops⟩ := ih hmore
      exact ⟨result :: results, last, hstops.cons hfirst⟩

/-- Lines are read to their end exactly if each is a row that tells its vendor type. -/
theorem typesOfRows_eq_ok_iff {lines : List Row} {infos : List TypeInfo} :
    typesOfRows lines = .ok infos ↔
      ∃ rows, lines = rows.map .ok ∧ List.Forall₂ (fun row info => TypeInfo.Told info row) rows infos := by
  have hline (line : Row) (info : TypeInfo) : readType line = .ok info ↔ ∃ row, line = .ok row ∧ info.Told row := by
    simp only [readType, ColumnLine.bind_eq_ok_iff, typeOfRow_eq_ok_iff]
  rw [typesOfRows_eq_mapM, mapM_eq_ok_iff]
  constructor
  · intro h
    induction h with
    | nil => exact ⟨[], rfl, .nil⟩
    | cons hfirst _ ih =>
      obtain ⟨row, rfl, htold⟩ := (hline _ _).mp hfirst
      obtain ⟨rows, rfl, hrows⟩ := ih
      exact ⟨row :: rows, rfl, .cons htold hrows⟩
  · rintro ⟨rows, rfl, hrows⟩
    rw [List.forall₂_map_left_iff]
    exact hrows.imp fun row info htold => (hline _ _).mpr ⟨row, rfl, htold⟩

/-- How resolving the types that a source lists fails. -/
inductive FailsToResolve (codes : CodeTable) (source : Source) (before : Survey Notes) : Failure → Prop where
  /-- The source refuses to list them. -/
  | refused {f} (hanswer : source (Event.calls before.events) .typeInfo = .error f) :
    FailsToResolve codes source before f
  /-- The first line that is no row or tells no vendor type decides. -/
  | reading {listing infos line f} (hanswer : source (Event.calls before.events) .typeInfo = .ok listing)
    (hstops : Stops readType listing.rows infos line f) (hcloses : listing.closeFailure = none) :
    FailsToResolve codes source before f
  /-- All rows were read, and closing the cursor fails. -/
  | closing {listing infos f} (hanswer : source (Event.calls before.events) .typeInfo = .ok listing)
    (hread : typesOfRows listing.rows = .ok infos) (hcloses : listing.closeFailure = some f) :
    FailsToResolve codes source before f
  /-- A line fails, and closing the cursor takes its place. -/
  | replaced {listing infos line earlier f} (hanswer : source (Event.calls before.events) .typeInfo = .ok listing)
    (hstops : Stops readType listing.rows infos line earlier) (hcloses : listing.closeFailure = some f) :
    FailsToResolve codes source before (f.during earlier)
  /-- All rows were read and the cursor was closed, and the first vendor type that cannot be mapped decides. -/
  | mapping {rows infos info f} (hanswer : source (Event.calls before.events) .typeInfo = .ok { rows })
    (hread : typesOfRows rows = .ok infos) (hfails : TypeMapping.FirstFails codes infos info f) :
    FailsToResolve codes source before f

/-- The survey when the listing of types was read and closed. -/
def typesRead (before : Survey Notes) : Survey Notes :=
  Survey.closed .typeInfo (Survey.opened .typeInfo before)

/-- The source lists rows that tell vendor types, and its cursor can be closed. -/
def ListsTypes (source : Source) (before : Survey Notes) (rows : List Value) (infos : List TypeInfo) : Prop :=
  source (Event.calls before.events) .typeInfo = .ok { rows := rows.map .ok } ∧
    List.Forall₂ (fun row info => TypeInfo.Told info row) rows infos

/-- A source that lists types lists them as rows that are read. -/
theorem ListsTypes.read {source : Source} {before : Survey Notes} {rows : List Value} {infos : List TypeInfo}
    (h : ListsTypes source before rows infos) : typesOfRows (rows.map .ok) = .ok infos :=
  typesOfRows_eq_ok_iff.mpr ⟨rows, rfl, h.2⟩

/-- A source lists types in one way only. -/
theorem ListsTypes.unique {source : Source} {before : Survey Notes} {rows others : List Value}
    {infos more : List TypeInfo} (h : ListsTypes source before rows infos)
    (hothers : ListsTypes source before others more) : infos = more := by
  have hrows : rows.map Except.ok = others.map Except.ok :=
    congrArg Listing.rows (Except.ok.inj (h.1.symm.trans hothers.1))
  have hread := h.read
  rw [hrows, hothers.read] at hread
  exact (Except.ok.inj hread).symm

/-- Types that a source lists are mapped when they were read. -/
theorem resolveTypes_of_lists {vendor : Vendor} (hdynamic : vendor.types = []) (codes : CodeTable) {source : Source}
    {before : Survey Notes} {rows : List Value} {infos : List TypeInfo} (h : ListsTypes source before rows infos) :
    resolveTypes vendor codes source before = (TypeMapping.ofInfos codes [] infos, typesRead before) := by
  have hconsumed : Survey.consume source .typeInfo (fun lines => Keeping.settle (typesOfRows lines)) before =
      (.ok infos, typesRead before) := by
    rw [Survey.consume_accepted h.1, Keeping.settle_apply, h.read]
    rfl
  rw [resolveTypes_eq_resolveBy hdynamic, resolveBy, Keeping.bind_of_ok hconsumed, ← settle_ofInfos,
    Keeping.settle_apply]

/-- Without rows that tell vendor types, or without a cursor that can be closed, resolving fails whatever would be
done to map them. -/
structure Unlisted (source : Source) (before : Survey Notes) (f : Failure) (after : Survey Notes) : Prop where
  run : ∀ mapper, resolveBy source mapper before = (.error f, after)
  unlisted : ∀ rows infos, ¬ListsTypes source before rows infos
  fails : ∀ codes, FailsToResolve codes source before f
  closed : ∀ listing, source (Event.calls before.events) .typeInfo = .ok listing → after = typesRead before
  refused : ∀ g, source (Event.calls before.events) .typeInfo = .error g → after = Survey.called .typeInfo before

/-- What is done to map the types that a source lists begins when all rows were read and the cursor was closed, or
it does not begin at all. -/
theorem resolveBy_ordered (source : Source) (before : Survey Notes) :
    (∃ f after, Unlisted source before f after) ∨ ∃ rows infos, ListsTypes source before rows infos ∧
      ∀ mapper, resolveBy source mapper before = mapBy mapper [] infos (typesRead before) := by
  cases hanswer : source (Event.calls before.events) .typeInfo with
  | error f =>
    refine .inl ⟨f, Survey.called .typeInfo before, fun mapper => ?_, ?_, fun _ => .refused hanswer, ?_, fun _ _ => rfl⟩
    · rw [resolveBy, Keeping.bind_of_error (Survey.consume_refused hanswer _)]
    · rintro rows infos ⟨hlisted, -⟩
      cases hanswer.symm.trans hlisted
    · intro listing hlisted
      cases hanswer.symm.trans hlisted
  | ok listing =>
    have hconsumed := Survey.consume_accepted hanswer fun rows => Keeping.settle (typesOfRows rows)
    change _ = (Survey.closing listing.closeFailure (typesOfRows listing.rows), typesRead before) at hconsumed
    -- A listing that comes to a failure, whichever it is, is no listing of types.
    have hunlisted {f : Failure} (hfails : ∀ codes, FailsToResolve codes source before f)
        (hcloses : Survey.closing listing.closeFailure (typesOfRows listing.rows) = .error f) :
        Unlisted source before f (typesRead before) := by
      rw [hcloses] at hconsumed
      refine ⟨fun mapper => ?_, ?_, hfails, fun _ _ => rfl, ?_⟩
      · rw [resolveBy, Keeping.bind_of_error hconsumed]
      · intro rows infos hlists
        obtain rfl := Except.ok.inj (hanswer.symm.trans hlists.1)
        rw [hlists.read] at hcloses
        cases hcloses
      · intro g hrefused
        cases hanswer.symm.trans hrefused
    cases hread : typesOfRows listing.rows with
    | error earlier =>
      obtain ⟨infos, line, hstops⟩ := stops_of_mapM ((typesOfRows_eq_mapM _).symm.trans hread)
      cases hcloses : listing.closeFailure with
      | none => exact .inl ⟨_, _, hunlisted (fun _ => .reading hanswer hstops hcloses) (by rw [hcloses, hread]; rfl)⟩
      | some f => exact .inl ⟨_, _, hunlisted (fun _ => .replaced hanswer hstops hcloses) (by rw [hcloses, hread]; rfl)⟩
    | ok infos =>
      cases hcloses : listing.closeFailure with
      | some f => exact .inl ⟨_, _, hunlisted (fun _ => .closing hanswer hread hcloses) (by rw [hcloses, hread]; rfl)⟩
      | none =>
        obtain ⟨lines, closeFailure⟩ := listing
        obtain rfl : closeFailure = none := hcloses
        obtain ⟨rows, rfl, htold⟩ := typesOfRows_eq_ok_iff.mp hread
        refine .inr ⟨rows, infos, ⟨hanswer, htold⟩, fun mapper => ?_⟩
        rw [hread] at hconsumed
        rw [resolveBy, Keeping.bind_of_ok hconsumed]

/-- What comes of resolving the types that a source lists. -/
structure ResolvesListed (vendor : Vendor) (codes : CodeTable) (source : Source) (before : Survey Notes)
    (outcome : Except Failure TypeMapping) (after : Survey Notes) : Prop where
  /-- A mapping is returned exactly if every row tells a vendor type that can be mapped. -/
  returns : (∃ mapping, outcome = .ok mapping) ↔ ∃ rows infos, ListsTypes source before rows infos ∧
    ∀ info ∈ infos, ∃ found, info.valueType codes = .ok found
  /-- It holds the types of these. -/
  maps : ∀ mapping, outcome = .ok mapping → ∃ rows infos, ListsTypes source before rows infos ∧
    TypeMapping.Maps codes infos mapping
  fails : ∀ f, outcome = .error f → FailsToResolve codes source before f
  /-- A source that lists types has its cursor opened and closed once, whatever comes of them, and nothing else is
  changed. -/
  closed : ∀ listing, source (Event.calls before.events) .typeInfo = .ok listing → after = typesRead before
  refused : ∀ f, source (Event.calls before.events) .typeInfo = .error f → after = Survey.called .typeInfo before
  /-- Mapping is a step of its own. -/
  stepped : (outcome, after) = resolveBy source (fun info => Keeping.settle (info.valueType codes)) before
  /-- Whatever is done instead of it is not done at all, or begins when all rows were read and the cursor was
  closed. -/
  ordered : (∃ f, ∀ mapper, resolveBy source mapper before = (.error f, after)) ∨
    ∃ rows infos, ListsTypes source before rows infos ∧
      ∀ mapper, resolveBy source mapper before = mapBy mapper [] infos (typesRead before)

/-- What comes of the types that a source lists, for a vendor that declares none. -/
theorem resolveTypes_listed {vendor : Vendor} (hdynamic : vendor.types = []) (codes : CodeTable) (source : Source)
    (before : Survey Notes) : ResolvesListed vendor codes source before
      (resolveTypes vendor codes source before).1 (resolveTypes vendor codes source before).2 := by
  have hstep : resolveTypes vendor codes source before = _ :=
    congrFun (resolveTypes_eq_resolveBy hdynamic codes source) before
  obtain ⟨f, after, hunlisted⟩ | ⟨rows, infos, hlists, hrun⟩ := resolveBy_ordered source before
  · rw [hstep, hunlisted.run]
    refine ⟨iff_of_false (by simp) ?_, by simp, ?_, hunlisted.closed, hunlisted.refused, (hunlisted.run _).symm,
      .inl ⟨f, hunlisted.run⟩⟩
    · rintro ⟨rows, infos, hlists, -⟩
      exact hunlisted.unlisted rows infos hlists
    · rintro g ⟨⟩
      exact hunlisted.fails codes
  · rw [resolveTypes_of_lists hdynamic codes hlists]
    refine ⟨?_, ?_, ?_, fun _ _ => rfl, ?_, ?_, .inr ⟨rows, infos, hlists, hrun⟩⟩
    · rw [TypeMapping.exists_ofInfos_iff]
      constructor
      · exact fun hall => ⟨rows, infos, hlists, hall⟩
      · rintro ⟨others, more, hothers, hall⟩
        exact hlists.unique hothers ▸ hall
    · intro mapping hmapping
      exact ⟨rows, infos, hlists, TypeMapping.maps_ofInfos hmapping⟩
    · intro f hfails
      obtain ⟨info, hfirst⟩ := (TypeMapping.ofInfos_eq_error_iff []).mp hfails
      exact .mapping hlists.1 hlists.read hfirst
    · intro g hrefused
      cases hrefused.symm.trans hlists.1
    · rw [hrun, ← settle_ofInfos, Keeping.settle_apply]

/-- A row of a vendor type that tells its name and its code. -/
def typeRow (name : String) (code : Int) : Value :=
  .record [("TYPE_NAME", .text name), ("DATA_TYPE", .int code)]

/-- A listing with repeated names: a row of a code that stands for no type takes no type away. -/
theorem resolveTypes_listed_repeated :
    let rows := [typeRow "GEOMETRY" 1111, typeRow "INT" 12, typeRow "TEXT" (-1), typeRow "INT" 4, typeRow "TEXT" 1111]
    let source : Source := fun _ _ => .ok { rows := rows.map .ok }
    let before : Survey Crawl.Notes := { notes := {} }
    let result := resolveTypes .sqlite .default source before
    (Vendor.sqlite.types = [] ∧ ResolvesListed .sqlite .default source before result.1 result.2) ∧
      result.1.toOption = some [("INT", .builtin "int"), ("TEXT", .builtin "str")] := by
  intro rows source before result
  exact ⟨⟨rfl, resolveTypes_listed rfl .default source before⟩, by decide +revert +kernel⟩

end Crawl

end SchemaAtlas
