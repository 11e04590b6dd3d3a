import SchemaAtlas.Proofs.Crawl.Mirror
import SchemaAtlas.Proofs.Crawl.TypeListing
import SchemaAtlas.Types.Column

/-!
# Type classes that cannot be used

The class of a vendor type may be of no use: no instance of it can be made without arguments, or an instance does not
tell the type of its values. Where it fails with a fault of the wrong type or as unsupported, the numeric code decides
instead. Any other failure is not told apart from a failure of the listing: it leaves the resolving of types as it
is, and with it the whole crawl is over before a schema is asked for, whatever else the listing has.
-/

namespace SchemaAtlas

/-! ## One vendor type -/

/-- The class of a vendor type fails when it is asked for the type of its values. -/
def TypeInfo.Unusable (info : TypeInfo) (f : Failure) : Prop :=
  ∃ asked, info.typeClass = some asked ∧ asked.probe = .error f

/-- A fault that tells no more than that a class is of no use. -/
inductive Failure.IsIndecisive : Failure → Prop where
  | wrongType (arguments : List Value) : IsIndecisive (.fault .wrongType arguments)
  | unsupported (arguments : List Value) : IsIndecisive (.fault .unsupported arguments)

/-- These faults are the ones that the numeric code is asked for. -/
theorem Failure.isIndecisive_iff {f : Failure} : f.isIndecisive = true ↔ f.IsIndecisive := by
  constructor
  · intro h
    unfold isIndecisive at h
    split at h
    · exact .wrongType _
    · exact .unsupported _
    · cases h
  · rintro (_ | _) <;> rfl

namespace TypeInfo

variable {codes : CodeTable} {info : TypeInfo} {f : Failure}

/-- The numeric code decides for a class of no use. -/
theorem valueType_of_isIndecisive (h : info.Unusable f) (hf : f.IsIndecisive) :
    info.valueType codes = .ok (codes.lookup info.code) := by
  obtain ⟨asked, hclass, hprobe⟩ := h
  simp [valueType, hclass, hprobe, Failure.isIndecisive_iff.mpr hf]

/-- A vendor type cannot be mapped exactly if its class fails in any other way, and then with that failure. -/
theorem valueType_eq_error_iff : info.valueType codes = .error f ↔ info.Unusable f ∧ ¬f.IsIndecisive := by
  rw [← Failure.isIndecisive_iff]
  constructor
  · intro h
    cases hclass : info.typeClass with
    | none => simp [valueType, hclass] at h
    | some asked =>
      cases hprobe : asked.probe with
      | ok found => simp [valueType, hclass, hprobe] at h
      | error g =>
        by_cases hg : g.isIndecisive = true
        · simp [valueType, hclass, hprobe, hg] at h
        · obtain rfl : g = f := by simpa [valueType, hclass, hprobe, hg] using h
          exact ⟨⟨asked, hclass, hprobe⟩, hg⟩
  · rintro ⟨⟨asked, hclass, hprobe⟩, hf⟩
    simp [valueType, hclass, hprobe, hf]

/-- A vendor type can be mapped exactly if its class, should it fail, is only of no use. -/
theorem exists_valueType_iff :
    (∃ found, info.valueType codes = .ok found) ↔ ∀ f, info.Unusable f → f.IsIndecisive := by
  constructor
  · rintro ⟨found, hfound⟩ f hf
    by_contra hother
    cases hfound.symm.trans (valueType_eq_error_iff.mpr ⟨hf, hother⟩)
  · intro h
    cases hvalue : info.valueType codes with
    | ok found => exact ⟨found, rfl⟩
    | error f =>
      obtain ⟨hunusable, hother⟩ := valueType_eq_error_iff.mp hvalue
      exact absurd (h f hunusable) hother

/-- The column types that are known by name tell the type of their values, or are only of no use. So a vendor type that
refers to one of them can be mapped, whatever its numeric code is. -/
theorem exists_valueType_of_known {key : String} {t : SqlType} (hknown : ColumnTypes.find? key = some t)
    (hclass : info.typeClass = some (.sql t)) : ∃ found, info.valueType codes = .ok found := by
  have hall : ColumnTypes.all.all (fun entry => match entry.2.probe with
      | .ok found => found.isSome
      | .error f => f.isIndecisive) = true := by decide
  refine exists_valueType_iff.mpr fun f hunusable => ?_
  obtain ⟨asked, hasked, hprobe⟩ := hunusable
  obtain rfl : asked = .sql t := Option.some.inj (hasked.symm.trans hclass)
  obtain ⟨front, back, hsplit, -⟩ := List.lookup_eq_some_iff.mp hknown
  have hentry := List.all_eq_true.mp hall (key, t) (by simp [hsplit])
  change t.probe = .error f at hprobe
  rw [hprobe] at hentry
  exact Failure.isIndecisive_iff.mp hentry

end TypeInfo

namespace Crawl

/-! ## The crawl -/

variable {plan : Plan} {before : Survey Notes} {rows : List Value} {infos : List TypeInfo}

/-- What is told of types that could not be resolved: failures of this library stay what they are. -/
def unresolved (name : Option String) (f : Failure) : Failure :=
  if f.isOwn then f
  else .becauseOf .discovery s!"Unable to resolve type mapping for {displayName name}: {f.message}" f

/-- A crawl whose types cannot be resolved is over. -/
theorem run_of_unresolved {after : Survey Notes} {f : Failure} (dbms : NodeId)
    (h : resolveTypes plan.vendor plan.codes plan.source before = (.error f, after)) :
    run plan dbms before = (.error (unresolved (after.atlas.nameOf dbms) f), after) := by
  have htold : explainedBy dbms "resolve type mapping for" f after =
      (.ok (unresolved (after.atlas.nameOf dbms) f), after) := by
    cases hown : f.isOwn with
    | true => simp [explainedBy, unresolved, hown]
    | false =>
      simp only [explainedBy, unresolved, hown, Bool.false_eq_true, if_false]
      rfl
  have hexplained : explained (explainedBy dbms "resolve type mapping for")
      (resolveTypes plan.vendor plan.codes plan.source) before =
        (.error (unresolved (after.atlas.nameOf dbms) f), after) := by
    rw [explained, Keeping.bind_apply, Keeping.attempt_apply, h]
    exact Keeping.bind_of_ok htold _
  have hread : readTypes plan dbms before = (.error (unresolved (after.atlas.nameOf dbms) f), after) := by
    rw [readTypes, Keeping.bind_of_error hexplained]
  rw [run, Keeping.bind_of_error hread]

/-- A vendor type is the first whose class fails in a way that is not taken for being of no use. -/
def FirstEscapes (infos : List TypeInfo) (info : TypeInfo) (f : Failure) : Prop :=
  ∃ front back, infos = front ++ info :: back ∧ (∀ earlier ∈ front, ∀ g, earlier.Unusable g → g.IsIndecisive) ∧
    info.Unusable f ∧ ¬f.IsIndecisive

/-- What becomes of classes of no use in the types that a source lists. -/
structure FallsBack (plan : Plan) (before : Survey Notes) (infos : List TypeInfo) : Prop where
  /-- The numeric code decides for a class that fails by a fault of the wrong type or as unsupported. -/
  decided : ∀ (info : TypeInfo) (f : Failure), info.Unusable f → f.IsIndecisive →
    info.valueType plan.codes = .ok (plan.codes.lookup info.code)
  /-- The types are resolved, and the crawl goes on, exactly if every class that fails does so. -/
  resolved : (∃ mapping, (resolveTypes plan.vendor plan.codes plan.source before).1 = .ok mapping) ↔
    ∀ info ∈ infos, ∀ f, info.Unusable f → f.IsIndecisive
  maps : ∀ mapping, (resolveTypes plan.vendor plan.codes plan.source before).1 = .ok mapping →
    TypeMapping.Maps plan.codes infos mapping
  read : ∀ dbms, (readTypes plan dbms before).1 = .ok () ↔ ∀ info ∈ infos, ∀ f, info.Unusable f → f.IsIndecisive
  /-- Else the first class that does not do so decides. Its failure is what resolving fails with, and the crawl fails
  for it; the source has listed its types and nothing else, and the atlas is as it was. -/
  aborts : (∃ info ∈ infos, ∃ f, info.Unusable f ∧ ¬f.IsIndecisive) → ∃ info f, FirstEscapes infos info f ∧
    resolveTypes plan.vendor plan.codes plan.source before = (.error f, typesRead before) ∧
      ∀ dbms, run plan dbms before = (.error (unresolved (before.atlas.nameOf dbms) f), typesRead before)

/-- A class of no use falls back on the numeric code, unless it fails in another way; then the crawl fails. -/
theorem resolveTypes_fallsBack (hdynamic : plan.vendor.types = []) (hlists : ListsTypes plan.source before rows infos) :
    FallsBack plan before infos := by
  have hresolve := resolveTypes_of_lists hdynamic plan.codes hlists
  have hresolved : (∃ mapping, (resolveTypes plan.vendor plan.codes plan.source before).1 = .ok mapping) ↔
      ∀ info ∈ infos, ∀ f, info.Unusable f → f.IsIndecisive := by
    rw [hresolve, TypeMapping.exists_ofInfos_iff]
    exact forall₂_congr fun info _ => TypeInfo.exists_valueType_iff
  refine ⟨fun _ _ => TypeInfo.valueType_of_isIndecisive, hresolved, ?_, ?_, ?_⟩
  · intro mapping hmapping
    rw [hresolve] at hmapping
    exact TypeMapping.maps_ofInfos hmapping
  · intro dbms
    rw [← hresolved]
    constructor
    · exact resolved_of_readTypes
    · rintro ⟨mapping, hmapping⟩
      obtain ⟨_, after, hread, -⟩ := readTypes_succeeds dbms hmapping
      rw [hread]
  · rintro ⟨escaping, hmem, g, hunusable, hother⟩
    cases hmade : TypeMapping.ofInfos plan.codes [] infos with
    | ok mapping =>
      have hall := hresolved.mp ⟨mapping, by rw [hresolve, hmade]⟩
      exact absurd (hall escaping hmem g hunusable) hother
    | error f =>
      obtain ⟨info, front, back, rfl, hfront, hfails⟩ := (TypeMapping.ofInfos_eq_error_iff []).mp hmade
      have hfirst : FirstEscapes (front ++ info :: back) info f :=
        ⟨front, back, rfl, fun earlier hearlier => TypeInfo.exists_valueType_iff.mp (hfront earlier hearlier),
          TypeInfo.valueType_eq_error_iff.mp hfails⟩
      rw [hmade] at hresolve
      exact ⟨info, f, hfirst, hresolve, fun dbms => run_of_unresolved dbms hresolve⟩

/-! ## Listings of classes -/

/-- A row of a vendor type that tells its class. -/
def classRow (name : String) (code : Int) (t : SqlType) : Value :=
  .record [("TYPE_NAME", .text name), ("DATA_TYPE", .int code), ("SQL_TYPE", .sqlType t)]

/-- A class that fails when it is asked for the type of its values. -/
def failingClass (f : Failure) : SqlType :=
  .mk ⟨"types", "VAGUE"⟩ "VAGUE" [] (.error f)

/-- A crawl of a source that lists such a class, and one schema. -/
def failingPlan (f : Failure) : Plan where
  vendor := .sqlite
  source
    | _, .typeInfo => .ok { rows := [.ok (classRow "VAGUE" 12 (failingClass f)), .ok (typeRow "INT" 4)] }
    | _, .schemas => .ok { rows := [.ok (.record [("TABLE_SCHEM", .text "main")])] }
    | _, _ => .ok { rows := [] }

/-- A class that wants arguments falls back on its code. -/
theorem resolveTypes_fallsBack_arguments :
    let f := Failure.faultText .wrongType "arguments are missing"
    let before : Survey Notes := { notes := {} }
    let infos : List TypeInfo := [{ name := "VAGUE", code := 12, typeClass := some (.sql (failingClass f)) },
      { name := "INT", code := 4 }]
    ((failingPlan f).vendor.types = [] ∧ ListsTypes (failingPlan f).source before
      [classRow "VAGUE" 12 (failingClass f), typeRow "INT" 4] infos ∧ FallsBack (failingPlan f) before infos) ∧
    (resolveTypes (failingPlan f).vendor .default (failingPlan f).source before).1.toOption =
      some [("VAGUE", .builtin "str"), ("INT", .builtin "int")] := by
  intro f before infos
  have hlists : ListsTypes (failingPlan f).source before [classRow "VAGUE" 12 (failingClass f), typeRow "INT" 4]
      infos :=
    ⟨rfl, .cons (typeOfRow_eq_ok_iff.mp rfl) (.cons (typeOfRow_eq_ok_iff.mp rfl) .nil)⟩
  exact ⟨⟨rfl, hlists, resolveTypes_fallsBack rfl hlists⟩, rfl⟩

/-- A class that fails in another way does not fall back on its code: the types are not resolved, and the crawl of
what could be read with a class that wants arguments is over once the types were listed. -/
theorem run_aborts_unusable :
    let before : Survey Notes := { atlas := (Atlas.create {} { content := .dbms none }).1, notes := {} }
    let crawl (f : Failure) := run (failingPlan f) 0 before
    (crawl (Failure.faultText .wrongType "arguments are missing")).1.isOk = true ∧
      ∀ f ∈ [Failure.database "ArgumentError" "a length is required" [] [], Failure.faultText .wrongValue "bad length",
          Failure.faultText .noAttribute "'VAGUE' object has no attribute 'length'"],
        (resolveTypes (failingPlan f).vendor .default (failingPlan f).source before).1 = .error f ∧
          (crawl f).1.isOk = false ∧ Event.calls (crawl f).2.events = [.typeInfo] := by
  intro before crawl
  refine ⟨by decide +revert +kernel, fun f hf => ?_⟩
  simp only [List.mem_cons, List.not_mem_nil, or_false] at hf
  obtain rfl | rfl | rfl := hf
  · exact ⟨rfl, rfl, rfl⟩
  · exact ⟨rfl, rfl, rfl⟩
  · exact ⟨rfl, rfl, rfl⟩

end Crawl

end SchemaAtlas
