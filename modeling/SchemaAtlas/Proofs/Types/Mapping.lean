import SchemaAtlas.Types.Info

/-!
# What a type mapping holds

The mapping of vendor types is made one after the other, each overwriting what an earlier one of its name set. It is
told here without that order: it has the names of the vendor types whose values have a type, and the type of a name
is that of the last of them. Vendor types without a type of values neither add a name nor take one away. The first
one that fails to be mapped decides how making the mapping fails.
-/

namespace SchemaAtlas

/-- Whether a vendor type has a type of values. -/
def TypeInfo.isMapped (codes : CodeTable) (info : TypeInfo) : Bool :=
  match info.valueType codes with
  | .ok (some _) => true
  | _ => false

namespace TypeMapping

variable {codes : CodeTable} {infos : List TypeInfo} {info : TypeInfo} {mapping : TypeMapping} {name : String}
  {t : TypeName} {found : Option TypeName} {f : Failure}

/-- Items are removed as well if one of them stands behind the others. -/
theorem removeAll_concat (items front : List String) (item : String) :
    items.removeAll (front ++ [item]) = items.removeAll (item :: front) := by
  refine List.filter_congr fun other _ => ?_
  simp [or_comm]

/-- An item that is not removed stays where it is first, and is removed from what is behind it. -/
theorem eraseDups_removeAll_cons {item : String} {front : List String} (h : item ∉ front) (items : List String) :
    ((item :: items).removeAll front).eraseDups = item :: (items.removeAll (item :: front)).eraseDups := by
  have hkept : (items.removeAll front).filter (fun other => !other == item) = items.removeAll (item :: front) := by
    rw [List.removeAll_cons]
    simp only [List.removeAll, List.filter_filter, Bool.and_comm]
  rw [List.cons_removeAll, if_pos (by simpa using h), List.eraseDups_cons, hkept]

/-- The names that have a type. -/
def names (mapping : TypeMapping) : List String :=
  mapping.map Prod.fst

/-- A name that is set is added behind the others, unless it is among them. -/
theorem names_put (mapping : TypeMapping) (name : String) (t : TypeName) :
    (mapping.put name t).names = if name ∈ mapping.names then mapping.names else mapping.names ++ [name] := by
  induction mapping with
  | nil => rfl
  | cons entry rest ih =>
    obtain ⟨n, old⟩ := entry
    by_cases hname : n = name
    · simp [put, names, hname]
    · have hkept : put ((n, old) :: rest) name t = (n, old) :: put rest name t := by simp [put, hname]
      have hother : ¬name = n := fun h => hname h.symm
      rw [hkept]
      change n :: (put rest name t).names = _
      rw [ih]
      by_cases hmem : name ∈ names rest
      · simp_all [names]
      · simp_all [names]

/-! ## One vendor type -/

/-- What a mapping becomes by a vendor type whose values have a type or none. -/
def added (mapping : TypeMapping) (name : String) : Option TypeName → TypeMapping
  | none => mapping
  | some t => mapping.put name t

/-- A vendor type that is mapped is added, and the others are mapped behind it. -/
theorem ofInfos_cons (mapping : TypeMapping) (h : info.valueType codes = .ok found) :
    ofInfos codes mapping (info :: infos) = ofInfos codes (mapping.added info.name found) infos := by
  rw [ofInfos, h]
  cases found <;> rfl

/-- A vendor type that fails to be mapped is the end. -/
theorem ofInfos_cons_of_error (mapping : TypeMapping) (infos : List TypeInfo) (h : info.valueType codes = .error f) :
    ofInfos codes mapping (info :: infos) = .error f := by
  rw [ofInfos, h]

/-- Vendor types that are mapped are mapped one after the other. -/
theorem ofInfos_cons_eq_ok {made : TypeMapping} (h : ofInfos codes mapping (info :: infos) = .ok made) :
    ∃ found, info.valueType codes = .ok found ∧ ofInfos codes (mapping.added info.name found) infos = .ok made := by
  cases hfound : info.valueType codes with
  | error f =>
    rw [ofInfos_cons_of_error mapping infos hfound] at h
    cases h
  | ok found => exact ⟨found, rfl, (ofInfos_cons mapping hfound).symm.trans h⟩

/-! ## Failures -/

/-- A vendor type fails to be mapped, and those before it do not. -/
def FirstFails (codes : CodeTable) (infos : List TypeInfo) (info : TypeInfo) (f : Failure) : Prop :=
  ∃ front back, infos = front ++ info :: back ∧ (∀ earlier ∈ front, ∃ found, earlier.valueType codes = .ok found) ∧
    info.valueType codes = .error f

/-- Vendor types are mapped exactly if none of them fails to be. -/
theorem exists_ofInfos_iff (mapping : TypeMapping) :
    (∃ made, ofInfos codes mapping infos = .ok made) ↔ ∀ info ∈ infos, ∃ found, info.valueType codes = .ok found := by
  induction infos generalizing mapping with
  | nil => simp [ofInfos]
  | cons info infos ih =>
    rw [List.forall_mem_cons]
    constructor
    · rintro ⟨made, hmade⟩
      obtain ⟨found, hfound, hrest⟩ := ofInfos_cons_eq_ok hmade
      exact ⟨⟨found, hfound⟩, (ih _).mp ⟨made, hrest⟩⟩
    · rintro ⟨⟨found, hfound⟩, hrest⟩
      rw [ofInfos_cons mapping hfound]
      exact (ih _).mpr hrest

/-- Vendor types are not mapped exactly if one of them fails to be, and then they fail as the first such one. -/
theorem ofInfos_eq_error_iff (mapping : TypeMapping) :
    ofInfos codes mapping infos = .error f ↔ ∃ info, FirstFails codes infos info f := by
  constructor
  · intro h
    induction infos generalizing mapping with
    | nil => cases h
    | cons info infos ih =>
      cases hfound : info.valueType codes with
      | error g =>
        rw [ofInfos_cons_of_error mapping infos hfound] at h
        obtain rfl : g = f := Except.error.inj h
        exact ⟨info, [], infos, rfl, nofun, hfound⟩
      | ok found =>
        rw [ofInfos_cons mapping hfound] at h
        obtain ⟨failing, front, back, rfl, hfront, hfails⟩ := ih _ h
        exact ⟨failing, info :: front, back, rfl, List.forall_mem_cons.mpr ⟨⟨found, hfound⟩, hfront⟩, hfails⟩
  · rintro ⟨info, front, back, rfl, hfront, hfails⟩
    induction front generalizing mapping with
    | nil => exact ofInfos_cons_of_error mapping back hfails
    | cons first front ih =>
      obtain ⟨⟨found, hfound⟩, hothers⟩ := List.forall_mem_cons.mp hfront
      rw [List.cons_append, ofInfos_cons mapping hfound]
      exact ih _ hothers

/-! ## Names and types -/

/-- The names of the vendor types whose values have a type. -/
def mappedNames (codes : CodeTable) (infos : List TypeInfo) : List String :=
  (infos.filter (TypeInfo.isMapped codes)).map TypeInfo.name

/-- The type is that of the last vendor type of a name whose values have one. -/
def LastMapped (codes : CodeTable) (infos : List TypeInfo) (name : String) (t : TypeName) : Prop :=
  ∃ front info back, infos = front ++ info :: back ∧ info.name = name ∧ info.valueType codes = .ok (some t) ∧
    ∀ later ∈ back, later.name = name → later.valueType codes = .ok none

/-- A mapping holds the types of vendor types: its names are those of the vendor types whose values have a type, in
the order in which they first appear, and a name has the type of the last of them. -/
structure Maps (codes : CodeTable) (infos : List TypeInfo) (mapping : TypeMapping) : Prop where
  names : mapping.names = (mappedNames codes infos).eraseDups
  types : ∀ name t, mapping.lookup name = some t ↔ LastMapped codes infos name t

/-- Without vendor types, no name has a type. -/
theorem not_lastMapped_nil : ¬LastMapped codes [] name t := by
  rintro ⟨front, info, back, hinfos, -⟩
  cases front <;> cases hinfos

/-- The first vendor type decides the type of its name if none behind it does. -/
theorem lastMapped_cons_iff : LastMapped codes (info :: infos) name t ↔ LastMapped codes infos name t ∨
    (info.name = name ∧ info.valueType codes = .ok (some t) ∧
      ∀ later ∈ infos, later.name = name → later.valueType codes = .ok none) := by
  constructor
  · rintro ⟨front, last, back, hinfos, hlast⟩
    cases front with
    | nil =>
      obtain ⟨rfl, rfl⟩ := List.cons.inj hinfos
      exact .inr hlast
    | cons first front => exact .inl ⟨front, last, back, (List.cons.inj hinfos).2, hlast⟩
  · rintro (⟨front, last, back, rfl, hlast⟩ | hfirst)
    · exact ⟨info :: front, last, back, rfl, hlast⟩
    · exact ⟨[], info, infos, rfl, hfirst⟩

/-- A name has the type of the last vendor type that decides it, or the one it had if none does. -/
theorem lookup_ofInfos {made : TypeMapping} (h : ofInfos codes mapping infos = .ok made) :
    made.lookup name = some t ↔ LastMapped codes infos name t ∨
      (mapping.lookup name = some t ∧ ∀ info ∈ infos, info.name = name → info.valueType codes = .ok none) := by
  induction infos generalizing mapping with
  | nil =>
    obtain rfl : mapping = made := Except.ok.inj h
    simp [not_lastMapped_nil]
  | cons info infos ih =>
    obtain ⟨found, hfound, hrest⟩ := ofInfos_cons_eq_ok h
    rw [lastMapped_cons_iff, ih hrest]
    cases found with
    | none => simp [added, hfound]
    | some own =>
      by_cases hname : info.name = name
      · subst hname
        simp [added, lookup_put_self, hfound]
      · have hother : name ≠ info.name := fun h => hname h.symm
        simp [added, lookup_put_other _ _ _ _ hother, hname]

/-- The names of the vendor types that are mapped are added behind those that have a type. -/
theorem names_ofInfos {made : TypeMapping} (h : ofInfos codes mapping infos = .ok made) :
    made.names = mapping.names ++ ((mappedNames codes infos).removeAll mapping.names).eraseDups := by
  induction infos generalizing mapping with
  | nil =>
    obtain rfl : mapping = made := Except.ok.inj h
    simp [mappedNames, List.removeAll]
  | cons info infos ih =>
    obtain ⟨found, hfound, hrest⟩ := ofInfos_cons_eq_ok h
    rw [ih hrest]
    cases found with
    | none => simp [added, mappedNames, TypeInfo.isMapped, hfound]
    | some own =>
      have hmore : mappedNames codes (info :: infos) = info.name :: mappedNames codes infos := by
        simp [mappedNames, TypeInfo.isMapped, hfound]
      rw [hmore, added, names_put]
      by_cases hmem : info.name ∈ mapping.names
      · simp [hmem, List.removeAll]
      · rw [if_neg hmem, removeAll_concat, eraseDups_removeAll_cons hmem, List.append_assoc, List.singleton_append]

/-- The mapping of vendor types holds their types. -/
theorem maps_ofInfos (h : ofInfos codes [] infos = .ok mapping) : Maps codes infos mapping where
  names := by
    rw [names_ofInfos h]
    change ((mappedNames codes infos).removeAll []).eraseDups = _
    rw [List.removeAll_nil]
  types name t := by
    rw [lookup_ofInfos h]
    simp

end TypeMapping

end SchemaAtlas
