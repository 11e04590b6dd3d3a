import SchemaAtlas.Crawl.Types
import SchemaAtlas.Proofs.Crawl.Members
import SchemaAtlas.Proofs.Failure.Keeping
import SchemaAtlas.Proofs.Types.Mapping

/-!
# Types that a vendor declares

A vendor declares its types as a set, and a set has no order: the mapping may be made by going through it in any way.
Each way overwrites a name with what comes later, so that a name can get the type of any of its vendor types, by the
way on which that one is the last. All ways make the same mapping exactly if the vendor types of one name agree where
their values have a type. Mappings are compared by their entries, of which each name has one, and not by the order in
which these stand.
-/

namespace SchemaAtlas

namespace TypeMapping

variable {codes : CodeTable} {infos order : List TypeInfo} {mapping other : TypeMapping} {name : String} {t : TypeName}

/-! ## Entries of a mapping -/

/-- Where each name has one entry, the entries are what the names have. -/
theorem mem_iff_lookup (hnodup : mapping.names.Nodup) : (name, t) ∈ mapping ↔ mapping.lookup name = some t := by
  induction mapping with
  | nil => simp
  | cons entry rest ih =>
    obtain ⟨first, own⟩ := entry
    obtain ⟨hfresh, hrest⟩ := List.nodup_cons.mp hnodup
    rw [List.mem_cons, ih hrest, List.lookup_cons]
    by_cases hname : name = first
    · subst hname
      have hnone : (name, t) ∉ rest := fun hmem => hfresh (List.mem_map.mpr ⟨(name, t), hmem, rfl⟩)
      rw [ih hrest] at hnone
      simp [hnone, eq_comm]
    · have hother : (name == first) = false := by simpa using hname
      simp [hname, hother]

/-- Mappings in which each name has one entry have the same entries if the names have the same types. -/
theorem perm_of_lookup (hnodup : mapping.names.Nodup) (hother : other.names.Nodup)
    (h : ∀ name, mapping.lookup name = other.lookup name) : mapping.Perm other := by
  refine (List.perm_ext_iff_of_nodup hnodup.of_map hother.of_map).mpr fun entry => ?_
  rw [mem_iff_lookup hnodup, mem_iff_lookup hother, h]

/-- Mappings with the same entries, one for each name, give the names the same types. -/
theorem lookup_of_perm (hnodup : mapping.names.Nodup) (h : mapping.Perm other) (name : String) :
    mapping.lookup name = other.lookup name := by
  have hother : other.names.Nodup := (h.map Prod.fst).nodup_iff.mp hnodup
  refine Option.ext fun t => ?_
  rw [← mem_iff_lookup hnodup, ← mem_iff_lookup hother, h.mem_iff]

/-! ## One way through the vendor types -/

/-- Among the vendor types of a name is one whose values have the type. -/
def Offers (codes : CodeTable) (infos : List TypeInfo) (name : String) (t : TypeName) : Prop :=
  ∃ info ∈ infos, info.name = name ∧ info.valueType codes = .ok (some t)

/-- The mapping is made by going through the vendor types in some order. -/
def MadeOf (codes : CodeTable) (infos : List TypeInfo) (mapping : TypeMapping) : Prop :=
  ∃ order : List TypeInfo, order.Perm infos ∧ ofInfos codes [] order = .ok mapping

/-- The vendor types of one name whose values have a type have the same. -/
def Agree (codes : CodeTable) (infos : List TypeInfo) : Prop :=
  ∀ name t u, Offers codes infos name t → Offers codes infos name u → t = u

/-- The order of vendor types does not matter to what they offer. -/
theorem offers_of_perm (h : order.Perm infos) : Offers codes order name t ↔ Offers codes infos name t := by
  simp only [Offers, h.mem_iff]

/-- The last vendor type of a name offers its type. -/
theorem LastMapped.offers (h : LastMapped codes infos name t) : Offers codes infos name t := by
  obtain ⟨front, info, back, rfl, hname, hvalue, -⟩ := h
  exact ⟨info, by simp, hname, hvalue⟩

/-- Of the vendor types that offer a name a type, one is the last. -/
theorem exists_lastMapped (hall : ∀ info ∈ infos, ∃ found, info.valueType codes = .ok found)
    (h : Offers codes infos name t) : ∃ last, LastMapped codes infos name last := by
  induction infos generalizing t with
  | nil =>
    obtain ⟨info, hmem, -⟩ := h
    cases hmem
  | cons info infos ih =>
    obtain ⟨-, hrest⟩ := List.forall_mem_cons.mp hall
    by_cases hlater : ∃ u, Offers codes infos name u
    · obtain ⟨last, hlast⟩ := ih hrest hlater.choose_spec
      exact ⟨last, lastMapped_cons_iff.mpr (.inl hlast)⟩
    · obtain ⟨own, hmem, hname, hvalue⟩ := h
      obtain rfl | hmem := List.mem_cons.mp hmem
      · refine ⟨t, lastMapped_cons_iff.mpr (.inr ⟨hname, hvalue, fun later hmem hsame => ?_⟩)⟩
        -- A later vendor type of the name that had a type would offer it.
        obtain ⟨found, hfound⟩ := hrest later hmem
        cases found with
        | none => exact hfound
        | some u => exact absurd ⟨u, later, hmem, hsame, hfound⟩ hlater
      · exact absurd ⟨t, own, hmem, hname, hvalue⟩ hlater

/-- Every vendor type that offers a name a type is the last one on some way. -/
theorem exists_order_lastMapped (h : Offers codes infos name t) :
    ∃ order : List TypeInfo, order.Perm infos ∧ LastMapped codes order name t := by
  obtain ⟨info, hmem, hname, hvalue⟩ := h
  obtain ⟨front, back, rfl⟩ := List.append_of_mem hmem
  refine ⟨front ++ back ++ [info], ?_, front ++ back, info, [], rfl, hname, hvalue, nofun⟩
  rw [List.append_assoc]
  exact List.Perm.append_left front (List.perm_append_singleton info back)

/-- If a mapping can be made in one order it can be made in all. -/
theorem exists_ofInfos_of_perm (hmade : ∃ mapping, ofInfos codes [] infos = .ok mapping) (h : order.Perm infos) :
    ∃ mapping, ofInfos codes [] order = .ok mapping := by
  rw [exists_ofInfos_iff] at hmade ⊢
  exact fun info hmem => hmade info (h.mem_iff.mp hmem)

/-- In a mapping that is made, each name has one entry. -/
theorem MadeOf.nodup (h : MadeOf codes infos mapping) : mapping.names.Nodup := by
  obtain ⟨order, -, hmade⟩ := h
  rw [(maps_ofInfos hmade).names]
  exact Crawl.nodup_eraseDups _

/-- A name has one of the types that its vendor types offer, if they offer any. -/
theorem MadeOf.lookup (h : MadeOf codes infos mapping) (name : String) :
    (∀ t, mapping.lookup name = some t → Offers codes infos name t) ∧
      (mapping.lookup name = none → ∀ t, ¬Offers codes infos name t) := by
  obtain ⟨order, hperm, hmade⟩ := h
  have hmaps := maps_ofInfos hmade
  have hall := (exists_ofInfos_iff []).mp ⟨mapping, hmade⟩
  constructor
  · intro t ht
    exact (offers_of_perm hperm).mp ((hmaps.types name t).mp ht).offers
  · intro hnone t hoffers
    obtain ⟨last, hlast⟩ := exists_lastMapped hall ((offers_of_perm hperm).mpr hoffers)
    cases hnone.symm.trans ((hmaps.types name last).mpr hlast)

/-- Where the vendor types of a name agree, it has the type on which they do. -/
theorem MadeOf.lookup_of_agree (h : MadeOf codes infos mapping) (hagree : Agree codes infos) :
    mapping.lookup name = some t ↔ Offers codes infos name t := by
  obtain ⟨hsome, hnone⟩ := h.lookup name
  refine ⟨hsome t, fun hoffers => ?_⟩
  cases hfound : mapping.lookup name with
  | none => exact absurd hoffers (hnone hfound t)
  | some u => rw [hagree name t u hoffers (hsome u hfound)]

/-- A name can get every type that one of its vendor types offers. -/
theorem exists_madeOf_lookup (hmade : ∃ mapping, ofInfos codes [] infos = .ok mapping)
    (h : Offers codes infos name t) : ∃ mapping, MadeOf codes infos mapping ∧ mapping.lookup name = some t := by
  obtain ⟨order, hperm, hlast⟩ := exists_order_lastMapped h
  obtain ⟨mapping, hmapping⟩ := exists_ofInfos_of_perm hmade hperm
  exact ⟨mapping, ⟨order, hperm, hmapping⟩, ((maps_ofInfos hmapping).types name t).mpr hlast⟩

end TypeMapping

namespace Crawl

open TypeMapping

/-- What the order of vendor types comes to in the mappings that are made of them. -/
structure Unordered (Notes : Type) (codes : CodeTable) (infos : List TypeInfo) : Prop where
  made : ∀ order : List TypeInfo, order.Perm infos → ∃ mapping, ofInfos codes [] order = .ok mapping
  /-- A vendor that declares the types resolves them to such a mapping, without asking its source. -/
  resolved : ∀ (vendor : Vendor) (source : Source) (before : Survey Notes), vendor.types.Perm infos → infos ≠ [] →
    ∃ mapping, MadeOf codes infos mapping ∧ resolveTypes vendor codes source before = (.ok mapping, before)
  /-- The types that a name can get are those that its vendor types offer. -/
  attained : ∀ name t, (∃ mapping, MadeOf codes infos mapping ∧ mapping.lookup name = some t) ↔
    Offers codes infos name t
  /-- All orders make the same mapping exactly if the vendor types of each name agree. -/
  alike : (∀ mapping other, MadeOf codes infos mapping → MadeOf codes infos other → mapping.Perm other) ↔
    Agree codes infos
  /-- Then the type of a name is the one that they have in common. -/
  common : Agree codes infos → ∀ mapping, MadeOf codes infos mapping → ∀ name t,
    mapping.lookup name = some t ↔ Offers codes infos name t

/-- All orders of vendor types that can be mapped make the same mapping exactly if those of each name agree. -/
theorem declared_unordered (Notes : Type) {codes : CodeTable} {infos : List TypeInfo}
    (hmade : ∃ mapping, ofInfos codes [] infos = .ok mapping) : Unordered Notes codes infos where
  made _ := exists_ofInfos_of_perm hmade
  resolved vendor source before hperm hdeclares := by
    obtain ⟨mapping, hmapping⟩ := exists_ofInfos_of_perm hmade hperm
    refine ⟨mapping, ⟨vendor.types, hperm, hmapping⟩, ?_⟩
    have hstatic : vendor.types.isEmpty = false := by
      rw [List.isEmpty_eq_false_iff]
      exact fun hempty => hdeclares (List.nil_perm.mp (hempty ▸ hperm))
    rw [resolveTypes, hstatic, hmapping]
    rfl
  attained name t := by
    refine ⟨?_, exists_madeOf_lookup hmade⟩
    rintro ⟨mapping, hmapping, hlookup⟩
    exact (hmapping.lookup name).1 t hlookup
  alike := by
    constructor
    · intro hsame name t u hfirst hsecond
      obtain ⟨mapping, hmapping, ht⟩ := exists_madeOf_lookup hmade hfirst
      obtain ⟨other, hother, hu⟩ := exists_madeOf_lookup hmade hsecond
      rw [lookup_of_perm hmapping.nodup (hsame mapping other hmapping hother), hu] at ht
      exact (Option.some.inj ht).symm
    · intro hagree mapping other hmapping hother
      refine perm_of_lookup hmapping.nodup hother.nodup fun name => Option.ext fun t => ?_
      rw [hmapping.lookup_of_agree hagree, hother.lookup_of_agree hagree]
  common hagree mapping hmapping name t := hmapping.lookup_of_agree hagree

/-- Two vendor types of one name with different codes, and one without a type of values between them. -/
def disputed : List TypeInfo :=
  [{ name := "NUMBER", code := 4 }, { name := "NUMBER" }, { name := "NUMBER", code := 2 }]

/-- The order of these does matter: going through them backward makes another mapping. -/
theorem declared_unordered_disputed :
    ((∃ mapping, ofInfos .default [] disputed = .ok mapping) ∧ Unordered Unit .default disputed) ∧
      ofInfos .default [] disputed = .ok [("NUMBER", ⟨"decimal", "Decimal"⟩)] ∧
      ofInfos .default [] disputed.reverse = .ok [("NUMBER", .builtin "int")] ∧ ¬Agree .default disputed := by
  have hunordered : Unordered Unit .default disputed := declared_unordered Unit ⟨_, rfl⟩
  refine ⟨⟨⟨_, rfl⟩, hunordered⟩, rfl, rfl, fun hagree => ?_⟩
  have hperm := hunordered.alike.mpr hagree [("NUMBER", ⟨"decimal", "Decimal"⟩)] [("NUMBER", .builtin "int")]
    ⟨disputed, .refl _, rfl⟩ ⟨disputed.reverse, List.reverse_perm _, rfl⟩
  have hentries := List.singleton_perm_singleton.mp hperm
  simp [TypeName.builtin] at hentries

end Crawl

end SchemaAtlas
