import SchemaAtlas.Proofs.Crawl.Resolving
import SchemaAtlas.Proofs.Crawl.Unusable

/-!
# Reflected columns and the type listing

A live connection names types twice: its type listing names the classes of its type table, and its columns name the
classes of their types. Both name a class alike, and the listing keeps the first class of each name. So a name is
mapped to the type of the first class that has it, a column whose class is in the table has a name that the listing
knows, and its type is that of its own class if all classes of its name are mapped alike.
-/

namespace SchemaAtlas

/-! ## Type tables -/

namespace Reflection

/-- The vendor type that an entry of a type table stands for, if it is a class. -/
def classInfo? : Value → Option TypeInfo
  | .sqlType t => some { name := t.reportedName, code := t.reportedCode, typeClass := some (.sql t) }
  | .type t => some { name := Text.upper t.name, code := otherTypeCode, typeClass := some (.plain t) }
  | _ => none

/-- The vendor types of the classes of a type table, in its order. -/
def classes (entries : List Value) : List TypeInfo :=
  entries.filterMap classInfo?

/-- The first class of a name in a type table. -/
def classNamed? (entries : List Value) (name : String) : Option TypeInfo :=
  (classes entries).find? fun info => info.name == name

/-- The class of a column's type. -/
def classOf : Value → Value
  | .column t _ => .sqlType t
  | v => .type v.typeName

/-- A column's type is named as its class is. -/
theorem exists_classInfo (v : Value) : ∃ info, classInfo? (classOf v) = some info ∧ info.name = typeNameOf v := by
  cases v <;> exact ⟨_, rfl, rfl⟩

/-- The first of each name among vendor types, but for the names that were seen before. -/
def firsts (seen : List String) : List TypeInfo → List TypeInfo
  | [] => []
  | info :: rest => if info.name ∈ seen then firsts seen rest else info :: firsts (info.name :: seen) rest

variable {seen : List String} {infos : List TypeInfo} {info : TypeInfo} {name : String}

/-- Each name is there once, in the order in which the names first appear. -/
theorem names_firsts (seen : List String) (infos : List TypeInfo) :
    (firsts seen infos).map TypeInfo.name = ((infos.map TypeInfo.name).removeAll seen).eraseDups := by
  induction infos generalizing seen with
  | nil => rfl
  | cons info rest ih =>
    by_cases hseen : info.name ∈ seen
    · simp [firsts, hseen, ih, List.removeAll]
    · simp only [firsts, hseen, if_false, List.map_cons, ih, TypeMapping.eraseDups_removeAll_cons hseen]

/-- The first of a name is the first one that has it. -/
theorem find?_of_mem_firsts (h : info ∈ firsts seen infos) :
    info.name ∉ seen ∧ (infos.find? fun other => other.name == info.name) = some info := by
  induction infos generalizing seen with
  | nil => cases h
  | cons first rest ih =>
    by_cases hseen : first.name ∈ seen
    · obtain ⟨hnew, hfind⟩ := ih (by simpa [firsts, hseen] using h)
      have hother : first.name ≠ info.name := fun heq => hnew (heq ▸ hseen)
      exact ⟨hnew, (List.find?_cons_of_neg (by simpa using hother)).trans hfind⟩
    · simp only [firsts, hseen, if_false, List.mem_cons] at h
      obtain rfl | hrest := h
      · exact ⟨hseen, by simp⟩
      · obtain ⟨hnew, hfind⟩ := ih hrest
        obtain ⟨hne, hunseen⟩ := not_or.mp (mt List.mem_cons.mpr hnew)
        exact ⟨hunseen, (List.find?_cons_of_neg (by simpa using Ne.symm hne)).trans hfind⟩

/-- A name that is there and was not seen before has a first one. -/
theorem mem_firsts_of_find? (hnew : name ∉ seen) (h : (infos.find? fun other => other.name == name) = some info) :
    info ∈ firsts seen infos := by
  induction infos generalizing seen with
  | nil => cases h
  | cons first rest ih =>
    by_cases hname : first.name = name
    · subst hname
      obtain rfl : first = info := by simpa using h
      simp [firsts, hnew]
    · have hrest : (rest.find? fun other => other.name == name) = some info := by
        rwa [List.find?_cons_of_neg (by simpa using hname)] at h
      by_cases hseen : first.name ∈ seen
      · simpa [firsts, hseen] using ih hnew hrest
      · have hunseen : name ∉ first.name :: seen := by
          rw [List.mem_cons, not_or]
          exact ⟨fun heq => hname heq.symm, hnew⟩
        simp [firsts, hseen, ih hunseen hrest]

/-- Entries of a type table are listed by the vendor types that they stand for. -/
theorem reportedType?_eq (entry : Value) :
    reportedType? entry = (classInfo? entry).map fun info => (info.name, info.code) := by
  cases entry <;> rfl

/-- The row of a class tells its vendor type. -/
theorem told_of_classInfo {entry : Value} (h : classInfo? entry = some info) :
    info.Told (.record [("TYPE_NAME", .text info.name), ("DATA_TYPE", .int info.code), ("PRECISION", .int 0),
      ("SQL_TYPE", entry)]) := by
  have hread : info.precision = 0 ∧ Field.optional TypeInfo.readClass entry = .ok info.typeClass := by
    unfold classInfo? at h
    split at h
    · rw [← Option.some.inj h]
      exact ⟨rfl, rfl⟩
    · rw [← Option.some.inj h]
      exact ⟨rfl, rfl⟩
    · cases h
  obtain ⟨name, code, precision, typeClass⟩ := info
  obtain ⟨rfl, hclass⟩ := hread
  exact ⟨⟨.text name, rfl, rfl⟩, ⟨.int code, rfl, rfl⟩, ⟨.int 0, rfl, rfl⟩, ⟨entry, rfl, hclass⟩⟩

/-- The rows of the type listing tell the first class of each name. -/
theorem typeRows_told (seen : List String) (entries : List Value) : ∃ rows, typeRows seen entries = rows.map .ok ∧
    List.Forall₂ (fun row info => TypeInfo.Told info row) rows (firsts seen (classes entries)) := by
  induction entries generalizing seen with
  | nil => exact ⟨[], rfl, .nil⟩
  | cons entry rest ih =>
    cases hclass : classInfo? entry with
    | none =>
      obtain ⟨rows, hrows, htold⟩ := ih seen
      refine ⟨rows, ?_, ?_⟩
      · simp only [typeRows, reportedType?_eq, hclass, Option.map_none, hrows]
      · rwa [classes, List.filterMap_cons_none hclass]
    | some info =>
      rw [classes, List.filterMap_cons_some hclass]
      by_cases hseen : info.name ∈ seen
      · obtain ⟨rows, hrows, htold⟩ := ih seen
        refine ⟨rows, ?_, ?_⟩
        · simp only [typeRows, reportedType?_eq, hclass, Option.map_some, List.contains_iff_mem.mpr hseen, if_true,
            hrows]
        · simp only [firsts, hseen, if_true]
          exact htold
      · obtain ⟨rows, hrows, htold⟩ := ih (info.name :: seen)
        have hnew : seen.contains info.name = false := by simpa using hseen
        refine ⟨.record [("TYPE_NAME", .text info.name), ("DATA_TYPE", .int info.code), ("PRECISION", .int 0),
          ("SQL_TYPE", entry)] :: rows, ?_, ?_⟩
        · simp only [typeRows, reportedType?_eq, hclass, Option.map_some, hnew, Bool.false_eq_true, if_false, hrows]
          rfl
        · simp only [firsts, hseen, if_false]
          exact .cons (told_of_classInfo hclass) htold

/-- The types that a type listing tells: the first class of each name. -/
def listed (entries : List Value) : List TypeInfo :=
  firsts [] (classes entries)

variable {entries : List Value}

/-- Each name of a class is listed once, in the order in which the names first appear. -/
theorem names_listed (entries : List Value) :
    (listed entries).map TypeInfo.name = ((classes entries).map TypeInfo.name).eraseDups := by
  rw [listed, names_firsts, List.removeAll_nil]

/-- No name is listed twice. -/
theorem nodup_listed (entries : List Value) : ((listed entries).map TypeInfo.name).Nodup := by
  rw [names_listed]
  exact Crawl.nodup_eraseDups _

/-- A class is listed exactly if it is the first of its name. -/
theorem mem_listed_iff : info ∈ listed entries ↔ classNamed? entries info.name = some info :=
  ⟨fun h => (find?_of_mem_firsts h).2, mem_firsts_of_find? List.not_mem_nil⟩

/-- The first class of a name has that name. -/
theorem name_of_classNamed? (h : classNamed? entries name = some info) : info.name = name := by
  simpa using List.find?_some h

/-- A column whose class is in the type table has a name that is listed. -/
theorem typeNameOf_mem_listed {t : Value} (h : classOf t ∈ entries) :
    typeNameOf t ∈ (listed entries).map TypeInfo.name := by
  obtain ⟨info, hinfo, hname⟩ := exists_classInfo t
  rw [names_listed, List.mem_eraseDups, ← hname]
  exact List.mem_map_of_mem (List.mem_filterMap.mpr ⟨_, h, hinfo⟩)

end Reflection

/-! ## Mapping the listing -/

namespace TypeMapping

variable {codes : CodeTable} {infos : List TypeInfo} {mapping : TypeMapping}

/-- Where no two vendor types have one name, a name has the type of its vendor type. -/
theorem lastMapped_iff_of_nodup (hnodup : (infos.map TypeInfo.name).Nodup) {name : String} {t : TypeName} :
    LastMapped codes infos name t ↔ ∃ info ∈ infos, info.name = name ∧ info.valueType codes = .ok (some t) := by
  constructor
  · rintro ⟨front, info, back, rfl, hname, hmapped, -⟩
    exact ⟨info, by simp, hname, hmapped⟩
  · rintro ⟨info, hmem, rfl, hmapped⟩
    obtain ⟨front, back, rfl⟩ := List.append_of_mem hmem
    refine ⟨front, info, back, rfl, rfl, hmapped, fun later hlater hsame => ?_⟩
    rw [List.map_append, List.map_cons] at hnodup
    have hfresh := (List.nodup_cons.mp (List.Nodup.of_append_right hnodup)).1
    exact absurd (hsame ▸ List.mem_map_of_mem hlater) hfresh

/-- Then what a vendor type is mapped to is what its name has in the mapping. -/
theorem Maps.valueType (h : Maps codes infos mapping) (hnodup : (infos.map TypeInfo.name).Nodup)
    (hall : ∀ info ∈ infos, ∃ found, info.valueType codes = .ok found) {info : TypeInfo} (hmem : info ∈ infos) :
    info.valueType codes = .ok (mapping.lookup info.name) := by
  obtain ⟨found, hfound⟩ := hall info hmem
  rw [hfound]
  refine congrArg _ (Option.ext fun t => ?_)
  rw [h.types, lastMapped_iff_of_nodup hnodup]
  constructor
  · rintro rfl
    exact ⟨info, hmem, rfl, hfound⟩
  · rintro ⟨other, hother, hname, hmapped⟩
    obtain rfl := List.inj_on_of_nodup_map hnodup hother hmem hname
    exact Except.ok.inj (hfound.symm.trans hmapped)

end TypeMapping

/-! ## Reflected columns -/

namespace Reflection

/-- A connection reports a column of a type. -/
def Reports (connection : Connection) (t : Value) : Prop :=
  ∃ table schema answer columns column, connection.inspect (.part .columns table schema) = .ok answer ∧
    answer.items = .ok columns ∧ column ∈ columns ∧ column.field "type" = .ok t

/-- The row of a column names the class of the column's type. -/
theorem typeName_columnRow {table column row : Value} {position : Nat} (h : columnRow table position column = .ok row) :
    ∃ t, column.field "type" = .ok t ∧ row.field "TYPE_NAME" = .ok (.text (typeNameOf t)) := by
  obtain ⟨t, ht, hrest⟩ := ColumnLine.bind_eq_ok_iff.mp h
  obtain ⟨name, -, hrest⟩ := ColumnLine.bind_eq_ok_iff.mp hrest
  obtain ⟨nullable, -, hrest⟩ := ColumnLine.bind_eq_ok_iff.mp hrest
  obtain ⟨increments, -, hrest⟩ := ColumnLine.bind_eq_ok_iff.mp hrest
  refine ⟨t, ht, ?_⟩
  split at hrest
  · obtain ⟨mark, -, hrow⟩ := ColumnLine.bind_eq_ok_iff.mp hrest
    rw [← Except.ok.inj hrow]
    rfl
  · rw [← Except.ok.inj hrest]
    rfl

/-- The rows of the columns of a table are rows of the columns that the connection reports. -/
theorem reports_of_mem {vendor : Vendor} {connection : Connection} {catalog schema table : Option String} {row : Value}
    (h : .ok row ∈ callRows vendor connection (.part .columns catalog schema table)) :
    ∃ t, Reports connection t ∧ row.field "TYPE_NAME" = .ok (.text (typeNameOf t)) := by
  simp only [callRows, partRows, rowsOf] at h
  split at h
  · simp at h
  · rename_i columns hcolumns
    obtain ⟨answer, hanswer, hitems⟩ := ColumnLine.bind_eq_ok_iff.mp hcolumns
    obtain ⟨⟨column, position⟩, hmem, hrow⟩ := List.mem_flatMap.mp h
    obtain ⟨t, ht, hname⟩ := typeName_columnRow (List.mem_singleton.mp hrow).symm
    exact ⟨t, ⟨_, _, answer, columns, column, hanswer, hitems, List.fst_mem_of_mem_zipIdx hmem, ht⟩, hname⟩

end Reflection

namespace Crawl

variable {plan : Plan} {connection : Connection} {before : Survey Notes}

/-- A crawl goes by the types that it resolved. -/
theorem run_mapping {mapping : TypeMapping} (dbms : NodeId)
    (h : (resolveTypes plan.vendor plan.codes plan.source before).1 = .ok mapping) :
    (run plan dbms before).2.notes.mapping = mapping := by
  obtain ⟨_, between, hread, -, rfl, -⟩ := readTypes_succeeds dbms h
  have hnames := keeps_discoverSchemas (fun _ => Keeping.Keeps.modify fun _ => rfl) plan spares_mapping dbms between
  rw [run, Keeping.bind_of_ok hread]
  cases hdiscover : discoverSchemas plan dbms between with
  | mk outcome next =>
    rw [hdiscover] at hnames
    cases outcome with
    | error f =>
      rw [Keeping.bind_of_error hdiscover]
      exact hnames.symm
    | ok _ =>
      rw [Keeping.bind_of_ok hdiscover, Keeping.bind_of_ok (Keeping.get_apply next)]
      have hresolving (schemas : List NodeId) : Resolving plan False next (readSchemas plan schemas next) :=
        resolving_readSchemas plan schemas False.elim
      exact (hresolving _).types.mapping.trans hnames.symm

/-- The listing of types of a connection tells the first class of each name. -/
theorem listsTypes_reflected (hsource : plan.source = Reflection.source plan.vendor connection)
    (before : Survey Notes) :
    ∃ rows, ListsTypes plan.source before rows (Reflection.listed connection.types) := by
  obtain ⟨rows, hrows, htold⟩ := Reflection.typeRows_told [] connection.types
  refine ⟨rows, ?_, htold⟩
  rw [hsource, ← hrows]
  rfl

/-- All classes of a name in a type table are mapped alike. -/
def Alike (codes : CodeTable) (entries : List Value) (name : String) : Prop :=
  ∀ first ∈ Reflection.classes entries, ∀ second ∈ Reflection.classes entries, first.name = name →
    second.name = name → first.valueType codes = second.valueType codes

/-- What is known of the type of a column that a connection reports, by a mapping of the types that it lists. -/
structure ReflectedAs (connection : Connection) (codes : CodeTable) (infos : List TypeInfo) (mapping : TypeMapping)
    (t : Value) (typing : Typing) : Prop where
  reported : Reflection.Reports connection t
  typeName : typing.typeName = some (Reflection.typeNameOf t)
  databaseType : typing.databaseType = mapping.lookup (Reflection.typeNameOf t)
  /-- The name is listed if the class of the type is in the type table. -/
  known : Reflection.classOf t ∈ connection.types → Reflection.typeNameOf t ∈ infos.map TypeInfo.name
  /-- Then, if all classes of the name are mapped alike, its type is what its own class is mapped to. -/
  own : Reflection.classOf t ∈ connection.types → Alike codes connection.types (Reflection.typeNameOf t) →
    ∀ info, Reflection.classInfo? (Reflection.classOf t) = some info → info.valueType codes = .ok typing.databaseType

/-- Where the types that a connection lists are resolved, a name is mapped to what its first class is mapped to. -/
theorem lookup_resolved (hdynamic : plan.vendor.types = [])
    (hsource : plan.source = Reflection.source plan.vendor connection) {mapping : TypeMapping}
    (h : (resolveTypes plan.vendor plan.codes plan.source before).1 = .ok mapping) (name : String) :
    (∀ info, Reflection.classNamed? connection.types name = some info →
      info.valueType plan.codes = .ok (mapping.lookup name)) ∧
    (Reflection.classNamed? connection.types name = none → mapping.lookup name = none) := by
  obtain ⟨rows, hlists⟩ := listsTypes_reflected hsource before
  rw [resolveTypes_of_lists hdynamic plan.codes hlists] at h
  have hmaps := TypeMapping.maps_ofInfos h
  have hnodup := Reflection.nodup_listed connection.types
  constructor
  · intro info hinfo
    obtain rfl := Reflection.name_of_classNamed? hinfo
    exact hmaps.valueType hnodup ((TypeMapping.exists_ofInfos_iff []).mp ⟨mapping, h⟩)
      (Reflection.mem_listed_iff.mpr hinfo)
  · intro hnone
    refine Option.eq_none_iff_forall_ne_some.mpr fun t ht => ?_
    obtain ⟨info, hmem, rfl, -⟩ := (TypeMapping.lastMapped_iff_of_nodup hnodup).mp ((hmaps.types name t).mp ht)
    cases hnone.symm.trans (Reflection.mem_listed_iff.mp hmem)

/-- A column that is resolved by a row of its table is known as the connection reports it. -/
theorem reflectedAs_of_sourced (hdynamic : plan.vendor.types = [])
    (hsource : plan.source = Reflection.source plan.vendor connection) {mapping : TypeMapping}
    (h : (resolveTypes plan.vendor plan.codes plan.source before).1 = .ok mapping) {after : Survey Notes}
    {typing : Typing} (hsourced : Sourced plan.mappers mapping plan.source before after typing) :
    ∃ t, ReflectedAs connection plan.codes (Reflection.listed connection.types) mapping t typing := by
  obtain ⟨listing, later, ⟨earlier, catalog, schema, table, -, -, hanswer⟩, row, hrow, hresolved⟩ := hsourced
  have hlisted : .ok row ∈ Reflection.callRows plan.vendor connection (.part .columns catalog schema table) := by
    rw [hsource] at hanswer
    obtain rfl := Except.ok.inj hanswer
    exact hrow
  obtain ⟨t, hreported, hname⟩ := Reflection.reports_of_mem hlisted
  obtain ⟨given, resolved, hgiven, htext, hresolves, hdatabase, -⟩ := hresolved
  obtain rfl := Except.ok.inj (hname.symm.trans hgiven)
  have hlookup : typing.databaseType = mapping.lookup (Reflection.typeNameOf t) := by
    rw [hdatabase]
    change ColumnLine.Resolves plan.mappers (mapping.lookup (Reflection.typeNameOf t)) resolved at hresolves
    generalize mapping.lookup (Reflection.typeNameOf t) = mapped at hresolves
    cases hresolves <;> rfl
  refine ⟨t, hreported, (Except.ok.inj htext).symm, hlookup, Reflection.typeNameOf_mem_listed, ?_⟩
  intro hclass halike info hinfo
  obtain ⟨own, hown, hsame⟩ := Reflection.exists_classInfo t
  obtain rfl := Option.some.inj (hown.symm.trans hinfo)
  have hmem : own ∈ Reflection.classes connection.types := List.mem_filterMap.mpr ⟨_, hclass, hinfo⟩
  obtain ⟨first, hfirst, hfirstName⟩ := List.mem_map.mp (Reflection.typeNameOf_mem_listed hclass)
  have hnamed := Reflection.mem_listed_iff.mp hfirst
  rw [hfirstName] at hnamed
  rw [hlookup, ← (lookup_resolved hdynamic hsource h _).1 first hnamed]
  exact halike own hmem first (List.mem_of_find?_eq_some hnamed) hsame hfirstName

/-- The types that a connection lists, and those of the columns that it reports. -/
structure MeetsListing (plan : Plan) (connection : Connection) (before : Survey Notes) (infos : List TypeInfo) :
    Prop where
  lists : ∃ rows, ListsTypes plan.source before rows infos
  /-- Each name of a class of the type table is listed once, in the order in which the names first appear, with its
  first class. -/
  names : infos.map TypeInfo.name = ((Reflection.classes connection.types).map TypeInfo.name).eraseDups
  first : ∀ info ∈ infos, Reflection.classNamed? connection.types info.name = some info
  resolved : (∃ mapping, (resolveTypes plan.vendor plan.codes plan.source before).1 = .ok mapping) ↔
    ∀ name info, Reflection.classNamed? connection.types name = some info →
      ∃ found, info.valueType plan.codes = .ok found
  /-- A name is mapped to what its first class is mapped to, if anything. -/
  mapped : ∀ mapping, (resolveTypes plan.vendor plan.codes plan.source before).1 = .ok mapping → ∀ name,
    (∀ info, Reflection.classNamed? connection.types name = some info →
      info.valueType plan.codes = .ok (mapping.lookup name)) ∧
    (Reflection.classNamed? connection.types name = none → mapping.lookup name = none)
  /-- Rows of columns name the classes of the types that are reported. -/
  rows : ∀ catalog schema table row,
    .ok row ∈ Reflection.callRows plan.vendor connection (.part .columns catalog schema table) →
    ∃ t, Reflection.Reports connection t ∧ row.field "TYPE_NAME" = .ok (.text (Reflection.typeNameOf t)) ∧
      (Reflection.classOf t ∈ connection.types → Reflection.typeNameOf t ∈ infos.map TypeInfo.name)
  /-- The columns that a crawl adds are those. Only if it fails, the last node may be a column that is not. -/
  columns : ∀ dbms id typing, before.atlas.nodes.size ≤ id →
    (run plan dbms before).2.atlas.typing? id = some typing →
    (∃ mapping t, (resolveTypes plan.vendor plan.codes plan.source before).1 = .ok mapping ∧
      ReflectedAs connection plan.codes infos mapping t typing) ∨
    (run plan dbms before).1.isOk = false ∧ id + 1 = (run plan dbms before).2.atlas.nodes.size

/-- The columns that a connection reports are named as its types are listed, and have the types that the listing is
mapped to. -/
theorem run_meetsListing (hdynamic : plan.vendor.types = [])
    (hsource : plan.source = Reflection.source plan.vendor connection) (before : Survey Notes) :
    ∃ infos, MeetsListing plan connection before infos := by
  have hlists := listsTypes_reflected hsource before
  refine ⟨Reflection.listed connection.types, hlists, Reflection.names_listed connection.types,
    fun _ => Reflection.mem_listed_iff.mp, ?_, fun _ => lookup_resolved hdynamic hsource, ?_, ?_⟩
  · obtain ⟨rows, hlists⟩ := hlists
    rw [resolveTypes_of_lists hdynamic plan.codes hlists, TypeMapping.exists_ofInfos_iff]
    constructor
    · intro hall name info hinfo
      obtain rfl := Reflection.name_of_classNamed? hinfo
      exact hall info (Reflection.mem_listed_iff.mpr hinfo)
    · exact fun hall info hmem => hall info.name info (Reflection.mem_listed_iff.mp hmem)
  · intro catalog schema table row hrow
    obtain ⟨t, hreported, hname⟩ := Reflection.reports_of_mem hrow
    exact ⟨t, hreported, hname, Reflection.typeNameOf_mem_listed⟩
  · intro dbms id typing hid htyping
    cases hresolve : resolveTypes plan.vendor plan.codes plan.source before with
    | mk outcome between =>
      have hframe := (resolveTypes_frame plan before).1
      rw [hresolve] at hframe
      cases outcome with
      | error f =>
        -- Without a mapping nothing is added.
        rw [run_of_unresolved dbms hresolve, hframe, Atlas.typing?_eq_none hid] at htyping
        cases htyping
      | ok mapping =>
        have hresolved := congrArg Prod.fst hresolve
        refine ((run_resolvesBy plan dbms before).columns id typing hid htyping).imp_left fun hsourced => ?_
        rw [run_mapping dbms hresolved] at hsourced
        obtain ⟨t, hreflected⟩ := reflectedAs_of_sourced hdynamic hsource hresolved hsourced
        exact ⟨mapping, t, rfl, hreflected⟩

/-- A second class named as the type of whole numbers in the shop, with values of another type. -/
def shopSerial : SqlType := .mk ⟨"shop", "SERIAL"⟩ "integer" [.integer] (.ok (some ⟨"decimal", "Decimal"⟩))

/-- The shop, with an entry that is no class and with this class in its type table. -/
def serialConnection : Connection :=
  { shopConnection with types := [.null, .sqlType shopInteger, .sqlType shopSerial, .sqlType shopText] }

/-- A crawl of it. -/
def serialPlan : Plan where
  vendor := .sqlite
  source := Reflection.source .sqlite serialConnection

/-- The first class of a name is listed and decides the types of columns. -/
theorem run_meetsListing_serial :
    let before : Survey Notes := { atlas := (Atlas.create {} { content := .dbms none }).1, notes := {} }
    let result := run serialPlan 0 before
    (serialPlan.vendor.types = [] ∧ serialPlan.source = Reflection.source serialPlan.vendor serialConnection ∧
      ∃ infos, MeetsListing serialPlan serialConnection before infos) ∧
    (resolveTypes serialPlan.vendor serialPlan.codes serialPlan.source before).1.toOption = some shopTypes ∧
    result.1.isOk = true ∧
    ((List.range result.2.atlas.nodes.size).filterMap result.2.atlas.typing?).map
      (fun typing => (typing.typeName, typing.databaseType)) =
        [(some "INTEGER", some (.builtin "int")), (some "VARCHAR", some (.builtin "str"))] := by
  intro before result
  exact ⟨⟨rfl, rfl, run_meetsListing rfl rfl before⟩, by decide +revert +kernel⟩

end Crawl

end SchemaAtlas
