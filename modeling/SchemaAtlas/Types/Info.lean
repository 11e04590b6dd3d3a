import SchemaAtlas.Value.Field
import SchemaAtlas.Types.Family

/-!
# Vendor types and the types of their values

A vendor type is known by its name, a numeric code, a precision and, where the listing has one, the
column type behind it. The type of its values is what an instance of the column type tells; if none can
be made or it cannot tell, the numeric code decides.
-/

namespace SchemaAtlas

/-- A class that a vendor type refers to. -/
inductive TypeClass where
  | plain (name : TypeName)
  | sql (t : SqlType)

namespace TypeClass

/-- The name of the class. -/
def name : TypeClass → TypeName
  | .plain t => t
  | .sql t => t.name

/-- Ordinary types of which no instance can be made without arguments. -/
def needArguments : List TypeName :=
  [⟨"datetime", "date"⟩, ⟨"datetime", "datetime"⟩, ⟨"uuid", "UUID"⟩]

/-- How a fault names an instance of an ordinary type. -/
def instanceName (t : TypeName) : String :=
  if t.home == "builtins" || t.home == "uuid" then t.path else t.full

/-- What comes of asking an instance of the class for the type of its values; an ordinary type does not
know of such a question. -/
def probe : TypeClass → Except Failure (Option TypeName)
  | .sql t => t.probe
  | .plain t =>
    if needArguments.contains t then .error (Failure.faultText .wrongType "arguments are missing")
    else .error (Failure.faultText .noAttribute
      s!"'{instanceName t}' object has no attribute 'python_type'")

end TypeClass

/-- A vendor type as a listing reports it or a vendor declares it. -/
structure TypeInfo where
  name : String
  code : Int := otherTypeCode
  precision : Int := 0
  typeClass : Option TypeClass := none

namespace TypeInfo

/-- A class, as a field of a vendor type. -/
def readClass : Value → Reading TypeClass
  | .type t => .ok (.plain t)
  | .sqlType t => .ok (.sql t)
  | _ => .error .notClass

/-- A vendor type from its fields. -/
def ofFields (fields : List (String × Value)) : Except Failure TypeInfo :=
  Checked.orFail <|
    (Checked.both (Checked.required fields "sql_type_name" Field.text)
      (Checked.both (Checked.withDefault fields "data_type" otherTypeCode Field.integer)
        (Checked.both (Checked.withDefault fields "precision" 0 Field.integer)
          (Checked.withDefault fields "sql_type" none (Field.optional readClass))))).map
      fun (name, code, precision, typeClass) => { name, code, precision, typeClass }

/-- Whether two vendor types agree in all fields. -/
def same (a b : TypeInfo) : Bool :=
  a.name == b.name && a.code == b.code && a.precision == b.precision &&
    a.typeClass.map TypeClass.name == b.typeClass.map TypeClass.name

/-- The vendor types without repetitions. -/
def distinct (infos : List TypeInfo) : List TypeInfo :=
  (infos.foldl (fun kept info => if kept.any (same info) then kept else info :: kept) []).reverse

end TypeInfo

/-- Types of values by numeric code. -/
abbrev CodeTable := List (Int × TypeName)

namespace CodeTable

/-- The codes that are known without a table of one's own. -/
def default : CodeTable :=
  let flag := TypeName.builtin "bool"
  let integer := TypeName.builtin "int"
  let float := TypeName.builtin "float"
  let decimal : TypeName := ⟨"decimal", "Decimal"⟩
  let text := TypeName.builtin "str"
  let bytes := TypeName.builtin "bytes"
  [(-7, flag), (16, flag), (-6, integer), (5, integer), (4, integer), (-5, integer), (6, float),
   (7, float), (8, float), (2, decimal), (3, decimal), (1, text), (12, text), (-1, text), (-15, text),
   (-9, text), (-16, text), (2005, text), (2011, text), (91, ⟨"datetime", "date"⟩),
   (92, ⟨"datetime", "time"⟩), (93, ⟨"datetime", "datetime"⟩), (-2, bytes), (-3, bytes), (-4, bytes),
   (2004, bytes)]

end CodeTable

/-- Whether a failure of a column type only means that it cannot tell the type of its values. -/
def Failure.isIndecisive : Failure → Bool
  | .fault .wrongType _ => true
  | .fault .unsupported _ => true
  | _ => false

namespace TypeInfo

/-- The type of a vendor type's values, if it has one. -/
def valueType (codes : CodeTable) (info : TypeInfo) : Except Failure (Option TypeName) :=
  match info.typeClass.map TypeClass.probe with
  | some (.ok found) => .ok found
  | some (.error f) => if f.isIndecisive then .ok (codes.lookup info.code) else .error f
  | none => .ok (codes.lookup info.code)

end TypeInfo

/-- Types of values by vendor type name, in order of first appearance. -/
abbrev TypeMapping := List (String × TypeName)

namespace TypeMapping

/-- Sets the type of a name, where the name stands or behind the others. -/
def put (mapping : TypeMapping) (name : String) (t : TypeName) : TypeMapping :=
  match mapping with
  | [] => [(name, t)]
  | (n, old) :: rest => if n == name then (n, t) :: rest else (n, old) :: put rest name t

/-- After a name was set, it has the type it was set to. -/
theorem lookup_put_self (mapping : TypeMapping) (name : String) (t : TypeName) :
    (mapping.put name t).lookup name = some t := by
  induction mapping with
  | nil => simp [put]
  | cons entry rest ih =>
    obtain ⟨n, old⟩ := entry
    unfold put
    split
    · rename_i h
      simp only [beq_iff_eq] at h
      simp [h]
    · rename_i h
      have h' : ¬name = n := fun e => h (by simp [e])
      have hb : (name == n) = false := by simpa using h'
      simp [List.lookup_cons, hb, ih]

/-- The other names keep their types when one is set. -/
theorem lookup_put_other (mapping : TypeMapping) (name other : String) (t : TypeName)
    (h : other ≠ name) : (mapping.put name t).lookup other = mapping.lookup other := by
  have hb : (other == name) = false := by simpa using h
  induction mapping with
  | nil => simp [put, List.lookup_cons, hb]
  | cons entry rest ih =>
    obtain ⟨n, old⟩ := entry
    unfold put
    split
    · rename_i e
      simp only [beq_iff_eq] at e
      subst e
      simp [List.lookup_cons, hb]
    · simp [List.lookup_cons, ih]

/-- The mapping of vendor types, the later of equal names deciding; types without a type of values are
left out. -/
def ofInfos (codes : CodeTable) (mapping : TypeMapping) : List TypeInfo → Except Failure TypeMapping
  | [] => .ok mapping
  | info :: rest =>
    match info.valueType codes with
    | .error f => .error f
    | .ok none => ofInfos codes mapping rest
    | .ok (some t) => ofInfos codes (mapping.put info.name t) rest

end TypeMapping

end SchemaAtlas
