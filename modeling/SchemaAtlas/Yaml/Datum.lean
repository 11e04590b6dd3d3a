import SchemaAtlas.Value.Access

/-!
# Structured settings

A datum is a scalar, a list of data, or a mapping from scalars to data. The keys of a mapping are
scalars of any kind; two keys that are equal numbers are the same key. Mappings can be merged, the
second one deciding where both have a scalar or a list.
-/

namespace SchemaAtlas.Yaml

/-- A scalar, a list or a mapping. -/
inductive Datum where
  | scalar (v : Value)
  | list (items : List Datum)
  | mapping (entries : List (Value × Datum))

instance : Inhabited Datum := ⟨.scalar .null⟩

/-- The entries of a mapping. -/
abbrev Entries := List (Value × Datum)

/-- The integer that a key equals as a number, if it equals one. -/
def keyInteger? : Value → Option Int
  | .bool b => some (if b then 1 else 0)
  | .int n => some n
  | .float x => x.integer?
  | _ => none

/-- Whether two keys are the same. -/
def sameKey (a b : Value) : Bool :=
  match keyInteger? a, keyInteger? b with
  | some m, some n => m == n
  | none, none =>
    match a, b with
    | .null, .null => true
    | .text s, .text t => s == t
    | .float x, .float y => x == y && x != .nan
    | _, _ => false
  | _, _ => false

namespace Entries

/-- The datum of a key. -/
def get? (entries : Entries) (key : Value) : Option Datum :=
  (entries.find? fun entry => sameKey entry.1 key).map (·.2)

/-- Sets the datum of a key, where the key stands or behind the others. -/
def put (entries : Entries) (key : Value) (datum : Datum) : Entries :=
  match entries with
  | [] => [(key, datum)]
  | (k, old) :: rest => if sameKey k key then (k, datum) :: rest else (k, old) :: put rest key datum

/-- The entries whose keys are texts. -/
def named (entries : Entries) : List (String × Datum) :=
  entries.filterMap fun (key, datum) =>
    match key with
    | .text name => some (name, datum)
    | _ => none

end Entries

namespace Datum

mutual

/-- The datum of a value. -/
def ofValue : Value → Datum
  | .list items => .list (ofValues items)
  | .record fields => .mapping (ofFields fields)
  | v => .scalar v

/-- The data of values. -/
def ofValues : List Value → List Datum
  | [] => []
  | v :: rest => ofValue v :: ofValues rest

/-- The entries of fields. -/
def ofFields : List (String × Value) → Entries
  | [] => []
  | (name, v) :: rest => (.text name, ofValue v) :: ofFields rest

end

mutual

/-- The value of a datum; entries whose keys are no texts are left out. -/
def toValue : Datum → Value
  | .scalar v => v
  | .list items => .list (toValues items)
  | .mapping entries => .record (toFields entries)

/-- The values of data. -/
def toValues : List Datum → List Value
  | [] => []
  | datum :: rest => datum.toValue :: toValues rest

/-- The fields of entries. -/
def toFields : Entries → List (String × Value)
  | [] => []
  | (.text name, datum) :: rest => (name, datum.toValue) :: toFields rest
  | _ :: rest => toFields rest

end

mutual

/-- A datum under another one: mappings are merged, anything else is covered. -/
def merge (under : Datum) : Datum → Datum
  | .mapping entries =>
    match under with
    | .mapping base => .mapping (mergeEntries base entries)
    | _ => .mapping entries
  | above => above

/-- Entries under others. -/
def mergeEntries (under : Entries) : Entries → Entries
  | [] => under
  | (key, datum) :: rest =>
    let merged := match Entries.get? under key with
      | some old => merge old datum
      | none => datum
    mergeEntries (Entries.put under key merged) rest

end

/-- The fields of a mapping, if the datum is one. -/
def fields? : Datum → Option (List (String × Value))
  | .mapping entries => some (toFields entries)
  | _ => none

/-- A scalar or a list covers what it is merged over. -/
theorem merge_list (under : Datum) (items : List Datum) : merge under (.list items) = .list items := by
  simp [merge]

end Datum

end SchemaAtlas.Yaml
