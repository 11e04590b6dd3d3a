import SchemaAtlas.Crawl.Tables
import SchemaAtlas.Proofs.Crawl.Drawing

/-!
# What the rows of columns say

A row of a column is read field by field, up to the first one that is missing or refused. What it says is told here
without the atlas: by the line that it comes to, or by the failure that it stops with. Filling a column from the row
ends as reading the row does, and a column that could not be filled to its end stays as far as it got.
-/

namespace SchemaAtlas

/-- What a row says of a column. -/
structure ColumnLine where
  name : Option String
  position : Option Int
  nullable : Bool
  typeName : Option String
  size : Option Int
  digits : Option Int
  /-- The type that the type name is mapped to, with its mapper. -/
  resolved : Option (TypeName × Mapper)
  /-- Whether values are counted up, if the row tells. -/
  increments : Option Bool

namespace ColumnLine

/-- What is known of the column. -/
def facts (line : ColumnLine) : ColumnFacts where
  position := line.position
  nullable := line.nullable
  typeName := line.typeName
  size := line.size
  digits := line.digits
  databaseType := line.resolved.map Prod.fst
  mapper := line.resolved.map Prod.snd
  autoIncrement := line.increments.getD false

/-- The tree of the column. -/
def leaf (line : ColumnLine) : Tree :=
  .node line.name (.column line.facts) []

/-- The warning that something cannot be determined for a column of a table. -/
def undetermined (what : String) (table column : Option String) : LogEntry :=
  ⟨.warning, "Unable to determine " ++ what ++ s!"for table {displayName table}, column {displayName column}"⟩

/-- The warnings about the column: one if its type name is not mapped, and one if the row does not tell whether values
are counted up. -/
def warnings (table : Option String) (line : ColumnLine) : List LogEntry :=
  (if line.resolved.isNone then [undetermined "mapping " table line.name] else []) ++
    if line.increments.isNone then [undetermined "IS_AUTOINCREMENT " table line.name] else []

/-- A type name is resolved: to nothing if it is not mapped, and else to the type it is mapped to and the only mapper
that keeps that type. -/
inductive Resolves (mappers : Registry) : Option TypeName → Option (TypeName × Mapper) → Prop
  | unmapped : Resolves mappers none none
  | mapped {t : TypeName} {m : Mapper} (hone : mappers.filter (Mapper.keeps t) = [m]) :
    Resolves mappers (some t) (some (t, m))

/-- A row says so, by values that the fields of a column take. -/
structure Told (mappers : Registry) (mapping : TypeMapping) (line : ColumnLine) (row : Value) : Prop where
  name : ∃ v, row.field "COLUMN_NAME" = .ok v ∧ Field.optional Field.text v = .ok line.name
  position : ∃ v, row.field "ORDINAL_POSITION" = .ok v ∧ Field.optional Field.integer v = .ok line.position
  nullable : ∃ code, row.field "NULLABLE" = .ok code ∧
    if line.nullable then code.equalsInteger 1 ∨ code.equalsInteger 2 else code.equalsInteger 0
  type : ∃ v, row.field "TYPE_NAME" = .ok v ∧ Field.optional Field.text v = .ok line.typeName ∧
    Resolves mappers (Crawl.mappedType mapping v) line.resolved
  size : ∃ v, row.fieldOrNull "COLUMN_SIZE" = .ok v ∧ Field.optional Field.integer v = .ok line.size
  digits : ∃ v, row.fieldOrNull "DECIMAL_DIGITS" = .ok v ∧ Field.optional Field.integer v = .ok line.digits
  increments : line.increments = (row.field "IS_AUTOINCREMENT").toOption.map Crawl.readsAsSet

/-! ## Reading a row -/

/-- What a field of a column that may be absent makes of a value. -/
def taken {α : Type} (field : String) (read : Value → Reading α) (v : Value) : Except Failure (Option α) :=
  match Field.optional read v with
  | .ok a => .ok a
  | .error kind => .error (.refused [⟨[field], kind⟩])

/-- What a type name is resolved to by way of the type that it is mapped to. -/
def resolution (mappers : Registry) : Option TypeName → Except Failure (Option (TypeName × Mapper))
  | none => .ok none
  | some t => (mappers.identityFor t).map fun m => some (t, m)

/-- Whether the values of a column are counted up, if its row tells. -/
def marked (row : Value) : Except Failure (Option Bool) :=
  match row.field "IS_AUTOINCREMENT" with
  | .ok mark => .ok (some (Crawl.readsAsSet mark))
  | .error (.fault .missingKey _) => .ok none
  | .error f => .error f

/-- What a row says, or the failure of the first field that is missing or refused. -/
def read (mappers : Registry) (mapping : TypeMapping) (row : Value) : Except Failure ColumnLine := do
  let name ← row.field "COLUMN_NAME" >>= taken "name" Field.text
  let position ← row.field "ORDINAL_POSITION" >>= taken "ordinal_position" Field.integer
  let nullable ← row.field "NULLABLE" >>= Crawl.nullableOfCode
  let given ← row.field "TYPE_NAME"
  let typeName ← taken "type_name" Field.text given
  let size ← taken "column_size" Field.integer (← row.fieldOrNull "COLUMN_SIZE")
  let digits ← taken "decimal_digits" Field.integer (← row.fieldOrNull "DECIMAL_DIGITS")
  let resolved ← resolution mappers (Crawl.mappedType mapping given)
  let increments ← marked row
  .ok { name, position, nullable, typeName, size, digits, resolved, increments }

/-- A sequence of outcomes is one of success if its parts are. -/
theorem bind_eq_ok_iff {α β : Type} {outcome : Except Failure α} {next : α → Except Failure β} {b : β} :
    (outcome >>= next) = .ok b ↔ ∃ a, outcome = .ok a ∧ next a = .ok b := by
  cases outcome <;> simp [bind, Except.bind]

/-- What holds of the failures of its parts holds of its failures. -/
theorem of_bind_eq_error {α β : Type} {outcome : Except Failure α} {next : α → Except Failure β} {P : Failure → Prop}
    (hfirst : ∀ f, outcome = .error f → P f) (hnext : ∀ a, outcome = .ok a → ∀ f, next a = .error f → P f) (f : Failure)
    (h : (outcome >>= next) = .error f) : P f := by
  cases outcome with
  | error g =>
    cases h
    exact hfirst _ rfl
  | ok a => exact hnext a rfl f h

/-- A value is taken exactly if its reader makes something of it. -/
theorem taken_eq_ok_iff {α : Type} {field : String} {read : Value → Reading α} {v : Value} {a : Option α} :
    taken field read v = .ok a ↔ Field.optional read v = .ok a := by
  unfold taken
  cases Field.optional read v <;> simp

/-- No value equals two integers. -/
theorem eq_of_equalsInteger {v : Value} {n m : Int} (hn : v.equalsInteger n = true) (hm : v.equalsInteger m = true) :
    n = m := by
  cases v <;> simp_all [Value.equalsInteger]

/-- The code of a nullable column is one or two, and that of another column zero. -/
theorem nullableOfCode_eq_ok_iff {code : Value} {nullable : Bool} : Crawl.nullableOfCode code = .ok nullable ↔
    if nullable then code.equalsInteger 1 ∨ code.equalsInteger 2 else code.equalsInteger 0 := by
  have hone (h : code.equalsInteger 0 = true) : code.equalsInteger 1 = false :=
    Bool.eq_false_iff.mpr fun hother => absurd (eq_of_equalsInteger h hother) (by decide)
  have htwo (h : code.equalsInteger 0 = true) : code.equalsInteger 2 = false :=
    Bool.eq_false_iff.mpr fun hother => absurd (eq_of_equalsInteger h hother) (by decide)
  unfold Crawl.nullableOfCode
  cases hzero : code.equalsInteger 0 with
  | true => cases nullable <;> simp [hone hzero, htwo hzero]
  | false => cases nullable <;> cases code.equalsInteger 1 <;> cases code.equalsInteger 2 <;> simp

/-- What follows the resolution of a mapped type name goes on with the mapper of the type. -/
theorem resolution_bind {α : Type} {mappers : Registry} {t : TypeName}
    {next : Option (TypeName × Mapper) → Except Failure α} :
    (resolution mappers (some t) >>= next) = mappers.identityFor t >>= fun m => next (some (t, m)) := by
  rw [resolution]
  cases mappers.identityFor t <;> rfl

/-- A type name is resolved exactly to what it resolves to. -/
theorem resolution_eq_ok_iff {mappers : Registry} {mapped : Option TypeName} {resolved : Option (TypeName × Mapper)} :
    resolution mappers mapped = .ok resolved ↔ Resolves mappers mapped resolved := by
  cases mapped with
  | none =>
    constructor
    · rintro ⟨⟩
      exact .unmapped
    · rintro ⟨⟩
      rfl
  | some t =>
    constructor
    · intro h
      cases hfound : mappers.identityFor t with
      | error f => simp [resolution, hfound, Except.map] at h
      | ok m =>
        obtain rfl : some (t, m) = resolved := by simpa [resolution, hfound, Except.map] using h
        exact .mapped ((mappers.identityFor_eq_ok_iff t m).mp hfound)
    · rintro (_ | hone)
      simp [resolution, (mappers.identityFor_eq_ok_iff _ _).mpr hone, Except.map]

variable {mappers : Registry} {mapping : TypeMapping} {row : Value} {line : ColumnLine}

/-- A row that has fields tells whether values are counted up, or lacks the field. -/
theorem marked_of_field {name : String} {v : Value} (h : row.field name = .ok v) :
    marked row = .ok ((row.field "IS_AUTOINCREMENT").toOption.map Crawl.readsAsSet) := by
  cases row <;> try cases h
  rename_i fields
  unfold marked
  cases hmark : fields.lookup "IS_AUTOINCREMENT" <;> simp [Value.field, hmark, Failure.missingField, Except.toOption]

/-- A row is read as a line exactly if it is told so. -/
theorem read_eq_ok_iff : read mappers mapping row = .ok line ↔ line.Told mappers mapping row := by
  simp only [read, bind_eq_ok_iff, taken_eq_ok_iff, nullableOfCode_eq_ok_iff, resolution_eq_ok_iff]
  constructor
  · rintro ⟨_, ⟨v, hv, hname⟩, _, hposition, _, hnullable, given, hgiven, _, htype, shown, hshown, _, hsize, scale, hscale,
      _, hdigits, _, hresolved, _, hincrements, ⟨⟩⟩
    rw [marked_of_field hv] at hincrements
    exact {
      name := ⟨v, hv, hname⟩
      position := hposition
      nullable := hnullable
      type := ⟨given, hgiven, htype, hresolved⟩
      size := ⟨shown, hshown, hsize⟩
      digits := ⟨scale, hscale, hdigits⟩
      increments := (Except.ok.inj hincrements).symm }
  · intro h
    obtain ⟨given, hgiven, htype, hresolved⟩ := h.type
    obtain ⟨shown, hshown, hsize⟩ := h.size
    obtain ⟨scale, hscale, hdigits⟩ := h.digits
    refine ⟨_, h.name, _, h.position, _, h.nullable, given, hgiven, _, htype, shown, hshown, _, hsize, scale, hscale, _,
      hdigits, _, hresolved, _, marked_of_field hgiven, ?_⟩
    rw [← h.increments]

/-! ## Rows that cannot be read -/

/-- How a row fails to be read: its code for nullable columns is unknown, the type that its type name is mapped to does
not have exactly one mapper, or a field is missing or refused. -/
inductive Offends (mappers : Registry) (mapping : TypeMapping) (row : Value) : Failure → Prop
  | nullable {code : Value} (hcode : row.field "NULLABLE" = .ok code)
    (hunknown : ∀ n ∈ [0, 1, 2], code.equalsInteger n = false) : Offends mappers mapping row (Crawl.unknownNullable code)
  | unresolved {v : Value} {t : TypeName} (htype : row.field "TYPE_NAME" = .ok v)
    (hmapped : Crawl.mappedType mapping v = some t) (hcount : (mappers.filter (Mapper.keeps t)).length ≠ 1) :
    Offends mappers mapping row (Registry.notUnique (mappers.filter (Mapper.keeps t)).length t)
  | unread {f : Failure} (hplain : f.isOwn = false) : Offends mappers mapping row f

variable {f : Failure}

/-- A field that is missing is not a failure of this library. -/
theorem isOwn_of_field {name : String} (h : row.field name = .error f) : f.isOwn = false := by
  unfold Value.field at h
  split at h <;> try (cases h; rfl)
  split at h <;> cases h
  rfl

/-- Nor is that of a value that has no fields at all. -/
theorem isOwn_of_fieldOrNull {name : String} (h : row.fieldOrNull name = .error f) : f.isOwn = false := by
  unfold Value.fieldOrNull at h
  split at h <;> cases h
  unfold Value.noAttribute
  split <;> rfl

/-- Nor is a value that is refused. -/
theorem isOwn_of_taken {α : Type} {field : String} {read : Value → Reading α} {v : Value}
    (h : taken field read v = .error f) : f.isOwn = false := by
  unfold taken at h
  split at h <;> cases h
  rfl

/-- A code that is not known equals none of the three. -/
theorem offends_of_nullable {code : Value} (hcode : row.field "NULLABLE" = .ok code)
    (h : Crawl.nullableOfCode code = .error f) : Offends mappers mapping row f := by
  unfold Crawl.nullableOfCode at h
  split at h
  · cases h
  · rename_i hnull
    split at h
    · cases h
    · rename_i hzero
      cases h
      rw [Bool.or_eq_true, not_or, Bool.not_eq_true, Bool.not_eq_true] at hnull
      rw [Bool.not_eq_true] at hzero
      exact .nullable hcode (by simp [hnull.1, hnull.2, hzero])

/-- A mapped type that is not resolved has some other number of mappers than one. -/
theorem offends_of_resolution {v : Value} (htype : row.field "TYPE_NAME" = .ok v)
    (h : resolution mappers (Crawl.mappedType mapping v) = .error f) : Offends mappers mapping row f := by
  cases hmapped : Crawl.mappedType mapping v with
  | none =>
    rw [hmapped] at h
    cases h
  | some t =>
    rw [hmapped, resolution] at h
    cases hfound : mappers.identityFor t with
    | ok m =>
      rw [hfound] at h
      cases h
    | error g =>
      rw [hfound] at h
      cases h
      unfold Registry.identityFor at hfound
      split at hfound
      · cases hfound
      · rename_i hmany
        cases hfound
        exact .unresolved htype hmapped fun hone => (List.length_eq_one_iff.mp hone).elim hmany

/-- A row that is not read offends in one of these ways. -/
theorem offends_of_read (h : read mappers mapping row = .error f) : Offends mappers mapping row f := by
  have hfield {name : String} (f : Failure) (h : row.field name = .error f) : Offends mappers mapping row f :=
    .unread (isOwn_of_field h)
  have htaken {α : Type} {field : String} {read : Value → Reading α} {v : Value} (f : Failure)
      (h : taken field read v = .error f) : Offends mappers mapping row f := .unread (isOwn_of_taken h)
  have hoptional {name : String} (f : Failure) (h : row.fieldOrNull name = .error f) : Offends mappers mapping row f :=
    .unread (isOwn_of_fieldOrNull h)
  unfold read at h
  suffices hall : ∀ f, read mappers mapping row = .error f → Offends mappers mapping row f by exact hall f h
  refine of_bind_eq_error (of_bind_eq_error hfield fun _ _ => htaken) fun _ _ => ?_
  refine of_bind_eq_error (of_bind_eq_error hfield fun _ _ => htaken) fun _ _ => ?_
  refine of_bind_eq_error (of_bind_eq_error hfield fun _ hcode _ => offends_of_nullable hcode) fun _ _ => ?_
  refine of_bind_eq_error hfield fun given hgiven => of_bind_eq_error htaken fun _ _ => ?_
  refine of_bind_eq_error hoptional fun _ _ => of_bind_eq_error htaken fun _ _ => ?_
  refine of_bind_eq_error hoptional fun _ _ => of_bind_eq_error htaken fun _ _ => ?_
  refine of_bind_eq_error (fun _ => offends_of_resolution hgiven) fun _ _ => ?_
  refine of_bind_eq_error (fun f h => ?_) fun _ _ => nofun
  rw [marked_of_field hgiven] at h
  cases h

end ColumnLine

end SchemaAtlas
