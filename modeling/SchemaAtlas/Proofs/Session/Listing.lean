import SchemaAtlas.Proofs.Session.Report

/-!
# The rows that a report is listed in

Each part of a table that a connection tells of is listed in rows: one row for a column, and for an index or
a foreign key one row for each of its columns. A row says what the report says, under the names of the
listing and in its codes.
-/

namespace SchemaAtlas

/-- A row says what the report of a column at a position says. -/
structure ColumnReport.IsRow (report : ColumnReport) (position : Nat) (row : Value) : Prop where
  name : row.field "COLUMN_NAME" = .ok (.text report.name)
  ordinal : row.field "ORDINAL_POSITION" = .ok (.int position)
  nullable : row.field "NULLABLE" = .ok (.int (if report.nullable then 1 else 0))
  typeName : row.field "TYPE_NAME" = .ok (.text report.typeName)
  size : row.fieldOrNull "COLUMN_SIZE" = .ok (.ofInteger report.size)
  digits : row.fieldOrNull "DECIMAL_DIGITS" = .ok (.ofInteger report.scale)
  increments : row.field "IS_AUTOINCREMENT" = match report.increments with
    | none => .error (Failure.missingField "IS_AUTOINCREMENT")
    | some increments => .ok (.text (if increments then "YES" else "NO"))

/-- The mark of a sort order in the listing of indexes. -/
def SortOrder.mark : SortOrder → Value
  | .ascending => .text "A"
  | .descending => .text "D"
  | .unsorted => .null

/-- A row says what the report of an index says of a column at a position. -/
structure IndexReport.IsRow (report : IndexReport) (position : Nat) (column : Option String) (row : Value) :
    Prop where
  index : row.field "INDEX_NAME" = .ok (.ofName report.name)
  nonUnique : row.field "NON_UNIQUE" = .ok (.bool !report.unique)
  name : row.field "COLUMN_NAME" = .ok (.ofName (report.shown position column))
  ordinal : row.field "ORDINAL_POSITION" = .ok (.int position)
  order : row.field "ASC_OR_DESC" = .ok (report.order (report.shown position column)).mark

/-- A row says that a column stands in the primary key at a position. -/
structure IsPrimaryKeyRow (position : Nat) (column : String) (row : Value) : Prop where
  name : row.field "COLUMN_NAME" = .ok (.text column)
  ordinal : row.field "KEY_SEQ" = .ok (.int position)

/-- A row says what the report of a foreign key says of a pair of columns at a position. -/
structure KeyReport.IsRow (report : KeyReport) (position : Nat) (pair : String × String) (row : Value) : Prop where
  key : row.field "FK_NAME" = .ok (.text report.name)
  name : row.field "FKCOLUMN_NAME" = .ok (.text pair.1)
  ordinal : row.field "KEY_SEQ" = .ok (.int position)
  schema : row.fieldOrNull "PKTABLE_SCHEM" = .ok (.ofName report.schema)
  table : row.field "PKTABLE_NAME" = .ok (.text report.table)
  referred : row.field "PKCOLUMN_NAME" = .ok (.text pair.2)

/-- Some rows list the columns of an index. -/
def IndexReport.Listed (report : IndexReport) (rows : List Row) : Prop :=
  List.Forall₂ (fun row column => ∃ v, row = .ok v ∧ report.IsRow column.2 column.1 v) rows
    (report.columns.zipIdx 1)

/-- Some rows list the pairs of columns of a foreign key. -/
def KeyReport.Listed (report : KeyReport) (rows : List Row) : Prop :=
  List.Forall₂ (fun row pair => ∃ v, row = .ok v ∧ report.IsRow pair.2 pair.1 v) rows
    (report.columns.zipIdx 1)

/-- Some rows list a part of a table; indexes and foreign keys are listed block by block. -/
def TableReport.Listed (report : TableReport) (rows : List Row) : TablePart → Prop
  | .columns => List.Forall₂ (fun row column => ∃ v, row = .ok v ∧ column.1.IsRow column.2 v) rows
      (report.columns.zipIdx 1)
  | .indexes => ∃ blocks, rows = blocks.flatten ∧
      List.Forall₂ (fun block (index : IndexReport) => index.Listed block) blocks report.indexes
  | .primaryKey => List.Forall₂ (fun row column => ∃ v, row = .ok v ∧ IsPrimaryKeyRow column.2 column.1 v) rows
      (report.primaryKey.zipIdx 1)
  | .foreignKeys => ∃ blocks, rows = blocks.flatten ∧
      List.Forall₂ (fun block (key : KeyReport) => key.Listed block) blocks report.foreignKeys

/-- What is given to items one by one, whatever their positions, is given to the items. -/
theorem map_zipIdx_fst {α β : Type} (f : α → β) (items : List α) :
    ((items.zipIdx 1).map fun entry => f entry.1) = items.map f := by
  have hitems := congrArg (List.map f) (List.zipIdx_map_fst 1 items)
  rwa [List.map_map] at hitems

namespace Reflection

/-- A length is taken before a precision, unless it is zero. -/
theorem orElse_ofInteger (length precision : Option Int) :
    (Value.ofInteger length).orElse (.ofInteger precision) =
      .ofInteger ((length.filter (· != 0)).or precision) := by
  cases length with
  | none => rfl
  | some n =>
    by_cases hn : n = 0
    · subst hn
      rfl
    · have hkept : (some n).filter (· != 0) = some n := by simp [Option.filter, hn]
      rw [hkept]
      simp [Value.ofInteger, Value.orElse, Value.isTrue, hn]

/-- A record has the fields that are found in it. -/
theorem hasText_record (fields : List (String × Value)) (name : String) :
    (Value.record fields).hasText name = .ok (fields.lookup name).isSome := by
  change Except.ok (fields.any fun entry => entry.1 == name) = _
  congr 1
  induction fields with
  | nil => rfl
  | cons entry fields ih =>
    obtain ⟨other, v⟩ := entry
    rw [List.any_cons, ih, List.lookup_cons, BEq.comm]
    cases name == other <;> rfl

/-- The row of a column says what its report says. -/
theorem columnRow_told {report : ColumnReport} {fields : List (String × Value)} (h : report.Told fields)
    (table : Value) (position : Nat) :
    ∃ row, columnRow table position (.record fields) = .ok row ∧ report.IsRow position row := by
  obtain ⟨t, htype, hof⟩ := h.type
  obtain ⟨flag, hflag, hnullable⟩ := Option.map_eq_some_iff.mp h.nullable
  have hsize := orElse_ofInteger report.length report.precision
  rw [← hof.length, ← hof.precision] at hsize
  have hincrements := h.increments
  refine ⟨.record ([("TABLE_NAME", table), ("COLUMN_NAME", .text report.name), ("ORDINAL_POSITION", place position),
    ("NULLABLE", .int (if report.nullable then 1 else 0)), ("TYPE_NAME", .text report.typeName),
    ("COLUMN_SIZE", .ofInteger report.size), ("DECIMAL_DIGITS", .ofInteger report.scale)] ++
    (report.increments.map fun increments =>
      ("IS_AUTOINCREMENT", .text (if increments then "YES" else "NO"))).toList), ?_, ?_⟩
  · cases hauto : fields.lookup "autoincrement" with
    | none =>
      rw [hauto] at hincrements
      simp [columnRow, Value.field, htype, h.name, hflag, hasText_record, hauto, ← hincrements, hof.typeName,
        hof.scale, hnullable, hsize, ColumnReport.size, bind, Except.bind]
    | some v =>
      rw [hauto] at hincrements
      simp [columnRow, Value.field, htype, h.name, hflag, hasText_record, hauto, ← hincrements, hof.typeName,
        hof.scale, hnullable, hsize, ColumnReport.size, bind, Except.bind]
      cases v with
      | bool b => cases b <;> rfl
      | _ => rfl
  · exact ⟨rfl, rfl, rfl, rfl, rfl, rfl, by cases report.increments <;> rfl⟩

/-- Items that are told one by one are listed in a row each. -/
theorem rowsOf_single {β : Type} {Told : Value → β → Prop} {Listed : Row → β × Nat → Prop}
    {row : Nat → Value → Row} {items : List Value} {reports : List β} (h : List.Forall₂ Told items reports)
    (hrow : ∀ position item report, Told item report → Listed (row position item) (report, position)) :
    List.Forall₂ Listed (rowsOf (.ok (.list items)) fun position item => [row position item])
      (reports.zipIdx 1) := by
  change List.Forall₂ Listed ((items.zipIdx 1).flatMap fun entry => [row entry.2 entry.1]) _
  generalize 1 = start
  induction h generalizing start with
  | nil => exact List.Forall₂.nil
  | cons hfirst _ ih => exact List.Forall₂.cons (hrow start _ _ hfirst) (ih (start + 1))

/-- Items that are told by their names are listed in a row each. -/
theorem rowsOf_map {β : Type} {told : β → Value} {Listed : Row → β × Nat → Prop} {row : Nat → Value → Row}
    (reports : List β) (hrow : ∀ position report, Listed (row position (told report)) (report, position)) :
    List.Forall₂ Listed (rowsOf (.ok (.list (reports.map told))) fun position item => [row position item])
      (reports.zipIdx 1) := by
  refine @rowsOf_single β (fun item report => item = told report) _ _ _ _ ?_ ?_
  · rw [List.forall₂_map_left_iff]
    exact List.forall₂_same.mpr fun _ _ => rfl
  · rintro position _ report rfl
    exact hrow position report

/-- Names are listed in a row each. -/
theorem rowsOf_names {β : Type} {told : β → Value} {Listed : Row → β → Prop} {row : Value → Row}
    (reports : List β) (hrow : ∀ report, Listed (row (told report)) report) :
    List.Forall₂ Listed (rowsOf (.ok (.list (reports.map told))) fun _ item => [row item]) reports := by
  have hrows : rowsOf (.ok (.list (reports.map told))) (fun _ item => [row item]) =
      reports.map fun report => row (told report) := by
    have hitems := map_zipIdx_fst row (reports.map told)
    rw [List.map_map] at hitems
    exact List.map_eq_flatMap.symm.trans hitems
  rw [hrows, List.forall₂_map_left_iff]
  exact List.forall₂_same.mpr fun report _ => hrow report

/-! ## Indexes -/

/-- What is found under a key in two lists of the same keys is related if all values are. -/
theorem lookup_related {β γ : Type} {R : β → γ → Prop} {first : List (String × β)} {second : List (String × γ)}
    (h : List.Forall₂ (fun a b => a.1 = b.1 ∧ R a.2 b.2) first second) (key : String) :
    (first.lookup key = none ∧ second.lookup key = none) ∨
      ∃ b c, first.lookup key = some b ∧ second.lookup key = some c ∧ R b c := by
  induction h with
  | nil => exact .inl ⟨rfl, rfl⟩
  | @cons a b first second hfirst _ ih =>
    rw [List.lookup_cons, List.lookup_cons, hfirst.1]
    cases key == b.1 with
    | true => exact .inr ⟨a.2, b.2, rfl, rfl, hfirst.2⟩
    | false => exact ih

/-- A column of an index is listed by what it is called. -/
theorem indexColumnName_told {report : IndexReport} {expressions : Value}
    (h : expressions = .list (report.expressions.map .ofName)) (position : Nat) (column : Option String) :
    indexColumnName expressions position (.ofName column) = .ok (.ofName (report.shown position column)) := by
  subst h
  cases column with
  | some name => rfl
  | none =>
    simp only [indexColumnName, Value.ofName, Value.isNull, if_true, Value.sized, Value.items, bind, Except.bind,
      IndexReport.shown, Option.none_or, List.getD_eq_getElem?_getD, List.getElem?_map, Except.ok.injEq]
    cases report.expressions[position - 1]? <;> rfl

/-- A column of an index is listed with the mark of its sort order. -/
theorem sortingMark_told {report : IndexReport} {fields : List (String × Value)} (h : report.Told fields)
    (shown : Option String) :
    sortingMark ((fields.lookup "column_sorting").getD .null) (.ofName shown) = .ok (report.order shown).mark := by
  have hsorting := h.sorting
  unfold IndexReport.order
  cases hreport : report.sorting with
  | none =>
    rw [hreport] at hsorting
    rw [hsorting]
    rfl
  | some sorting =>
    rw [hreport] at hsorting
    obtain ⟨marks, hmarks, hall⟩ := hsorting
    rw [hmarks]
    cases shown with
    | none => rfl
    | some name =>
      simp only [Option.getD_some, sortingMark, Value.ofName, Option.bind_some]
      obtain ⟨hnone, hnone'⟩ | ⟨mark, downwards, hmark, hdownwards, hdesc⟩ :=
        @lookup_related _ _ (fun mark downwards => Value.hasText "desc" mark = .ok downwards) _ _ hall name
      · simp only [hnone, hnone']
        rfl
      · simp only [hmark, hdownwards, hdesc, bind, Except.bind]
        cases downwards <;> rfl

/-- The rows of an index say what its report says of its columns. -/
theorem indexRows_told {report : IndexReport} {fields : List (String × Value)} (h : report.Told fields)
    (table : Value) :
    report.Listed (indexRows table (.record fields)) := by
  obtain ⟨flag, hflag, hunique⟩ := Option.map_eq_some_iff.mp h.unique
  have hrows : indexRows table (.record fields) =
      rowsOf (.ok (.list (report.columns.map .ofName))) fun position column =>
        [indexRow table (.record fields) (.list (report.expressions.map .ofName))
          ((fields.lookup "column_sorting").getD .null) position column] := by
    simp only [indexRows, Value.fieldOrNull, Value.field, h.columns, bind, Except.bind, h.expressions, rowsOr]
  rw [hrows]
  refine rowsOf_map report.columns fun position column => ?_
  refine ⟨.record [("TABLE_NAME", table), ("INDEX_NAME", .ofName report.name), ("NON_UNIQUE", .bool !report.unique),
    ("TYPE", .int 3), ("COLUMN_NAME", .ofName (report.shown position column)), ("ORDINAL_POSITION", place position),
    ("ASC_OR_DESC", (report.order (report.shown position column)).mark)], ?_, rfl, rfl, rfl, rfl, rfl⟩
  simp only [indexRow, indexColumnName_told rfl, sortingMark_told h, Value.field, h.name, hflag, hunique, bind,
    Except.bind]

/-! ## Keys -/

/-- The rows of a primary key say what is told of its columns. -/
theorem primaryKeyRows_told {columns : List String} {answer : Value} {fields : List (String × Value)}
    (hanswer : answer.orElse (.record []) = .record fields)
    (hcolumns : ((fields.lookup "constrained_columns").getD .null).orElse (.list []) =
      .list (columns.map .text)) (table : Value) :
    List.Forall₂ (fun row column => ∃ v, row = .ok v ∧ IsPrimaryKeyRow column.2 column.1 v)
      (primaryKeyRows table answer) (columns.zipIdx 1) := by
  have hrows : primaryKeyRows table answer = rowsOf (.ok (.list (columns.map .text))) fun position column =>
      [.ok (.record [("TABLE_NAME", table), ("COLUMN_NAME", column), ("KEY_SEQ", place position),
        ("PK_NAME", (fields.lookup "name").getD .null)])] := by
    simp only [primaryKeyRows, hanswer, Value.fieldOrNull, bind, Except.bind, hcolumns, rowsOr]
  rw [hrows]
  exact rowsOf_map columns fun position column => ⟨_, rfl, rfl, rfl⟩

/-- The rows of a foreign key say what its report says of its pairs of columns, if they are listed under the name
of the report. -/
theorem foreignKeyRows_listed {report : KeyReport} {fields : List (String × Value)} {table : Value}
    (hname : foreignKeyName table (.record fields) (.list (report.columns.map fun pair => .text pair.1)) =
      .ok (.text report.name))
    (hschema : (fields.lookup "referred_schema").getD .null = .ofName report.schema)
    (htable : fields.lookup "referred_table" = some (.text report.table))
    (hcolumns : fields.lookup "constrained_columns" = some (.list (report.columns.map fun pair => .text pair.1)))
    (hreferred : fields.lookup "referred_columns" = some (.list (report.columns.map fun pair => .text pair.2))) :
    report.Listed (foreignKeyRows table (.record fields)) := by
  have hrows : foreignKeyRows table (.record fields) = (report.columns.zipIdx 1).map fun (pair, position) =>
      .ok (.record [("FKTABLE_NAME", table), ("FK_NAME", .text report.name), ("FKCOLUMN_NAME", .text pair.1),
        ("KEY_SEQ", place position), ("PKTABLE_SCHEM", .ofName report.schema), ("PKTABLE_NAME", .text report.table),
        ("PKCOLUMN_NAME", .text pair.2)]) := by
    simp only [foreignKeyRows, Value.field, Value.fieldOrNull, hcolumns, hreferred, htable, hschema, hname,
      Value.items, bind, Except.bind, rowsOr, List.zip_map', List.zipIdx_map, List.map_map]
    rfl
  rw [hrows, KeyReport.Listed, List.forall₂_map_left_iff]
  exact List.forall₂_same.mpr fun pair _ => ⟨_, rfl, rfl, rfl, rfl, rfl, rfl, rfl⟩

/-- The rows of a foreign key that has a name say what its report says of its pairs of columns. -/
theorem foreignKeyRows_told {report : KeyReport} {fields : List (String × Value)} (h : report.Told fields)
    (table : Value) :
    report.Listed (foreignKeyRows table (.record fields)) := by
  have hname (columns : Value) : foreignKeyName table (.record fields) columns = .ok (.text report.name) := by
    have htrue : (Value.text report.name).isTrue = true := by simpa [Value.isTrue] using h.named
    simp only [foreignKeyName, Value.fieldOrNull, h.name, Option.getD_some, bind, Except.bind, htrue, if_true]
  exact foreignKeyRows_listed (hname _) h.schema h.table h.columns h.referred

/-- Items that are told one by one are listed in a block each. -/
theorem rowsOf_blocks {β : Type} {Told : Value → β → Prop} {Listed : List Row → β → Prop}
    {block : Value → List Row} {items : List Value} {reports : List β} (h : List.Forall₂ Told items reports)
    (hblock : ∀ item report, Told item report → Listed (block item) report) :
    ∃ blocks, rowsOf (.ok (.list items)) (fun _ item => block item) = blocks.flatten ∧
      List.Forall₂ Listed blocks reports := by
  refine ⟨items.map block, ?_, ?_⟩
  · change (items.zipIdx 1).flatMap (fun entry => block entry.1) = _
    rw [← List.flatMap_map, List.zipIdx_map_fst, List.flatMap_def]
  · rw [List.forall₂_map_left_iff]
    exact h.imp hblock

/-- What a connection tells of a part of a table is what the rows of the part say. -/
theorem partRows_told {report : TableReport} {answer : Value} {part : TablePart} (h : report.Told answer part)
    (table : Value) : report.Listed (partRows part table (.ok answer)) part := by
  cases part with
  | columns =>
    obtain ⟨items, rfl, hitems⟩ := h
    refine rowsOf_single hitems ?_
    rintro position item column ⟨fields, rfl, hcolumn⟩
    exact columnRow_told hcolumn table position
  | indexes =>
    obtain ⟨items, rfl, hitems⟩ := h
    refine rowsOf_blocks hitems ?_
    rintro item index ⟨fields, rfl, hindex⟩
    exact indexRows_told hindex table
  | primaryKey =>
    obtain ⟨fields, hanswer, hcolumns⟩ := h
    exact primaryKeyRows_told hanswer hcolumns table
  | foreignKeys =>
    obtain ⟨items, rfl, hitems⟩ := h
    refine rowsOf_blocks hitems ?_
    rintro item key ⟨fields, rfl, hkey⟩
    exact foreignKeyRows_told hkey table

end Reflection

end SchemaAtlas
