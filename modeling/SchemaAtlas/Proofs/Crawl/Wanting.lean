import SchemaAtlas.Proofs.Atlas.Site
import SchemaAtlas.Proofs.Atlas.Typing
import SchemaAtlas.Proofs.Crawl.Resolution

/-!
# Rows that want a mapper

The rows of the columns of a table are read into columns whose types are resolved by some mappers. A row that could be read
if only its type had exactly one mapper is one to stop at, with the failure that tells how many there are.
-/

namespace SchemaAtlas

/-- What is known of the type of a column is what some mappers resolve the type name of a row to: to nothing if that is not
mapped, and else to the type it is mapped to and the only mapper that keeps that type. -/
def Typing.ResolvedBy (typing : Typing) (mappers : Registry) (mapping : TypeMapping) (row : Value) : Prop :=
  ∃ given resolved, row.field "TYPE_NAME" = .ok given ∧ Field.optional Field.text given = .ok typing.typeName ∧
    ColumnLine.Resolves mappers (Crawl.mappedType mapping given) resolved ∧
    typing.databaseType = resolved.map Prod.fst ∧ typing.mapper = resolved.map Prod.snd

/-- No other mapper takes part. -/
theorem Typing.ResolvedBy.mem {typing : Typing} {mappers : Registry} {mapping : TypeMapping} {row : Value} {m : Mapper}
    (h : typing.ResolvedBy mappers mapping row) (hm : typing.mapper = some m) : m ∈ mappers := by
  obtain ⟨given, resolved, -, -, hresolves, -, hmapper⟩ := h
  rw [hm] at hmapper
  generalize Crawl.mappedType mapping given = mapped at hresolves
  cases hresolves with
  | unmapped => cases hmapper
  | mapped hkeeps =>
    obtain rfl := Option.some.inj hmapper
    exact List.mem_of_mem_filter (hkeeps ▸ List.mem_singleton_self m)

/-- A column that is what its row says is resolved. -/
theorem ColumnLine.Told.resolvedBy {mappers : Registry} {mapping : TypeMapping} {line : ColumnLine} {row : Value}
    (h : line.Told mappers mapping row) : line.facts.typing.ResolvedBy mappers mapping row := by
  obtain ⟨given, hgiven, htext, hresolves⟩ := h.type
  exact ⟨given, line.resolved, hgiven, htext, hresolves, rfl, rfl⟩

namespace Crawl

variable {α : Type} {table : NodeId} {name : Option String} {before between after : Survey Notes}
  {mappers : Registry} {mapping : TypeMapping} {halted : Prop} {fits : Typing → Prop} {lines : List ColumnLine}

/-! ## Columns -/

/-- What is known of the types of new columns fits, but the last node may be a column of which it does not if a step halted;
what was known of other columns stays. -/
structure Types (fits : Typing → Prop) (halted : Prop) (before after : Survey Notes) : Prop where
  size : before.atlas.nodes.size ≤ after.atlas.nodes.size
  mapping : after.notes.mapping = before.notes.mapping
  columns : ∀ id, after.atlas.typing? id = before.atlas.typing? id ∨ before.atlas.nodes.size ≤ id ∧
    (halted ∧ id + 1 = after.atlas.nodes.size ∨ ∃ typing, after.atlas.typing? id = some typing ∧ fits typing)

/-- What spares the types of columns adds none. -/
theorem Types.of_spares (hatlas : before.atlas.SparesTypes after.atlas)
    (hmapping : after.notes.mapping = before.notes.mapping) : Types fits halted before after :=
  ⟨hatlas.size, hmapping, fun id => .inl (hatlas.typing id)⟩

/-- Steps add columns one after the other, as long as they do not halt. -/
theorem Types.trans {stopped : Prop} (hfirst : Types fits stopped before between) (hrunning : ¬stopped)
    (hsecond : Types fits halted between after) : Types fits halted before after where
  size := Nat.le_trans hfirst.size hsecond.size
  mapping := hsecond.mapping.trans hfirst.mapping
  columns id := by
    obtain hsame | ⟨hnew, hhow⟩ := hsecond.columns id
    · rw [hsame]
      refine (hfirst.columns id).imp_right fun hold => ⟨hold.1, .inr (hold.2.resolve_left fun h => hrunning h.1)⟩
    · exact .inr ⟨Nat.le_trans hfirst.size hnew, hhow⟩

/-- More may fit, and a step may halt in more cases. -/
theorem Types.imp {stopped : Prop} {suits : Typing → Prop} (h : Types suits stopped before after)
    (himp : stopped → halted) (hfits : ∀ typing, suits typing → fits typing) : Types fits halted before after :=
  ⟨h.size, h.mapping, fun id => (h.columns id).imp_right fun hnew => ⟨hnew.1, hnew.2.imp
    (fun hlast => ⟨himp hlast.1, hlast.2⟩) fun ⟨typing, htyping, hsuits⟩ => ⟨typing, htyping, hfits typing hsuits⟩⟩⟩

/-- A column that is written shows what is known of its type. -/
theorem Written.typing? {log : List LogEntry} {facts : ColumnFacts} {said : List LogEntry}
    (h : Written before table log name facts said after) (id : NodeId) :
    after.atlas.typing? id =
      if id = before.atlas.nodes.size then some facts.typing else before.atlas.typing? id := by
  rw [h.planted.atlas, Atlas.typing?_plant before.atlas _ _ h.planted.lt]
  rfl

/-- It is one more node. -/
theorem Written.size {log : List LogEntry} {facts : ColumnFacts} {said : List LogEntry}
    (h : Written before table log name facts said after) :
    after.atlas.nodes.size = before.atlas.nodes.size + 1 := by
  rw [h.planted.atlas, Atlas.size_plant]

/-- A column that is written adds what is known of its type. -/
theorem Types.of_written {log said : List LogEntry} {facts : ColumnFacts}
    (h : Written before table log name facts said after) (hfits : fits facts.typing) :
    Types fits halted before after where
  size := by rw [h.size]; exact Nat.le_succ _
  mapping := h.planted.mapping
  columns id := by
    rw [h.typing? id]
    split
    · rename_i hid
      exact .inr ⟨Nat.le_of_eq hid.symm, .inr ⟨_, rfl, hfits⟩⟩
    · exact .inl rfl

/-- A column that is filled in part is the last node of a step that halted. -/
theorem Types.of_halfWritten {log : List LogEntry} (h : HalfWritten before table log after) (hhalted : halted) :
    Types fits halted before after := by
  obtain ⟨name, facts, said, h⟩ := h
  refine ⟨by rw [h.size]; exact Nat.le_succ _, h.planted.mapping, fun id => ?_⟩
  rw [h.typing? id]
  split
  · rename_i hid
    exact .inr ⟨Nat.le_of_eq hid.symm, .inl ⟨hhalted, by rw [h.size, hid]⟩⟩
  · exact .inl rfl

/-- Columns that are written one after the other add what is known of their types. -/
theorem Types.of_wrote (h : Wrote table name lines before after) (hfits : ∀ line ∈ lines, fits line.facts.typing) :
    Types fits halted before after := by
  induction h with
  | none => exact .of_spares (Std.Refl.refl _) rfl
  | more hline _ ih =>
    have hfirst : Types fits False _ _ := .of_written hline (hfits _ List.mem_cons_self)
    exact hfirst.trans not_false (ih fun line hmem => hfits line (List.mem_cons_of_mem _ hmem))

/-! ## Rows -/

/-- A row says something of a column. -/
def Understood (mappers : Registry) (mapping : TypeMapping) (row : Row) : Prop :=
  ∃ v line, row = .ok v ∧ ColumnLine.Told mappers mapping line v

/-- A row is read exactly if it says something of a column. -/
theorem ofRow_eq_ok_iff {row : Row} {line : ColumnLine} : ColumnLine.ofRow mappers mapping row = .ok line ↔
    ∃ v, row = .ok v ∧ line.Told mappers mapping v := by
  simp only [ColumnLine.ofRow, ColumnLine.bind_eq_ok_iff, ColumnLine.read_eq_ok_iff]

/-- A row would say something of a column by other mappers, but the type that its type name is mapped to has not exactly
one mapper. -/
structure Wants (mappers : Registry) (mapping : TypeMapping) (row : Row) (t : TypeName) : Prop where
  told : ∃ v line others, row = .ok v ∧ ColumnLine.Told others mapping line v ∧
    ∃ given, v.field "TYPE_NAME" = .ok given ∧ mappedType mapping given = some t
  count : (mappers.filter (Mapper.keeps t)).length ≠ 1

/-- A type that has not exactly one mapper is told to have some other number of them. -/
theorem identityFor_of_count {t : TypeName} (h : (mappers.filter (Mapper.keeps t)).length ≠ 1) :
    mappers.identityFor t = .error (Registry.notUnique (mappers.filter (Mapper.keeps t)).length t) := by
  unfold Registry.identityFor
  split
  · rename_i m hone
    exact absurd (by rw [hone]; rfl) h
  · rfl

/-- A row that wants a mapper for a type is read up to that, and stops. -/
theorem ofRow_of_wants {row : Row} {t : TypeName} (h : Wants mappers mapping row t) :
    ColumnLine.ofRow mappers mapping row =
      .error (Registry.notUnique (mappers.filter (Mapper.keeps t)).length t) := by
  obtain ⟨⟨v, line, others, rfl, htold, given, hgiven, hmapped⟩, hcount⟩ := h
  obtain ⟨name, hname, hnamed⟩ := htold.name
  obtain ⟨position, hposition, hpositioned⟩ := htold.position
  obtain ⟨code, hcode, hnullable⟩ := htold.nullable
  obtain ⟨typed, htyped, htext, -⟩ := htold.type
  obtain ⟨shown, hshown, hsize⟩ := htold.size
  obtain ⟨scale, hscale, hdigits⟩ := htold.digits
  obtain rfl : typed = given := Except.ok.inj (htyped.symm.trans hgiven)
  rw [← ColumnLine.nullableOfCode_eq_ok_iff] at hnullable
  change ColumnLine.read mappers mapping v = _
  simp only [ColumnLine.read, ColumnLine.taken, hname, hnamed, hposition, hpositioned, hcode, hnullable, hgiven, htext,
    hshown, hsize, hscale, hdigits, hmapped, ColumnLine.resolution, identityFor_of_count hcount, bind, Except.bind,
    Except.map]

/-- What takes no columns refuses one. -/
theorem add_refused (h : ¬before.atlas.TakesColumns table) :
    ∃ f, Survey.add table .column before = (.error f, before) := by
  cases hadd : before.atlas.add table .column with
  | error f => exact ⟨f, by simp [Survey.add, Keeping.bind_apply, hadd]⟩
  | ok result =>
    obtain ⟨node, hnode, hkind, hfrozen, -⟩ := (Atlas.add_eq_ok_iff before.atlas table .column result).mp hadd
    refine absurd ⟨node.name, node, hnode, rfl, ?_, hfrozen⟩ h
    rw [Node.kind] at hkind
    cases hcontent : node.content <;> rw [hcontent] at hkind <;> first | rfl | cases hkind

/-- Some rows are understood, and the next one wants a mapper for a type. -/
def WantsNext (mappers : Registry) (mapping : TypeMapping) (rows : List Row) (t : TypeName) : Prop :=
  ∃ done row rest, rows = done ++ row :: rest ∧ (∀ row ∈ done, Understood mappers mapping row) ∧
    Wants mappers mapping row t

/-- Rows of which one wants a mapper are read up to that one, and stop. -/
theorem mapM_of_wantsNext {rows : List Row} {t : TypeName} (h : WantsNext mappers mapping rows t) :
    rows.mapM (ColumnLine.ofRow mappers mapping) =
      .error (Registry.notUnique (mappers.filter (Mapper.keeps t)).length t) := by
  obtain ⟨done, row, rest, hrows, hdone, hwants⟩ := h
  have hlines : ∀ row ∈ done, ∃ line, ColumnLine.ofRow mappers mapping row = .ok line := by
    intro row hrow
    obtain ⟨v, line, hv, hline⟩ := hdone row hrow
    exact ⟨line, ofRow_eq_ok_iff.mpr ⟨v, hv, hline⟩⟩
  obtain ⟨lines, hlines⟩ := exists_forall₂ hlines
  exact mapM_of_stops ⟨done, rest, hrows, hlines, ofRow_of_wants hwants⟩

/-- One of some rows says what is known of the type of a column. -/
def Shown (mappers : Registry) (mapping : TypeMapping) (rows : List Row) (typing : Typing) : Prop :=
  ∃ v, .ok v ∈ rows ∧ typing.ResolvedBy mappers mapping v

/-- What comes of the rows of columns of a table. -/
structure Reads (mappers : Registry) (rows : List Row) (table : NodeId) (before : Survey Notes)
    (outcome : Except Failure α) (after : Survey Notes) : Prop where
  /-- New columns are resolved as rows say. -/
  types : Types (Shown mappers before.notes.mapping rows) (outcome.isOk = false) before after
  /-- Rows that are read to their end are all understood. -/
  understood : outcome.isOk = true → ∀ row ∈ rows, Understood mappers before.notes.mapping row
  /-- A row that wants a mapper is one to stop at. -/
  wants : before.atlas.TakesColumns table → ∀ t, WantsNext mappers before.notes.mapping rows t →
    outcome = .error (Registry.notUnique (mappers.filter (Mapper.keeps t)).length t)

/-- Rows that are not read leave everything as it is. -/
theorem Reads.of_error {rows : List Row} {f : Failure} (h : ¬before.atlas.TakesColumns table) :
    Reads mappers rows table before (.error f : Except Failure α) before :=
  ⟨.of_spares (Std.Refl.refl _) rfl, nofun, fun hopen => absurd hopen h⟩

/-- Rows of columns are read into columns that are resolved. -/
theorem columnRows_reads (plan : Plan) (table : NodeId) (rows : List Row) (before : Survey Notes) (count : Nat) :
    Reads plan.mappers rows table before ((columnRows plan table).rows count rows before).1
      ((columnRows plan table).rows count rows before).2 := by
  have hshown {done : List Row} {lines : List ColumnLine} (hrows : done ⊆ rows)
      (hlines : List.Forall₂ (fun row line => ColumnLine.ofRow plan.mappers before.notes.mapping row = .ok line) done
        lines) : ∀ line ∈ lines, Shown plan.mappers before.notes.mapping rows line.facts.typing := by
    refine Atlas.forall_of_forall₂ hlines.flip fun line row hrow hline => ?_
    obtain ⟨v, rfl, htold⟩ := ofRow_eq_ok_iff.mp hline
    exact ⟨v, hrows hrow, htold.resolvedBy⟩
  by_cases hopen : before.atlas.TakesColumns table
  · obtain ⟨name, htable⟩ := hopen
    have hends := columnRows_ends plan rows htable count
    cases hall : rows.mapM (ColumnLine.ofRow plan.mappers before.notes.mapping) with
    | ok lines =>
      rw [hall] at hends
      obtain ⟨total, after, hrun, hwrote⟩ := hends
      have hlines := mapM_eq_ok_iff.mp hall
      rw [hrun]
      refine ⟨.of_wrote hwrote (hshown (List.Subset.refl rows) hlines), fun _ => ?_, fun _ t h => ?_⟩
      · refine Atlas.forall_of_forall₂ hlines fun row line _ hrow => ?_
        obtain ⟨v, hv, htold⟩ := ofRow_eq_ok_iff.mp hrow
        exact ⟨v, line, hv, htold⟩
      · cases hall.symm.trans (mapM_of_wantsNext h)
    | error f =>
      rw [hall] at hends
      obtain ⟨after, hrun, lines, row, g, between, ⟨done, rest, hrows, hdone, -⟩, hwrote, hlast⟩ := hends
      have hfirst : Types (Shown plan.mappers before.notes.mapping rows) False before between :=
        .of_wrote hwrote (hshown (by simp [hrows]) hdone)
      rw [hrun]
      refine ⟨?_, nofun, fun _ t h => congrArg _ (Except.error.inj (hall.symm.trans (mapM_of_wantsNext h)))⟩
      cases row with
      | ok v => exact hfirst.trans not_false (.of_halfWritten hlast rfl)
      | error _ =>
        obtain rfl : after = between := hlast
        exact hfirst.imp False.elim fun _ => id
  · -- A table that takes no columns refuses the first row that can be reached, whatever it says.
    cases rows with
    | nil => exact ⟨.of_spares (Std.Refl.refl _) rfl, fun _ => nofun, fun h => absurd h hopen⟩
    | cons row rows =>
      cases row with
      | error f => exact .of_error hopen
      | ok row =>
        obtain ⟨f, hadd⟩ := add_refused hopen
        have hrun : (columnRows plan table).rows count (.ok row :: rows) before = (.error f, before) :=
          Keeping.bind_of_error (t := before) (f := f) hadd _
        rw [hrun]
        exact .of_error hopen

/-- So are rows whose listing is opened before and closed behind them. -/
theorem Reads.listed {rows : List Row} {outcome : Except Failure α} {call : Call}
    (h : Reads mappers rows table (Survey.opened call before) outcome after) :
    Reads mappers rows table before outcome (Survey.closed call after) :=
  ⟨⟨h.types.size, h.types.mapping, h.types.columns⟩, h.understood, h.wants⟩

end Crawl

end SchemaAtlas
