import Mathlib.Data.List.Forall2
import SchemaAtlas.Session.Batch

/-!
# The keys that replies stand for

Which keys a reply generates is told here without the reading that gathers them: the integers of the
first columns of all returned rows that stand for keys, or the last row of an insertion that added exactly
one. Reading a reply succeeds with these keys and no others; it fails if a row fails, is empty, or stands
for a key that is no integer.
-/

namespace SchemaAtlas

/-- The failures that a reply raises. -/
def Reply.raises : Reply → Failure → Prop
  | .refused f, g => f = g
  | .rows returned _, g => Except.error g ∈ returned
  | .changed .., _ => False

namespace Batch

/-- Whether a value in the first column of a returned row stands for a key. -/
def isKey (policy : Policy) (v : Value) : Bool :=
  !v.isNull && !isRowIdentifier policy v

/-- The keys that a reply to a statement stands for: the integers of the first columns of all returned
rows, row identifiers and absent values left out; without rows, the last row of an insertion that added
exactly one. -/
def Yields (policy : Policy) (s : Statement) : Reply → List Int → Prop
  | .refused _, _ => False
  | .rows rows _, keys => ∃ tuples : List (Value × List Value),
      rows = tuples.map (fun tuple => .ok (tuple.1 :: tuple.2)) ∧
        List.Forall₂ (fun v key => v.toInteger = .ok key) ((tuples.map Prod.fst).filter (isKey policy)) keys
  | .changed lastRow count, keys =>
    if s.isInsert ∧ count.equalsInteger 1 ∧ lastRow.isTrue then
      ∃ key, lastRow.toInteger = .ok key ∧ keys = [key]
    else keys = []

/-- No rows stand for no keys. -/
theorem yields_nil (policy : Policy) (s : Statement) (count : Value) (keys : List Int) :
    Yields policy s (.rows [] count) keys ↔ keys = [] := by
  constructor
  · rintro ⟨tuples, hrows, hkeys⟩
    have htuples : tuples = [] := by simpa using hrows.symm
    subst htuples
    exact List.forall₂_nil_left_iff.mp hkeys
  · rintro rfl
    exact ⟨[], rfl, List.Forall₂.nil⟩

/-- A row that stands for a key adds its integer, any other row adds nothing. -/
theorem yields_cons (policy : Policy) (s : Statement) (count v : Value) (others : List Value)
    (rest : List (Except Failure (List Value))) (keys : List Int) :
    Yields policy s (.rows (.ok (v :: others) :: rest) count) keys ↔
      if isKey policy v then
        ∃ key more, v.toInteger = .ok key ∧ Yields policy s (.rows rest count) more ∧ keys = key :: more
      else Yields policy s (.rows rest count) keys := by
  constructor
  · rintro ⟨tuples, hrows, hkeys⟩
    cases tuples with
    | nil => simp at hrows
    | cons tuple tuples =>
      simp only [List.map_cons, List.cons.injEq, Except.ok.injEq] at hrows
      obtain ⟨⟨rfl, rfl⟩, hrest⟩ := hrows
      by_cases hkey : isKey policy tuple.1 = true
      · simp only [List.map_cons, List.filter_cons, hkey, if_true] at hkeys ⊢
        obtain ⟨key, more, hfirst, hmore, rfl⟩ := List.forall₂_cons_left_iff.mp hkeys
        exact ⟨key, more, hfirst, ⟨tuples, hrest, hmore⟩, rfl⟩
      · rw [List.map_cons, List.filter_cons_of_neg hkey] at hkeys
        rw [if_neg hkey]
        exact ⟨tuples, hrest, hkeys⟩
  · intro h
    by_cases hkey : isKey policy v = true
    · simp only [hkey, if_true] at h
      obtain ⟨key, more, hfirst, ⟨tuples, rfl, hmore⟩, rfl⟩ := h
      refine ⟨(v, others) :: tuples, rfl, ?_⟩
      rw [List.map_cons, List.filter_cons_of_pos hkey]
      exact List.Forall₂.cons hfirst hmore
    · rw [if_neg hkey] at h
      obtain ⟨tuples, rfl, hmore⟩ := h
      refine ⟨(v, others) :: tuples, rfl, ?_⟩
      rw [List.map_cons, List.filter_cons_of_neg hkey]
      exact hmore

/-- Rows of which one fails stand for no keys at all. -/
theorem not_yields_error (policy : Policy) (s : Statement) (count : Value) (f : Failure)
    (rest : List (Except Failure (List Value))) (keys : List Int) :
    ¬Yields policy s (.rows (.error f :: rest) count) keys := by
  rintro ⟨tuples, hrows, -⟩
  cases tuples <;> simp at hrows

/-- Nor do rows of which one is empty. -/
theorem not_yields_empty (policy : Policy) (s : Statement) (count : Value)
    (rest : List (Except Failure (List Value))) (keys : List Int) :
    ¬Yields policy s (.rows (.ok [] :: rest) count) keys := by
  rintro ⟨tuples, hrows, -⟩
  cases tuples <;> simp at hrows

/-- A row has no key if its first column stands for none. -/
theorem keyOfRow_of_not_isKey {policy : Policy} (s : Statement) {v : Value} (others : List Value)
    (h : isKey policy v = false) : keyOfRow policy s (v :: others) = .ok none := by
  have hskip : (v.isNull || isRowIdentifier policy v) = true := by
    cases hnull : v.isNull <;> simp_all [isKey]
  simp [keyOfRow, hskip]

/-- Otherwise the row has the integer of its first column as its key. -/
theorem keyOfRow_of_isKey {policy : Policy} (s : Statement) {v : Value} (others : List Value)
    (h : isKey policy v = true) {key : Int} (hv : v.toInteger = .ok key) :
    keyOfRow policy s (v :: others) = .ok (some key) := by
  have hkeep : (v.isNull || isRowIdentifier policy v) = false := by
    simpa [isKey] using h
  simp [keyOfRow, hkeep, hv]

/-- Whatever is no integer was misused as one. -/
theorem toInteger_eq_error {v : Value} {f : Failure} (h : v.toInteger = .error f) :
    ∃ kind arguments, f = .fault kind arguments := by
  unfold Value.toInteger at h
  split at h
  all_goals first
    | exact ⟨_, _, (Except.error.inj h).symm⟩
    | (split at h <;> first
        | exact ⟨_, _, (Except.error.inj h).symm⟩
        | cases h)
    | cases h

/-- A row whose first column should be an integer, and is none, fails: with the fault itself, or with a
failure of this library raised for it. -/
theorem keyOfRow_of_error {policy : Policy} (s : Statement) {v : Value} (others : List Value)
    (h : isKey policy v = true) {f : Failure} (hv : v.toInteger = .error f) :
    keyOfRow policy s (v :: others) = .error f ∨
      keyOfRow policy s (v :: others) = .error (notAnInteger s v f) := by
  have hkeep : (v.isNull || isRowIdentifier policy v) = false := by
    simpa [isKey] using h
  obtain ⟨kind, arguments, rfl⟩ := toInteger_eq_error hv
  cases kind <;> simp [keyOfRow, hkeep, hv]

/-- Reading returned rows succeeds with exactly the keys they stand for. -/
theorem keysOfRows_eq_ok_iff (policy : Policy) (s : Statement) (count : Value)
    (rows : List (Except Failure (List Value))) (keys : List Int) :
    keysOfRows policy s rows = (keys, .ok ()) ↔ Yields policy s (.rows rows count) keys := by
  induction rows generalizing keys with
  | nil => simp [keysOfRows, yields_nil, eq_comm]
  | cons row rest ih =>
    match row with
    | .error f => simp [keysOfRows, not_yields_error]
    | .ok [] => simp [keysOfRows, keyOfRow, not_yields_empty]
    | .ok (v :: others) =>
      rw [yields_cons]
      by_cases hkey : isKey policy v = true
      · cases hv : v.toInteger with
        | error f =>
          rcases keyOfRow_of_error s others hkey hv with hg | hg <;> simp [keysOfRows, hg, hkey]
        | ok key =>
          simp only [keysOfRows, keyOfRow_of_isKey s others hkey hv, hkey, if_true, Prod.mk.injEq]
          constructor
          · rintro ⟨rfl, hrest⟩
            exact ⟨key, _, rfl, (ih _).mp (Prod.ext rfl hrest), rfl⟩
          · rintro ⟨_, more, hk, hmore, rfl⟩
            obtain rfl := Except.ok.inj hk
            simp [(ih more).mpr hmore]
      · simp only [Bool.not_eq_true] at hkey
        simp [keysOfRows, keyOfRow_of_not_isKey s others hkey, hkey, ← ih, Prod.ext_iff]

/-- Reading a reply succeeds with exactly the keys it stands for. -/
theorem keysOfReply_eq_ok_iff (policy : Policy) (s : Statement) (reply : Reply) (keys : List Int) :
    keysOfReply policy s reply = (keys, .ok ()) ↔ Yields policy s reply keys := by
  cases reply with
  | refused f => simp [keysOfReply, Yields]
  | rows rows count => exact keysOfRows_eq_ok_iff policy s count rows keys
  | changed lastRow count =>
    simp only [keysOfReply, Yields]
    by_cases hcounts : s.isInsert = true ∧ count.equalsInteger 1 = true ∧ lastRow.isTrue = true
    · cases hlast : lastRow.toInteger <;> simp [hcounts, eq_comm]
    · have hskip : (s.isInsert && count.equalsInteger 1 && lastRow.isTrue) = false := by
        simpa [and_assoc] using hcounts
      rw [if_neg hcounts]
      simp only [hskip, Bool.false_eq_true, if_false, Prod.mk.injEq, and_true]
      exact eq_comm

/-! ## Failures of gathering keys -/

/-- The failures of gathering keys that no reply raises: a value was misused, or a key is no integer. -/
def IsHarvestFault (f : Failure) : Prop :=
  (∃ kind arguments, f = .fault kind arguments) ∨ ∃ s key g, f = notAnInteger s key g

/-- Gathering keys fails with what the reply raises or with a fault of its own. -/
theorem keysOfReply_eq_error {policy : Policy} {s : Statement} {reply : Reply} {f : Failure}
    (h : (keysOfReply policy s reply).2 = .error f) : reply.raises f ∨ IsHarvestFault f := by
  cases reply with
  | refused g => exact .inl (Except.error.inj h)
  | changed lastRow count =>
    simp only [keysOfReply] at h
    split at h
    · cases hlast : lastRow.toInteger with
      | ok key => simp [hlast] at h
      | error g =>
        obtain rfl : g = f := by simpa [hlast] using h
        exact .inr (.inl (toInteger_eq_error hlast))
    · simp at h
  | rows returned count =>
    change (keysOfRows policy s returned).2 = .error f at h
    induction returned with
    | nil => simp [keysOfRows] at h
    | cons row rest ih =>
      match row with
      | .error g =>
        obtain rfl : g = f := by simpa [keysOfRows] using h
        exact .inl List.mem_cons_self
      | .ok [] =>
        obtain rfl : Failure.faultText .outOfRange "tuple index out of range" = f := by
          simpa [keysOfRows, keyOfRow] using h
        exact .inr (.inl ⟨_, _, rfl⟩)
      | .ok (v :: others) =>
        have hrest (key : Option Int) (hkey : keyOfRow policy s (v :: others) = .ok key) :
            Reply.raises (.rows (.ok (v :: others) :: rest) count) f ∨ IsHarvestFault f :=
          (ih (by simpa [keysOfRows, hkey] using h)).imp_left fun hmem => List.mem_cons_of_mem _ hmem
        by_cases hkey : isKey policy v = true
        · cases hv : v.toInteger with
          | ok key => exact hrest _ (keyOfRow_of_isKey s others hkey hv)
          | error g =>
            rcases keyOfRow_of_error s others hkey hv with hg | hg
            · obtain rfl : g = f := by simpa [keysOfRows, hg] using h
              exact .inr (.inl (toInteger_eq_error hv))
            · obtain rfl : notAnInteger s v g = f := by simpa [keysOfRows, hg] using h
              exact .inr (.inr ⟨s, v, g, rfl⟩)
        · exact hrest _ (keyOfRow_of_not_isKey s others (by simpa using hkey))

/-! ## The keys of a batch -/

/-- The keys that statements generate, each on the reply it gets. -/
def Harvests (policy : Policy) : List Statement → List Reply → List (List Int) → Prop
  | [], _, keys => keys = []
  | _ :: _, [], _ => False
  | s :: rest, reply :: replies, keys =>
    ∃ own others, Yields policy s reply own ∧ Harvests policy rest replies others ∧ keys = own :: others

/-- Every statement has its keys. -/
theorem harvests_length {policy : Policy} {statements : List Statement} {replies : List Reply}
    {keys : List (List Int)} (h : Harvests policy statements replies keys) :
    keys.length = statements.length := by
  induction statements generalizing replies keys with
  | nil =>
    cases h
    rfl
  | cons s rest ih =>
    cases replies with
    | nil => exact h.elim
    | cons reply replies =>
      obtain ⟨own, others, -, hrest, rfl⟩ := h
      simp [ih hrest]

namespace Keys

/-- Adds keys statement by statement. -/
def addAll (keys : Keys) (harvest : List (StatementId × List Int)) : Keys :=
  harvest.foldl (fun keys entry => keys.add entry.1 entry.2) keys

/-- Adding keys makes no statement known. -/
@[simp] theorem length_add (keys : Keys) (id : StatementId) (more : List Int) :
    (keys.add id more).length = keys.length := by
  simp [add]

/-- Forgetting keys makes no statement unknown. -/
@[simp] theorem length_clear (keys : Keys) (ids : List StatementId) :
    (keys.clear ids).length = keys.length := by
  induction ids generalizing keys with
  | nil => rfl
  | cons id rest ih =>
    change (clear (keys.modify id fun _ => []) rest).length = _
    rw [ih, List.length_modify]

/-- Added keys stand behind those of their statement and nowhere else. -/
theorem of_add (keys : Keys) (id other : StatementId) (more : List Int) :
    (keys.add id more).of other =
      if id = other ∧ id < keys.length then keys.of other ++ more else keys.of other := by
  simp only [add, of, List.getD_eq_getElem?_getD, List.getElem?_modify]
  by_cases hid : id = other
  · subst hid
    by_cases hlt : id < keys.length <;> simp [hlt]
  · simp [hid]

/-- Forgetting the keys of one statement leaves those of the others. -/
theorem of_forget (keys : Keys) (id other : StatementId) :
    of (keys.modify id fun _ => []) other = if id = other then [] else keys.of other := by
  simp only [of, List.getD_eq_getElem?_getD, List.getElem?_modify]
  by_cases hid : id = other
  · cases hget : keys[other]? <;> simp [hid]
  · simp [hid]

/-- Forgotten statements have no keys, the others keep theirs. -/
theorem of_clear (keys : Keys) (ids : List StatementId) (id : StatementId) :
    (keys.clear ids).of id = if id ∈ ids then [] else keys.of id := by
  induction ids generalizing keys with
  | nil => rfl
  | cons first rest ih =>
    change (clear (keys.modify first fun _ => []) rest).of id = _
    rw [ih, of_forget]
    by_cases hfirst : first = id
    · by_cases hrest : id ∈ rest <;> simp [hfirst, hrest]
    · have hne : ¬id = first := fun h => hfirst h.symm
      simp [hfirst, hne]

/-- Statements that add nothing keep their keys. -/
theorem of_addAll_of_not_mem (keys : Keys) {harvest : List (StatementId × List Int)} {id : StatementId}
    (h : id ∉ harvest.map Prod.fst) : (keys.addAll harvest).of id = keys.of id := by
  induction harvest generalizing keys with
  | nil => rfl
  | cons entry rest ih =>
    simp only [List.map_cons, List.mem_cons, not_or] at h
    change (addAll (keys.add entry.1 entry.2) rest).of id = _
    rw [ih _ h.2, of_add, if_neg fun hid => h.1 hid.1.symm]

/-- Statements that had no keys, and add some once each, have exactly those. -/
theorem map_of_addAll (keys : Keys) {harvest : List (StatementId × List Int)}
    (hdistinct : (harvest.map Prod.fst).Nodup) (hknown : ∀ id ∈ harvest.map Prod.fst, id < keys.length)
    (hempty : ∀ id ∈ harvest.map Prod.fst, keys.of id = []) :
    (harvest.map Prod.fst).map (fun id => (id, (keys.addAll harvest).of id)) = harvest := by
  induction harvest generalizing keys with
  | nil => rfl
  | cons entry rest ih =>
    obtain ⟨id, own⟩ := entry
    simp only [List.map_cons, List.nodup_cons, List.mem_cons, forall_eq_or_imp] at hdistinct hknown hempty
    obtain ⟨hfresh, hdistinct⟩ := hdistinct
    have hothers : ∀ other ∈ rest.map Prod.fst, (keys.add id own).of other = [] := by
      intro other hother
      have hne : ¬(id = other ∧ id < keys.length) := fun hid => hfresh (hid.1 ▸ hother)
      rw [of_add, if_neg hne]
      exact hempty.2 other hother
    have hown : (addAll (keys.add id own) rest).of id = own := by
      rw [of_addAll_of_not_mem _ hfresh, of_add, if_pos ⟨rfl, hknown.1⟩, hempty.1, List.nil_append]
    change (id, (addAll (keys.add id own) rest).of id) :: (rest.map Prod.fst).map
      (fun other => (other, (addAll (keys.add id own) rest).of other)) = _
    rw [hown, ih _ hdistinct (by simpa using hknown.2) hothers]

end Keys

end Batch

end SchemaAtlas
