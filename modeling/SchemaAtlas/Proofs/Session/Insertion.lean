import SchemaAtlas.Proofs.Session.Exactness
import SchemaAtlas.Proofs.Sql.Noise
import SchemaAtlas.Proofs.Text.Capitals

/-!
# Insertions behind noise

The reading path and the writing path both look for the first word of a statement, and pass over different things
ahead of it. The guard of the reading path passes over noise of every kind; an insertion is only recognised behind
white space. So a comment ahead of an insertion leaves the verdict of the guard and the keys of returned rows as
they are, but the key that the last row of the insertion stands for is not gathered, and the consumer of the
statement is told that there is none.
-/

namespace SchemaAtlas

/-- The statement with tokens ahead of its text. -/
def Statement.behind (tokens : List (List Char)) (s : Statement) : Statement :=
  { s with statement := String.ofList tokens.flatten ++ s.statement }

namespace Batch

/-- Every character of a text is white space. -/
def IsWhite (cs : List Char) : Prop :=
  ∀ c ∈ cs, Text.isBlank c = true

instance (cs : List Char) : Decidable (IsWhite cs) :=
  List.decidableBAll _ cs

/-- The upper form of a text starts as an insertion does. -/
def StartsInsertion (cs : List Char) : Prop :=
  "INSERT".toList <+: Text.upperChars cs

/-! ## What is recognised as an insertion -/

/-- White space is noise in front of any text. -/
theorem IsWhite.isNoise {cs : List Char} (h : IsWhite cs) (rest : List Char) : Sql.IsNoise cs rest := by
  induction cs with
  | nil => exact .nil rest
  | cons c cs ih =>
    obtain ⟨hblank, hrest⟩ := List.forall_mem_cons.mp h
    have htoken : Sql.IsToken [c] (cs ++ rest) := .closed _ (.blank hblank)
    exact .cons htoken (ih hrest)

/-- A text that starts as an insertion does starts with no noise token. -/
theorem StartsInsertion.bare {cs : List Char} (h : StartsInsertion cs)
    (hhead : ∀ c ∈ cs.head?, Text.isBlank c = false) : Sql.afterToken cs = none := by
  cases cs with
  | nil => rfl
  | cons c rest =>
    obtain ⟨letter, letters, hform⟩ := List.exists_cons_of_ne_nil (Text.upperChar_ne_nil c)
    have hletter : 'I' = letter := by
      rw [StartsInsertion, Text.upperChars, List.flatMap_cons, hform] at h
      exact (List.cons_prefix_cons.mp h).1
    -- The signs that start the other tokens are plain, and their own upper forms.
    have hsign (sign : Char) (hplain : sign.toNat < 128) (hother : sign.toUpper ≠ 'I') : c ≠ sign := by
      rintro rfl
      rw [Text.upperChar_of_plain hplain, ← hletter] at hform
      exact hother (List.cons.inj hform).1
    have hopening : c ≠ '(' := hsign '(' (by decide) (by decide)
    have hminus : c ≠ '-' := hsign '-' (by decide) (by decide)
    have hslash : c ≠ '/' := hsign '/' (by decide) (by decide)
    rw [Sql.afterToken.eq_4 c rest hopening (fun _ hc => absurd hc hminus) (fun _ hc => absurd hc hslash),
      hhead c rfl]
    rfl

/-- Noise in front of noise is noise. -/
theorem isNoise_append {front back rest : List Char} (hfront : Sql.IsNoise front (back ++ rest))
    (hback : Sql.IsNoise back rest) : Sql.IsNoise (front ++ back) rest := by
  generalize htext : back ++ rest = text at hfront
  induction hfront with
  | nil => exact hback
  | cons htoken _ ih =>
    subst htext
    rw [List.append_assoc]
    exact .cons (by rwa [List.append_assoc]) (ih rfl)

/-- A text that starts with no noise token starts with no white space. -/
theorem dropBlanks_of_bare {cs : List Char} (h : Sql.afterToken cs = none) : Text.dropBlanks cs = cs := by
  cases cs with
  | nil => rfl
  | cons c rest =>
    refine List.dropWhile_cons_of_neg fun hblank => ?_
    exact Sql.afterToken_eq_none_iff.mp h [c] rest rfl (.closed _ (.blank hblank))

/-- An insertion is recognised exactly if what stands behind its noise starts as one does and the noise is white
space. -/
theorem isInsert_iff {s : Statement} {noise rest : List Char} (htext : s.statement.toList = noise ++ rest)
    (hnoise : Sql.IsNoise noise rest) (hbare : Sql.afterToken rest = none) :
    s.isInsert = true ↔ StartsInsertion rest ∧ IsWhite noise := by
  rw [Statement.isInsert, List.isPrefixOf_iff_prefix, htext]
  constructor
  · intro h
    -- What stands behind the white space starts with no token, so it is what stands behind the noise.
    have hfirst := StartsInsertion.bare h fun c hc => by
      obtain ⟨behind, hbehind⟩ := List.head?_eq_some_iff.mp hc
      exact Text.dropBlanks_head hbehind
    have hwhite : IsWhite ((noise ++ rest).takeWhile Text.isBlank) := List.all_eq_true.mp List.all_takeWhile
    have hsplit : (noise ++ rest).takeWhile Text.isBlank ++ Text.dropBlanks (noise ++ rest) = noise ++ rest :=
      List.takeWhile_append_dropWhile
    have hsame : Text.dropBlanks (noise ++ rest) = rest := by
      have hdropped := congrArg Sql.dropNoise hsplit
      rwa [Sql.dropNoise_append (hwhite.isNoise _), Sql.dropNoise_of_bare hfirst, Sql.dropNoise_append hnoise,
        Sql.dropNoise_of_bare hbare] at hdropped
    rw [hsame] at h hsplit
    exact ⟨h, List.append_cancel_right hsplit ▸ hwhite⟩
  · rintro ⟨hstarts, hwhite⟩
    rwa [Text.dropBlanks, List.dropWhile_append_of_pos hwhite, ← Text.dropBlanks, dropBlanks_of_bare hbare]

/-- Behind tokens, an insertion is recognised exactly if it is without them and they are white space. -/
theorem isInsert_behind {tokens : List (List Char)} (htokens : ∀ token ∈ tokens, Sql.IsClosedToken token)
    (s : Statement) : (s.behind tokens).isInsert = true ↔ s.isInsert = true ∧ IsWhite tokens.flatten := by
  obtain ⟨noise, htext, hnoise⟩ := Sql.exists_isNoise s.statement.toList
  have hbare := Sql.afterToken_dropNoise s.statement.toList
  generalize Sql.dropNoise s.statement.toList = rest at htext hnoise hbare
  have hbehind : (s.behind tokens).statement.toList = (tokens.flatten ++ noise) ++ rest := by
    rw [Statement.behind, String.toList_append, String.toList_ofList, htext, List.append_assoc]
  rw [isInsert_iff htext hnoise hbare,
    isInsert_iff hbehind (isNoise_append (Sql.isNoise_flatten htokens _) hnoise) hbare]
  simp only [IsWhite, List.forall_mem_append]
  tauto

/-! ## The keys of a statement behind tokens -/

/-- The keys that a reply to a statement behind tokens stands for: those of the statement, unless the reply is
without rows and a token is no white space; then there are none. -/
def YieldsBehind (policy : Policy) (tokens : List (List Char)) (s : Statement) : Reply → List Int → Prop
  | .changed lastRow count, keys =>
    if IsWhite tokens.flatten then Yields policy s (.changed lastRow count) keys else keys = []
  | reply, keys => Yields policy s reply keys

/-- What a reply to a statement behind tokens stands for is told from the statement. -/
theorem yields_behind_iff (policy : Policy) {tokens : List (List Char)}
    (htokens : ∀ token ∈ tokens, Sql.IsClosedToken token) (s : Statement) (reply : Reply) (keys : List Int) :
    Yields policy (s.behind tokens) reply keys ↔ YieldsBehind policy tokens s reply keys := by
  cases reply with
  | refused f => exact Iff.rfl
  | rows rows count => exact Iff.rfl
  | changed lastRow count =>
    by_cases hwhite : IsWhite tokens.flatten
    · simp [Yields, YieldsBehind, isInsert_behind htokens, hwhite]
    · simp [Yields, YieldsBehind, isInsert_behind htokens, hwhite]

/-- A reply without rows adds no key, and no failure, exactly if it does not tell of a row that an insertion
added. -/
theorem keysOfReply_eq_nil_iff (policy : Policy) (s : Statement) (lastRow count : Value) :
    keysOfReply policy s (.changed lastRow count) = ([], .ok ()) ↔
      ¬(s.isInsert = true ∧ count.equalsInteger 1 = true ∧ lastRow.isTrue = true) := by
  rw [keysOfReply_eq_ok_iff]
  simp [Yields]

/-- A statement behind tokens that end by themselves. The guard of the reading path judges it as it judges the
statement, but an insertion is recognised behind white space only: reading a reply without rows comes to the same
exactly if the tokens are white space or the reply stands for no key, and otherwise it yields nothing. -/
structure ReadBehind (policy : Policy) (tokens : List (List Char)) (s : Statement) : Prop where
  guarded : Sql.checkReading (s.behind tokens).statement = Sql.checkReading s.statement
  recognised : (s.behind tokens).isInsert = true ↔ s.isInsert = true ∧ IsWhite tokens.flatten
  /-- Noise that the statement has ahead of its first word already is no different. -/
  spelled : ∀ noise rest, s.statement.toList = noise ++ rest → Sql.IsNoise noise rest →
    (∀ token behind, rest = token ++ behind → ¬Sql.IsToken token behind) →
    (s.isInsert = true ↔ StartsInsertion rest ∧ IsWhite noise)
  kept : ∀ lastRow count, keysOfReply policy (s.behind tokens) (.changed lastRow count) =
      keysOfReply policy s (.changed lastRow count) ↔
    IsWhite tokens.flatten ∨ ¬(s.isInsert = true ∧ count.equalsInteger 1 = true ∧ lastRow.isTrue = true)
  lost : ¬IsWhite tokens.flatten → ∀ lastRow count,
    keysOfReply policy (s.behind tokens) (.changed lastRow count) = ([], .ok ())
  returned : ∀ rows count keys, keysOfReply policy (s.behind tokens) (.rows rows count) = (keys, .ok ()) ↔
    keysOfReply policy s (.rows rows count) = (keys, .ok ())

/-- Every statement is read so behind tokens. -/
theorem readBehind (policy : Policy) {tokens : List (List Char)}
    (htokens : ∀ token ∈ tokens, Sql.IsClosedToken token) (s : Statement) : ReadBehind policy tokens s := by
  have hrecognised := isInsert_behind htokens s
  have hlost (hwhite : ¬IsWhite tokens.flatten) (lastRow count : Value) :
      keysOfReply policy (s.behind tokens) (.changed lastRow count) = ([], .ok ()) :=
    (keysOfReply_eq_nil_iff policy _ lastRow count).mpr fun hcounts => hwhite (hrecognised.mp hcounts.1).2
  refine ⟨?_, hrecognised, ?_, ?_, hlost, ?_⟩
  · have hguarded : Sql.guarded (s.behind tokens).statement = Sql.guarded s.statement := by
      rw [Statement.behind, Sql.guarded, String.toList_append, String.toList_ofList,
        Sql.dropNoise_append (Sql.isNoise_flatten htokens _), Sql.guarded]
    rw [Sql.checkReading, Sql.checkReading, Sql.isReading, Sql.isReading, Sql.notReading, Sql.notReading, hguarded]
  · intro noise rest htext hnoise hbare
    exact isInsert_iff htext hnoise (Sql.afterToken_eq_none_iff.mpr hbare)
  · intro lastRow count
    by_cases hwhite : IsWhite tokens.flatten
    · have hsame : (s.behind tokens).isInsert = s.isInsert := by
        rw [Bool.eq_iff_iff, hrecognised, and_iff_left hwhite]
      simp only [keysOfReply, hsame, hwhite, true_or]
    · rw [hlost hwhite, eq_comm, keysOfReply_eq_nil_iff]
      exact (or_iff_right hwhite).symm
  · intro rows count keys
    rw [keysOfReply_eq_ok_iff, keysOfReply_eq_ok_iff]
    exact yields_behind_iff policy htokens s (.rows rows count) keys

/-! ## A batch of statements behind tokens -/

/-- The keys that statements generate behind their tokens, each on the reply it gets. -/
def HarvestsBehind (policy : Policy) (lead : StatementId → List (List Char)) :
    List (StatementId × Statement) → List Reply → List (List Int) → Prop
  | [], _, keys => keys = []
  | _ :: _, [], _ => False
  | (id, s) :: rest, reply :: replies, keys =>
    ∃ own others, YieldsBehind policy (lead id) s reply own ∧ HarvestsBehind policy lead rest replies others ∧
      keys = own :: others

/-- Statements, each behind the tokens that lead it. -/
def allBehind (lead : StatementId → List (List Char)) (statements : List (StatementId × Statement)) :
    List (StatementId × Statement) :=
  statements.map fun entry => (entry.1, entry.2.behind (lead entry.1))

/-- Statements behind tokens are told apart as they are without them. -/
@[simp] theorem map_fst_allBehind (lead : StatementId → List (List Char))
    (statements : List (StatementId × Statement)) :
    (allBehind lead statements).map Prod.fst = statements.map Prod.fst := by
  simp [allBehind]

/-- What statements generate behind their tokens is told from the statements. -/
theorem harvestsBehind_of_harvests {policy : Policy} {lead : StatementId → List (List Char)}
    (hlead : ∀ id, ∀ token ∈ lead id, Sql.IsClosedToken token) {statements : List (StatementId × Statement)}
    {replies : List Reply} {keys : List (List Int)}
    (h : Harvests policy ((allBehind lead statements).map Prod.snd) replies keys) :
    HarvestsBehind policy lead statements replies keys := by
  induction statements generalizing replies keys with
  | nil => exact h
  | cons entry rest ih =>
    obtain ⟨id, s⟩ := entry
    cases replies with
    | nil => exact h.elim
    | cons reply replies =>
      obtain ⟨own, others, hown, hothers, rfl⟩ := h
      exact ⟨own, others, (yields_behind_iff policy (hlead id) s reply own).mp hown, ih hothers, rfl⟩

/-- What a batch of statements behind tokens does: if it delivers anything, or succeeds, its last attempt was made on a
connection, and the consumers are told the keys that the statements generate behind their tokens on its replies. -/
structure InsertsBehind (policy : Policy) (consumers : Consumers) (lead : StatementId → List (List Char))
    (statements : List (StatementId × Statement)) (before : State Pool) (made : Nat)
    (calls : List (StatementId × List Int)) (outcome : Except Failure Unit) (after : State Pool) : Prop where
  read : ∀ entry ∈ statements, ReadBehind policy (lead entry.1) entry.2
  attempted : 1 ≤ made ∧ after.supply.acquired = before.supply.acquired + made
  called : after.delivered = before.delivered ++ calls
  received : calls ≠ [] ∨ outcome = .ok () →
    ∃ c keys, answerAt before.supply.waiting (made - 1) = .ok c ∧
      HarvestsBehind policy lead statements c.script keys ∧
      Received consumers ((statements.map Prod.fst).zip keys) calls outcome

/-- Tokens ahead of its statements change what a batch delivers only where they are no white space, and there they
take away the keys that replies without rows stand for. -/
theorem run_insertsBehind {policy : Policy} (consumers : Consumers) {lead : StatementId → List (List Char)}
    {statements : List (StatementId × Statement)} {state : State Pool}
    (hlead : ∀ id, ∀ token ∈ lead id, Sql.IsClosedToken token) (hattempts : 1 ≤ policy.maxAttempts)
    (hdistinct : (statements.map Prod.fst).Nodup)
    (hknown : ∀ id ∈ statements.map Prod.fst, id < state.keys.length) :
    ∃ made calls, InsertsBehind policy consumers lead statements state made calls
      (run Pool.supplier policy consumers (allBehind lead statements) state).1
      (run Pool.supplier policy consumers (allBehind lead statements) state).2 := by
  obtain ⟨left, hleft⟩ : ∃ left, policy.maxAttempts = left + 1 := ⟨policy.maxAttempts - 1, by omega⟩
  obtain ⟨made, between, -, hbefore, hloop⟩ := attempts_last policy (allBehind lead statements) left 1 state
  have hread : ∀ entry ∈ statements, ReadBehind policy (lead entry.1) entry.2 :=
    fun entry _ => readBehind policy (hlead entry.1) entry.2
  have hcourse := attempt_course policy (allBehind lead statements) between
  have hacquired := hcourse.acquired
  rw [hbefore.acquired, Nat.add_assoc] at hacquired
  have hundelivered := hcourse.delivered.trans hbefore.delivered
  rw [← hleft] at hloop
  cases hattempt : attempt Pool.supplier policy (allBehind lead statements) between with
  | mk outcome last =>
    rw [hattempt] at hloop hcourse hacquired hundelivered
    cases outcome with
    | error f =>
      rw [run_of_error hloop]
      exact ⟨made + 1, [], hread, ⟨by omega, hacquired⟩, by simpa using hundelivered, by simp⟩
    | ok _ =>
      obtain ⟨calls, hreceived, hafter⟩ :=
        deliver_received consumers ((allBehind lead statements).map Prod.fst) last
      obtain ⟨c, -, hc, -⟩ := hcourse.harvested rfl
      obtain ⟨keys, hkeys, hgathered⟩ :=
        hcourse.gathered (by simpa using hdistinct) (by simpa [hbefore.known] using hknown) hc
      rw [hgathered, map_fst_allBehind] at hreceived
      have hanswer : answerAt state.supply.waiting (made + 1 - 1) = .ok c := by
        rw [hbefore.waiting, answerAt, List.getD_eq_getElem?_getD, List.getElem?_drop] at hc
        exact hc
      rw [run_of_ok hloop, hafter]
      refine ⟨made + 1, calls, hread, ⟨by omega, hacquired⟩, by rw [hundelivered], fun _ => ?_⟩
      rw [← map_fst_allBehind lead statements]
      exact ⟨c, keys, hanswer, harvestsBehind_of_harvests hlead hkeys, by simpa using hreceived⟩

/-- A batch of three insertions, one behind a blank line and one behind a comment. -/
theorem run_insertsBehind_three :
    let lead (id : StatementId) : List (List Char) :=
      if id = 1 then [['\n'], [' ']] else if id = 2 then ["-- new row\n".toList] else []
    let statements : List (StatementId × Statement) :=
      [(0, { statement := "INSERT INTO t VALUES (1)" }), (1, { statement := "insert into t values (2)" }),
        (2, { statement := "INSERT INTO t VALUES (3)" })]
    let c : Connection := { script := [.changed (.int 7) (.int 1), .changed (.int 8) (.int 1),
      .changed (.int 9) (.int 1)] }
    let state : State Pool := { supply := { waiting := [.ok c] }, keys := [[], [], []] }
    let result := run Pool.supplier {} (fun _ => some fun _ => .ok ()) (allBehind lead statements) state
    (∃ made calls, InsertsBehind {} (fun _ => some fun _ => .ok ()) lead statements state made calls
      result.1 result.2) ∧ result.2.delivered = [(0, [7]), (1, [8]), (2, [])] := by
  intro lead statements c state result
  have hdelivered : result.2.delivered = [(0, [7]), (1, [8]), (2, [])] := by decide +revert +kernel
  refine ⟨run_insertsBehind _ ?_ (by decide) (by decide) (by decide), hdelivered⟩
  intro id token htoken
  dsimp only [lead] at htoken
  split at htoken
  · have hcases : token = ['\n'] ∨ token = [' '] := by simpa using htoken
    obtain rfl | rfl := hcases
    · exact .blank (by decide)
    · exact .blank (by decide)
  · split at htoken
    · rw [List.mem_singleton.mp htoken]
      exact @Sql.IsClosedToken.line " new row".toList (by decide)
    · cases htoken

/-- An insertion is delivered its key, but none behind a line comment or a block comment, although the guard of the
reading path judges it alike and the batch succeeds. -/
theorem run_forgets_commented :
    let insertion : Statement := { statement := "INSERT INTO t (x) VALUES (?)", parameters := [.int 1] }
    let c : Connection := { script := [.changed (.int 7) (.int 1)] }
    let batch (s : Statement) := run Pool.supplier {} (fun _ => some fun _ => .ok ()) [(0, s)]
      { supply := { waiting := [.ok c] }, keys := [[]] }
    let line := insertion.behind ["-- new row\n".toList]
    let block := insertion.behind ["/* new row */".toList, [' ']]
    (batch insertion).1.toOption = some () ∧ (batch insertion).2.delivered = [(0, [7])] ∧
      Sql.guarded line.statement = Sql.guarded insertion.statement ∧
      (batch line).1.toOption = some () ∧ (batch line).2.delivered = [(0, [])] ∧
      Sql.guarded block.statement = Sql.guarded insertion.statement ∧
      (batch block).1.toOption = some () ∧ (batch block).2.delivered = [(0, [])] := by
  decide +revert +kernel

end Batch

end SchemaAtlas
