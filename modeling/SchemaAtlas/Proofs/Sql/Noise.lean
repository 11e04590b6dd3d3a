import SchemaAtlas.Sql.ReadOnly

/-!
# The grammar of noise

Noise is told here without reading it: a noise token is white space, an opening parenthesis, a line comment
through its newline, or a block comment up to the first closing sign behind its opening one; and the last line
of a text may be a comment without a newline. Noise is a run of tokens. Every text has one longest noise, and
what stands behind it, which starts with no token, is all that the guard of the reading path looks at.
-/

namespace SchemaAtlas.Sql

/-! ## Tokens -/

/-- The first closing sign in a body that is followed by one is the one that follows it. -/
def ClosesFirst (body : List Char) : Prop :=
  ∀ before behind, body ++ ['*', '/'] = before ++ '*' :: '/' :: behind → behind = []

/-- A noise token that ends by itself, whatever stands behind it. -/
inductive IsClosedToken : List Char → Prop where
  | blank {c : Char} (hblank : Text.isBlank c = true) : IsClosedToken [c]
  | opening : IsClosedToken ['(']
  | line {body : List Char} (hbody : '\n' ∉ body) : IsClosedToken ('-' :: '-' :: (body ++ ['\n']))
  | block {body : List Char} (hbody : ClosesFirst body) : IsClosedToken ('/' :: '*' :: (body ++ ['*', '/']))

/-- A noise token in front of the rest of a text: one that ends by itself, or a line comment that ends with the
text. -/
inductive IsToken : List Char → List Char → Prop where
  | closed {token : List Char} (behind : List Char) (htoken : IsClosedToken token) : IsToken token behind
  | lastLine {body : List Char} (hbody : '\n' ∉ body) : IsToken ('-' :: '-' :: body) []

/-- What follows a line comment stands behind its newline, or the comment has none and nothing follows. -/
theorem afterLine_eq_iff {cs rest : List Char} :
    afterLine cs = rest ↔
      (∃ body, '\n' ∉ body ∧ cs = body ++ '\n' :: rest) ∨ (rest = [] ∧ '\n' ∉ cs) := by
  constructor
  · rintro rfl
    fun_induction afterLine cs with
    | case1 => exact .inr ⟨rfl, List.not_mem_nil⟩
    | case2 rest => exact .inl ⟨[], List.not_mem_nil, rfl⟩
    | case3 c rest hline ih =>
      have hother : '\n' ≠ c := fun heq => hline heq.symm
      obtain ⟨body, hbody, hrest⟩ | ⟨hend, hrest⟩ := ih
      · exact .inl ⟨c :: body, by simp [hother, hbody], congrArg (c :: ·) hrest⟩
      · exact .inr ⟨hend, by simp [hother, hrest]⟩
  · rintro (⟨body, hbody, rfl⟩ | ⟨rfl, hcs⟩)
    · induction body with
      | nil => rfl
      | cons c body ih =>
        obtain ⟨hother, hbody⟩ := not_or.mp (mt List.mem_cons.mpr hbody)
        rw [List.cons_append, afterLine.eq_3 c _ fun heq => hother heq.symm]
        exact ih hbody
    · induction cs with
      | nil => rfl
      | cons c cs ih =>
        obtain ⟨hother, hcs⟩ := not_or.mp (mt List.mem_cons.mpr hcs)
        rw [afterLine.eq_3 c _ fun heq => hother heq.symm]
        exact ih hcs

/-- A closing sign that is the first one closes an empty body. -/
theorem closesFirst_nil : ClosesFirst [] := by
  intro before behind hbody
  have hlength := congrArg List.length hbody
  simp only [List.nil_append, List.length_append, List.length_cons, List.length_nil] at hlength
  exact List.length_eq_zero_iff.mp (by omega)

/-- A body may be preceded by a character that makes no closing sign with what follows. -/
theorem closesFirst_cons_iff {c : Char} {body : List Char} :
    ClosesFirst (c :: body) ↔ ClosesFirst body ∧ ¬(c = '*' ∧ body.head? = some '/') := by
  constructor
  · intro h
    refine ⟨fun before behind hbody => h (c :: before) behind (congrArg (c :: ·) hbody), ?_⟩
    rintro ⟨rfl, hhead⟩
    obtain ⟨rest, rfl⟩ := List.head?_eq_some_iff.mp hhead
    have hend := h [] (rest ++ ['*', '/']) rfl
    simp at hend
  · rintro ⟨hbody, hother⟩ before behind htext
    cases before with
    | cons d before => exact hbody before behind (List.cons.inj htext).2
    | nil =>
      obtain ⟨rfl, hrest⟩ := List.cons.inj htext
      refine absurd ⟨rfl, ?_⟩ hother
      cases body with
      | nil => cases hrest
      | cons d body => exact congrArg some (List.cons.inj hrest).1

/-- What follows a block comment stands behind the first closing sign. -/
theorem afterBlock_eq_some_iff {cs rest : List Char} :
    afterBlock cs = some rest ↔ ∃ body, ClosesFirst body ∧ cs = body ++ '*' :: '/' :: rest := by
  -- The second equation of the reader holds where the text does not start with a closing sign.
  have hopen (c : Char) (cs : List Char) (hother : ¬(c = '*' ∧ cs.head? = some '/')) :
      afterBlock (c :: cs) = afterBlock cs :=
    afterBlock.eq_3 c cs fun behind hc hcs => hother ⟨hc, by rw [hcs]; rfl⟩
  constructor
  · intro h
    fun_induction afterBlock cs with
    | case1 => cases h
    | case2 behind =>
      cases h
      exact ⟨[], closesFirst_nil, rfl⟩
    | case3 c cs hother ih =>
      obtain ⟨body, hbody, rfl⟩ := ih h
      refine ⟨c :: body, closesFirst_cons_iff.mpr ⟨hbody, ?_⟩, rfl⟩
      rintro ⟨rfl, hhead⟩
      obtain ⟨behind, rfl⟩ := List.head?_eq_some_iff.mp hhead
      exact hother _ rfl rfl
  · rintro ⟨body, hbody, rfl⟩
    induction body with
    | nil => rfl
    | cons c body ih =>
      obtain ⟨hrest, hother⟩ := closesFirst_cons_iff.mp hbody
      rw [List.cons_append, hopen c _ ?_, ih hrest]
      rintro ⟨rfl, hhead⟩
      refine hother ⟨rfl, ?_⟩
      cases body with
      | nil => cases hhead
      | cons d body => exact hhead

/-- The signs that start the other tokens are not white space. -/
theorem not_isBlank_sign : ∀ c ∈ ['(', '-', '/'], Text.isBlank c = false := by
  intro c hc
  simp only [List.mem_cons, List.not_mem_nil, or_false] at hc
  obtain rfl | rfl | rfl := hc <;> rfl

/-- What follows the noise token that a text starts with stands behind a token, and there is no other such
token. -/
theorem afterToken_eq_some_iff {cs rest : List Char} :
    afterToken cs = some rest ↔ ∃ token, cs = token ++ rest ∧ IsToken token rest := by
  constructor
  · intro h
    unfold afterToken at h
    split at h
    · cases h
      exact ⟨['('], rfl, .closed _ .opening⟩
    · obtain ⟨body, hbody, rfl⟩ | ⟨rfl, hbody⟩ := afterLine_eq_iff.mp (Option.some.inj h)
      · exact ⟨'-' :: '-' :: (body ++ ['\n']), by simp, .closed _ (.line hbody)⟩
      · exact ⟨_, (List.append_nil _).symm, .lastLine hbody⟩
    · obtain ⟨body, hbody, rfl⟩ := afterBlock_eq_some_iff.mp h
      exact ⟨'/' :: '*' :: (body ++ ['*', '/']), by simp, .closed _ (.block hbody)⟩
    · split at h
      · cases h
        exact ⟨[_], rfl, .closed _ (.blank ‹_›)⟩
      · cases h
    · cases h
  · rintro ⟨token, rfl, htoken⟩
    cases htoken with
    | lastLine hbody =>
      rw [List.append_nil]
      exact congrArg some (afterLine_eq_iff.mpr (.inr ⟨rfl, hbody⟩))
    | closed _ htoken =>
      cases htoken with
      | opening => rfl
      | line hbody =>
        refine congrArg some (afterLine_eq_iff.mpr (.inl ⟨_, hbody, ?_⟩))
        simp
      | block hbody =>
        refine afterBlock_eq_some_iff.mpr ⟨_, hbody, ?_⟩
        simp
      | @blank c hblank =>
        have hsign : c ∉ ['(', '-', '/'] := fun hmem => by simp [not_isBlank_sign c hmem] at hblank
        simp only [List.mem_cons, List.not_mem_nil, or_false, not_or] at hsign
        change afterToken (c :: rest) = some rest
        rw [afterToken.eq_4 c rest hsign.1 (fun _ hc => absurd hc hsign.2.1) (fun _ hc => absurd hc hsign.2.2),
          if_pos hblank]

/-- A text starts with no noise token exactly if none can be read. -/
theorem afterToken_eq_none_iff {cs : List Char} :
    afterToken cs = none ↔ ∀ token rest, cs = token ++ rest → ¬IsToken token rest := by
  rw [Option.eq_none_iff_forall_ne_some]
  constructor
  · intro h token rest htext htoken
    exact h rest (afterToken_eq_some_iff.mpr ⟨token, htext, htoken⟩)
  · intro h rest hrest
    obtain ⟨token, htext, htoken⟩ := afterToken_eq_some_iff.mp hrest
    exact h token rest htext htoken

/-! ## Noise -/

/-- Noise in front of the rest of a text: a run of tokens. -/
inductive IsNoise : List Char → List Char → Prop where
  | nil (rest : List Char) : IsNoise [] rest
  | cons {token noise rest : List Char} (htoken : IsToken token (noise ++ rest)) (hnoise : IsNoise noise rest) :
    IsNoise (token ++ noise) rest

/-- Tokens that end by themselves are noise in front of any text. -/
theorem isNoise_flatten {tokens : List (List Char)} (h : ∀ token ∈ tokens, IsClosedToken token)
    (rest : List Char) : IsNoise tokens.flatten rest := by
  induction tokens with
  | nil => exact .nil rest
  | cons token tokens ih =>
    obtain ⟨htoken, htokens⟩ := List.forall_mem_cons.mp h
    exact .cons (.closed _ htoken) (ih htokens)

/-- Noise in front of a text is dropped. -/
theorem dropNoise_append {noise rest : List Char} (h : IsNoise noise rest) :
    dropNoise (noise ++ rest) = dropNoise rest := by
  induction h with
  | nil rest => rfl
  | cons htoken _ ih =>
    rw [dropNoise, List.append_assoc, afterToken_eq_some_iff.mpr ⟨_, rfl, htoken⟩]
    exact ih

/-- A text that starts with no token is kept. -/
theorem dropNoise_of_bare {cs : List Char} (h : afterToken cs = none) : dropNoise cs = cs := by
  rw [dropNoise, h]

/-- What is dropped is noise. -/
theorem exists_isNoise (cs : List Char) : ∃ noise, cs = noise ++ dropNoise cs ∧ IsNoise noise (dropNoise cs) := by
  fun_induction dropNoise cs with
  | case1 cs rest h ih =>
    obtain ⟨token, rfl, htoken⟩ := afterToken_eq_some_iff.mp h
    obtain ⟨noise, hrest, hnoise⟩ := ih
    refine ⟨token ++ noise, ?_, .cons (hrest ▸ htoken) hnoise⟩
    rw [List.append_assoc, ← hrest]
  | case2 cs h => exact ⟨[], rfl, .nil cs⟩

/-- Noise is no longer than what is dropped. -/
theorem dropNoise_isSuffix {noise rest : List Char} (h : IsNoise noise rest) :
    dropNoise (noise ++ rest) <:+ rest := by
  rw [dropNoise_append h]
  obtain ⟨dropped, hrest, -⟩ := exists_isNoise rest
  exact ⟨dropped, hrest.symm⟩

/-! ## The guard -/

/-- A text starts with one of the words of reading statements, in capital or small letters. -/
def StartsReading (cs : List Char) : Prop :=
  ∃ word ∈ readingWords, word.toList <+: Text.upperChars cs

/-- A statement passes exactly if what stands behind its noise starts with a word of reading statements. -/
theorem isReading_iff (statement : String) :
    isReading statement = true ↔ StartsReading (dropNoise statement.toList) := by
  simp only [isReading, List.any_eq_true, List.isPrefixOf_iff_prefix]
  rfl

/-- A statement is judged by the rest of it that stands behind its longest noise. -/
structure JudgedBy (statement : String) (noise rest : List Char) : Prop where
  text : statement.toList = noise ++ rest
  isNoise : IsNoise noise rest
  /-- The rest starts with no token. -/
  bare : ∀ token behind, rest = token ++ behind → ¬IsToken token behind
  /-- No noise that the statement starts with is longer. -/
  longest : ∀ other behind, statement.toList = other ++ behind → IsNoise other behind → other.length ≤ noise.length
  /-- The rest is the only one that stands behind noise and starts with no token. -/
  unique : ∀ other behind, statement.toList = other ++ behind → IsNoise other behind →
    (∀ token last, behind = token ++ last → ¬IsToken token last) → behind = rest
  passes : checkReading statement = .ok () ↔ StartsReading rest
  refused : (∃ f, checkReading statement = .error f ∧ f.family? = some .readOnly) ↔ ¬StartsReading rest

/-- The guard judges every statement by what stands behind its longest noise, and noise of tokens that end by
themselves may be put ahead of any statement: it is refused or passes as before. -/
theorem checkReading_skips :
    (∀ statement, ∃ noise rest, JudgedBy statement noise rest) ∧
      ∀ tokens : List (List Char), (∀ token ∈ tokens, IsClosedToken token) → ∀ statement,
        checkReading (String.ofList tokens.flatten ++ statement) = checkReading statement := by
  constructor
  · intro statement
    obtain ⟨noise, htext, hnoise⟩ := exists_isNoise statement.toList
    have hbare := afterToken_dropNoise statement.toList
    refine ⟨noise, dropNoise statement.toList, htext, hnoise, afterToken_eq_none_iff.mp hbare, ?_, ?_, ?_, ?_⟩
    · intro other behind hother hother'
      have hlength := (dropNoise_isSuffix hother').length_le
      rw [← hother] at hlength
      have htotal := congrArg List.length (htext.symm.trans hother)
      simp only [List.length_append] at htotal
      omega
    · intro other behind hother hnoise' hbehind
      rw [hother, dropNoise_append hnoise', dropNoise_of_bare (afterToken_eq_none_iff.mpr hbehind)]
    · rw [checkReading_eq_ok_iff, isReading_iff]
    · rw [← isReading_iff, checkReading]
      cases isReading statement with
      | true => simp
      | false => simp [notReading, Failure.plain, Failure.family?]
  · intro tokens htokens statement
    have hguarded : guarded (String.ofList tokens.flatten ++ statement) = guarded statement := by
      rw [guarded, String.toList_append, String.toList_ofList, dropNoise_append (isNoise_flatten htokens _), guarded]
    have hreading : isReading (String.ofList tokens.flatten ++ statement) = isReading statement := by
      rw [isReading, isReading, hguarded]
    have hrefusal : notReading (String.ofList tokens.flatten ++ statement) = notReading statement := by
      rw [notReading, notReading, hguarded]
    rw [checkReading, checkReading, hreading, hrefusal]

/-- A query passes behind a comment, a block comment without a body and a parenthesis, as it does alone. -/
theorem checkReading_skips_comment :
    let tokens := ["-- all\n".toList, "/**/".toList, ['(']]
    (∀ token ∈ tokens, IsClosedToken token) ∧
      checkReading (String.ofList tokens.flatten ++ "select 1") = checkReading "select 1" := by
  intro tokens
  have htokens : ∀ token ∈ tokens, IsClosedToken token := by
    intro token htoken
    rcases List.mem_cons.mp htoken with rfl | htoken
    · exact @IsClosedToken.line " all".toList (by decide)
    · rcases List.mem_cons.mp htoken with rfl | htoken
      · exact .block closesFirst_nil
      · rw [List.mem_singleton.mp htoken]
        exact .opening
  exact ⟨htokens, checkReading_skips.2 tokens htokens "select 1"⟩

end SchemaAtlas.Sql
