import Mathlib.Data.List.Infix
import SchemaAtlas.Proofs.Failure.Keeping
import SchemaAtlas.Proofs.Sql.Noise
import SchemaAtlas.Proofs.Text.Capitals
import SchemaAtlas.Session.Deferred

/-!
# The word that the guard looks at

A statement is judged by its first word behind the noise: it passes exactly if the upper form of that word begins
with one of the eight words of reading statements. The word need not be one of the eight. It may go on behind it, as
`select_and_purge` does, and it may have a letter of another alphabet that only becomes a plain one in its upper
form, as `ſelect` does. What is refused is refused before any connection is asked for.
-/

namespace SchemaAtlas.Sql

/-! ## The first word -/

/-- The word that a text starts with: its letters, digits and underscores up to the first other character. -/
def firstWord (cs : List Char) : List Char :=
  cs.takeWhile Text.isWord

/-- A word is, the case of plain letters aside, one of the words of reading statements. -/
def IsReadingWord (word : List Char) : Prop :=
  ∃ keyword ∈ readingWords, word.map Char.toUpper = keyword.toList

instance (word : List Char) : Decidable (IsReadingWord word) :=
  inferInstanceAs (Decidable (∃ keyword ∈ readingWords, word.map Char.toUpper = keyword.toList))

/-- The words of reading statements consist of capital letters. -/
theorem isCapital_of_mem_keyword {keyword : String} (hkeyword : keyword ∈ readingWords) :
    ∀ letter ∈ keyword.toList, Text.isCapital letter = true := by
  have hall : readingWords.all (fun keyword => keyword.toList.all Text.isCapital) = true := by decide
  exact List.all_eq_true.mp (List.all_eq_true.mp hall keyword hkeyword)

/-- None of them begins with another one. -/
theorem eq_of_keyword_prefix {first second : String} (hfirst : first ∈ readingWords) (hsecond : second ∈ readingWords)
    (h : first.toList <+: second.toList) : first = second := by
  have hall : ∀ first ∈ readingWords, ∀ second ∈ readingWords, first.toList <+: second.toList → first = second := by
    decide
  exact hall first hfirst second hsecond h

/-- Capital letters at the beginning of the upper form of a text come from its first word. -/
theorem prefix_firstWord {letters : List Char} (hcapital : ∀ letter ∈ letters, Text.isCapital letter = true)
    (cs : List Char) :
    letters <+: Text.upperChars cs ↔ letters <+: Text.upperChars (firstWord cs) := by
  have hsplit : Text.upperChars cs = Text.upperChars (firstWord cs) ++ Text.upperChars (cs.dropWhile Text.isWord) := by
    rw [← Text.upperChars_append, firstWord, List.takeWhile_append_dropWhile]
  have hword : Text.upperChars (firstWord cs) <+: Text.upperChars cs := ⟨_, hsplit.symm⟩
  refine ⟨fun h => ?_, fun h => h.trans hword⟩
  by_cases hlength : letters.length ≤ (Text.upperChars (firstWord cs)).length
  · exact List.prefix_of_prefix_length_le h hword hlength
  · -- The letters would go on behind the word, where a character stands that has no capital letter.
    obtain ⟨more, rfl⟩ := List.prefix_of_prefix_length_le hword h (by omega)
    rw [hsplit, List.prefix_append_right_inj] at h
    cases more with
    | nil => simp at hlength
    | cons letter more =>
      cases hbehind : cs.dropWhile Text.isWord with
      | nil =>
        rw [hbehind] at h
        cases List.prefix_nil.mp h
      | cons c behind =>
        have hother : Text.isWord c = false := by
          have hhead := List.head?_dropWhile_not Text.isWord cs
          rw [hbehind] at hhead
          simpa using hhead
        obtain ⟨head, tail, hupper⟩ := List.exists_cons_of_ne_nil (Text.upperChar_ne_nil c)
        rw [hbehind, Text.upperChars, List.flatMap_cons, hupper, List.cons_append, List.cons_prefix_cons] at h
        have hletter : Text.isCapital head = true := h.1 ▸ hcapital letter (by simp)
        have hmem : head ∈ Text.upperChar c := by simp [hupper]
        rw [Text.isWord_of_mem_upperChar hmem hletter] at hother
        cases hother

/-- A statement passes exactly if the upper form of its first word begins with a word of reading statements. -/
theorem startsReading_firstWord (cs : List Char) : StartsReading cs ↔ StartsReading (firstWord cs) := by
  refine exists_congr fun keyword => and_congr_right fun hkeyword => ?_
  exact prefix_firstWord (isCapital_of_mem_keyword hkeyword) cs

/-! ## Words that are no words of reading statements -/

/-- A word of reading statements has plain letters only. -/
theorem IsReadingWord.plain {word : List Char} (h : IsReadingWord word) : ∀ c ∈ word, c.toNat < 128 := by
  obtain ⟨keyword, hkeyword, hword⟩ := h
  intro c hc
  refine Text.plain_of_isCapital_toUpper (isCapital_of_mem_keyword hkeyword _ ?_)
  rw [← hword]
  exact List.mem_map_of_mem hc

/-- A word whose upper form is a word of reading statements is that word, its case aside, if it has none of the two
letters that only become plain in their upper forms. -/
theorem map_toUpper_of_upperChars {word : List Char} {keyword : String} (hkeyword : keyword ∈ readingWords)
    (hword : Text.upperChars word = keyword.toList) (hlong : 'ſ' ∉ word) (hdotless : 'ı' ∉ word) :
    word.map Char.toUpper = keyword.toList := by
  have hjoined : ∀ keyword ∈ readingWords, ∀ form ∈ Text.joinedForms, ¬form <:+: keyword.toList := by decide
  have hplain : ∀ c ∈ word, c.toNat < 128 := by
    intro c hc
    have hwithin : Text.upperChar c <:+: keyword.toList := by
      obtain ⟨before, behind, rfl⟩ := List.append_of_mem hc
      rw [← hword, Text.upperChars, List.flatMap_append, List.flatMap_cons]
      exact ⟨_, _, by rw [List.append_assoc]⟩
    have hcapital : ∀ letter ∈ Text.upperChar c, Text.isCapital letter = true := fun letter hletter =>
      isCapital_of_mem_keyword hkeyword letter (hwithin.subset hletter)
    obtain hlt | rfl | rfl | hform := Text.plain_of_upperChar hcapital
    · exact hlt
    · exact absurd hc hdotless
    · exact absurd hc hlong
    · exact absurd hwithin (hjoined keyword hkeyword _ hform)
  rw [← hword, Text.upperChars_of_plain hplain]

/-- A word passes without being a word of reading statements exactly if its upper form goes on behind one, or is one
that comes from a letter that only becomes plain in it. -/
theorem strays_iff (word : List Char) :
    StartsReading word ∧ ¬IsReadingWord word ↔ ∃ keyword ∈ readingWords, ∃ more,
      Text.upperChars word = keyword.toList ++ more ∧ (more ≠ [] ∨ 'ſ' ∈ word ∨ 'ı' ∈ word) := by
  constructor
  · rintro ⟨⟨keyword, hkeyword, more, hword⟩, hother⟩
    refine ⟨keyword, hkeyword, more, hword.symm, ?_⟩
    by_contra hnone
    simp only [not_or, ne_eq, not_not] at hnone
    obtain ⟨rfl, hlong, hdotless⟩ := hnone
    rw [List.append_nil] at hword
    exact hother ⟨keyword, hkeyword, map_toUpper_of_upperChars hkeyword hword.symm hlong hdotless⟩
  · rintro ⟨keyword, hkeyword, more, hword, hstray⟩
    refine ⟨⟨keyword, hkeyword, more, hword.symm⟩, fun hreading => ?_⟩
    have hplain := hreading.plain
    obtain ⟨other, hother, hupper⟩ := hreading
    rw [Text.upperChars_of_plain hplain, hupper] at hword
    obtain rfl := eq_of_keyword_prefix hkeyword hother ⟨more, hword.symm⟩
    obtain hmore | hlong | hdotless := hstray
    · exact hmore (List.append_right_eq_self.mp hword.symm)
    · exact absurd (hplain 'ſ' hlong) (by decide)
    · exact absurd (hplain 'ı' hdotless) (by decide)

/-! ## The guard -/

/-- What the first word of a statement behind its noise decides. -/
structure JudgedByWord (statement : String) (word : List Char) : Prop where
  /-- The beginning of its upper form decides. -/
  passes : checkReading statement = .ok () ↔ ∃ keyword ∈ readingWords, keyword.toList <+: Text.upperChars word
  /-- A word of reading statements passes. -/
  whole : IsReadingWord word → checkReading statement = .ok ()
  /-- A word of plain letters passes exactly if it begins with one, whatever follows there. -/
  plain : (∀ c ∈ word, c.toNat < 128) →
    (checkReading statement = .ok () ↔ ∃ keyword ∈ readingWords, keyword.toList <+: word.map Char.toUpper)
  /-- Another word passes exactly if its upper form goes on behind one, or it has one of two letters that only become
  plain in their upper forms. -/
  strays : checkReading statement = .ok () ∧ ¬IsReadingWord word ↔ ∃ keyword ∈ readingWords, ∃ more,
    Text.upperChars word = keyword.toList ++ more ∧ (more ≠ [] ∨ 'ſ' ∈ word ∨ 'ı' ∈ word)
  /-- A query that is refused leaves the supplier of connections as it is, and is not deferred either. -/
  refused : (¬∃ keyword ∈ readingWords, keyword.toList <+: Text.upperChars word) →
    ∀ (parameters : List Value), (∀ {σ : Type} (supplier : Supplier σ) mapper s,
      Query.execute supplier true ⟨statement, parameters⟩ mapper s = (.error (notReading statement), s)) ∧
      ∀ mapper, Query.defer true ⟨statement, parameters⟩ mapper = .error (notReading statement)

/-- The guard judges every statement by its first word behind the noise. -/
theorem checkReading_firstWord (statement : String) :
    JudgedByWord statement (firstWord (dropNoise statement.toList)) := by
  have hpasses : checkReading statement = .ok () ↔ StartsReading (firstWord (dropNoise statement.toList)) := by
    rw [checkReading_eq_ok_iff, isReading_iff, startsReading_firstWord]
  have hplain (h : ∀ c ∈ firstWord (dropNoise statement.toList), c.toNat < 128) : checkReading statement = .ok () ↔
      ∃ keyword ∈ readingWords, keyword.toList <+: (firstWord (dropNoise statement.toList)).map Char.toUpper := by
    rw [hpasses, StartsReading, Text.upperChars_of_plain h]
  refine ⟨hpasses, ?_, hplain, ?_, ?_⟩
  · intro hreading
    obtain ⟨keyword, hkeyword, hword⟩ := id hreading
    exact (hplain hreading.plain).mpr ⟨keyword, hkeyword, hword ▸ List.prefix_rfl⟩
  · rw [hpasses]
    exact strays_iff _
  · intro hother parameters
    have hrefused : Query.check true statement = .error (notReading statement) := by
      rw [Query.check, if_pos rfl, checkReading, if_neg]
      rwa [isReading_iff, startsReading_firstWord]
    refine ⟨fun supplier mapper s => ?_, fun mapper => ?_⟩
    · refine Keeping.bind_of_error ?_ _
      rw [hrefused]
      rfl
    · rw [Query.defer, hrefused]
      rfl

/-- The name of a routine passes that only begins with a word of reading statements, and it is run on a connection. A
word passes, too, that becomes one through its first letter. -/
theorem checkReading_passes_routine :
    let routine := "select_and_purge(1)"
    let pool : Pool := { waiting := [.ok {}] }
    (checkReading routine = .ok () ∧ ¬IsReadingWord (firstWord (dropNoise routine.toList)) ∧
      (Query.execute Pool.supplier true ⟨routine, []⟩ (fun row => .ok (.list row)) pool).2.acquired = 1) ∧
      checkReading "ſelect 1" = .ok () ∧ ¬IsReadingWord (firstWord (dropNoise "ſelect 1".toList)) := by
  intro routine pool
  have hpasses : checkReading routine = .ok () := (checkReading_eq_ok_iff _).mpr (by decide +kernel)
  have hlong : checkReading "ſelect 1" = .ok () := (checkReading_eq_ok_iff _).mpr (by decide +kernel)
  refine ⟨⟨hpasses, by decide +kernel, ?_⟩, hlong, by decide +kernel⟩
  have hcheck : Query.check true routine = .ok () := by rw [Query.check, if_pos rfl, hpasses]
  simp only [Query.execute, hcheck]
  rfl

end SchemaAtlas.Sql
