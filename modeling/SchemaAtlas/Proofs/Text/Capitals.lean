import Mathlib.Data.List.Basic
import SchemaAtlas.Text.Case
import SchemaAtlas.Text.Word

/-!
# Which characters become capital letters

Only letters have an upper form with a capital letter of the plain alphabet in it. Most of them are the plain
letters themselves. The others are two letters whose upper form is a plain capital, the dotless `ı` and the long
`ſ`, and some letters whose upper form has several characters.
-/

namespace SchemaAtlas.Text

/-- Whether a character is a capital letter of the plain alphabet. -/
def isCapital (c : Char) : Bool :=
  0x41 ≤ c.toNat && c.toNat ≤ 0x5A

/-- Upper forms of one character that consist of several capital letters. -/
def joinedForms : List (List Char) :=
  ["SS", "FF", "FI", "FL", "FFI", "FFL", "ST"].map String.toList

/-- A capital letter lies between the first and the last of them. -/
theorem isCapital_iff {c : Char} : isCapital c = true ↔ 0x41 ≤ c.toNat ∧ c.toNat ≤ 0x5A := by
  simp [isCapital]

/-- A code point that is that of a capital letter is the number of the letter. -/
theorem toNat_ofNat_of_isCapital {n : Nat} (h : isCapital (Char.ofNat n) = true) : (Char.ofNat n).toNat = n := by
  by_cases hvalid : n.isValidChar
  · have hpoint : Char.ofNat n = Char.ofNatAux n hvalid := dif_pos hvalid
    rw [hpoint]
    rfl
  · have hpoint : Char.ofNat n = Char.ofNat 0 := (dif_neg hvalid).trans rfl
    rw [hpoint] at h
    cases h

/-! ## Plain characters -/

/-- What holds of the plain characters, one by one, holds of every plain character. -/
theorem forall_plain {P : Char → Prop} (h : ∀ n < 128, P (Char.ofNat n)) {c : Char} (hc : c.toNat < 128) : P c := by
  have hpoint := h c.toNat hc
  rwa [Char.ofNat_toNat] at hpoint

/-- The upper form of a plain character is one plain character. -/
theorem upperChar_of_plain {c : Char} (h : c.toNat < 128) : upperChar c = [c.toUpper] :=
  forall_plain (P := fun c => upperChar c = [c.toUpper]) (by decide +kernel) h

/-- The upper form of a plain text is made letter by letter. -/
theorem upperChars_of_plain {cs : List Char} (h : ∀ c ∈ cs, c.toNat < 128) : upperChars cs = cs.map Char.toUpper := by
  rw [upperChars, List.map_eq_flatMap, List.flatMap_congr fun c hc => upperChar_of_plain (h c hc)]

/-- A character that is a capital letter, its case aside, is plain. -/
theorem plain_of_isCapital_toUpper {c : Char} (h : isCapital c.toUpper = true) : c.toNat < 128 := by
  rw [isCapital_iff] at h
  delta Char.toUpper at h
  split at h
  · rename_i hsmall
    exact Nat.lt_of_le_of_lt (UInt32.le_iff_toNat_le.mp hsmall.2) (by decide)
  · omega

/-! ## Other characters -/

/-- The runs of the upper forms that have a capital letter among them are those of the small letters and of the
dotless `ı` and the long `ſ`. -/
theorem run_of_reaches {run : CaseRun} (hrun : run ∈ upperRuns) (h : (run.first : Int) + run.shift ≤ 0x5A) :
    (run.first = 0x61 ∧ run.last = 0x7A) ∨ (run.first = 0x131 ∧ run.last = 0x131) ∨
      (run.first = 0x17F ∧ run.last = 0x17F) := by
  have hall : ∀ run ∈ upperRuns, (run.first : Int) + run.shift ≤ 0x5A →
      (run.first = 0x61 ∧ run.last = 0x7A) ∨ (run.first = 0x131 ∧ run.last = 0x131) ∨
        (run.first = 0x17F ∧ run.last = 0x17F) := by decide +kernel
  exact hall run hrun h

/-- A character whose one upper form is a capital letter is plain, or one of the two others. -/
theorem plain_of_mappedBy {c : Char} (h : isCapital (mappedBy upperRuns c) = true) :
    c.toNat < 128 ∨ c = 'ı' ∨ c = 'ſ' := by
  have hsame {n : Nat} {d : Char} (hfirst : n = d.toNat) (hn : c.toNat = n) : c = d := by
    rw [← Char.ofNat_toNat c, hn, hfirst, Char.ofNat_toNat]
  unfold mappedBy at h
  split at h
  · rename_i run hfound
    have hmaps := List.find?_some hfound
    simp only [CaseRun.maps, Bool.and_eq_true, decide_eq_true_eq] at hmaps
    have hpoint := toNat_ofNat_of_isCapital h
    obtain ⟨-, hlast⟩ := isCapital_iff.mp h
    obtain ⟨-, hend⟩ | ⟨hstart, hend⟩ | ⟨hstart, hend⟩ :=
      run_of_reaches (List.mem_of_find?_eq_some hfound) (by omega)
    · exact .inl (by omega)
    · exact .inr (.inl (hsame (n := 0x131) rfl (by omega)))
    · exact .inr (.inr (hsame (n := 0x17F) rfl (by omega)))
  · obtain ⟨-, hlast⟩ := isCapital_iff.mp h
    exact .inl (by omega)

/-- A character whose upper form has a capital letter in it belongs to words. -/
theorem isWord_of_mem_upperChar {c letter : Char} (hmem : letter ∈ upperChar c) (hletter : isCapital letter = true) :
    isWord c = true := by
  have hexpansions : ∀ entry ∈ upperExpansions, (∃ n ∈ entry.2, isCapital (Char.ofNat n) = true) →
      alphanumeric.has entry.1 = true := by decide +kernel
  have hplain {c : Char} (hc : c.toNat < 128) : isCapital (mappedBy upperRuns c) = true → isWord c = true :=
    forall_plain (P := fun c => isCapital (mappedBy upperRuns c) = true → isWord c = true) (by decide +kernel) hc
  unfold upperChar at hmem
  split at hmem
  · rename_i entry hfound
    obtain ⟨n, hn, rfl⟩ := List.mem_map.mp hmem
    have hcode := List.find?_some hfound
    rw [beq_iff_eq] at hcode
    rw [isWord, ← hcode, hexpansions entry (List.mem_of_find?_eq_some hfound) ⟨n, hn, hletter⟩, Bool.or_true]
  · obtain rfl := List.mem_singleton.mp hmem
    obtain hlt | rfl | rfl := plain_of_mappedBy hletter
    · exact hplain hlt hletter
    · decide +kernel
    · decide +kernel

/-- A character whose upper form consists of capital letters is plain, is one of the two others, or has an upper form
of several letters. -/
theorem plain_of_upperChar {c : Char} (h : ∀ letter ∈ upperChar c, isCapital letter = true) :
    c.toNat < 128 ∨ c = 'ı' ∨ c = 'ſ' ∨ upperChar c ∈ joinedForms := by
  have hexpansions : ∀ entry ∈ upperExpansions, (∀ n ∈ entry.2, isCapital (Char.ofNat n) = true) →
      entry.2.map Char.ofNat ∈ joinedForms := by decide +kernel
  unfold upperChar at h ⊢
  split at h
  · rename_i entry hfound
    refine .inr (.inr (.inr (hexpansions entry (List.mem_of_find?_eq_some hfound) fun n hn => ?_)))
    exact h _ (List.mem_map_of_mem hn)
  · have hone := plain_of_mappedBy (h _ List.mem_cons_self)
    exact hone.imp_right fun hother => hother.imp_right .inl

/-- Every character has an upper form. -/
theorem upperChar_ne_nil (c : Char) : upperChar c ≠ [] := by
  have hexpansions : ∀ entry ∈ upperExpansions, entry.2 ≠ [] := by decide +kernel
  unfold upperChar
  split
  · rename_i entry hfound
    simpa using hexpansions entry (List.mem_of_find?_eq_some hfound)
  · exact List.cons_ne_nil _ _

end SchemaAtlas.Text
