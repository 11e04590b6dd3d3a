import Mathlib.Data.Rat.Floor
import SchemaAtlas.Value.Access

/-!
# The number that a value is, and its whole part

A flag, an integer, and a finite binary or decimal number is a rational number. Reading it as an integer gives the
whole part, toward zero, so a number that has a fraction is read as another one. What is no number is read as what
it writes, and an identifier as the number of its bits.
-/

namespace SchemaAtlas

namespace Number

/-- The whole part of a rational number, toward zero. -/
def wholePart (q : ℚ) : Int :=
  if q < 0 then ⌈q⌉ else ⌊q⌋

/-- An integer is its whole part. -/
theorem wholePart_intCast (n : Int) : wholePart n = n := by
  simp [wholePart]

/-- The whole part of a quotient with a sign is the quotient of the division with remainder. -/
theorem wholePart_signed {a b m : Nat} {scale : ℚ} (h : (a : ℚ) / b = m * scale) (negative : Bool) :
    wholePart (Binary64.signedMantissa negative m * scale) = Binary64.signedMantissa negative (a / b) := by
  have hfloor : ⌊(m : ℚ) * scale⌋ = ((a / b : Nat) : Int) := by
    rw [← h, Rat.floor_natCast_div_natCast, Int.natCast_ediv]
  have hnonneg : 0 ≤ (m : ℚ) * scale := by
    rw [← h]
    positivity
  cases negative with
  | false => simp [wholePart, Binary64.signedMantissa, not_lt.mpr hnonneg, hfloor]
  | true =>
    have hsign : ((Binary64.signedMantissa true m : Int) : ℚ) * scale = -((m : ℚ) * scale) := by
      simp [Binary64.signedMantissa]
    rw [hsign, wholePart, Binary64.signedMantissa, if_pos rfl, ← hfloor]
    split
    · exact Int.ceil_neg
    · have hzero : (m : ℚ) * scale = 0 := by linarith
      simp [hzero]

/-- A scaled number is a quotient: its scale is in the numerator, or in the denominator if it is negative. -/
theorem scaled_div (base m : Nat) (e : Int) :
    let ratio := if 0 ≤ e then (m * Nat.pow base e.toNat, 1) else (m, Nat.pow base (-e).toNat)
    (ratio.1 : ℚ) / ratio.2 = m * (base : ℚ) ^ e := by
  split
  · rename_i hexponent
    obtain ⟨n, rfl⟩ := Int.eq_ofNat_of_zero_le hexponent
    simp
  · obtain ⟨n, rfl⟩ : ∃ n : Nat, e = -n := ⟨(-e).toNat, by omega⟩
    simp [div_eq_mul_inv]

/-- A finite binary number is truncated to its whole part. -/
theorem Binary64.truncated_eq (negative : Bool) (m : Nat) (e : Int) :
    truncated negative m e = wholePart (signedMantissa negative m * (2 : ℚ) ^ e) :=
  (wholePart_signed (scaled_div 2 m e) negative).symm

/-- So is a finite decimal number. -/
theorem Decimal.truncated_eq (negative : Bool) (c : Nat) (e : Int) :
    truncated negative c e = wholePart (Binary64.signedMantissa negative c * (10 : ℚ) ^ e) :=
  (wholePart_signed (scaled_div 10 c e) negative).symm

end Number

namespace Value

/-- The rational number that a value is: a flag, an integer, or a finite number of another kind. -/
def number? : Value → Option ℚ
  | .bool b => some (if b then 1 else 0)
  | .int n => some n
  | .float (.finite negative m e) => some (Number.Binary64.signedMantissa negative m * (2 : ℚ) ^ e)
  | .decimal (.finite negative c e) => some (Number.Binary64.signedMantissa negative c * (10 : ℚ) ^ e)
  | _ => none

/-- The characters that a value writes: those of a text, or of bytes that are all ASCII. -/
def characters? : Value → Option (List Char)
  | .text s => some s.toList
  | .bytes bs => toInteger.asciiOf bs
  | _ => none

/-- A value denotes an integer: it is the number, or it writes it. -/
def Denotes (v : Value) (n : Int) : Prop :=
  v.number? = some (n : ℚ) ∨ ∃ cs, v.characters? = some cs ∧ Number.decimalInteger? cs = some n

/-- A value is a number that is not whole. -/
def IsFraction (v : Value) : Prop :=
  ∃ q, v.number? = some q ∧ ∀ n : Int, q ≠ n

/-- How values are read as integers: a number as its whole part, an identifier as the number of its bits, and a text
as the integer that it writes. -/
theorem toInteger_eq_ok_iff {v : Value} {n : Int} :
    v.toInteger = .ok n ↔ (∃ q, v.number? = some q ∧ n = Number.wholePart q) ∨
      (∃ bits : Nat, v = .uuid bits ∧ n = bits) ∨
      ∃ cs, v.characters? = some cs ∧ Number.decimalInteger? cs = some n := by
  cases v with
  | bool b => cases b <;> simp [toInteger, number?, characters?, Number.wholePart, eq_comm]
  | int m => simp [toInteger, number?, characters?, Number.wholePart_intCast, eq_comm]
  | float x =>
    cases x <;> simp [toInteger, number?, characters?, Number.Binary64.truncated_eq, eq_comm]
  | decimal d =>
    cases d <;> simp [toInteger, number?, characters?, Number.Decimal.truncated_eq, eq_comm]
  | uuid bits => simp [toInteger, number?, characters?, eq_comm]
  | text s =>
    cases hread : Number.decimalInteger? s.toList <;> simp [toInteger, number?, characters?, hread]
  | bytes bs =>
    cases hascii : toInteger.asciiOf bs with
    | none => simp [toInteger, number?, characters?, hascii]
    | some cs =>
      cases hread : Number.decimalInteger? cs <;> simp [toInteger, number?, characters?, hascii, hread]
  | _ => simp [toInteger, number?, characters?]

end Value

end SchemaAtlas
