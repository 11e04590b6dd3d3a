import SchemaAtlas.Text.Blank

/-!
# Noise ahead of a statement

Before the first keyword of a statement there may stand white space, opening parentheses, line comments
and closed block comments. A line comment runs through its newline or to the end of the text, a block
comment to the first closing sign behind its opening one; a block comment that is never closed is not
noise.
-/

namespace SchemaAtlas.Sql

/-- What follows the newline that ends a line comment. -/
def afterLine : List Char → List Char
  | [] => []
  | '\n' :: rest => rest
  | _ :: rest => afterLine rest

/-- What follows the sign that closes a block comment, if there is one. -/
def afterBlock : List Char → Option (List Char)
  | [] => none
  | '*' :: '/' :: rest => some rest
  | _ :: rest => afterBlock rest

/-- What follows a line comment is no longer than the comment and it. -/
theorem afterLine_length (cs : List Char) : (afterLine cs).length ≤ cs.length := by
  fun_induction afterLine cs with
  | case1 => exact Nat.le_refl _
  | case2 rest => exact Nat.le_succ _
  | case3 c rest _ ih => exact Nat.le_succ_of_le ih

/-- What follows a block comment is shorter than the comment and it. -/
theorem afterBlock_length {cs rest : List Char} (h : afterBlock cs = some rest) :
    rest.length < cs.length := by
  fun_induction afterBlock cs with
  | case1 => cases h
  | case2 behind =>
    cases h
    simp only [List.length_cons]
    omega
  | case3 c behind _ ih => exact Nat.lt_succ_of_lt (ih h)

/-- What follows the noise token that the text starts with, if it starts with one. -/
def afterToken : List Char → Option (List Char)
  | '(' :: rest => some rest
  | '-' :: '-' :: rest => some (afterLine rest)
  | '/' :: '*' :: rest => afterBlock rest
  | c :: rest => if Text.isBlank c then some rest else none
  | [] => none

/-- A noise token is not empty. -/
theorem afterToken_length {cs rest : List Char} (h : afterToken cs = some rest) :
    rest.length < cs.length := by
  unfold afterToken at h
  split at h
  · cases h
    simp
  · cases h
    have := afterLine_length ‹List Char›
    simp only [List.length_cons]
    omega
  · have := afterBlock_length h
    simp only [List.length_cons]
    omega
  · split at h
    · cases h
      simp
    · cases h
  · cases h

/-- The text without the noise tokens it starts with. -/
def dropNoise (cs : List Char) : List Char :=
  match _h : afterToken cs with
  | some rest => dropNoise rest
  | none => cs
termination_by cs.length
decreasing_by exact afterToken_length _h

/-- What is left after the noise starts with no noise token. -/
theorem afterToken_dropNoise (cs : List Char) : afterToken (dropNoise cs) = none := by
  fun_induction dropNoise cs with
  | case1 cs rest h ih => exact ih
  | case2 cs h => exact h

end SchemaAtlas.Sql
