/-!
# Name patterns

A pattern matches a whole name and tells letter case apart: `*` stands for any characters, `?` for any
one, and `[...]` for one character of a set, or with `!` first for one outside it. In a set a hyphen
between two characters makes a range; ranges from a later to an earlier character are dropped together
with their ends, so that a set can become empty: such a set matches nothing, its complement anything.
An opening bracket that is never closed stands for itself.
-/

namespace SchemaAtlas.Text.Glob

/-- A member of a character set: one character or a closed range. -/
inductive Member where
  | one (c : Char)
  | range (low high : Char)
deriving Repr, DecidableEq

/-- Whether a member of a set covers the character. -/
def Member.covers (c : Char) : Member → Bool
  | .one member => c == member
  | .range low high => low ≤ c && c ≤ high

/-- One part of a pattern. -/
inductive Part where
  | star
  | anyOne
  | exactly (c : Char)
  | oneOf (negated : Bool) (members : List Member)
deriving Repr, DecidableEq

/-- Whether the part stands for this one character. -/
def Part.admits (c : Char) : Part → Bool
  | .star => false
  | .anyOne => true
  | .exactly wanted => c == wanted
  | .oneOf negated members => members.any (Member.covers c) != negated

/-- The ends of a list, longest first. -/
def suffixes : List Char → List (List Char)
  | [] => [[]]
  | c :: cs => (c :: cs) :: suffixes cs

/-- Whether the parts together stand for the whole text. -/
def partsMatch : List Part → List Char → Bool
  | [], cs => cs.isEmpty
  | .star :: parts, cs => (suffixes cs).any (partsMatch parts)
  | _ :: _, [] => false
  | part :: parts, c :: cs => part.admits c && partsMatch parts cs

/-! ## Reading a set -/

/-- Splits the text of a set at the hyphens that make ranges: after the first `skip` characters, the
first hyphen ends a chunk, and the search goes on two characters behind it. -/
def chunksFrom (skip : Nat) (chunk : List Char) : List Char → List (List Char)
  | [] => [chunk.reverse]
  | c :: cs =>
    if skip = 0 && c == '-' then chunk.reverse :: chunksFrom 2 [] cs
    else chunksFrom (skip - 1) (c :: chunk) cs

/-- A hyphen at the very end belongs to the chunk before it. -/
def foldFinalHyphen : List (List Char) → List (List Char)
  | [] => []
  | [chunk] => [chunk]
  | [chunk, []] => [chunk ++ ['-']]
  | chunk :: next :: rest => chunk :: foldFinalHyphen (next :: rest)

/-- Drops, from the last to the first, the ranges between chunks that run backwards, with their ends. -/
def dropBackward : List (List Char) → List (List Char)
  | [] => []
  | chunk :: rest =>
    match dropBackward rest with
    | [] => [chunk]
    | next :: others =>
      match chunk.getLast?, next.head? with
      | some low, some high =>
        if high < low then (chunk.dropLast ++ next.tail) :: others else chunk :: next :: others
      | _, _ => chunk :: next :: others

/-- A character of a set, or the sign of a range between two of them. -/
inductive Mark where
  | char (c : Char)
  | through
deriving Repr, DecidableEq

/-- The chunks in order, with the sign of a range between two of them. -/
def marks : List (List Char) → List Mark
  | [] => []
  | [chunk] => chunk.map .char
  | chunk :: next :: rest => chunk.map .char ++ .through :: marks (next :: rest)

/-- The members that a list of marks denotes; a sign without two characters around it is a hyphen. -/
def members : List Mark → List Member
  | [] => []
  | .char low :: .through :: .char high :: rest => .range low high :: members rest
  | .char c :: rest => .one c :: members rest
  | .through :: rest => .one '-' :: members rest

/-- The set between the brackets of a pattern. -/
def readSet (body : List Char) : Part :=
  let skip := if body.head? == some '!' then 2 else 1
  match marks (dropBackward (foldFinalHyphen (chunksFrom skip [] body))) with
  | .char '!' :: rest => .oneOf true (members rest)
  | found => .oneOf false (members found)

/-- Splits behind the first closing bracket. -/
def splitAtClose : List Char → Option (List Char × List Char)
  | [] => none
  | ']' :: rest => some ([], rest)
  | c :: rest => (splitAtClose rest).map fun (body, after) => (c :: body, after)

/-- The body of a set and what follows it; a closing bracket right at the start is a member. -/
def setBody : List Char → Option (List Char × List Char)
  | '!' :: ']' :: rest => (splitAtClose rest).map fun (body, after) => ('!' :: ']' :: body, after)
  | '!' :: rest => (splitAtClose rest).map fun (body, after) => ('!' :: body, after)
  | ']' :: rest => (splitAtClose rest).map fun (body, after) => (']' :: body, after)
  | rest => splitAtClose rest

/-- What follows a closing bracket is shorter than the text it was found in. -/
theorem splitAtClose_length {cs body after : List Char} (h : splitAtClose cs = some (body, after)) :
    after.length < cs.length := by
  induction cs generalizing body with
  | nil => simp [splitAtClose] at h
  | cons c cs ih =>
    unfold splitAtClose at h
    split at h
    · cases h
    · rename_i heq
      cases heq
      cases h
      simp
    · rename_i heq
      cases heq
      obtain ⟨⟨inner, rest⟩, found, e⟩ := Option.map_eq_some_iff.1 h
      cases e
      have := ih found
      simp only [List.length_cons]
      omega

/-- What follows a set is shorter than the text behind its opening bracket. -/
theorem setBody_length {cs body after : List Char} (h : setBody cs = some (body, after)) :
    after.length < cs.length := by
  unfold setBody at h
  split at h
  case h_4 => exact splitAtClose_length h
  all_goals
    obtain ⟨⟨inner, rest⟩, found, e⟩ := Option.map_eq_some_iff.1 h
    cases e
    have := splitAtClose_length found
    simp only [List.length_cons]
    omega

/-- The parts of a pattern. -/
def parts (pattern : List Char) : List Part :=
  match pattern with
  | [] => []
  | '*' :: rest => .star :: parts rest
  | '?' :: rest => .anyOne :: parts rest
  | '[' :: rest =>
    match _h : setBody rest with
    | some (body, after) => readSet body :: parts after
    | none => .exactly '[' :: parts rest
  | c :: rest => .exactly c :: parts rest
termination_by pattern.length
decreasing_by
  all_goals simp_wf
  · have shorter := setBody_length _h
    omega

end Glob

/-- Whether the pattern matches the whole name. -/
def globMatches (pattern name : String) : Bool :=
  Glob.partsMatch (Glob.parts pattern.toList) name.toList

end SchemaAtlas.Text
