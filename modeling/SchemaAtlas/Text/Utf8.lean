/-!
# Bytes as text

Every character is written as one to four bytes. Reading tolerates bytes that write no character: each
longest beginning of a character that is not continued, and each byte that can begin none, stands for
one replacement character.
-/

namespace SchemaAtlas.Text

/-- The bytes of a text. -/
def utf8 (cs : List Char) : List Nat :=
  cs.flatMap fun c => (String.utf8EncodeChar c).map UInt8.toNat

/-- What stands for bytes that write no character. -/
def replacement : Char := '\ufffd'

/-- The beginning of a character: how many bytes are still owed, the range of the next one, and the bits
gathered so far. -/
structure Unfinished where
  owed : Nat
  low : Nat
  high : Nat
  bits : Nat

/-- What the first byte of a character comes to. -/
def beginChar (b : Nat) : List Char × Option Unfinished :=
  if b < 0x80 then ([Char.ofNat b], none)
  else if 0xc2 ≤ b && b ≤ 0xdf then ([], some ⟨1, 0x80, 0xbf, b - 0xc0⟩)
  else if b == 0xe0 then ([], some ⟨2, 0xa0, 0xbf, 0⟩)
  else if b == 0xed then ([], some ⟨2, 0x80, 0x9f, 0xd⟩)
  else if 0xe1 ≤ b && b ≤ 0xef then ([], some ⟨2, 0x80, 0xbf, b - 0xe0⟩)
  else if b == 0xf0 then ([], some ⟨3, 0x90, 0xbf, 0⟩)
  else if 0xf1 ≤ b && b ≤ 0xf3 then ([], some ⟨3, 0x80, 0xbf, b - 0xf0⟩)
  else if b == 0xf4 then ([], some ⟨3, 0x80, 0x8f, 4⟩)
  else ([replacement], none)

/-- What a byte comes to behind what came before. -/
def continueChar (before : Option Unfinished) (b : Nat) : List Char × Option Unfinished :=
  match before with
  | none => beginChar b
  | some u =>
    if u.low ≤ b && b ≤ u.high then
      let bits := u.bits * 0x40 + (b - 0x80)
      if u.owed ≤ 1 then ([Char.ofNat bits], none) else ([], some ⟨u.owed - 1, 0x80, 0xbf, bits⟩)
    else
      let (cs, after) := beginChar b
      (replacement :: cs, after)

/-- The text of bytes behind what came before. -/
def readUtf8 : Option Unfinished → List Nat → List Char
  | none, [] => []
  | some _, [] => [replacement]
  | before, b :: rest =>
    let (cs, after) := continueChar before b
    cs ++ readUtf8 after rest

/-- The text of bytes. -/
def ofUtf8 (bytes : List Nat) : List Char :=
  readUtf8 none bytes

end SchemaAtlas.Text
