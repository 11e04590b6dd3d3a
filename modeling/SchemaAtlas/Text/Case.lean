import SchemaAtlas.Text.CaseTable

/-!
# Upper and lower case of texts

The full case mappings: a character may become several (`ß` becomes `SS`), and a capital sigma
becomes a final one where a word ends. Names are compared and statements are examined through them.
-/

namespace SchemaAtlas.Text

/-- The other-case form of a code point under the first run that maps it. -/
def mappedBy (runs : List CaseRun) (c : Char) : Char :=
  match runs.find? fun run => run.maps c.toNat with
  | some run => Char.ofNat (c.toNat + run.shift).toNat
  | none => c

/-- The upper form of one character. -/
def upperChar (c : Char) : List Char :=
  match upperExpansions.find? fun entry => entry.1 == c.toNat with
  | some entry => entry.2.map Char.ofNat
  | none => [mappedBy upperRuns c]

/-- The upper form of a text, character by character. -/
def upperChars (cs : List Char) : List Char :=
  cs.flatMap upperChar

/-- Whether the first character that is not passed over has case. -/
def meetsCased (cs : List Char) : Bool :=
  match cs.dropWhile fun c => caseIgnorable.has c.toNat with
  | [] => false
  | c :: _ => cased.has c.toNat

/-- The lower form of one character between the reversed text before it and the text after it. -/
def lowerChar (before : List Char) (c : Char) (after : List Char) : List Char :=
  if c.toNat == 0x3A3 then
    if meetsCased before && !meetsCased after then [Char.ofNat 0x3C2] else [Char.ofNat 0x3C3]
  else if c.toNat == 0x130 then
    [Char.ofNat 0x69, Char.ofNat 0x307]
  else
    [mappedBy lowerRuns c]

/-- The lower form of a text that follows the reversed text `before`. -/
def lowerAfter (before : List Char) : List Char → List Char
  | [] => []
  | c :: rest => lowerChar before c rest ++ lowerAfter (c :: before) rest

/-- The lower form of a text. -/
def lowerChars (cs : List Char) : List Char :=
  lowerAfter [] cs

/-- The upper form of a string. -/
def upper (s : String) : String :=
  String.ofList (upperChars s.toList)

/-- The lower form of a string. -/
def lower (s : String) : String :=
  String.ofList (lowerChars s.toList)

/-- The upper form of a text is made piece by piece. -/
theorem upperChars_append (front back : List Char) :
    upperChars (front ++ back) = upperChars front ++ upperChars back :=
  List.flatMap_append

end SchemaAtlas.Text
