/-!
# Places in a text

A place is what is left of a text together with the line and the column it starts at. Blanks, line ends
and comments form the gaps between the parts of a text; a tab is no part of a gap. A line that consists
of three hyphens or three points, or starts with them and a blank, separates documents.
-/

namespace SchemaAtlas.Yaml

/-- What is left of a text, and where it starts. -/
structure Place where
  rest : List Char
  line : Nat := 0
  column : Nat := 0
deriving Repr, DecidableEq

/-- Whether the character ends a line. -/
def isBreak (c : Char) : Bool :=
  c == '\n' || c == '\x85' || c == '\u2028' || c == '\u2029'

/-- Whether the character ends a line, or is a blank or a tab. -/
def isSpace (c : Char) : Bool :=
  c == ' ' || c == '\t' || isBreak c

/-- What a line end stands for inside a scalar. -/
def breakText (c : Char) : List Char :=
  if c == '\x85' then ['\n'] else [c]

namespace Place

/-- The place behind one character. -/
def step (place : Place) : Place :=
  match place.rest with
  | [] => place
  | c :: rest =>
    if isBreak c then ⟨rest, place.line + 1, 0⟩ else ⟨rest, place.line, place.column + 1⟩

/-- The place behind so many characters, none of which ends a line. -/
def skip (place : Place) (count : Nat) : Place :=
  ⟨place.rest.drop count, place.line, place.column + count⟩

/-- The next character, if there is one. -/
def next? (place : Place) : Option Char :=
  place.rest.head?

/-- Whether the text ends here. -/
def atEnd (place : Place) : Bool :=
  place.rest.isEmpty

/-- Whether the text goes on with a character. -/
def startsWith (place : Place) (c : Char) : Bool :=
  place.next? == some c

/-- Whether a space, a line end or the end of the text follows so many characters. -/
def spaceAt (place : Place) (count : Nat) : Bool :=
  match place.rest[count]? with
  | none => true
  | some c => isSpace c

/-- Whether the text goes on with a sign that a space follows. -/
def startsWithSign (place : Place) (c : Char) : Bool :=
  place.startsWith c && place.spaceAt 1

/-- Whether a mark of three characters stands alone at the start of the line. -/
def startsWithMark (place : Place) (c : Char) : Bool :=
  place.column == 0 && place.rest.take 3 == [c, c, c] && place.spaceAt 3

/-- Whether a document starts or ends here. -/
def atSeparator (place : Place) : Bool :=
  place.startsWithMark '-' || place.startsWithMark '.'

/-- Whether no part of the document follows. -/
def atDocumentEnd (place : Place) : Bool :=
  place.atEnd || place.atSeparator

/-- The place behind a gap. -/
def skipGapFrom (inComment : Bool) (line column : Nat) : List Char → Place
  | [] => ⟨[], line, column⟩
  | c :: rest =>
    if isBreak c then skipGapFrom false (line + 1) 0 rest
    else if inComment || c == ' ' then skipGapFrom inComment line (column + 1) rest
    else if c == '#' then skipGapFrom true line (column + 1) rest
    else ⟨c :: rest, line, column⟩

/-- The place behind the gap that starts here. -/
def skipGap (place : Place) : Place :=
  skipGapFrom false place.line place.column place.rest

end Place

end SchemaAtlas.Yaml
