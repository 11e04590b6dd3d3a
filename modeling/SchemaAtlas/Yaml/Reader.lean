import SchemaAtlas.Yaml.Block
import SchemaAtlas.Yaml.Datum
import SchemaAtlas.Yaml.Quoted

/-!
# Reading structured settings

A text holds one document or none. Its data are laid out as blocks, by indentation, or as flows, by
brackets. In a block a key stands on one line and is told by the colon behind it; a block inside a block
starts on a line of its own, or behind the hyphen of an item. A datum can be named by an anchor and stands
again wherever its name is called. The key of a mapping must be a scalar; of equal keys the last counts.
-/

namespace SchemaAtlas.Yaml

/-- The data that have a name. -/
abbrev Anchors := List (String × Datum)

/-- Where a reader stands and which names it knows. -/
structure Stand where
  place : Place
  anchors : Anchors := []

/-- A reader; a text that is not well formed yields nothing. -/
abbrev Reader (α : Type) := StateT Stand Option α

namespace Reader

/-- Where the reader stands. -/
def place : Reader Place := do
  pure (← get).place

/-- Moves the reader. -/
def moveTo (place : Place) : Reader Unit :=
  modify fun stand => { stand with place }

/-- Moves the reader on by some characters of a line. -/
def skip (count : Nat) : Reader Unit := do
  moveTo ((← place).skip count)

/-- Moves the reader behind a gap and tells where it then stands. -/
def skipGap : Reader Place := do
  let next := (← place).skipGap
  moveTo next
  pure next

/-- Reads what a text at the reader's place yields, and moves behind it. -/
def take {α : Type} (read : Place → Option (α × Place)) : Reader α := do
  let (a, next) ← read (← place)
  moveTo next
  pure a

/-- Moves the reader behind the blanks of a line. -/
def skipBlanks : Reader Unit := do
  skip ((← place).rest.takeWhile (· == ' ')).length

/-- Moves behind a sign that must be there. -/
def expect (c : Char) : Reader Unit := do
  if (← place).startsWith c then skip 1 else failure

end Reader

open Reader

/-- Whether the character can stand in a name. -/
def inName (c : Char) : Bool :=
  c.isAlphanum || c == '-' || c == '_'

/-- Whether the character can follow a name. -/
def followsName (c : Char) : Bool :=
  isSpace c || "?:,]\x7d%@".toList.contains c || c == Char.ofNat 0x60

/-- A name behind its sign. -/
def readName : Reader String := do
  skip 1
  let name := (← place).rest.takeWhile inName
  skip name.length
  let ended := match (← place).next? with
    | none => true
    | some c => followsName c
  if name.isEmpty || !ended then failure
  pure (String.ofList name)

/-- The datum that a name calls. -/
def readAlias : Reader Datum := do
  let name ← readName
  match (← get).anchors.lookup name with
  | some datum => pure datum
  | none => failure

/-- What may stand in front of a datum: a name for it, and a mark that it is a text. -/
structure Properties where
  anchor : Option String := none
  isText : Bool := false

/-- The mark that a datum is a text. -/
def textMark : List Char := "!!str".toList

/-- Reads what stands in front of a datum on the same line. -/
def readProperties : Nat → Properties → Reader Properties
  | 0, properties => pure properties
  | fuel + 1, properties => do
    let start ← place
    if start.startsWith '&' && properties.anchor.isNone then
      let name ← readName
      skipBlanks
      readProperties fuel { properties with anchor := some name }
    else if start.rest.take 5 == textMark && start.spaceAt 5 && !properties.isText then
      skip 5
      skipBlanks
      readProperties fuel { properties with isText := true }
    else pure properties

/-- Names a datum that was just read. -/
def nameDatum (properties : Properties) (datum : Datum) : Reader Datum := do
  match properties.anchor with
  | none => pure datum
  | some name =>
    if ((← get).anchors.lookup name).isSome then failure
    modify fun stand => { stand with anchors := (name, datum) :: stand.anchors }
    pure datum

/-- A quoted or plain scalar. -/
def readScalar (flow : Bool) (indent : Nat) (isText : Bool) : Reader Datum := do
  let start ← place
  if start.startsWith '\'' || start.startsWith '"' then
    pure (.scalar (.text (← take quotedScalar?)))
  else if startsPlain flow start then
    let (text, next) := scanPlain flow indent start (start.rest.length + 1)
    moveTo next
    let s := String.ofList text
    if isText then pure (.scalar (.text s))
    else
      match plainValue? s with
      | some v => pure (.scalar v)
      | none => failure
  else failure

/-- Adds an entry to a mapping; the key must be a scalar. -/
def addEntry (entries : Entries) (key datum : Datum) : Reader Entries :=
  match key with
  | .scalar key => pure (entries.put key datum)
  | _ => failure

/-- An absent datum; marked as a text it is the empty one. -/
def absentDatum (properties : Properties) : Datum :=
  .scalar (if properties.isText then .text "" else .null)

/-! ## Flows -/

mutual

/-- A datum of a flow. -/
def readFlow : Nat → Reader Datum
  | 0 => failure
  | fuel + 1 => do
    let properties ← readProperties 3 {}
    let start ← skipGap
    if start.startsWith '*' then readAlias
    else if start.startsWith '[' then
      skip 1
      nameDatum properties (.list (← readItems fuel []))
    else if start.startsWith '\x7b' then
      skip 1
      nameDatum properties (.mapping (← readEntries fuel []))
    else if properties.anchor.isSome || properties.isText then
      if startsPlain true start || start.startsWith '\'' || start.startsWith '"' then
        nameDatum properties (← readScalar true 0 properties.isText)
      else nameDatum properties (absentDatum properties)
    else readScalar true 0 false

/-- What stands behind the colon of a flow, if anything does before one of the signs that end it. -/
def readFlowValue (fuel : Nat) (close : Char) : Reader Datum :=
  match fuel with
  | 0 => failure
  | fuel + 1 => do
    skip 1
    let next ← skipGap
    if next.startsWith ',' || next.startsWith close then pure (.scalar .null)
    else readFlow fuel

/-- The items of a list up to its closing bracket. An item with a colon behind it is a mapping of one
entry. -/
def readItems : Nat → List Datum → Reader (List Datum)
  | 0, _ => failure
  | fuel + 1, before => do
    let start ← skipGap
    if start.startsWith ']' then
      skip 1
      pure before.reverse
    else
      let item ← readFlow fuel
      let next ← skipGap
      let item ← if next.startsWith ':' && next.line == start.line then
          (do pure (.mapping (← addEntry [] item (← readFlowValue fuel ']'))))
        else pure item
      let next ← skipGap
      if next.startsWith ',' then
        skip 1
        readItems fuel (item :: before)
      else
        expect ']'
        pure (item :: before).reverse

/-- The entries of a mapping up to its closing brace. -/
def readEntries : Nat → Entries → Reader Entries
  | 0, _ => failure
  | fuel + 1, before => do
    let start ← skipGap
    if start.startsWith '\x7d' then
      skip 1
      pure before
    else
      let key ← readFlow fuel
      let next ← skipGap
      let datum ← if next.startsWith ':' && next.line == start.line then readFlowValue fuel '\x7d'
        else pure (.scalar .null)
      let entries ← addEntry before key datum
      let next ← skipGap
      if next.startsWith ',' then
        skip 1
        readEntries fuel entries
      else
        expect '\x7d'
        pure entries

end

/-! ## Blocks -/

/-- Whether an item of a block list starts here. -/
def startsItem (place : Place) : Bool :=
  place.startsWithSign '-'

/-- A scalar, flow or called datum of a block, which lines indented less than `indent` do not belong to. -/
def readInline (fuel indent : Nat) (properties : Properties) : Reader Datum := do
  let start ← place
  if start.startsWith '*' then readAlias
  else if start.startsWith '[' || start.startsWith '\x7b' then nameDatum properties (← readFlow fuel)
  else if start.startsWith '|' || start.startsWith '>' then
    nameDatum properties (.scalar (.text (← take (blockScalar? (Nat.max indent 1)))))
  else nameDatum properties (← readScalar false indent properties.isText)

/-- A key on one line, up to and with the colon behind it; nothing is read if there is none. -/
def readKey? (fuel : Nat) : Reader (Option Datum) := fun stand =>
  let key : Reader Datum := do
    let start ← place
    let properties ← readProperties 3 {}
    let here ← place
    if here.startsWith '|' || here.startsWith '>' then failure
    let datum ← readInline fuel 0 properties
    let next ← skipGap
    if next.line == start.line && next.startsWithSign ':' then
      skip 1
      pure datum
    else failure
  match key stand with
  | some (datum, behind) => some (some datum, behind)
  | none => some (none, stand)

mutual

/-- A datum of a block. It is indented more than `parent` columns, counted from one; `nested` tells
whether a block may start here. -/
def readBlock : Nat → Nat → Bool → Reader Datum
  | 0, _, _ => failure
  | fuel + 1, parent, nested => do
    let start ← place
    if nested && startsItem start then
      pure (.list (← readBlockItems fuel start.column false []))
    else
      let key ← if nested then readKey? fuel else pure none
      match key with
      | some key =>
        let datum ← readBlockValue fuel start.column start.line
        readBlockEntries fuel start.column (← addEntry [] key datum)
      | none =>
        let properties ← readProperties 3 {}
        let here ← place
        let next ← skipGap
        if (properties.anchor.isSome || properties.isText) && (next.atDocumentEnd || here.line < next.line) then
          if next.atDocumentEnd || next.column < parent then nameDatum properties (absentDatum properties)
          else nameDatum properties (← readBlock fuel parent true)
        else readInline fuel parent properties

/-- What stands behind the colon of a key in the given column and line, or behind its hyphen. -/
def readBlockValue : Nat → Nat → Nat → Reader Datum
  | 0, _, _ => failure
  | fuel + 1, column, line => do
    let before ← get
    let next ← skipGap
    if next.atDocumentEnd then
      set before
      pure (.scalar .null)
    else if next.line == line then readBlock fuel (column + 1) false
    else if next.column > column then readBlock fuel (column + 1) true
    else if next.column == column && startsItem next then
      pure (.list (← readBlockItems fuel column true []))
    else
      set before
      pure (.scalar .null)

/-- The entries of a mapping behind those already read, all of which start in one column. -/
def readBlockEntries : Nat → Nat → Entries → Reader Datum
  | 0, _, _ => failure
  | fuel + 1, column, entries => do
    let before ← get
    let next ← skipGap
    if next.atDocumentEnd then
      set before
      pure (.mapping entries)
    else if next.line == before.place.line then failure
    else if next.column == column then
      match ← readKey? fuel with
      | none => failure
      | some key =>
        let datum ← readBlockValue fuel column next.line
        readBlockEntries fuel column (← addEntry entries key datum)
    else if next.column < column then
      set before
      pure (.mapping entries)
    else failure

/-- The items of a list, whose hyphens start in one column; the reader stands at a hyphen. A list that
stands in the column of a key ends where the next key starts. -/
def readBlockItems : Nat → Nat → Bool → List Datum → Reader (List Datum)
  | 0, _, _, _ => failure
  | fuel + 1, column, amongKeys, before => do
    let hyphen ← place
    skip 1
    let behind ← get
    let next ← skipGap
    let item ←
      if next.atDocumentEnd || (next.line != hyphen.line && next.column ≤ column) then
        (do set behind; pure (.scalar .null))
      else readBlock fuel (column + 1) true
    let items := item :: before
    let ended ← get
    let next ← skipGap
    if next.atDocumentEnd then
      set ended
      pure items.reverse
    else if next.line == ended.place.line then failure
    else if next.column == column then
      if startsItem next then readBlockItems fuel column amongKeys items
      else if amongKeys then
        set ended
        pure items.reverse
      else failure
    else if next.column < column then
      set ended
      pure items.reverse
    else failure

end

/-! ## Documents -/

/-- Behind the document only marks of its end may follow. -/
def readEnd : Nat → Reader Unit
  | 0 => failure
  | fuel + 1 => do
    let next ← skipGap
    if next.atEnd then pure ()
    else if next.startsWithMark '.' then
      skip 3
      readEnd fuel
    else failure

/-- The document of a text, null if there is none. -/
def readDocument (fuel : Nat) : Reader Datum := do
  let start ← skipGap
  if start.atEnd then pure (.scalar .null)
  else
    let marked := start.startsWithMark '-'
    if marked then skip 3
    let next ← skipGap
    let datum ←
      if marked && next.atDocumentEnd then pure (.scalar .null)
      else readBlock fuel 0 (!marked || start.line < next.line)
    readEnd fuel
    pure datum

/-- Whether the character may stand in a text. -/
def isAllowed (c : Char) : Bool :=
  c == '\t' || c == '\n' || c == '\r' || ('\x20' ≤ c && c ≤ '\x7e') || c == '\x85' ||
    ('\xa0' ≤ c && c != '\ufffe' && c != '\uffff')

/-- The text with every line ended by the same character. -/
def unifyLines : List Char → List Char
  | '\r' :: '\n' :: rest => '\n' :: unifyLines rest
  | '\r' :: rest => '\n' :: unifyLines rest
  | c :: rest => c :: unifyLines rest
  | [] => []

/-- The datum that a text writes, if it is well formed. -/
def parse? (s : String) : Option Datum :=
  let cs := unifyLines s.toList
  let cs := if cs.head? == some '\ufeff' then cs.drop 1 else cs
  if cs.all isAllowed then
    (readDocument (4 * cs.length + 8) { place := { rest := cs } }).map (·.1)
  else none

end SchemaAtlas.Yaml
