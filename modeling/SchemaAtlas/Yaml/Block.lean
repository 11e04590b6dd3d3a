import SchemaAtlas.Yaml.Place

/-!
# Block scalars

A block scalar is announced by a bar or an angle and consists of the following lines that are indented
more than what surrounds them. A bar keeps the line ends; an angle folds lines that start with no space.
The line end of the last line is kept, unless the announcement says that none or all of those behind it
are.
-/

namespace SchemaAtlas.Yaml

/-- Which of the line ends behind the last line are kept. -/
inductive Chomping where
  | strip
  | clip
  | keep
deriving Repr, DecidableEq

/-- How a block scalar is announced. -/
structure BlockHead where
  folded : Bool
  chomping : Chomping := .clip
  increment : Option Nat := none
deriving Repr, DecidableEq

namespace BlockHead

/-- Adds a sign of an announcement, if it may stand there. -/
def addSign (head : BlockHead) (c : Char) : Option BlockHead :=
  if c == '+' && head.chomping == .clip then some { head with chomping := .keep }
  else if c == '-' && head.chomping == .clip then some { head with chomping := .strip }
  else if '1' ≤ c && c ≤ '9' && head.increment.isNone then
    some { head with increment := some (c.toNat - '0'.toNat) }
  else none

/-- Reads the signs of an announcement. -/
def ofSigns (head : BlockHead) (signs : List Char) : Option BlockHead :=
  signs.foldlM addSign head

end BlockHead

/-- The end of the line of an announcement, on which only a comment may follow. -/
def headEnd? (place : Place) : Option Place :=
  let blanks := place.skip (place.rest.takeWhile (· == ' ')).length
  let line := if blanks.startsWith '#' then
      blanks.skip (blanks.rest.takeWhile fun c => !isBreak c).length
    else blanks
  if (line.next?.map isBreak).getD true then some line else none

/-- The line ends in front of a line, with at most `indent` blanks before each: what they stand for, and
the place behind them and the blanks that follow. -/
def blockBreaks (indent : Option Nat) (place : Place) : Nat → List Char × Nat × Place
  | 0 => ([], place.column, place)
  | fuel + 1 =>
    match place.next? with
    | some c =>
      if c == ' ' && (indent.map fun n => decide (place.column < n)).getD true then
        let (more, widest, place) := blockBreaks indent place.step fuel
        (more, Nat.max widest place.column, place)
      else if isBreak c then
        let (more, widest, last) := blockBreaks indent place.step fuel
        (breakText c ++ more, Nat.max widest place.column, last)
      else ([], place.column, place)
    | none => ([], place.column, place)

/-- The lines of a block scalar: its text without the line end of the last line, that line end, those
behind it, and the end of the last line. -/
def blockLines (folded : Bool) (indent : Nat) (place : Place) :
    Nat → List Char × List Char × List Char × Place
  | 0 => ([], [], [], place)
  | fuel + 1 =>
    let line := place.rest.takeWhile fun c => !isBreak c
    let last := place.skip line.length
    match last.next? with
    | none => (line, [], [], last)
    | some c =>
      let (breaks, _, next) := blockBreaks (some indent) last.step last.rest.length
      let isText (place : Place) : Bool := !(place.startsWith ' ' || place.startsWith '\t')
      if next.column == indent && !next.atEnd then
        let joint :=
          if folded && breakText c == ['\n'] && isText place && isText next then
            if breaks.isEmpty then [' '] else []
          else breakText c
        let (more, final, behind, place) := blockLines folded indent next fuel
        (line ++ joint ++ breaks ++ more, final, behind, place)
      else (line, breakText c, breaks, last)

/-- The text of the block scalar that starts here, and the end of its last line; its lines are indented
by `least` columns at least. -/
def blockScalar? (least : Nat) (place : Place) : Option (String × Place) := do
  let signs := (place.rest.drop 1).takeWhile fun c => !isSpace c
  let head ← BlockHead.ofSigns { folded := place.startsWith '>' } signs
  let announced ← headEnd? (place.skip (1 + signs.length))
  let start := announced.step
  let fixed := head.increment.map fun n => least + n - 1
  let (breaks, widest, first) := blockBreaks fixed start (start.rest.length + 1)
  let indent := fixed.getD (Nat.max least widest)
  let (text, final, behind, last) :=
    if first.column == indent && !first.atEnd then
      blockLines head.folded indent first (first.rest.length + 1)
    else ([], [], [], announced)
  let text := if text.isEmpty && final.isEmpty then ([], [], breaks) else (breaks ++ text, final, behind)
  let (body, final, behind) := text
  let ending := match head.chomping with
    | .strip => []
    | .clip => final
    | .keep => final ++ behind
  some (String.ofList (body ++ ending), last)

end SchemaAtlas.Yaml
