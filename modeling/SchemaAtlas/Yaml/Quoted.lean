import SchemaAtlas.Value.JsonReader
import SchemaAtlas.Yaml.Plain

/-!
# Quoted scalars

Between single quotes only the quote itself is special and is written twice. Between double quotes a
backslash starts an escape, which may also join two lines. Either kind may go over several lines, which
are folded; neither may contain the mark of a document.
-/

namespace SchemaAtlas.Yaml

/-- The blanks, tabs and line ends at the start of a text: what line ends stand for, and the place
behind them; none if a document starts or ends in between. -/
def quotedBreaks (place : Place) : Nat → Option (List Char × Place)
  | 0 => some ([], place)
  | fuel + 1 =>
    if place.atSeparator then none
    else
      match place.next? with
      | some c =>
        if c == ' ' || c == '\t' then quotedBreaks place.step fuel
        else if isBreak c then
          (quotedBreaks place.step fuel).map fun (more, place) => (breakText c ++ more, place)
        else some ([], place)
      | none => some ([], place)

/-- The blanks or line ends inside a quoted scalar, folded. -/
def quotedGap (place : Place) : Option (List Char × Place) :=
  let blanks := place.rest.takeWhile fun c => c == ' ' || c == '\t'
  let behind := place.skip blanks.length
  match behind.next? with
  | none => none
  | some c =>
    if isBreak c then
      (quotedBreaks behind.step behind.rest.length).map fun (more, place) => (foldedBreak c more, place)
    else some (blanks, behind)

/-- The characters that letters stand for behind a backslash. -/
def escapes : List (Char × Char) :=
  [('0', '\x00'), ('a', '\x07'), ('b', '\x08'), ('t', '\t'), ('\t', '\t'), ('n', '\n'), ('v', '\x0b'),
   ('f', '\x0c'), ('r', '\r'), ('e', '\x1b'), (' ', ' '), ('"', '"'), ('\\', '\\'), ('/', '/'),
   ('N', '\x85'), ('_', '\xa0'), ('L', '\u2028'), ('P', '\u2029')]

/-- The number of hexadecimal digits that letters announce behind a backslash. -/
def escapeWidths : List (Char × Nat) :=
  [('x', 2), ('u', 4), ('U', 8)]

/-- The number that hexadecimal digits write, if there are as many as needed. -/
def hexNumber? (width : Nat) (cs : List Char) : Option Nat :=
  let digits := (cs.take width).filterMap Json.hexValue?
  if digits.length == width then some (digits.foldl (fun n d => n * 16 + d) 0) else none

/-- What an escape stands for, and the place behind it; the place is behind the backslash. -/
def escaped (place : Place) : Option (List Char × Place) :=
  match place.next? with
  | none => none
  | some c =>
    match escapes.lookup c, escapeWidths.lookup c with
    | some meant, _ => some ([meant], place.skip 1)
    | none, some width =>
      (hexNumber? width (place.rest.drop 1)).map fun n => ([Char.ofNat n], place.skip (1 + width))
    | none, none =>
      if isBreak c then quotedBreaks place.step place.rest.length else none

/-- The text of a quoted scalar up to its closing quote, and the place behind that. -/
def scanQuoted (quote : Char) (place : Place) : Nat → Option (List Char × Place)
  | 0 => none
  | fuel + 1 =>
    let following (part : Option (List Char × Place)) : Option (List Char × Place) :=
      part.bind fun (text, place) => (scanQuoted quote place fuel).map fun (more, place) => (text ++ more, place)
    match place.rest with
    | [] => none
    | c :: rest =>
      if c == quote then
        if quote == '\'' && rest.head? == some quote then following (some ([quote], place.skip 2))
        else some ([], place.skip 1)
      else if c == '\\' && quote == '"' then following (escaped (place.skip 1))
      else if isSpace c then following (quotedGap place)
      else following (some ([c], place.skip 1))

/-- The text of the quoted scalar that starts here, and the place behind it. -/
def quotedScalar? (place : Place) : Option (String × Place) :=
  match place.next? with
  | some quote =>
    (scanQuoted quote (place.skip 1) place.rest.length).map fun (text, place) => (String.ofList text, place)
  | none => none

end SchemaAtlas.Yaml
