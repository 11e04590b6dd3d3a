import SchemaAtlas.Value.Basic
import SchemaAtlas.Text.Quoted

/-!
# Values as structured text

A value made of absences, flags, integers, texts, lists and records is written in one line without any
blank, or over several lines, each level further indented than the one around it. Empty lists and
records stay in one line. Values of other kinds have no such text and are written as absences.
-/

namespace SchemaAtlas.Json

/-- A character of a text, escaped where it must be. -/
def escapeChar (c : Char) : List Char :=
  if c == '"' then ['\\', '"']
  else if c == '\\' then ['\\', '\\']
  else if c == '\x08' then ['\\', 'b']
  else if c == '\t' then ['\\', 't']
  else if c == '\n' then ['\\', 'n']
  else if c == '\x0c' then ['\\', 'f']
  else if c == '\r' then ['\\', 'r']
  else if c.toNat < 0x20 then '\\' :: 'u' :: Text.hexDigits 4 c.toNat
  else [c]

/-- A text between quotes. -/
def quoted (s : String) : String :=
  String.ofList ('"' :: s.toList.flatMap escapeChar ++ ['"'])

/-- How a text is laid out: in one line, or with so many blanks for each level. -/
abbrev Layout := Option Nat

/-- What separates a bracket or a comma from what stands at the given level. -/
def gap (layout : Layout) (level : Nat) : String :=
  match layout with
  | none => ""
  | some width => "\n" ++ String.ofList (List.replicate (width * level) ' ')

/-- The sign between the key and the value of a field. -/
def colon (layout : Layout) : String :=
  if layout.isSome then ": " else ":"

/-- Parts between brackets, on the level inside them. -/
def bracketed (layout : Layout) (level : Nat) (left right : String) (parts : List String) : String :=
  if parts.isEmpty then left ++ right
  else left ++ gap layout (level + 1) ++ String.intercalate ("," ++ gap layout (level + 1)) parts ++
    gap layout level ++ right

mutual

/-- The text of a value at a level. -/
def write (layout : Layout) (level : Nat) : Value → String
  | .bool b => if b then "true" else "false"
  | .int n => toString n
  | .text s => quoted s
  | .list items => bracketed layout level "[" "]" (writeItems layout level items)
  | .record fields => bracketed layout level "\x7b" "\x7d" (writeFields layout level fields)
  | _ => "null"

/-- The texts of the items of a list at a level. -/
def writeItems (layout : Layout) (level : Nat) : List Value → List String
  | [] => []
  | v :: rest => write layout (level + 1) v :: writeItems layout level rest

/-- The texts of the fields of a record at a level. -/
def writeFields (layout : Layout) (level : Nat) : List (String × Value) → List String
  | [] => []
  | (key, v) :: rest =>
    (quoted key ++ colon layout ++ write layout (level + 1) v) :: writeFields layout level rest

end

/-- The text of a value. -/
def text (layout : Layout) (v : Value) : String :=
  write layout 0 v

end SchemaAtlas.Json
