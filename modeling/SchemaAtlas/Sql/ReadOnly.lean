import SchemaAtlas.Sql.Noise
import SchemaAtlas.Text.Case
import SchemaAtlas.Value.Access

/-!
# The guard of the reading path

A statement may be run for reading if, behind the noise ahead of it, it starts with one of eight words.
The comparison is made on the text in capital letters and looks at its beginning only.
-/

namespace SchemaAtlas.Sql

/-- The words that a reading statement starts with. -/
def readingWords : List String :=
  ["SELECT", "WITH", "VALUES", "TABLE", "EXPLAIN", "DESCRIBE", "SHOW", "PRAGMA"]

/-- The part of a statement that the guard looks at. -/
def guarded (statement : String) : List Char :=
  Text.upperChars (dropNoise statement.toList)

/-- Whether a statement may be run for reading. -/
def isReading (statement : String) : Bool :=
  readingWords.any fun word => word.toList.isPrefixOf (guarded statement)

/-- The failure of handing a statement to the reading path that may not be run there; it shows fifty
characters of the statement. -/
def notReading (statement : String) : Failure :=
  .plain .readOnly ("SAFETY BLOCK: Only read-only queries are allowed. Attempted: " ++
    String.ofList ((guarded statement).take 50) ++ "...")

/-- Lets a reading statement pass and refuses any other. -/
def checkReading (statement : String) : Except Failure Unit :=
  if isReading statement then .ok () else .error (notReading statement)

/-- The same for a statement that need not be a text. -/
def checkReadingValue : Value → Except Failure Unit
  | .text statement => checkReading statement
  | .bytes _ => .error (Failure.faultText .wrongType "cannot use a string pattern on a bytes-like object")
  | v => .error (Failure.faultText .wrongType
      s!"expected string or bytes-like object, got '{v.kindName}'")

/-- A statement passes exactly if it is a reading one. -/
theorem checkReading_eq_ok_iff (statement : String) :
    checkReading statement = .ok () ↔ isReading statement = true := by
  unfold checkReading
  split <;> simp_all

end SchemaAtlas.Sql
