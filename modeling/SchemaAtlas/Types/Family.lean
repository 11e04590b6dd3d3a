import SchemaAtlas.Value.Basic
import SchemaAtlas.Text.Case

/-!
# Column types as a catalog reports them

A catalog reports a column type by a name and by a numeric code. The name is the one the type is visited
under, in upper case; the code belongs to the most special family the type descends from.
-/

namespace SchemaAtlas

/-- The families with their numeric codes, special ones before general ones. -/
def TypeFamily.codes : List (TypeFamily × Int) :=
  [(.bigInteger, -5), (.smallInteger, 5), (.integer, 4), (.boolean, 16), (.double, 8), (.float, 6),
   (.numeric, 2), (.text, -1), (.string, 12), (.dateTime, 93), (.date, 91), (.time, 92),
   (.largeBinary, 2004), (.varBinary, -3), (.binary, -2)]

/-- The code of a type outside all families. -/
def otherTypeCode : Int := 1111

namespace SqlType

/-- The name that a catalog reports for the type. -/
def reportedName (t : SqlType) : String :=
  Text.upper t.visitName

/-- The numeric code that a catalog reports for the type. -/
def reportedCode (t : SqlType) : Int :=
  match TypeFamily.codes.find? fun entry => t.families.contains entry.1 with
  | some entry => entry.2
  | none => otherTypeCode

end SqlType

end SchemaAtlas
