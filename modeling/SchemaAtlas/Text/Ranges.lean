/-!
# Sets of characters as ranges

A character property of a standard is data: closed ranges of code points. This module says what it
means to lie in one of them; the modules beside it hold the data of one property each.
-/

namespace SchemaAtlas.Text

/-- Closed ranges of code points, in increasing order. -/
abbrev Ranges := List (Nat × Nat)

/-- Whether a code point lies in one of the ranges. -/
def Ranges.has (ranges : Ranges) (point : Nat) : Bool :=
  ranges.any fun range => range.1 ≤ point && point ≤ range.2

end SchemaAtlas.Text
