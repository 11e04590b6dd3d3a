import SchemaAtlas.Text.Ranges

/-!
# White space

White space is what separates words in text: the space of every script, tabs, line and paragraph
separators, and the four information separators. The zero-width characters are not among it.
-/

namespace SchemaAtlas.Text

/-- Ranges of the white-space characters. -/
def blanks : Ranges :=
   [(9, 13), (28, 32), (133, 133), (160, 160), (5760, 5760), (8192, 8202), (8232, 8233),
    (8239, 8239), (8287, 8287), (12288, 12288)]

/-- Whether the character is white space. -/
def isBlank (c : Char) : Bool :=
  blanks.has c.toNat

/-- The text without its leading white space. -/
def dropBlanks (cs : List Char) : List Char :=
  cs.dropWhile isBlank

/-- The text without white space at either end. -/
def trimBlanks (cs : List Char) : List Char :=
  ((dropBlanks cs).reverse.dropWhile isBlank).reverse

/-- What is left of a text without its leading white space starts with none. -/
theorem dropBlanks_head {cs : List Char} {c : Char} {rest : List Char}
    (h : dropBlanks cs = c :: rest) : isBlank c = false := by
  have := List.head?_dropWhile_not isBlank cs
  simp only [dropBlanks] at h
  simpa [h] using this

end SchemaAtlas.Text
