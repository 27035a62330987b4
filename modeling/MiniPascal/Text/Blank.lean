import MiniPascal.Text.CodePoints

/-! # Blanks

The property White_Space: spaces of every width, tabs and line ends. A text is trimmed by dropping its
blanks at both ends. -/

namespace MiniPascal.Text

/-- The code points with the property White_Space. -/
def blank : CodePoints := ⟨[
  (0x9, 0xD), (0x20, 0x20), (0x85, 0x85), (0xA0, 0xA0), (0x1680, 0x1680), (0x2000, 0x200A),
  (0x2028, 0x2029), (0x202F, 0x202F), (0x205F, 0x205F), (0x3000, 0x3000)]⟩

/-- Spaces of every width, tabs and line ends. -/
def isBlank (c : Char) : Bool :=
  blank.contains c

/-- The characters without the blanks at both ends. -/
def trim (cs : List Char) : List Char :=
  (((cs.dropWhile isBlank).reverse).dropWhile isBlank).reverse

end MiniPascal.Text
