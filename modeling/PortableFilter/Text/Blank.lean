import PortableFilter.Text.CharSet

/-! # Blank characters

Blanks separate the tokens of a filter and are escaped in query terms. They are
the characters with the White_Space property, among them the tab, the line feed,
the no-break space and the ideographic space. -/

namespace PortableFilter.Text

/-- The characters with the White_Space property. -/
def blanks : CharSet := ⟨[
  (0x9, 0xD), (0x20, 0x20), (0x85, 0x85), (0xA0, 0xA0), (0x1680, 0x1680), (0x2000, 0x200A),
  (0x2028, 0x2029), (0x202F, 0x202F), (0x205F, 0x205F), (0x3000, 0x3000)], by decide +kernel⟩

/-- Whether a character has the White_Space property. -/
def isBlank (c : Char) : Bool := blanks.contains c

/-- The part of a text between its leading and its trailing blanks. -/
def trim (text : List Char) : List Char :=
  ((text.dropWhile isBlank).reverse.dropWhile isBlank).reverse

/-- The words of a text: its longest stretches without a blank. -/
def words (text : List Char) : List (List Char) :=
  (text.splitBy fun left right => isBlank left == isBlank right).filter fun stretch =>
    stretch.any fun c => !isBlank c

end PortableFilter.Text
