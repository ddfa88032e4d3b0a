/-! # Runs of digits -/

namespace PortableFilter.Text

/-- The number of ASCII digits at the front of a text. -/
def digitCount (text : List Char) : Nat := (text.takeWhile Char.isDigit).length

end PortableFilter.Text
