import PortableFilter.Value

/-! # How dialects write values

Most dialects write values alike and differ in how they quote texts and delimit
lists. A text that reads as a timestamp is written as that timestamp, so that a
date has one form whether it was given as a text or as a date. -/

namespace PortableFilter

/-- What a dialect decides about writing values. -/
structure ValueStyle where
  /-- Writes a text so that it is read back as that text. -/
  quote : String → String
  /-- What stands before the items of a list. -/
  opening : String
  /-- What stands between two items of a list. -/
  separator : String
  /-- What stands behind the items of a list. -/
  closing : String

namespace ValueStyle

/-- A scalar in a dialect. -/
def scalarText (style : ValueStyle) : Scalar → String
  | .null => "null"
  | .bool value => Scalar.boolText value
  | .int value => toString value
  | .number value => value.toPointedText
  | .text value =>
    match Timestamp.read? value with
    | some timestamp => style.quote timestamp.toText
    | none => style.quote value
  | .date value => style.quote value.toText

/-- A list in a dialect, given the texts of its items. -/
def listText (style : ValueStyle) (items : List String) : String :=
  style.opening ++ style.separator.intercalate items ++ style.closing

/-- A list of scalars in a dialect. -/
def scalarsText (style : ValueStyle) (items : List Scalar) : String :=
  style.listText (items.map style.scalarText)

mutual

/-- A value in a dialect. -/
def valueText (style : ValueStyle) : Value → String
  | .scalar value => style.scalarText value
  | .list items => style.listText (style.itemTexts items)

/-- The items of a list in a dialect. -/
def itemTexts (style : ValueStyle) : List Value → List String
  | [] => []
  | item :: items => style.valueText item :: style.itemTexts items

end

end ValueStyle

end PortableFilter
