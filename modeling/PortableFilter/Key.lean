/-! # Keys

A key names a field of the records that a filter selects. It is kept as it was
written; quotes around it are not part of the field's name. -/

namespace PortableFilter

/-- The name of a field, as written. -/
structure Key where
  raw : String
  deriving DecidableEq, Repr

namespace Key

/-- The text between two equal quotes at the ends of a text, if there are such quotes. -/
def betweenQuotes? : List Char → Option (List Char)
  | first :: rest =>
    if (first = '"' ∨ first = '\'') ∧ rest.getLast? = some first then some rest.dropLast else none
  | [] => none

/-- Whether a key is written between quotes. -/
def isQuoted (key : Key) : Bool := (betweenQuotes? key.raw.toList).isSome

/-- The name of the field: the key without the quotes around it. -/
def unquoted (key : Key) : String :=
  match betweenQuotes? key.raw.toList with
  | some name => String.ofList name
  | none => key.raw

end Key

end PortableFilter
