import PortableFilter.Converter
import PortableFilter.Text.Blank

/-! # Query strings

Full-text indexes take their queries as strings of terms such as `country:BG`.
There are no comparison signs: an order becomes a range that is open on one side,
and membership becomes a choice between terms. In a query string "and" binds no
stronger than "or". -/

namespace PortableFilter.QueryString

/-- The characters with a meaning in query strings. -/
def reserved : List Char :=
  ['+', '-', '=', '&', '|', '>', '<', '!', '(', ')', '\x7b', '\x7d', '[', ']', '^', '"', '~', '*',
    '?', ':', '\\', '/']

/-- A character inside a term. -/
def escapedChar (c : Char) : List Char :=
  if reserved.contains c || Text.isBlank c then ['\\', c] else [c]

/-- A text as one term, with a backslash before each reserved character and each blank. -/
def escaped (text : String) : String := String.ofList (text.toList.flatMap escapedChar)

/-- A side of a range. -/
inductive Bound where
  | lower
  | upper
  deriving DecidableEq, Repr

/-- A text behind a negation, if it is negated. -/
def negatedText (negated : Bool) (text : String) : String :=
  if negated then "NOT " ++ text else text

/-- A range that is open on the side away from the value. -/
def rangeText (bound : Bound) (opening value closing : String) : String :=
  match bound with
  | .lower => opening ++ value ++ " TO *" ++ closing
  | .upper => opening ++ "* TO " ++ value ++ closing

end PortableFilter.QueryString
