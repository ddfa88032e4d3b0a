import PortableFilter.QueryString
import PortableFilter.Settings

/-! # Query strings of full-text indexes

Texts are written in double quotes: `country:"BG" AND year:[2020 TO *]`. A choice
between values repeats the field: `(genre:"comedy" OR genre:"drama")`. Whether a
field exists is asked with the field `_exists_`. -/

namespace PortableFilter.Lucene

open QueryString

/-- How the query strings write values. -/
def style : ValueStyle := ⟨Text.doubleQuoted, "[", ",", "]"⟩

/-- The field that a key names. -/
def keyText (settings : LuceneSettings) (key : Key) : String :=
  settings.keyPrefix ++ escaped key.unquoted

/-- The term that a field has a value. -/
def termText (settings : LuceneSettings) (key : Key) (value : Value) : String :=
  keyText settings key ++ ":" ++ style.valueText value

/-- The question whether a field exists, or does not. -/
def presentText (settings : LuceneSettings) (negated : Bool) (key : Key) : String :=
  negatedText negated ("_exists_:" ++ keyText settings key)

/-- The text of an equality. To be null is to be absent. -/
def matchText (settings : LuceneSettings) (negated : Bool) (expr : Expr) :
    Except ConvertError String := do
  let (key, value) ← expr.comparisonOperands
  match value with
  | .scalar .null => return presentText settings (!negated) key
  | value => return negatedText negated (termText settings key value)

/-- The brackets of a range. The open side of a range is always inclusive. -/
def brackets (bound : Bound) (inclusive : Bool) : String × String :=
  match bound, inclusive with
  | _, true => ("[", "]")
  | .lower, false => ("\x7b", "]")
  | .upper, false => ("[", "\x7d")

/-- The text of an order. -/
def boundText (settings : LuceneSettings) (bound : Bound) (inclusive : Bool) (expr : Expr) :
    Except ConvertError String := do
  let (key, value) ← expr.comparisonOperands
  let (opening, closing) := brackets bound inclusive
  return keyText settings key ++ ":" ++ rangeText bound opening (style.valueText value) closing

/-- The text of a comparison. -/
def compareText (settings : LuceneSettings) : Comparison → Expr → Except ConvertError String
  | .eq => matchText settings false
  | .ne => matchText settings true
  | .gt => boundText settings .lower false
  | .gte => boundText settings .lower true
  | .lt => boundText settings .upper false
  | .lte => boundText settings .upper true

/-- The text of a membership test. A single value counts as a list of one. -/
def memberText (settings : LuceneSettings) (negated : Bool) (expr : Expr) :
    Except ConvertError String := do
  let (key, value) ← expr.comparisonOperands
  let items := match value with
    | .list items => items
    | .scalar _ => [value]
  let terms := items.map (termText settings key)
  return negatedText negated (Text.parenthesized (Connective.or.word.intercalate terms))

/-- The text of a test for absence. -/
def absentText (settings : LuceneSettings) (negated : Bool) (expr : Expr) :
    Except ConvertError String := do
  let key ← expr.absenceKey
  return presentText settings (!negated) key

/-- How the query strings are written. -/
def converter (settings : LuceneSettings) : Converter where
  keyText := keyText settings
  style := style
  compareText := compareText settings
  memberText := memberText settings
  absentText := absentText settings
  flat := true

/-- Renders an expression as a query string. -/
def render (settings : LuceneSettings) (expr : Expr) : Except ConvertError String :=
  (converter settings).exprText expr

/-- Renders an operand on its own. -/
def renderOperand (settings : LuceneSettings) (operand : Operand) : Except ConvertError String :=
  (converter settings).operandText operand

end PortableFilter.Lucene
