import PortableFilter.QueryString

/-! # Query strings with bracketed ranges

Texts are written bare, as one term: `country:BG AND year:[2020 TO *]`. A choice
between values names the field once: `genre:(comedy OR drama)`. There is no way to
ask whether a field exists, so tests for absence and comparisons with null are
refused. -/

namespace PortableFilter.Range

open QueryString

/-- A text as one term. The empty text is written as two quotes. -/
def quote (text : String) : String := if text = "" then "\"\"" else escaped text

/-- How the query strings write values. -/
def style : ValueStyle := ⟨quote, "(", " OR ", ")"⟩

/-- The field that a key names, and the colon behind it. -/
def keyText (key : Key) : String := escaped key.unquoted ++ ":"

/-- The text of an equality or a membership test. Its operands are checked once for the question
whether it is about null, and once more when it is written. -/
def matchText (negated : Bool) (expr : Expr) : Except ConvertError String := do
  let (_, value) ← expr.comparisonOperands
  match value with
  | .scalar .null => .error (.unsupported expr.kind .range)
  | _ =>
    let text ← expr.comparisonText keyText style ""
    return negatedText negated text

/-- The brackets of a range. Both are of one kind. -/
def brackets (inclusive : Bool) : String × String :=
  if inclusive then ("[", "]") else ("\x7b", "\x7d")

/-- The text of an order. -/
def boundText (bound : Bound) (inclusive : Bool) (expr : Expr) : Except ConvertError String := do
  let (key, value) ← expr.comparisonOperands
  let (opening, closing) := brackets inclusive
  return keyText key ++ rangeText bound opening (style.valueText value) closing

/-- The text of a comparison. -/
def compareText : Comparison → Expr → Except ConvertError String
  | .eq => matchText false
  | .ne => matchText true
  | .gt => boundText .lower false
  | .gte => boundText .lower true
  | .lt => boundText .upper false
  | .lte => boundText .upper true

/-- How the query strings are written. A test for absence is refused whatever its operands are. -/
def converter : Converter where
  keyText := keyText
  style := style
  compareText := compareText
  memberText := matchText
  absentText _ expr := .error (.unsupported expr.kind .range)
  flat := true

/-- Renders an expression as a query string. -/
def render (expr : Expr) : Except ConvertError String := converter.exprText expr

/-- Renders an operand on its own. -/
def renderOperand (operand : Operand) : Except ConvertError String := converter.operandText operand

end PortableFilter.Range
