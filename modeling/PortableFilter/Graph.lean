import PortableFilter.Converter
import PortableFilter.Settings

/-! # Graph conditions

The condition of a graph query names the properties of a node in backquotes:
the key `country` becomes the property `metadata.country` of the node `node`.
Groups keep their parentheses, and no others are added. -/

namespace PortableFilter.Graph

/-- How graph conditions write values. -/
def style : ValueStyle := ⟨Text.doubleQuoted, "[", ",", "]"⟩

/-- The property that a key names. A backquote in the name is written twice. -/
def keyText (settings : GraphSettings) (key : Key) : String :=
  settings.nodeAlias ++ ".`" ++ Text.doubled '\x60' settings.metadataPrefix ++
    Text.doubled '\x60' key.unquoted ++ "`"

/-- The text of a membership test. -/
def memberText (settings : GraphSettings) (negated : Bool) (expr : Expr) :
    Except ConvertError String := do
  let text ← expr.comparisonText (keyText settings) style " IN "
  return (if negated then "NOT " else "") ++ text

/-- The text of a test for absence. -/
def absentText (settings : GraphSettings) (negated : Bool) (expr : Expr) :
    Except ConvertError String := do
  let key ← expr.absenceKey
  return keyText settings key ++ (if negated then " IS NOT NULL" else " IS NULL")

/-- How graph conditions are written. -/
def converter (settings : GraphSettings) : Converter where
  keyText := keyText settings
  style := style
  compareText comparison expr := expr.comparisonText (keyText settings) style comparison.sign
  memberText := memberText settings
  absentText := absentText settings
  flat := false

/-- Renders an expression as a graph condition. -/
def render (settings : GraphSettings) (expr : Expr) : Except ConvertError String :=
  (converter settings).exprText expr

/-- Renders an operand on its own. -/
def renderOperand (settings : GraphSettings) (operand : Operand) : Except ConvertError String :=
  (converter settings).operandText operand

end PortableFilter.Graph
