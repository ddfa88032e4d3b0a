import PortableFilter.Shape
import PortableFilter.ValueStyle
import PortableFilter.Words

/-! # Walking a tree

Dialects that write a tree as a text walk it in the same order: the check of a node
comes before its operands, and the left operand before the right one. A node that is
malformed ends the walk. What a dialect decides for itself is a `Converter`: how it
names fields and writes values, what a test becomes, and whether its connectives are
flat, so that "and" binds no stronger than "or". Where they are flat, a connective
within another one, and a connective within a negation, are put in parentheses,
unless a group has put them there. -/

namespace PortableFilter

/-- What a dialect decides about writing a tree. The texts of tests are those of nodes that have
not been checked yet. -/
structure Converter where
  /-- The name of a field. -/
  keyText : Key → String
  /-- How values are written. -/
  style : ValueStyle
  /-- The text of a comparison. -/
  compareText : Comparison → Expr → Except ConvertError String
  /-- The text of a membership test. -/
  memberText : (negated : Bool) → Expr → Except ConvertError String
  /-- The text of a test for absence. -/
  absentText : (negated : Bool) → Expr → Except ConvertError String
  /-- Whether "and" binds no stronger than "or". -/
  flat : Bool

/-- Whether a kind is a connective. -/
def Kind.isJoin : Kind → Bool
  | join _ => true
  | _ => false

/-- The text of a comparison or a membership test: the key, a sign and the value. -/
def Expr.comparisonText (keyText : Key → String) (style : ValueStyle) (expr : Expr)
    (sign : String) : Except ConvertError String := do
  let (key, value) ← expr.comparisonOperands
  return keyText key ++ sign ++ style.valueText value

namespace Converter

variable (converter : Converter)

/-- Whether an operand of a node of kind `parent` is put in parentheses, though it is no group. -/
def brackets (parent : Kind) : Operand → Bool
  | .expr content => converter.flat && content.kind.isJoin && content.kind ≠ parent
  | _ => false

mutual

/-- Writes an expression. -/
def exprText (expr : Expr) : Except ConvertError String :=
  match expr.kind with
  | .join connective => do
    let ⟨(left, right), _⟩ ← attached expr.joinOperands
    let leftText ← operandText left
    let rightText ← operandText right
    return Text.parenthesizedIf (converter.brackets expr.kind left) leftText ++ connective.word ++
      Text.parenthesizedIf (converter.brackets expr.kind right) rightText
  | .not => do
    let ⟨operand, _⟩ ← attached expr.negationOperand
    let text ← operandText operand
    return "NOT " ++ Text.parenthesizedIf (converter.brackets expr.kind operand) text
  | .compare comparison => converter.compareText comparison expr
  | .member negated => converter.memberText negated expr
  | .absent negated => converter.absentText negated expr
termination_by sizeOf expr
decreasing_by
  · exact (Expr.sizeOf_lt_of_joinOperands ‹_›).1
  · exact (Expr.sizeOf_lt_of_joinOperands ‹_›).2
  · exact Expr.sizeOf_lt_of_negationOperand ‹_›

/-- Writes an operand on its own. A key and a value are written as they are. -/
def operandText (operand : Operand) : Except ConvertError String :=
  match operand with
  | .expr content => exprText content
  | .group content => do
    let text ← exprText content
    return Text.parenthesized text
  | .key key => .ok (converter.keyText key)
  | .value value => .ok (converter.style.valueText value)
termination_by sizeOf operand

end

end Converter

end PortableFilter
