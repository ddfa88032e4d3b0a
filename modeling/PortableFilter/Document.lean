import PortableFilter.Json
import PortableFilter.Shape
import PortableFilter.ValueStyle

/-! # Document queries

A document store takes its queries as JSON: `{"country": {"$eq": "BG"}}` tests a
field, and `{"$and": [left,right]}` joins two queries. The structure of JSON makes
groups superfluous, and there is no negation: the operand of a negation gives way to
its complement, in which the tests are turned into their opposites, while "and" and
"or" change places.

The complement of a tree is taken before the tree is checked. It is no larger than
the tree, so the walk comes to an end. -/

namespace PortableFilter

/-! ## The size of a complement -/

theorem Kind.sizeOf_complement (kind : Kind) : sizeOf kind.complement = sizeOf kind := by
  cases kind with
  | join connective => cases connective <;> rfl
  | not => rfl
  | compare comparison => cases comparison <;> rfl
  | member negated | absent negated => cases negated <;> rfl

/-- The expression that an operand is or contains is smaller than the operand. -/
theorem Operand.sizeOf_lt_of_content {operand : Operand} {content : Expr}
    (inside : operand.content? = some content) : sizeOf content < sizeOf operand := by
  cases operand with
  | key | value => cases inside
  | expr =>
    cases inside
    rw [expr.sizeOf_spec]
    omega
  | group =>
    cases inside
    rw [group.sizeOf_spec]
    omega

mutual

/-- The complement of a tree is no larger than the tree. -/
theorem Expr.sizeOf_negate_le (expr : Expr) : sizeOf expr.negate ≤ sizeOf expr := by
  match expr with
  | .unary .not operand =>
    rw [Expr.negate]
    cases inside : operand.content? with
    | none => exact Nat.le_refl _
    | some content =>
      have smaller := operand.sizeOf_lt_of_content inside
      rw [Option.getD_some, Expr.unary.sizeOf_spec]
      omega
  | .binary .not left right =>
    rw [Expr.negate]
    cases inside : left.content? with
    | none => exact Nat.le_refl _
    | some content =>
      have smaller := left.sizeOf_lt_of_content inside
      rw [Option.getD_some, Expr.binary.sizeOf_spec]
      omega
  | .unary (.join connective) operand =>
    have sameKind := (Kind.join connective).sizeOf_complement
    have ofOperand := operand.sizeOf_negate_le
    rw [Kind.complement] at sameKind
    rw [Expr.negate, Expr.unary.sizeOf_spec, Expr.unary.sizeOf_spec]
    omega
  | .binary (.join connective) left right =>
    have sameKind := (Kind.join connective).sizeOf_complement
    have ofLeft := left.sizeOf_negate_le
    have ofRight := right.sizeOf_negate_le
    rw [Kind.complement] at sameKind
    rw [Expr.negate, Expr.binary.sizeOf_spec, Expr.binary.sizeOf_spec]
    omega
  | .unary (.compare _) _ | .unary (.member _) _ | .unary (.absent _) _ =>
    simp only [Expr.negate, Expr.unary.sizeOf_spec, Kind.sizeOf_complement, Nat.le_refl]
  | .binary (.compare _) _ _ | .binary (.member _) _ _ | .binary (.absent _) _ _ =>
    simp only [Expr.negate, Expr.binary.sizeOf_spec, Kind.sizeOf_complement, Nat.le_refl]

theorem Operand.sizeOf_negate_le (operand : Operand) : sizeOf operand.negate ≤ sizeOf operand := by
  match operand with
  | .key _ | .value _ => exact Nat.le_refl _
  | .expr content =>
    have smaller := content.sizeOf_negate_le
    rw [Operand.negate, Operand.expr.sizeOf_spec, Operand.expr.sizeOf_spec]
    omega
  | .group content =>
    have smaller := content.sizeOf_negate_le
    rw [Operand.negate, Operand.group.sizeOf_spec, Operand.group.sizeOf_spec]
    omega

end

namespace Document

/-- How document queries write values. -/
def style : ValueStyle := ⟨Json.quote, "[", ",", "]"⟩

/-- The operator of a connective. -/
def connectiveOperator : Connective → String
  | .and => "$and"
  | .or => "$or"

/-- The operator of a comparison. -/
def comparisonOperator : Comparison → String
  | .eq => "$eq"
  | .ne => "$ne"
  | .gt => "$gt"
  | .gte => "$gte"
  | .lt => "$lt"
  | .lte => "$lte"

/-- The operator of a membership test. -/
def membershipOperator (negated : Bool) : String := if negated then "$nin" else "$in"

/-- A key as the name of a field. -/
def keyText (key : Key) : String := Json.quote key.unquoted

/-- The test of a field with an operator and its argument. -/
def testText (key : Key) (operator argument : String) : String :=
  "\x7b" ++ keyText key ++ ": \x7b" ++ Json.quote operator ++ ": " ++ argument ++ "\x7d\x7d"

/-- The text of a comparison or a membership test. -/
def fieldText (operator : String) (expr : Expr) : Except ConvertError String := do
  let (key, value) ← expr.comparisonOperands
  return testText key operator (style.valueText value)

/-- The text of a test for absence. -/
def absentText (negated : Bool) (expr : Expr) : Except ConvertError String := do
  let key ← expr.absenceKey
  return testText key "$exists" (Scalar.boolText negated)

/-- The text of two queries joined. -/
def joinText (connective : Connective) (left right : String) : String :=
  "\x7b" ++ Json.quote (connectiveOperator connective) ++ ": [" ++ left ++ "," ++ right ++ "]\x7d"

mutual

/-- Renders an expression as a document query. -/
def render (expr : Expr) : Except ConvertError String :=
  match expr.kind with
  | .join connective => do
    let ⟨(left, right), _⟩ ← attached expr.joinOperands
    let leftText ← renderOperand left
    let rightText ← renderOperand right
    return joinText connective leftText rightText
  | .not => do
    let ⟨operand, _⟩ ← attached expr.negationOperand
    renderOperand operand.negate
  | .compare comparison => fieldText (comparisonOperator comparison) expr
  | .member negated => fieldText (membershipOperator negated) expr
  | .absent negated => absentText negated expr
termination_by sizeOf expr
decreasing_by
  · exact (Expr.sizeOf_lt_of_joinOperands ‹_›).1
  · exact (Expr.sizeOf_lt_of_joinOperands ‹_›).2
  · exact Nat.lt_of_le_of_lt operand.sizeOf_negate_le (Expr.sizeOf_lt_of_negationOperand ‹_›)

/-- Renders an operand on its own. -/
def renderOperand (operand : Operand) : Except ConvertError String :=
  match operand with
  | .key key => .ok (keyText key)
  | .value value => .ok (style.valueText value)
  | .expr content | .group content => render content
termination_by sizeOf operand

end

end Document

end PortableFilter
