import PortableFilter.Shape

/-! # Tests

A `Leaf` is a node that tests one field and has been checked: a comparison with a
scalar, a membership test, or a test for absence. -/

namespace PortableFilter

/-- A test of one field. -/
inductive Leaf where
  /-- The field compares with a scalar. -/
  | compare (comparison : Comparison) (key : Key) (value : Scalar)
  /-- The field is one of the items, or none of them. -/
  | member (negated : Bool) (key : Key) (items : List Scalar)
  /-- The field is absent, or present. -/
  | absent (negated : Bool) (key : Key)
  deriving DecidableEq, Repr

/-- The test that a node is, if it is neither a connective nor a negation. -/
def Expr.leaf (expr : Expr) : Except ConvertError Leaf :=
  match expr.kind with
  | .compare comparison => do
    let key ← expr.kind.keyOperand expr.left
    let value ← comparison.scalarOperand expr.right?
    return .compare comparison key value
  | .member negated => do
    let key ← expr.kind.keyOperand expr.left
    let items ← expr.kind.itemsOperand expr.right?
    return .member negated key items
  | .absent negated => do
    let key ← expr.absenceKey
    return .absent negated key
  | kind => .error (.malformed kind .notComparison)

end PortableFilter
