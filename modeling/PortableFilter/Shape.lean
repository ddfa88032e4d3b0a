import PortableFilter.Dialect
import PortableFilter.Expr

/-! # The shape of filter trees

Each kind of node asks for operands of its own. The functions of this module
check the operands of one node and give back what they are known to be: the
operands of a connective, the operand of a negation, the key and the value of a
comparison, the key of a test for absence. Which rule a malformed node breaks is
a `Fault`. Where a node breaks several rules, the first one in the order of the
checks is reported.

The operands that a check gives back are those of the node, so whoever walks a tree
from check to check comes to smaller trees (`Expr.sizeOf_lt_of_joinOperands`,
`Expr.sizeOf_lt_of_negationOperand`). -/

namespace PortableFilter

/-- The sorts of operands. -/
inductive OperandSort where
  | key
  | value
  | expr
  | group
  deriving DecidableEq, Repr

/-- How error messages name what an operand is. -/
def OperandSort.describe : OperandSort → String
  | key => "a key"
  | value => "a value"
  | expr => "an expression"
  | group => "a group"

/-- What an operand is. -/
def Operand.sort : Operand → OperandSort
  | .key _ => .key
  | .value _ => .value
  | .expr _ => .expr
  | .group _ => .group

/-- The rule of shape that a node breaks. -/
inductive Fault where
  | emptyKey
  | keyExpected (found : OperandSort)
  | valueExpected (found : OperandSort)
  | missingRight
  | listExpected
  | nestedList
  | scalarExpected
  /-- There is no order between a value and null. -/
  | orderedNull
  | notFinite
  | notComparison
  | expressionsExpected (found : OperandSort)
  | expressionExpected (found : OperandSort)
  /-- An operand is neither an expression nor a group, and what it is instead is not said. -/
  | expressionsOnly
  | singleOperand
  deriving DecidableEq, Repr

/-- The rule of shape that a node breaks, in words. -/
def Fault.message : Fault → String
  | emptyKey => "key must not be empty"
  | keyExpected found => "left operand must be a key, found " ++ found.describe
  | valueExpected found => "right operand must be a value, found " ++ found.describe
  | missingRight => "missing right operand"
  | listExpected => "right operand must be a list"
  | nestedList => "nested lists are not supported"
  | scalarExpected => "right operand must be a scalar, found a list"
  | orderedNull => "null can only be compared with EQ or NE"
  | notFinite => "numbers must be finite"
  | notComparison => "not a comparison"
  | expressionsExpected found => "operands must be expressions or groups, found " ++ found.describe
  | expressionExpected found => "operand must be an expression or a group, found " ++ found.describe
  | expressionsOnly => "operands must be expressions or groups"
  | singleOperand => "takes a single operand"

/-- Why a tree cannot be rendered. -/
inductive ConvertError where
  /-- The dialect has no construct for a kind of node. -/
  | unsupported (kind : Kind) (dialect : Dialect)
  /-- A node of some kind is malformed. -/
  | malformed (kind : Kind) (fault : Fault)
  deriving DecidableEq, Repr

/-- Why a tree cannot be rendered, in words. -/
def ConvertError.message : ConvertError → String
  | unsupported kind dialect =>
    "unsupported expression type " ++ kind.name ++ " for the " ++ dialect.name ++ " dialect"
  | malformed kind fault => "malformed " ++ kind.name ++ " expression: " ++ fault.message

namespace Kind

/-- The key that an operand is. -/
def keyOperand (kind : Kind) : Operand → Except ConvertError Key
  | .key key => if key.unquoted = "" then .error (.malformed kind .emptyKey) else .ok key
  | operand => .error (.malformed kind (.keyExpected operand.sort))

/-- The value that a second operand is. -/
def valueOperand (kind : Kind) : Option Operand → Except ConvertError Value
  | some (.value value) => .ok value
  | some operand => .error (.malformed kind (.valueExpected operand.sort))
  | none => .error (.malformed kind .missingRight)

end Kind

namespace Comparison

/-- Whether a comparison makes sense with null. -/
def admitsNull : Comparison → Bool
  | eq | ne => true
  | _ => false

/-- The scalar that the second operand of a comparison is. -/
def scalarOperand (comparison : Comparison) (right : Option Operand) :
    Except ConvertError Scalar := do
  let kind := Kind.compare comparison
  match ← kind.valueOperand right with
  | .list _ => .error (.malformed kind .scalarExpected)
  | .scalar value =>
    if value = .null ∧ !comparison.admitsNull then .error (.malformed kind .orderedNull)
    else if value.isFinite then .ok value
    else .error (.malformed kind .notFinite)

end Comparison

namespace Kind

/-- The scalars that the second operand of a membership test lists. -/
def itemsOperand (kind : Kind) (right : Option Operand) : Except ConvertError (List Scalar) := do
  match ← kind.valueOperand right with
  | .scalar _ => .error (.malformed kind .listExpected)
  | .list items =>
    match Value.scalars? items with
    | none => .error (.malformed kind .nestedList)
    | some scalars =>
      if scalars.all Scalar.isFinite then .ok scalars else .error (.malformed kind .notFinite)

end Kind

namespace Expr

/-- The key and the value of a comparison or a membership test. -/
def comparisonOperands (expr : Expr) : Except ConvertError (Key × Value) :=
  match expr.kind with
  | .compare comparison => do
    let key ← expr.kind.keyOperand expr.left
    let value ← comparison.scalarOperand expr.right?
    return (key, .scalar value)
  | .member _ => do
    let key ← expr.kind.keyOperand expr.left
    let items ← expr.kind.itemsOperand expr.right?
    return (key, .ofScalars items)
  | kind => .error (.malformed kind .notComparison)

/-- The two operands of a connective. Both are expressions or groups. -/
def joinOperands (expr : Expr) : Except ConvertError (Operand × Operand) :=
  match expr.right? with
  | none => .error (.malformed expr.kind .missingRight)
  | some right =>
    if expr.left.content?.isNone then
      .error (.malformed expr.kind (.expressionsExpected expr.left.sort))
    else if right.content?.isNone then
      .error (.malformed expr.kind (.expressionsExpected right.sort))
    else .ok (expr.left, right)

/-- The operand of a negation, which is an expression or a group. -/
def negationOperand (expr : Expr) : Except ConvertError Operand :=
  if expr.right?.isSome then .error (.malformed expr.kind .singleOperand)
  else if expr.left.content?.isNone then
    .error (.malformed expr.kind (.expressionExpected expr.left.sort))
  else .ok expr.left

/-- The key of a test for absence. -/
def absenceKey (expr : Expr) : Except ConvertError Key :=
  if expr.right?.isSome then .error (.malformed expr.kind .singleOperand)
  else expr.kind.keyOperand expr.left

/-! ## Walking from check to check -/

theorem sizeOf_left_lt (expr : Expr) : sizeOf expr.left < sizeOf expr := by
  cases expr with
  | unary kind operand =>
    rw [left, unary.sizeOf_spec]
    omega
  | binary kind left right =>
    rw [Expr.left, binary.sizeOf_spec]
    omega

theorem sizeOf_right_lt {expr : Expr} {right : Operand} (isRight : expr.right? = some right) :
    sizeOf right < sizeOf expr := by
  cases expr with
  | unary => cases isRight
  | binary kind left right =>
    cases isRight
    rw [binary.sizeOf_spec]
    omega

/-- Both operands that the check of a connective gives back are smaller than the node. -/
theorem sizeOf_lt_of_joinOperands {expr : Expr} {left right : Operand}
    (checked : expr.joinOperands = .ok (left, right)) :
    sizeOf left < sizeOf expr ∧ sizeOf right < sizeOf expr := by
  unfold joinOperands at checked
  split at checked
  · cases checked
  · rename_i isRight
    split at checked
    · cases checked
    · split at checked
      · cases checked
      · cases checked
        exact ⟨expr.sizeOf_left_lt, sizeOf_right_lt isRight⟩

/-- The operand that the check of a negation gives back is smaller than the node. -/
theorem sizeOf_lt_of_negationOperand {expr : Expr} {operand : Operand}
    (checked : expr.negationOperand = .ok operand) : sizeOf operand < sizeOf expr := by
  unfold negationOperand at checked
  split at checked
  · cases checked
  · split at checked
    · cases checked
    · cases checked
      exact expr.sizeOf_left_lt

end Expr

/-- What a step gives, together with the fact that the step gives it. -/
def attached {ε α : Type} : (step : Except ε α) → Except ε { value : α // step = .ok value }
  | .ok value => .ok ⟨value, rfl⟩
  | .error error => .error error

end PortableFilter
