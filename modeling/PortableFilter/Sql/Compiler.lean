import PortableFilter.Sql

/-! # Compiling trees to SQL queries

A tree is compiled to a condition node by node. A disjunction of equalities of one
field, such as `a = 1 OR a = 2`, is folded into the membership test `a IN (1, 2)`
when it has enough alternatives. All of them have to be equalities with a value
other than null, of one field and under one cast. Which disjunctions were folded is
reported.

Folding is tried at each disjunction before its operands are compiled, on a tree
whose nodes have not been checked yet. A node below it that is malformed breaks the
pattern and is left to the compilation of the operands. -/

namespace PortableFilter.Sql

/-- A disjunction that has been folded: its field, and how many alternatives it had. -/
structure Fold where
  key : String
  valueCount : Nat
  deriving DecidableEq, Repr

/-- The scalar that a condition of a node of some kind holds. -/
def scalarOf (kind : Kind) : Value → Except ConvertError Scalar
  | .scalar value => .ok value
  | .list _ => .error (.malformed kind .nestedList)

/-- The condition of a comparison. Equality with null is a test for null. -/
def compareCondition (comparison : Comparison) (key : Key) (value : Value) :
    Except ConvertError Condition :=
  match value with
  | .scalar .null =>
    match comparison with
    | .eq => .ok (.isNull false ⟨key, none⟩)
    | .ne => .ok (.isNull true ⟨key, none⟩)
    | _ => .error (.malformed (.compare comparison) .orderedNull)
  | value => do
    let scalar ← scalarOf (.compare comparison) value
    return .compare comparison ⟨key, Cast.ofValue? value⟩ scalar

/-- The condition of a membership test. A single value counts as a list of one, and the first
value decides the cast. -/
def memberCondition (negated : Bool) (key : Key) (value : Value) :
    Except ConvertError Condition := do
  let items := match value with
    | .list items => items
    | .scalar _ => [value]
  let scalars ← items.mapM (scalarOf (.member negated))
  return .member negated ⟨key, items.head?.bind Cast.ofValue?⟩ scalars

/-! ## Folding -/

mutual

/-- The fields and values of the alternatives of a tree that consists of equalities joined by
"or", with groups or without. -/
def terms? (expr : Expr) : Option (List (Key × Value)) :=
  match expr.kind with
  | .join .or =>
    match _ : expr.joinOperands with
    | .error _ => none
    | .ok (left, right) => do
      let leftTerms ← operandTerms? left
      let rightTerms ← operandTerms? right
      return leftTerms ++ rightTerms
  | .compare .eq =>
    match expr.comparisonOperands with
    | .error _ | .ok (_, .scalar .null) => none
    | .ok term => some [term]
  | _ => none
termination_by sizeOf expr
decreasing_by
  · exact (Expr.sizeOf_lt_of_joinOperands ‹_›).1
  · exact (Expr.sizeOf_lt_of_joinOperands ‹_›).2

/-- The fields and values of the alternatives of an operand. -/
def operandTerms? (operand : Operand) : Option (List (Key × Value)) :=
  match operand with
  | .expr content | .group content => terms? content
  | .key _ | .value _ => none
termination_by sizeOf operand

end

/-- The membership test that alternatives fold into, given the field and the cast of the first one,
and the report of it. -/
def foldTerms? (limit : Nat) (key : Key) (cast : Option Cast) (terms : List (Key × Value)) :
    Except ConvertError (Option (Condition × Fold)) := do
  if max limit 2 ≤ terms.length ∧ terms.all (fun (other, _) => other.unquoted = key.unquoted) ∧
      terms.all (fun (_, other) => Cast.ofValue? other = cast) then
    let scalars ← terms.mapM fun (_, other) => scalarOf (.join .or) other
    return some (.member false ⟨key, cast⟩ scalars, ⟨key.unquoted, terms.length⟩)
  else return none

/-- The membership test that a disjunction folds into, and the report of it. -/
def foldExpr? (limit : Nat) (expr : Expr) : Except ConvertError (Option (Condition × Fold)) :=
  match terms? expr with
  | some ((key, value) :: others) =>
    foldTerms? limit key (Cast.ofValue? value) ((key, value) :: others)
  | _ => return none

/-! ## Compilation -/

mutual

/-- The condition of a tree, and the disjunctions folded in it, from left to right. -/
def compileTree (limit : Nat) (expr : Expr) : Except ConvertError (Condition × List Fold) :=
  match expr.kind with
  | .join .and => do
    let ⟨(left, right), _⟩ ← attached expr.joinOperands
    let (leftCondition, leftFolds) ← compileOperand limit expr.kind left
    let (rightCondition, rightFolds) ← compileOperand limit expr.kind right
    return (.join .and leftCondition rightCondition, leftFolds ++ rightFolds)
  | .join .or => do
    match ← foldExpr? limit expr with
    | some (condition, fold) => return (condition, [fold])
    | none =>
      let ⟨(left, right), _⟩ ← attached expr.joinOperands
      let (leftCondition, leftFolds) ← compileOperand limit expr.kind left
      let (rightCondition, rightFolds) ← compileOperand limit expr.kind right
      return (.join .or leftCondition rightCondition, leftFolds ++ rightFolds)
  | .not => do
    let ⟨operand, _⟩ ← attached expr.negationOperand
    let (condition, folds) ← compileOperand limit expr.kind operand
    return (.not condition, folds)
  | .compare comparison => do
    let (key, value) ← expr.comparisonOperands
    let condition ← compareCondition comparison key value
    return (condition, [])
  | .member negated => do
    let (key, value) ← expr.comparisonOperands
    let condition ← memberCondition negated key value
    return (condition, [])
  | .absent negated => do
    let key ← expr.absenceKey
    return (.isNull negated ⟨key, none⟩, [])
termination_by sizeOf expr
decreasing_by
  · exact (Expr.sizeOf_lt_of_joinOperands ‹_›).1
  · exact (Expr.sizeOf_lt_of_joinOperands ‹_›).2
  · exact (Expr.sizeOf_lt_of_joinOperands ‹_›).1
  · exact (Expr.sizeOf_lt_of_joinOperands ‹_›).2
  · exact Expr.sizeOf_lt_of_negationOperand ‹_›

/-- The condition of an operand of a node of kind `parent`, and the disjunctions folded in it. A
group is its content, since conditions get their parentheses when they are written. -/
def compileOperand (limit : Nat) (parent : Kind) (operand : Operand) :
    Except ConvertError (Condition × List Fold) :=
  match operand with
  | .expr content | .group content => compileTree limit content
  | .key _ | .value _ => .error (.malformed parent .expressionsOnly)
termination_by sizeOf operand

end

/-- Renders an expression as a SQL query, with the disjunctions folded in it. -/
def compileExpr (settings : SqlSettings) (expr : Expr) :
    Except ConvertError (String × List Fold) := do
  let (condition, folds) ← compileTree settings.foldLimit expr
  return (selectText settings condition, folds)

/-- Renders an expression as a SQL query. -/
def render (settings : SqlSettings) (expr : Expr) : Except ConvertError String :=
  (compileExpr settings expr).map Prod.fst

end PortableFilter.Sql
