import PortableFilter.Sql
import PortableFilter.Proofs.Expr.Acceptance

/-! # What SQL conditions mean

A condition on a row is true, false or unknown. It is put together from atomic tests of columns,
and to be one of several values is to be equal to one of them (`Sql.Condition.value`). A tree gets a
value in the same way from the values of its tests (`Expr.value`). The filter that a tree is checked
as has the value of the tree (`Expr.value_of_checksAs`). -/

namespace PortableFilter

/-- The truth values of three-valued logic. -/
inductive Ternary where
  | no
  | unknown
  | yes
  deriving DecidableEq, Repr

namespace Ternary

def and : Ternary → Ternary → Ternary
  | no, _ | _, no => no
  | yes, yes => yes
  | _, _ => unknown

def or : Ternary → Ternary → Ternary
  | yes, _ | _, yes => yes
  | no, no => no
  | _, _ => unknown

def not : Ternary → Ternary
  | no => yes
  | unknown => unknown
  | yes => no

/-- What two truth values are joined to. -/
def join : Connective → Ternary → Ternary → Ternary
  | .and => and
  | .or => or

/-- The disjunction of truth values; that of none of them is false. -/
def any (values : List Ternary) : Ternary := values.foldr or no

theorem or_assoc (first second third : Ternary) :
    (first.or second).or third = first.or (second.or third) := by
  cases first <;> cases second <;> cases third <;> rfl

theorem no_or (value : Ternary) : no.or value = value := by
  cases value <;> rfl

theorem or_no (value : Ternary) : value.or no = value := by
  cases value <;> rfl

/-- A disjunction of two lists is that of their disjunctions. -/
theorem any_append (left right : List Ternary) :
    any (left ++ right) = (any left).or (any right) := by
  unfold any
  induction left with
  | nil => exact (no_or _).symm
  | cons value left ih => rw [List.cons_append, List.foldr_cons, ih, List.foldr_cons, or_assoc]

end Ternary

namespace Filter

variable {α : Type}

/-- The truth value of a filter, given those of its tests. -/
def value (truth : α → Ternary) : Filter α → Ternary
  | leaf test => truth test
  | join connective left right => .join connective (left.value truth) (right.value truth)
  | not operand => (operand.value truth).not
  | group content => content.value truth

theorem value_enclose (operand : Operand) (truth : α → Ternary) (filter : Filter α) :
    (operand.enclose filter).value truth = filter.value truth := by
  cases operand <;> rfl

end Filter

mutual

/-- The truth value of a tree, given those of its tests. What is no expression is unknown. -/
def Expr.value (truth : Leaf → Ternary) : Expr → Ternary
  | .unary .not operand => (operand.truthValue truth).not
  | .binary (.join connective) left right =>
    .join connective (left.truthValue truth) (right.truthValue truth)
  | expr => expr.test?.elim .unknown truth

def Operand.truthValue (truth : Leaf → Ternary) : Operand → Ternary
  | .expr content | .group content => content.value truth
  | .key _ | .value _ => .unknown

end

/-- An operand has the value of its content. -/
theorem Operand.truthValue_of_content {operand : Operand} {content : Expr} (truth : Leaf → Ternary)
    (inside : operand.content? = some content) :
    operand.truthValue truth = content.value truth := by
  cases operand with
  | key | value => cases inside
  | expr | group =>
    cases inside
    rfl

/-- The node of a test has the value of the test. -/
theorem Leaf.value_expr (truth : Leaf → Ternary) (leaf : Leaf) :
    leaf.expr.value truth = truth leaf := by
  have read : leaf.expr.value truth = leaf.expr.test?.elim .unknown truth := by
    cases leaf <;> rfl
  rw [read, test?_expr]
  rfl

/-- The filter that a tree is checked as has the value of the tree. -/
theorem Expr.value_of_checksAs {expr : Expr} {filter : Filter Leaf}
    (checks : expr.ChecksAs Expr.leaf filter) (truth : Leaf → Ternary) :
    filter.value truth = expr.value truth := by
  induction checks with
  | test _ passes =>
    obtain ⟨rfl, -⟩ := leaf_eq_ok_iff.mp passes
    exact (Leaf.value_expr truth _).symm
  | not inside _ ih =>
    rw [Filter.value, Filter.value_enclose, ih, Expr.value,
      Operand.truthValue_of_content truth inside]
  | join inLeft inRight _ _ ihLeft ihRight =>
    rw [Filter.value, Filter.value_enclose, Filter.value_enclose, ihLeft, ihRight, Expr.value,
      Operand.truthValue_of_content truth inLeft, Operand.truthValue_of_content truth inRight]

namespace Sql

/-- What a row is asked at once. A column is known by the name of its field and its cast. -/
inductive Atom where
  | compare (comparison : Comparison) (cast : Option Cast) (field : String) (value : Scalar)
  | noneOf (cast : Option Cast) (field : String) (values : List Scalar)
  | isNull (negated : Bool) (cast : Option Cast) (field : String)
  deriving DecidableEq, Repr

/-- The truth value of being equal to one of several values. -/
def anyEqual (truth : Atom → Ternary) (cast : Option Cast) (field : String)
    (values : List Scalar) : Ternary :=
  .any (values.map fun value => truth (.compare .eq cast field value))

/-- The truth value of a condition, given those of atomic tests. -/
def Condition.value (truth : Atom → Ternary) : Condition → Ternary
  | compare comparison column value =>
    truth (.compare comparison column.cast column.key.unquoted value)
  | member false column values => anyEqual truth column.cast column.key.unquoted values
  | member true column values => truth (.noneOf column.cast column.key.unquoted values)
  | isNull negated column => truth (.isNull negated column.cast column.key.unquoted)
  | join connective left right => .join connective (left.value truth) (right.value truth)
  | not operand => (operand.value truth).not

/-- The truth value of a test, given those of atomic tests. To be equal to null is to be null. The
cast of a comparison is that of its value, and the cast of a membership test that of its first
item. -/
def leafValue (truth : Atom → Ternary) : Leaf → Ternary
  | .compare .eq key .null => truth (.isNull false none key.unquoted)
  | .compare .ne key .null => truth (.isNull true none key.unquoted)
  | .compare comparison key value =>
    truth (.compare comparison (Cast.ofScalar? value) key.unquoted value)
  | .member false key items =>
    anyEqual truth (items.head?.bind Cast.ofScalar?) key.unquoted items
  | .member true key items =>
    truth (.noneOf (items.head?.bind Cast.ofScalar?) key.unquoted items)
  | .absent negated key => truth (.isNull negated none key.unquoted)

/-- The condition of a test has the value of the test. -/
theorem value_ofLeaf (truth : Atom → Ternary) (leaf : Leaf) :
    (Condition.ofLeaf leaf).value truth = leafValue truth leaf := by
  cases leaf with
  | compare comparison key value => cases comparison <;> cases value <;> rfl
  | member negated key items => cases negated <;> rfl
  | absent negated key => rfl

end Sql

end PortableFilter
