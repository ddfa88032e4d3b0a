import PortableFilter.Leaf
import PortableFilter.Proofs.Outcome

/-! # Checked filters

A `Filter` is a filter tree whose shape has been checked: connectives have two operands, negations
one, and its leaves are tests. What a test is, is left open, so that a dialect can put in its own.
`Expr.toFilter` checks a tree from the root down and from left to right, and stops at the first node
that is malformed. The dialects check and write a tree in one go; what they write is the filter that
the tree is checked as.

A filter keeps its structure when its tests are replaced, be it by other tests or by filters, and
its truth is then that of what they are replaced by. -/

namespace PortableFilter

/-- A filter tree of well-formed nodes over some kind of test. -/
inductive Filter (α : Type) where
  | leaf (test : α)
  | join (connective : Connective) (left right : Filter α)
  | not (operand : Filter α)
  /-- A filter in parentheses of its own. -/
  | group (content : Filter α)
  deriving DecidableEq, Repr

namespace Filter

variable {α β : Type}

/-- A filter with each test replaced. -/
def map (f : α → β) : Filter α → Filter β
  | leaf test => leaf (f test)
  | join connective left right => join connective (left.map f) (right.map f)
  | not operand => not (operand.map f)
  | group content => group (content.map f)

/-- Whether a filter holds, given which tests hold. -/
def holds (truth : α → Bool) : Filter α → Bool
  | leaf test => truth test
  | join .and left right => left.holds truth && right.holds truth
  | join .or left right => left.holds truth || right.holds truth
  | not operand => !operand.holds truth
  | group content => content.holds truth

end Filter

section

variable {α : Type} (leaf : Expr → Except ConvertError α)

mutual

/-- Checks a tree, where `leaf` checks the nodes that are tests. -/
def Expr.toFilter : Expr → Except ConvertError (Filter α)
  | .unary kind operand =>
    match kind with
    | .join _ => .error (.malformed kind .missingRight)
    | .not =>
      match operand.toFilter? with
      | some content => content.map .not
      | none => .error (.malformed kind (.expressionExpected operand.sort))
    | kind => (leaf (.unary kind operand)).map .leaf
  | .binary kind left right =>
    match kind with
    | .join connective =>
      match left.toFilter?, right.toFilter? with
      | some left, some right => do return .join connective (← left) (← right)
      | none, _ => .error (.malformed kind (.expressionsExpected left.sort))
      | _, none => .error (.malformed kind (.expressionsExpected right.sort))
    | .not => .error (.malformed kind .singleOperand)
    | kind => (leaf (.binary kind left right)).map .leaf

/-- Checks the expression that an operand is or contains, if it is or contains one. -/
def Operand.toFilter? : Operand → Option (Except ConvertError (Filter α))
  | .expr content => some content.toFilter
  | .group content => some (content.toFilter.map .group)
  | .key _ | .value _ => none

end

end

/-! ## Walks and checks -/

section

variable {α β : Type} {leaf : Expr → Except ConvertError α} {view : Filter α → β}

/-- The check of a connective gives back its own operands, and both are or contain expressions. -/
theorem Expr.exists_toFilter?_of_joinOperands (leaf : Expr → Except ConvertError α)
    {connective : Connective} {left right first second : Operand}
    (checked : (Expr.binary (.join connective) left right).joinOperands = .ok (first, second)) :
    left = first ∧ right = second ∧ ∃ leftStep rightStep,
      left.toFilter? leaf = some leftStep ∧ right.toFilter? leaf = some rightStep := by
  cases left with
  | key | value => cases checked
  | expr | group =>
    cases right with
    | key | value => cases checked
    | expr | group =>
      cases checked
      exact ⟨rfl, rfl, _, _, rfl, rfl⟩

/-- Where the check of a connective fails, that of the tree fails alike. -/
theorem Expr.toFilter_of_joinOperands {connective : Connective} {left right : Operand}
    {error : ConvertError}
    (failed : (Expr.binary (.join connective) left right).joinOperands = .error error) :
    (Expr.binary (.join connective) left right).toFilter leaf = .error error := by
  cases left with
  | key | value =>
    cases failed
    rfl
  | expr | group =>
    cases right with
    | key | value =>
      cases failed
      rfl
    | expr | group => cases failed

/-- A connective is checked as a connective. -/
theorem Expr.exists_join_of_toFilter {connective : Connective} {left right : Operand}
    {filter : Filter α}
    (checked : (Expr.binary (.join connective) left right).toFilter leaf = .ok filter) :
    ∃ first second, filter = .join connective first second := by
  rw [Expr.toFilter] at checked
  split at checked
  · obtain ⟨first, -, checked⟩ := bind_eq_ok_iff.mp checked
    obtain ⟨second, -, checked⟩ := bind_eq_ok_iff.mp checked
    cases checked
    exact ⟨first, second, rfl⟩
  · cases checked
  · cases checked

/-- A negation is checked as a negation. -/
theorem Expr.exists_not_of_toFilter {operand : Operand} {filter : Filter α}
    (checked : (Expr.unary .not operand).toFilter leaf = .ok filter) :
    ∃ content, filter = .not content := by
  rw [Expr.toFilter] at checked
  split at checked
  · obtain ⟨content, -, rfl⟩ := map_eq_ok_iff.mp checked
    exact ⟨content, rfl⟩
  · cases checked

/-- What a walk makes of a connective is what it makes of the filter that the node is checked as, if
this is so wherever both operands are or contain expressions. Other operands end the walk as they
end the check. -/
theorem attached_joinOperands_bind {connective : Connective} {left right : Operand}
    {next : { operands // (Expr.binary (.join connective) left right).joinOperands =
      .ok operands } → Except ConvertError β}
    (agrees : ∀ checked leftStep rightStep, left.toFilter? leaf = some leftStep →
      right.toFilter? leaf = some rightStep → next ⟨(left, right), checked⟩ =
        (do return view (.join connective (← leftStep) (← rightStep)))) :
    (attached (Expr.binary (.join connective) left right).joinOperands >>= next) =
      ((Expr.binary (.join connective) left right).toFilter leaf).map view := by
  have mapped (leftStep rightStep : Except ConvertError (Filter α)) :
      Except.map view (do return .join connective (← leftStep) (← rightStep)) =
        (do return view (.join connective (← leftStep) (← rightStep))) := by
    cases leftStep <;> cases rightStep <;> rfl
  cases left with
  | key | value => rfl
  | expr first | group first =>
    cases right with
    | key | value => rfl
    | expr second | group second =>
      exact (agrees rfl _ _ rfl rfl).trans (mapped _ _).symm

/-- The same for a negation. -/
theorem attached_negationOperand_bind {operand : Operand}
    {next : { content // (Expr.unary .not operand).negationOperand = .ok content } →
      Except ConvertError β}
    (agrees : ∀ checked step, operand.toFilter? leaf = some step →
      next ⟨operand, checked⟩ = (do return view (.not (← step)))) :
    (attached (Expr.unary .not operand).negationOperand >>= next) =
      ((Expr.unary .not operand).toFilter leaf).map view := by
  have mapped (step : Except ConvertError (Filter α)) :
      (step.map .not).map view = (do return view (.not (← step))) := by
    cases step <;> rfl
  cases operand with
  | key | value => rfl
  | expr content | group content => exact (agrees rfl _ rfl).trans (mapped _).symm

end

section

variable {α β : Type} {leaf : Expr → Except ConvertError α} {other : Expr → Except ConvertError β}
  {f : α → β}

mutual

/-- Checks of tests that give the same tests in other forms give the same filters. -/
theorem Expr.toFilter_map (tests : ∀ expr, other expr = (leaf expr).map f) (expr : Expr) :
    expr.toFilter other = (expr.toFilter leaf).map (Filter.map f) := by
  match expr with
  | .unary .not operand =>
    rw [Expr.toFilter, Expr.toFilter, operand.toFilter?_map tests]
    cases operand.toFilter? leaf with
    | none => rfl
    | some step => cases step <;> rfl
  | .binary (.join connective) left right =>
    rw [Expr.toFilter, Expr.toFilter, left.toFilter?_map tests, right.toFilter?_map tests]
    cases left.toFilter? leaf with
    | none => rfl
    | some leftStep =>
      cases right.toFilter? leaf with
      | none => rfl
      | some rightStep => cases leftStep <;> cases rightStep <;> rfl
  | .unary (.join _) _ | .binary .not _ _ => rfl
  | .unary (.compare _) _ | .unary (.member _) _ | .unary (.absent _) _
  | .binary (.compare _) _ _ | .binary (.member _) _ _ | .binary (.absent _) _ _ =>
    rw [Expr.toFilter, Expr.toFilter, tests]
    · cases leaf _ <;> rfl
    all_goals exact nofun

/-- Where two checks of tests agree up to a function, so do the filters of an operand. -/
theorem Operand.toFilter?_map (tests : ∀ expr, other expr = (leaf expr).map f)
    (operand : Operand) :
    operand.toFilter? other = (operand.toFilter? leaf).map (Except.map (Filter.map f)) := by
  match operand with
  | .key _ | .value _ => rfl
  | .expr content => exact congrArg some (content.toFilter_map tests)
  | .group content =>
    rw [Operand.toFilter?, Operand.toFilter?, content.toFilter_map tests]
    cases content.toFilter leaf <;> rfl

end

end

/-- Whether a kind is neither a connective nor a negation. -/
def Kind.isTest : Kind → Bool
  | join _ | not => false
  | compare _ | member _ | absent _ => true

/-- A test is checked by the check of tests alone. -/
theorem Expr.toFilter_of_isTest {α : Type} {leaf : Expr → Except ConvertError α} {expr : Expr}
    (isTest : expr.kind.isTest) : expr.toFilter leaf = (leaf expr).map .leaf := by
  cases expr with
  | unary kind operand =>
    cases kind with
    | join | not => cases isTest
    | compare | member | absent => rfl
  | binary kind left right =>
    cases kind with
    | join | not => cases isTest
    | compare | member | absent => rfl

/-! ## The operands of tests -/

namespace Expr

variable {expr : Expr}

/-- A comparison has the operands that it is checked with. -/
theorem comparisonOperands_of_compare {comparison : Comparison}
    (isCompare : expr.kind = .compare comparison) :
    (∃ error, expr.leaf = .error error ∧ expr.comparisonOperands = .error error) ∨
      ∃ key value, expr.leaf = .ok (.compare comparison key value) ∧
        expr.comparisonOperands = .ok (key, .scalar value) := by
  rw [leaf, comparisonOperands, isCompare]
  dsimp only
  cases (Kind.compare comparison).keyOperand expr.left with
  | error error => exact .inl ⟨error, rfl, rfl⟩
  | ok key =>
    cases comparison.scalarOperand expr.right? with
    | error error => exact .inl ⟨error, rfl, rfl⟩
    | ok value => exact .inr ⟨key, value, rfl, rfl⟩

/-- A membership test has the operands that it is checked with. -/
theorem comparisonOperands_of_member {negated : Bool} (isMember : expr.kind = .member negated) :
    (∃ error, expr.leaf = .error error ∧ expr.comparisonOperands = .error error) ∨
      ∃ key items, expr.leaf = .ok (.member negated key items) ∧
        expr.comparisonOperands = .ok (key, .ofScalars items) := by
  rw [leaf, comparisonOperands, isMember]
  dsimp only
  cases (Kind.member negated).keyOperand expr.left with
  | error error => exact .inl ⟨error, rfl, rfl⟩
  | ok key =>
    cases (Kind.member negated).itemsOperand expr.right? with
    | error error => exact .inl ⟨error, rfl, rfl⟩
    | ok items => exact .inr ⟨key, items, rfl, rfl⟩

/-- A test for absence has the key that it is checked with. -/
theorem leaf_of_absent {negated : Bool} (isAbsent : expr.kind = .absent negated) :
    expr.leaf = expr.absenceKey.map (.absent negated) := by
  rw [leaf, isAbsent]
  cases expr.absenceKey <;> rfl

end Expr

/-! ## Replacing tests -/

namespace Filter

variable {α β : Type}

/-- The tests of a filter, from left to right. -/
def tests : Filter α → List α
  | leaf test => [test]
  | join _ left right => left.tests ++ right.tests
  | not operand => operand.tests
  | group content => content.tests

/-- A filter with each test replaced by a filter. -/
def expand (f : α → Filter β) : Filter α → Filter β
  | leaf test => f test
  | join connective left right => join connective (left.expand f) (right.expand f)
  | not operand => not (operand.expand f)
  | group content => group (content.expand f)

/-- Each test comes from the filter in place of some test. -/
theorem exists_mem_tests_of_expand {f : α → Filter β} {filter : Filter α} {test : β}
    (member : test ∈ (filter.expand f).tests) :
    ∃ source ∈ filter.tests, test ∈ (f source).tests := by
  induction filter with
  | leaf source => exact ⟨source, List.mem_singleton_self source, member⟩
  | join connective left right ihLeft ihRight =>
    rcases List.mem_append.mp member with inLeft | inRight
    · obtain ⟨source, isTest, inside⟩ := ihLeft inLeft
      exact ⟨source, List.mem_append_left _ isTest, inside⟩
    · obtain ⟨source, isTest, inside⟩ := ihRight inRight
      exact ⟨source, List.mem_append_right _ isTest, inside⟩
  | not operand ih => exact ih member
  | group content ih => exact ih member

/-- A filter of other tests holds as those tests do. -/
theorem holds_map (f : α → β) (truth : β → Bool) (filter : Filter α) :
    (filter.map f).holds truth = filter.holds fun test => truth (f test) := by
  induction filter with
  | leaf test => rfl
  | join connective left right ihLeft ihRight =>
    cases connective <;> rw [map, holds, ihLeft, ihRight, holds]
  | not operand ih => rw [map, holds, ih, holds]
  | group content ih => exact ih

theorem map_id (filter : Filter α) : filter.map id = filter := by
  induction filter with
  | leaf test => rfl
  | join connective left right ihLeft ihRight => rw [map, ihLeft, ihRight]
  | not operand ih => rw [map, ih]
  | group content ih => rw [map, ih]

theorem map_map_of_eq {f : α → β} {g : α → α} (same : ∀ test, f (g test) = f test)
    (filter : Filter α) : (filter.map g).map f = filter.map f := by
  induction filter with
  | leaf test => rw [map, map, same, map]
  | join connective left right ihLeft ihRight => rw [map, map, ihLeft, ihRight, map]
  | not operand ih => rw [map, map, ih, map]
  | group content ih => rw [map, map, ih, map]

theorem map_map_cancel {f : α → β} {g : β → α} (cancel : ∀ test, g (f test) = test)
    (filter : Filter α) : (filter.map f).map g = filter := by
  induction filter with
  | leaf test => rw [map, map, cancel]
  | join connective left right ihLeft ihRight => rw [map, map, ihLeft, ihRight]
  | not operand ih => rw [map, map, ih]
  | group content ih => rw [map, map, ih]

/-- A filter with filters in place of its tests holds as those filters do. -/
theorem holds_expand (f : α → Filter β) (truth : β → Bool) (filter : Filter α) :
    (filter.expand f).holds truth = filter.holds fun test => (f test).holds truth := by
  induction filter with
  | leaf test => rfl
  | join connective left right ihLeft ihRight =>
    cases connective <;> rw [expand, holds, ihLeft, ihRight, holds]
  | not operand ih => rw [expand, holds, ih, holds]
  | group content ih => exact ih

end Filter

end PortableFilter
