import PortableFilter.Document
import PortableFilter.Proofs.Filter
import PortableFilter.Proofs.ValueStyle

/-! # What document queries are made of

A `Query` is a document query before it is written. In `ofExpr` a negation is pushed down without
a complement being built: a flag says whether the complement of a tree is wanted. This is the query
of the complement (`ofExpr_negate`), so a tree is rendered as the text of its query
(`render_eq_map`). -/

namespace PortableFilter

/-- The complement of an operand is of the same sort. -/
theorem Operand.sort_negate (operand : Operand) : operand.negate.sort = operand.sort := by
  cases operand <;> simp only [negate, sort]

namespace Document

/-- A document query. -/
inductive Query where
  | test (leaf : Leaf)
  | join (connective : Connective) (left right : Query)
  deriving DecidableEq, Repr

mutual

/-- The query for an expression, or for its complement if `negated`. -/
def ofExpr (negated : Bool) : Expr → Except ConvertError Query
  | .unary kind operand =>
    let written := if negated then kind.complement else kind
    match kind with
    | .join _ => .error (.malformed written .missingRight)
    | .not =>
      match ofOperand? (!negated) operand with
      | some query => query
      | none => .error (.malformed kind (.expressionExpected operand.sort))
    | _ => (Expr.unary written operand).leaf.map .test
  | .binary kind left right =>
    let written := if negated then kind.complement else kind
    match kind with
    | .join connective =>
      match ofOperand? negated left, ofOperand? negated right with
      | some left, some right => do
        return .join (if negated then connective.dual else connective) (← left) (← right)
      | none, _ => .error (.malformed written (.expressionsExpected left.sort))
      | _, none => .error (.malformed written (.expressionsExpected right.sort))
    | .not =>
      match negated, ofOperand? false left with
      | true, some query => query
      | _, _ => .error (.malformed kind .singleOperand)
    | _ => (Expr.binary written left right).leaf.map .test

/-- The query for the expression that an operand is or contains, or for its complement. -/
def ofOperand? (negated : Bool) : Operand → Option (Except ConvertError Query)
  | .expr content | .group content => some (ofExpr negated content)
  | .key _ | .value _ => none

end

/-- The text of a test. -/
def leafText : Leaf → String
  | .compare comparison key value =>
    testText key (comparisonOperator comparison) (style.scalarText value)
  | .member negated key items =>
    testText key (membershipOperator negated) (style.scalarsText items)
  | .absent negated key => testText key "$exists" (Scalar.boolText negated)

/-- The text of a query. -/
def Query.text : Query → String
  | test leaf => leafText leaf
  | join connective left right => joinText connective left.text right.text

/-! ## Complements -/

mutual

/-- The query for the complement of a tree is that of the tree with its negation pushed down. It
fails alike if there is none. -/
theorem ofExpr_negate (expr : Expr) : ofExpr false expr.negate = ofExpr true expr := by
  match expr with
  | .unary .not operand =>
    cases operand with
    | key | value => rfl
    | expr content | group content => rfl
  | .binary .not left right =>
    cases left with
    | key | value => rfl
    | expr content | group content => rfl
  | .unary (.join connective) operand => rfl
  | .binary (.join connective) left right =>
    rw [Expr.negate, ofExpr, ofExpr, ofOperand?_negate left, ofOperand?_negate right,
      Operand.sort_negate, Operand.sort_negate]
    rfl
  | .unary (.compare _) _ | .unary (.member _) _ | .unary (.absent _) _
  | .binary (.compare _) _ _ | .binary (.member _) _ _ | .binary (.absent _) _ _ => rfl

/-- The negated operand has the query that is negated for the operand. -/
theorem ofOperand?_negate (operand : Operand) :
    ofOperand? false operand.negate = ofOperand? true operand := by
  match operand with
  | .key _ | .value _ => rfl
  | .expr content | .group content => exact congrArg some (ofExpr_negate content)

end

/-! ## Rendering -/

/-- A test is rendered as it is written in a query. -/
theorem render_of_isTest {expr : Expr} (isTest : expr.kind.isTest) :
    render expr = expr.leaf.map leafText := by
  rw [render]
  cases isKind : expr.kind with
  | join | not =>
    rw [isKind] at isTest
    cases isTest
  | compare comparison =>
    dsimp only
    rw [fieldText]
    rcases Expr.comparisonOperands_of_compare isKind with ⟨_, checked, operands⟩ |
      ⟨_, _, checked, operands⟩ <;> rw [checked, operands] <;> rfl
  | member negated =>
    dsimp only
    rw [fieldText]
    rcases Expr.comparisonOperands_of_member isKind with ⟨_, checked, operands⟩ |
      ⟨key, items, checked, operands⟩ <;> rw [checked, operands]
    · rfl
    · change Except.ok (testText key _ (style.valueText (.ofScalars items))) = _
      rw [ValueStyle.valueText_ofScalars]
      rfl
  | absent negated =>
    dsimp only
    rw [Expr.leaf_of_absent isKind, absentText]
    cases expr.absenceKey <;> rfl

theorem map_text_test (step : Except ConvertError Leaf) :
    (step.map .test).map Query.text = step.map leafText := by
  cases step <;> rfl

theorem map_text_join (connective : Connective) (left right : Except ConvertError Query) :
    Except.map Query.text (do return .join connective (← left) (← right)) =
      (do return joinText connective (← left.map Query.text) (← right.map Query.text)) := by
  cases left <;> cases right <;> rfl

mutual

/-- A tree is rendered as the text of its query, or fails as its query does. -/
theorem render_eq_map (expr : Expr) : render expr = (ofExpr false expr).map Query.text := by
  match expr with
  | .unary .not operand =>
    have written {step : Except ConvertError Query}
        (isOperand : ofOperand? true operand = some step) :=
      renderOperand_eq_map operand.negate ((ofOperand?_negate operand).trans isOperand)
    rw [render]
    cases operand with
    | key | value => rfl
    | expr | group => exact written rfl
  | .binary (.join connective) left right =>
    have leftText {step : Except ConvertError Query} (isLeft : ofOperand? false left = some step) :=
      renderOperand_eq_map left isLeft
    have rightText {step : Except ConvertError Query}
        (isRight : ofOperand? false right = some step) := renderOperand_eq_map right isRight
    rw [render]
    cases left with
    | key | value => rfl
    | expr | group =>
      cases right with
      | key | value => rfl
      | expr | group =>
        refine Eq.trans ?_ (map_text_join connective _ _).symm
        rw [← leftText rfl, ← rightText rfl]
        rfl
  | .unary (.join connective) operand =>
    rw [render]
    rfl
  | .binary .not left right =>
    rw [render]
    cases left <;> rfl
  | .unary (.compare _) _ | .unary (.member _) _ | .unary (.absent _) _
  | .binary (.compare _) _ _ | .binary (.member _) _ _ | .binary (.absent _) _ _ =>
    rw [render_of_isTest rfl]
    exact (map_text_test _).symm
termination_by sizeOf expr
decreasing_by
  · have smaller := operand.sizeOf_negate_le
    rw [Expr.unary.sizeOf_spec]
    omega
  all_goals decreasing_tactic

/-- An operand is written as its query. -/
theorem renderOperand_eq_map (operand : Operand) {step : Except ConvertError Query}
    (isOperand : ofOperand? false operand = some step) :
    renderOperand operand = step.map Query.text := by
  match operand with
  | .key _ | .value _ => cases isOperand
  | .expr content | .group content =>
    cases isOperand
    rw [renderOperand]
    exact render_eq_map content
termination_by sizeOf operand

end

end Document

end PortableFilter
