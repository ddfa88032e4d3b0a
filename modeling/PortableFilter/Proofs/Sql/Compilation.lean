import PortableFilter.Sql.Compiler
import PortableFilter.Proofs.Expr.Checked

/-! # What trees are compiled to

Folding looks at a tree before its nodes have been checked, and the compilation checks them as it
goes. What comes of both is given here for filters that have been checked: a tree is compiled to
what the filter is compiled to that it is checked as, and if the check fails, the compilation fails
with the same error (`Sql.compileTree_eq_map`). A malformed node below a disjunction neither makes
folding fail nor is it passed over. -/

namespace PortableFilter.Sql

/-! ## Compiling filters -/

/-- The condition of a test. Equality with null is a test for null, and the first value of a list
decides the cast. -/
def Condition.ofLeaf : Leaf → Condition
  | .compare .eq key .null => isNull false ⟨key, none⟩
  | .compare .ne key .null => isNull true ⟨key, none⟩
  | .compare comparison key value => compare comparison ⟨key, Cast.ofScalar? value⟩ value
  | .member negated key items => member negated ⟨key, items.head?.bind Cast.ofScalar?⟩ items
  | .absent negated key => isNull negated ⟨key, none⟩

/-- The fields and values of the alternatives of a filter that consists of equalities joined by
"or", with groups or without. -/
def equalities? : Filter Leaf → Option (List (Key × Scalar))
  | .leaf (.compare .eq key value) => if value = .null then none else some [(key, value)]
  | .join .or left right => do return (← equalities? left) ++ (← equalities? right)
  | .group content => equalities? content
  | _ => none

/-- The membership test that a disjunction folds into, and the report of it. -/
def fold? (limit : Nat) (filter : Filter Leaf) : Option (Condition × Fold) :=
  match equalities? filter with
  | some ((key, value) :: others) =>
    let alternatives := (key, value) :: others
    let cast := Cast.ofScalar? value
    if max limit 2 ≤ alternatives.length ∧
        alternatives.all (fun (other, _) => other.unquoted = key.unquoted) ∧
        alternatives.all (fun (_, other) => Cast.ofScalar? other = cast) then
      some (.member false ⟨key, cast⟩ (alternatives.map Prod.snd),
        ⟨key.unquoted, alternatives.length⟩)
    else none
  | _ => none

/-- The condition of a filter, and the disjunctions folded in it, from left to right. -/
def compile (limit : Nat) : Filter Leaf → Condition × List Fold
  | .leaf test => (.ofLeaf test, [])
  | .join .and left right =>
    let (left, leftFolds) := compile limit left
    let (right, rightFolds) := compile limit right
    (.join .and left right, leftFolds ++ rightFolds)
  | .join .or left right =>
    match fold? limit (.join .or left right) with
    | some (condition, fold) => (condition, [fold])
    | none =>
      let (left, leftFolds) := compile limit left
      let (right, rightFolds) := compile limit right
      (.join .or left right, leftFolds ++ rightFolds)
  | .not operand =>
    let (operand, folds) := compile limit operand
    (.not operand, folds)
  | .group content => compile limit content

/-! ## Tests -/

/-- A checked value is a scalar, whatever the kind of its test. -/
theorem mapM_scalarOf (kind : Kind) (items : List Scalar) :
    (items.map Value.scalar).mapM (scalarOf kind) = .ok items := by
  induction items with
  | nil => rfl
  | cons item items ih =>
    rw [List.map_cons, List.mapM_cons, ih]
    rfl

/-- The condition of a comparison with an admitted scalar is that of its test. -/
theorem compareCondition_scalar {comparison : Comparison} {value : Scalar} (key : Key)
    (admitted : value = .null → comparison.admitsNull) :
    compareCondition comparison key (.scalar value) =
      .ok (.ofLeaf (.compare comparison key value)) := by
  cases value with
  | null =>
    cases comparison with
    | eq | ne => rfl
    | gt | gte | lt | lte => cases admitted rfl
  | bool | int | number | text | date => cases comparison <;> rfl

/-- The condition of a membership in a flat list is that of its test. -/
theorem memberCondition_ofScalars (negated : Bool) (key : Key) (items : List Scalar) :
    memberCondition negated key (.ofScalars items) = .ok (.ofLeaf (.member negated key items)) := by
  have cast : (items.map Value.scalar).head?.bind Cast.ofValue? =
      items.head?.bind Cast.ofScalar? := by
    cases items <;> rfl
  rw [memberCondition.eq_def, Value.ofScalars]
  dsimp only
  rw [mapM_scalarOf, cast]
  rfl

/-! ## Folding -/

/-- Alternatives as they stand in a tree. -/
def asTerms (alternatives : List (Key × Scalar)) : List (Key × Value) :=
  alternatives.map fun (key, value) => (key, .scalar value)

/-- The alternatives of what passes a check, as they stand in a tree. -/
def checkedTerms? (step : Except ConvertError (Filter Leaf)) : Option (List (Key × Value)) :=
  (step.toOption.bind equalities?).map asTerms

/-- The terms of a disjunction are those of both operands. -/
theorem checkedTerms?_or (left right : Except ConvertError (Filter Leaf)) :
    checkedTerms? (do return .join .or (← left) (← right)) =
      (do return (← checkedTerms? left) ++ (← checkedTerms? right)) := by
  cases left with
  | error => rfl
  | ok first =>
    cases right with
    | error =>
      change none = (checkedTerms? (.ok first)).bind fun _ => none
      rw [Option.bind_fun_none]
    | ok second =>
      change ((equalities? (.join .or first second)).map asTerms) =
        ((equalities? first).map asTerms).bind fun left =>
          ((equalities? second).map asTerms).bind fun right => some (left ++ right)
      rw [equalities?]
      cases equalities? first with
      | none => rfl
      | some left =>
        cases equalities? second with
        | none => rfl
        | some right => exact congrArg some List.map_append

/-- A group has the terms of its content. -/
theorem checkedTerms?_map_group (step : Except ConvertError (Filter Leaf)) :
    checkedTerms? (step.map .group) = checkedTerms? step := by
  cases step <;> rfl

/-- Of tests, only an equality with a value other than null is an alternative. -/
theorem terms?_of_isTest {expr : Expr} (isTest : expr.kind.isTest) :
    terms? expr = checkedTerms? (expr.toFilter Expr.leaf) := by
  rw [Expr.toFilter_of_isTest isTest]
  cases isKind : expr.kind with
  | join | not =>
    rw [isKind] at isTest
    cases isTest
  | compare comparison =>
    rcases Expr.comparisonOperands_of_compare isKind with ⟨_, checked, operands⟩ |
      ⟨key, value, checked, operands⟩
    · cases comparison <;> simp only [terms?, isKind, operands, checked] <;> rfl
    · cases comparison with
      | eq => cases value <;> simp only [terms?, isKind, operands, checked] <;> rfl
      | ne | gt | gte | lt | lte =>
        simp only [terms?, isKind, checked]
        rfl
  | member negated =>
    rcases Expr.comparisonOperands_of_member isKind with ⟨_, checked, -⟩ | ⟨_, _, checked, -⟩ <;>
      simp only [terms?, isKind, checked] <;> rfl
  | absent negated =>
    rw [Expr.leaf_of_absent isKind]
    simp only [terms?, isKind]
    cases expr.absenceKey <;> rfl

/-- A conjunction has no alternatives. -/
theorem checkedTerms?_and (left right : Operand) :
    checkedTerms? ((Expr.binary (.join .and) left right).toFilter Expr.leaf) = none := by
  cases checked : (Expr.binary (.join .and) left right).toFilter Expr.leaf with
  | error => rfl
  | ok filter =>
    obtain ⟨first, second, rfl⟩ := Expr.exists_join_of_toFilter checked
    rfl

/-- A negation has no alternatives. -/
theorem checkedTerms?_not (operand : Operand) :
    checkedTerms? ((Expr.unary .not operand).toFilter Expr.leaf) = none := by
  cases checked : (Expr.unary .not operand).toFilter Expr.leaf with
  | error => rfl
  | ok filter =>
    obtain ⟨content, rfl⟩ := Expr.exists_not_of_toFilter checked
    rfl

mutual

/-- The alternatives of a tree are those of the filter that it is checked as. A tree that does not
pass the check has none. -/
theorem terms?_eq (expr : Expr) : terms? expr = checkedTerms? (expr.toFilter Expr.leaf) := by
  match expr with
  | .binary (.join .or) left right =>
    rw [terms?]
    simp only [Expr.kind]
    split
    · rename_i error failed
      rw [Expr.toFilter_of_joinOperands failed]
      rfl
    · rename_i first second checked
      obtain ⟨rfl, rfl, leftStep, rightStep, isLeft, isRight⟩ :=
        Expr.exists_toFilter?_of_joinOperands Expr.leaf checked
      rw [operandTerms?_eq left isLeft, operandTerms?_eq right isRight, Expr.toFilter, isLeft,
        isRight]
      exact (checkedTerms?_or leftStep rightStep).symm
  | .binary (.join .and) left right =>
    rw [checkedTerms?_and, terms?]
    rfl
  | .unary .not operand =>
    rw [checkedTerms?_not, terms?]
    rfl
  | .unary (.join connective) _ =>
    rw [terms?]
    cases connective <;> rfl
  | .binary .not _ _ =>
    rw [terms?]
    rfl
  | .unary (.compare _) _ | .unary (.member _) _ | .unary (.absent _) _
  | .binary (.compare _) _ _ | .binary (.member _) _ _ | .binary (.absent _) _ _ =>
    exact terms?_of_isTest rfl

/-- The terms of an operand are those of the filter it is checked as. -/
theorem operandTerms?_eq (operand : Operand) {step : Except ConvertError (Filter Leaf)}
    (isOperand : operand.toFilter? Expr.leaf = some step) :
    operandTerms? operand = checkedTerms? step := by
  match operand with
  | .key _ | .value _ => cases isOperand
  | .expr content =>
    cases isOperand
    rw [operandTerms?]
    exact terms?_eq content
  | .group content =>
    cases isOperand
    rw [operandTerms?, checkedTerms?_map_group]
    exact terms?_eq content

end

/-- The values of alternatives are scalars. -/
theorem mapM_scalarOf_asTerms (kind : Kind) (alternatives : List (Key × Scalar)) :
    (asTerms alternatives).mapM (fun (_, value) => scalarOf kind value) =
      .ok (alternatives.map Prod.snd) := by
  induction alternatives with
  | nil => rfl
  | cons alternative alternatives ih =>
    rw [asTerms] at ih
    rw [asTerms, List.map_cons, List.mapM_cons, ih]
    rfl

/-- Folding alternatives does not fail, since their values are scalars. -/
theorem foldTerms?_asTerms (limit : Nat) (key : Key) (cast : Option Cast)
    (alternatives : List (Key × Scalar)) :
    foldTerms? limit key cast (asTerms alternatives) =
      .ok (if max limit 2 ≤ alternatives.length ∧
          alternatives.all (fun (other, _) => other.unquoted = key.unquoted) ∧
          alternatives.all (fun (_, other) => Cast.ofScalar? other = cast) then
        some (.member false ⟨key, cast⟩ (alternatives.map Prod.snd),
          ⟨key.unquoted, alternatives.length⟩)
      else none) := by
  have count : (asTerms alternatives).length = alternatives.length := List.length_map _
  have fields : ((asTerms alternatives).all fun (other, _) => other.unquoted = key.unquoted) =
      alternatives.all fun (other, _) => other.unquoted = key.unquoted := List.all_map
  have casts : ((asTerms alternatives).all fun (_, other) => Cast.ofValue? other = cast) =
      alternatives.all fun (_, other) => Cast.ofScalar? other = cast := List.all_map
  rw [foldTerms?, count, fields, casts, mapM_scalarOf_asTerms]
  split <;> rfl

/-- Whether a tree folds is decided on the filter that it is checked as. Folding does not fail. -/
theorem foldExpr?_eq (limit : Nat) (expr : Expr) :
    foldExpr? limit expr = .ok ((expr.toFilter Expr.leaf).toOption.bind (fold? limit)) := by
  rw [foldExpr?, terms?_eq]
  cases expr.toFilter Expr.leaf with
  | error => rfl
  | ok filter =>
    have checked : checkedTerms? (.ok filter) = (equalities? filter).map asTerms := rfl
    change _ = Except.ok (fold? limit filter)
    rw [checked, fold?]
    cases equalities? filter with
    | none => rfl
    | some alternatives =>
      cases alternatives with
      | nil => rfl
      | cons first others => exact foldTerms?_asTerms limit first.1 _ (first :: others)

/-! ## Compilation -/

/-- A test is compiled to its condition. -/
theorem compileTree_of_isTest (limit : Nat) {expr : Expr} (isTest : expr.kind.isTest) :
    compileTree limit expr = (expr.toFilter Expr.leaf).map (compile limit) := by
  rw [Expr.toFilter_of_isTest isTest, compileTree]
  cases isKind : expr.kind with
  | join | not =>
    rw [isKind] at isTest
    cases isTest
  | compare comparison =>
    dsimp only
    rcases Expr.comparisonOperands_of_compare isKind with ⟨_, checked, operands⟩ |
      ⟨key, value, checked, operands⟩ <;> rw [checked, operands]
    · rfl
    · have admitted := (Expr.leaf_eq_ok_iff.mp checked).2.2.1
      change (compareCondition comparison key (.scalar value) >>= _) = _
      rw [compareCondition_scalar key admitted]
      rfl
  | member negated =>
    dsimp only
    rcases Expr.comparisonOperands_of_member isKind with ⟨_, checked, operands⟩ |
      ⟨key, items, checked, operands⟩ <;> rw [checked, operands]
    · rfl
    · change (memberCondition negated key (.ofScalars items) >>= _) = _
      rw [memberCondition_ofScalars]
      rfl
  | absent negated =>
    rw [Expr.leaf_of_absent isKind]
    cases expr.absenceKey <;> rfl

mutual

/-- A tree is compiled to what the filter is compiled to that it is checked as. If the check fails,
the compilation fails with the same error. -/
theorem compileTree_eq_map (limit : Nat) (expr : Expr) :
    compileTree limit expr = (expr.toFilter Expr.leaf).map (compile limit) := by
  match expr with
  | .binary (.join .and) left right =>
    rw [compileTree]
    refine attached_joinOperands_bind fun checked leftStep rightStep isLeft isRight => ?_
    dsimp only
    rw [compileOperand_eq_map limit _ left isLeft, compileOperand_eq_map limit _ right isRight]
    cases leftStep <;> cases rightStep <;> rfl
  | .binary (.join .or) left right =>
    rw [compileTree]
    simp only [Expr.kind]
    rw [foldExpr?_eq]
    cases folded :
        ((Expr.binary (.join .or) left right).toFilter Expr.leaf).toOption.bind (fold? limit) with
    | some result =>
      cases checked : (Expr.binary (.join .or) left right).toFilter Expr.leaf with
      | error error =>
        rw [checked] at folded
        cases folded
      | ok filter =>
        obtain ⟨first, second, rfl⟩ := Expr.exists_join_of_toFilter checked
        rw [checked] at folded
        change fold? limit (.join .or first second) = some result at folded
        change _ = Except.ok (compile limit (.join .or first second))
        rw [compile, folded]
        rfl
    | none =>
      refine attached_joinOperands_bind fun checked leftStep rightStep isLeft isRight => ?_
      dsimp only
      rw [compileOperand_eq_map limit _ left isLeft, compileOperand_eq_map limit _ right isRight]
      cases leftStep with
      | error => rfl
      | ok first =>
        cases rightStep with
        | error => rfl
        | ok second =>
          rw [Expr.toFilter_join isLeft isRight] at folded
          change fold? limit (.join .or first second) = none at folded
          change _ = Except.ok (compile limit (.join .or first second))
          rw [compile, folded]
          rfl
  | .unary .not operand =>
    rw [compileTree]
    refine attached_negationOperand_bind fun checked step isOperand => ?_
    dsimp only
    rw [compileOperand_eq_map limit _ operand isOperand]
    cases step <;> rfl
  | .unary (.join .or) _ =>
    rw [compileTree]
    simp only [Expr.kind]
    rw [foldExpr?_eq]
    rfl
  | .unary (.join .and) _ | .binary .not _ _ =>
    rw [compileTree]
    rfl
  | .unary (.compare _) _ | .unary (.member _) _ | .unary (.absent _) _
  | .binary (.compare _) _ _ | .binary (.member _) _ _ | .binary (.absent _) _ _ =>
    exact compileTree_of_isTest limit rfl

/-- An operand is compiled as the filter it is checked as. -/
theorem compileOperand_eq_map (limit : Nat) (parent : Kind) (operand : Operand)
    {step : Except ConvertError (Filter Leaf)}
    (isOperand : operand.toFilter? Expr.leaf = some step) :
    compileOperand limit parent operand = step.map (compile limit) := by
  match operand with
  | .key _ | .value _ => cases isOperand
  | .expr content =>
    cases isOperand
    rw [compileOperand]
    exact compileTree_eq_map limit content
  | .group content =>
    cases isOperand
    rw [compileOperand, compileTree_eq_map limit content]
    cases content.toFilter Expr.leaf <;> rfl

end

/-- A tree is compiled as the filter it is checked as. -/
theorem compileExpr_eq_map (settings : SqlSettings) (expr : Expr) :
    compileExpr settings expr = (expr.toFilter Expr.leaf).map fun filter =>
      (selectText settings (compile settings.foldLimit filter).1,
        (compile settings.foldLimit filter).2) := by
  rw [compileExpr, compileTree_eq_map]
  cases expr.toFilter Expr.leaf <;> rfl

/-- A tree is rendered as the query of the filter that it is checked as. -/
theorem render_eq_map (settings : SqlSettings) (expr : Expr) :
    render settings expr = (expr.toFilter Expr.leaf).map fun filter =>
      selectText settings (compile settings.foldLimit filter).1 := by
  rw [render, compileExpr_eq_map]
  cases expr.toFilter Expr.leaf <;> rfl

end PortableFilter.Sql
