import PortableFilter.Proofs.Sql.Compilation
import PortableFilter.Proofs.Sql.Meaning

/-! # Folding keeps the meaning of conditions

A disjunction of equalities has the truth value of a membership test if all of them are about one
field under one cast (`Sql.value_of_fold?`). So the condition of a tree has the truth value of the
tree, whatever the limit of folding is (`Sql.compileExpr_value_eq`). -/

namespace PortableFilter.Sql

variable {truth : Atom → Ternary}

/-- The truth value of the equality of a field with a value under the cast for the value. -/
def equalityValue (truth : Atom → Ternary) (alternative : Key × Scalar) : Ternary :=
  truth (.compare .eq (Cast.ofScalar? alternative.2) alternative.1.unquoted alternative.2)

theorem leafValue_eq {key : Key} {value : Scalar} (nonnull : value ≠ .null) :
    leafValue truth (.compare .eq key value) = equalityValue truth (key, value) := by
  cases value with
  | null => exact absurd rfl nonnull
  | bool | int | number | text | date => rfl

/-- A filter of equalities has the truth value of their disjunction. -/
theorem value_of_equalities? {filter : Filter Leaf} {alternatives : List (Key × Scalar)}
    (found : equalities? filter = some alternatives) :
    filter.value (leafValue truth) = .any (alternatives.map (equalityValue truth)) := by
  fun_induction equalities? filter generalizing alternatives with
  | case1 => cases found
  | case2 key value nonnull =>
    cases found
    rw [Filter.value, leafValue_eq nonnull]
    exact (Ternary.or_no _).symm
  | case3 left right ihLeft ihRight =>
    obtain ⟨first, foundLeft, found⟩ := Option.bind_eq_some_iff.mp found
    obtain ⟨second, foundRight, found⟩ := Option.bind_eq_some_iff.mp found
    cases found
    rw [Filter.value, ihLeft foundLeft, ihRight foundRight, List.map_append, Ternary.any_append]
    rfl
  | case4 content ih => exact ih found
  | case5 => cases found

/-- What a disjunction folds into has its truth value. -/
theorem value_of_fold? {limit : Nat} {filter : Filter Leaf} {condition : Condition} {fold : Fold}
    (folded : fold? limit filter = some (condition, fold)) :
    condition.value truth = filter.value (leafValue truth) := by
  unfold fold? at folded
  split at folded
  · rename_i key value others found
    dsimp only at folded
    split at folded
    · rename_i suits
      obtain ⟨-, oneField, oneCast⟩ := suits
      cases folded
      rw [value_of_equalities? found, Condition.value, anyEqual, List.map_map]
      refine congrArg Ternary.any (List.map_congr_left fun alternative member => ?_)
      have sameField := of_decide_eq_true (List.all_eq_true.mp oneField alternative member)
      have sameCast := of_decide_eq_true (List.all_eq_true.mp oneCast alternative member)
      rw [equalityValue, sameField, sameCast]
      rfl
    · cases folded
  · cases folded

/-- The condition of a filter has the truth value of the filter. -/
theorem value_compile (limit : Nat) (filter : Filter Leaf) :
    (compile limit filter).1.value truth = filter.value (leafValue truth) := by
  induction filter with
  | leaf test => exact value_ofLeaf truth test
  | join connective left right ihLeft ihRight =>
    have unfolded : (Condition.join connective (compile limit left).1
        (compile limit right).1).value truth =
          (Filter.join connective left right).value (leafValue truth) := by
      rw [Condition.value, ihLeft, ihRight, Filter.value]
    cases connective with
    | and => exact unfolded
    | or =>
      cases folded : fold? limit (.join .or left right) with
      | some result =>
        obtain ⟨condition, fold⟩ := result
        rw [compile, folded]
        exact value_of_fold? folded
      | none =>
        rw [compile, folded]
        exact unfolded
  | not operand ih => exact congrArg Ternary.not ih
  | group content ih => exact ih

/-- A tree that is compiled gets a condition with its own truth value. -/
theorem value_of_compileTree {limit : Nat} {expr : Expr} {condition : Condition}
    {folds : List Fold} (compiled : compileTree limit expr = .ok (condition, folds)) :
    condition.value truth = expr.value (leafValue truth) := by
  rw [compileTree_eq_map] at compiled
  obtain ⟨filter, checked, isCompiled⟩ := map_eq_ok_iff.mp compiled
  calc condition.value truth
      = (compile limit filter).1.value truth := by rw [isCompiled]
    _ = filter.value (leafValue truth) := value_compile limit filter
    _ = expr.value (leafValue truth) :=
        Expr.value_of_checksAs (Expr.toFilter_eq_ok_iff.mp checked) (leafValue truth)

/-- Under any two limits of folding, either an expression is refused with the same error, or it is
compiled to conditions that have the same truth value: that of the expression itself. -/
theorem compileExpr_value_eq (settings : SqlSettings) (expr : Expr) (first second : Nat) :
    (∃ error, compileExpr { settings with foldLimit := first } expr = .error error ∧
        compileExpr { settings with foldLimit := second } expr = .error error) ∨
      ∃ firstCondition firstFolds secondCondition secondFolds,
        compileTree first expr = .ok (firstCondition, firstFolds) ∧
        compileTree second expr = .ok (secondCondition, secondFolds) ∧
        compileExpr { settings with foldLimit := first } expr =
          .ok (selectText { settings with foldLimit := first } firstCondition, firstFolds) ∧
        compileExpr { settings with foldLimit := second } expr =
          .ok (selectText { settings with foldLimit := second } secondCondition, secondFolds) ∧
        ∀ truth : Atom → Ternary,
          firstCondition.value truth = expr.value (leafValue truth) ∧
            secondCondition.value truth = expr.value (leafValue truth) := by
  cases checked : expr.toFilter Expr.leaf with
  | error error =>
    refine .inl ⟨error, ?_, ?_⟩ <;> rw [compileExpr_eq_map, checked] <;> rfl
  | ok filter =>
    have compiled (limit : Nat) :
        compileTree limit expr = .ok ((compile limit filter).1, (compile limit filter).2) := by
      rw [compileTree_eq_map, checked]
      rfl
    refine .inr ⟨_, _, _, _, compiled first, compiled second, ?_, ?_, fun truth => ?_⟩
    · rw [compileExpr, compiled]
      rfl
    · rw [compileExpr, compiled]
      rfl
    · exact ⟨value_of_compileTree (compiled first), value_of_compileTree (compiled second)⟩

end PortableFilter.Sql
