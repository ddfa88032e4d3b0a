import PortableFilter.Graph
import PortableFilter.Lucene
import PortableFilter.Range
import PortableFilter.Proofs.Converter
import PortableFilter.Proofs.ValueStyle

/-! # What the dialects write

A dialect checks the operands of each test while it writes it. Here the text of a test is given for
tests that have been checked, so that a rendered tree is the text of the filter that the tree is
checked as (`Graph.render_eq_map`, `Lucene.render_eq_map`, `Range.render_eq_map`). In a query string
a test becomes a `Clause` first. -/

namespace PortableFilter

/-! ## Graph conditions -/

namespace Graph

variable (settings : GraphSettings)

/-- The text of a test. -/
def leafText : Leaf → String
  | .compare comparison key value =>
    keyText settings key ++ comparison.sign ++ style.scalarText value
  | .member negated key items =>
    (if negated then "NOT " else "") ++ keyText settings key ++ " IN " ++ style.scalarsText items
  | .absent negated key =>
    keyText settings key ++ (if negated then " IS NOT NULL" else " IS NULL")

/-- The text of a test is that of the test it is checked as. -/
theorem testText_eq_map (expr : Expr) :
    (converter settings).testText expr = expr.leaf.map (leafText settings) := by
  cases isKind : expr.kind with
  | join | not =>
    rw [Converter.testText, Expr.leaf, isKind]
    rfl
  | compare comparison =>
    rw [Converter.testText, isKind]
    change expr.comparisonText _ _ _ = _
    rw [Expr.comparisonText]
    rcases Expr.comparisonOperands_of_compare isKind with ⟨_, checked, operands⟩ |
      ⟨_, _, checked, operands⟩ <;> rw [checked, operands] <;> rfl
  | member negated =>
    rw [Converter.testText, isKind]
    change memberText settings negated expr = _
    rw [memberText, Expr.comparisonText]
    rcases Expr.comparisonOperands_of_member isKind with ⟨_, checked, operands⟩ |
      ⟨key, items, checked, operands⟩ <;> rw [checked, operands]
    · rfl
    · change Except.ok (_ ++ (_ ++ style.valueText (.ofScalars items))) = _
      rw [ValueStyle.valueText_ofScalars, ← String.append_assoc, ← String.append_assoc]
      rfl
  | absent negated =>
    rw [Converter.testText, isKind, Expr.leaf_of_absent isKind]
    change absentText settings negated expr = _
    rw [absentText]
    cases expr.absenceKey <;> rfl

/-- A tree is rendered as the text of the filter that it is checked as. -/
theorem render_eq_map (expr : Expr) :
    render settings expr = (expr.toFilter Expr.leaf).map fun filter =>
      (filter.map (leafText settings)).text false :=
  (converter settings).exprText_eq_map_leaf (testText_eq_map settings) expr

end Graph

/-! ## Query strings -/

namespace QueryString

/-- What a test becomes in a query string. -/
inductive Clause where
  /-- The field exists, or does not. -/
  | present (negated : Bool) (key : Key)
  /-- The field has the value, or has not. -/
  | term (negated : Bool) (key : Key) (value : Scalar)
  /-- The field has one of the values, or none of them. -/
  | anyOf (negated : Bool) (key : Key) (values : List Scalar)
  /-- The field lies on one side of the value, which belongs to the range if it is inclusive. -/
  | bounded (bound : Bound) (inclusive : Bool) (key : Key) (value : Scalar)
  deriving DecidableEq, Repr

/-- What a test becomes in a query string. To be null is to be absent. -/
def Clause.ofLeaf : Leaf → Clause
  | .compare .eq key .null => present true key
  | .compare .ne key .null => present false key
  | .compare .eq key value => term false key value
  | .compare .ne key value => term true key value
  | .compare .gt key value => bounded .lower false key value
  | .compare .gte key value => bounded .lower true key value
  | .compare .lt key value => bounded .upper false key value
  | .compare .lte key value => bounded .upper true key value
  | .member negated key items => anyOf negated key items
  | .absent negated key => present (!negated) key

end QueryString

open QueryString

namespace Lucene

variable (settings : LuceneSettings)

/-- The term that a field has a scalar for a value. -/
def scalarTermText (key : Key) (value : Scalar) : String :=
  keyText settings key ++ ":" ++ style.scalarText value

/-- The text of a clause. -/
def clauseText : Clause → String
  | .present negated key => presentText settings negated key
  | .term negated key value => negatedText negated (scalarTermText settings key value)
  | .anyOf negated key values =>
    negatedText negated (Text.parenthesized
      (Connective.or.word.intercalate (values.map (scalarTermText settings key))))
  | .bounded bound inclusive key value =>
    let (opening, closing) := brackets bound inclusive
    keyText settings key ++ ":" ++ rangeText bound opening (style.scalarText value) closing

/-- The text of a comparison is that of the clause of its test. -/
theorem compareText_eq_map {expr : Expr} {comparison : Comparison}
    (isCompare : expr.kind = .compare comparison) :
    compareText settings comparison expr =
      expr.leaf.map fun leaf => clauseText settings (Clause.ofLeaf leaf) := by
  rcases Expr.comparisonOperands_of_compare isCompare with ⟨error, checked, operands⟩ |
    ⟨key, value, checked, operands⟩ <;> rw [checked]
  · cases comparison <;> simp only [compareText, matchText, boundText, operands] <;> rfl
  · cases comparison with
    | eq | ne =>
      rw [compareText, matchText, operands]
      cases value <;> rfl
    | gt | gte | lt | lte =>
      rw [compareText, boundText, operands]
      rfl

/-- The text of a test is that of the clause of the test it is checked as. -/
theorem testText_eq_map (expr : Expr) :
    (converter settings).testText expr =
      expr.leaf.map fun leaf => clauseText settings (Clause.ofLeaf leaf) := by
  cases isKind : expr.kind with
  | join | not =>
    rw [Converter.testText, Expr.leaf, isKind]
    rfl
  | compare comparison =>
    rw [Converter.testText, isKind]
    exact compareText_eq_map settings isKind
  | member negated =>
    rw [Converter.testText, isKind]
    change memberText settings negated expr = _
    rw [memberText]
    rcases Expr.comparisonOperands_of_member isKind with ⟨_, checked, operands⟩ |
      ⟨key, items, checked, operands⟩ <;> rw [checked, operands]
    · rfl
    · change Except.ok (negatedText negated (Text.parenthesized (Connective.or.word.intercalate
        ((items.map Value.scalar).map (termText settings key))))) = _
      rw [List.map_map]
      rfl
  | absent negated =>
    rw [Converter.testText, isKind, Expr.leaf_of_absent isKind]
    change absentText settings negated expr = _
    rw [absentText]
    cases expr.absenceKey <;> rfl

/-- A tree is rendered as the clauses of the filter that it is checked as. -/
theorem render_eq_map (expr : Expr) :
    render settings expr = (expr.toFilter Expr.leaf).map fun filter =>
      (filter.map fun leaf => clauseText settings (Clause.ofLeaf leaf)).text true :=
  (converter settings).exprText_eq_map_leaf (testText_eq_map settings) expr

end Lucene

namespace Range

/-- The text of a clause, if it does not ask whether a field exists. -/
def clauseText? : Clause → Option String
  | .present _ _ => none
  | .term negated key value =>
    some (negatedText negated (keyText key ++ style.scalarText value))
  | .anyOf negated key values =>
    some (negatedText negated (keyText key ++ style.scalarsText values))
  | .bounded bound inclusive key value =>
    let (opening, closing) := brackets inclusive
    some (keyText key ++ rangeText bound opening (style.scalarText value) closing)

/-- The text of a node that is a test. A test for absence is refused whatever its operands; a
comparison with null is refused once its operands have been checked. -/
def leafText (expr : Expr) : Except ConvertError String :=
  match expr.kind with
  | .absent _ => .error (.unsupported expr.kind .range)
  | _ => do
    match clauseText? (Clause.ofLeaf (← expr.leaf)) with
    | some text => .ok text
    | none => .error (.unsupported expr.kind .range)

/-- The converter writes the text of a test, and refuses what `leafText` refuses. -/
theorem testText_eq_leafText (expr : Expr) : converter.testText expr = leafText expr := by
  rw [Converter.testText, leafText]
  cases isKind : expr.kind with
  | join | not =>
    rw [Expr.leaf, isKind]
    rfl
  | compare comparison =>
    change compareText comparison expr = _
    rcases Expr.comparisonOperands_of_compare isKind with ⟨error, checked, operands⟩ |
      ⟨key, value, checked, operands⟩ <;> rw [checked]
    · cases comparison <;> simp only [compareText, matchText, boundText, operands] <;> rfl
    · cases comparison with
      | eq | ne =>
        rw [compareText, matchText, Expr.comparisonText, operands, isKind]
        cases value <;> simp [Clause.ofLeaf, clauseText?, bind, Except.bind, pure, Except.pure,
          ValueStyle.valueText]
      | gt | gte | lt | lte =>
        rw [compareText, boundText, operands]
        rfl
  | member negated =>
    change matchText negated expr = _
    rw [matchText, Expr.comparisonText]
    rcases Expr.comparisonOperands_of_member isKind with ⟨_, checked, operands⟩ |
      ⟨key, items, checked, operands⟩ <;> rw [checked, operands]
    · rfl
    · change Except.ok (negatedText _ (_ ++ "" ++ style.valueText (.ofScalars items))) = _
      rw [ValueStyle.valueText_ofScalars, String.append_empty]
      rfl
  | absent negated =>
    change Except.error (ConvertError.unsupported expr.kind .range) = _
    rw [isKind]

/-- A tree is rendered as the text of the filter that it is checked as, where the check of tests
refuses those for null. -/
theorem render_eq_map (expr : Expr) :
    render expr = (expr.toFilter leafText).map (Filter.text true) := by
  rw [render, Converter.exprText_eq_map, funext testText_eq_leafText]
  rfl

end Range

end PortableFilter
