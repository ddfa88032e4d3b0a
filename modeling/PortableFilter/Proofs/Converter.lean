import PortableFilter.Converter
import PortableFilter.Proofs.Filter
import PortableFilter.Proofs.Outcome

/-! # What a walk writes

A converter checks a tree while it writes it. What comes of that is the text of the filter that the
tree is checked as, and a walk that fails stops where the check does, with the same error
(`Converter.exprText_eq_map`). -/

namespace PortableFilter

/-! ## The text of a filter -/

namespace Filter

/-- The text of an operand of a connective, or of a negation if `parent` is none: where connectives
are flat, one other than that of the parent is put in parentheses. -/
def bracketedText (flat : Bool) (parent : Option Connective) (operand : Filter String)
    (text : String) : String :=
  match operand with
  | join connective _ _ => Text.parenthesizedIf (flat && parent ≠ some connective) text
  | _ => text

/-- Where connectives are not flat, no parentheses are put. -/
theorem bracketedText_false (parent : Option Connective) (operand : Filter String)
    (text : String) : operand.bracketedText false parent text = text := by
  cases operand <;> rfl

/-- The text of a filter, given the texts of its tests. -/
def text (flat : Bool) : Filter String → String
  | leaf text => text
  | join connective left right =>
    bracketedText flat (some connective) left (left.text flat) ++ connective.word ++
      bracketedText flat (some connective) right (right.text flat)
  | not operand => "NOT " ++ bracketedText flat none operand (operand.text flat)
  | group content => Text.parenthesized (content.text flat)

theorem map_text_leaf (flat : Bool) (step : Except ConvertError String) :
    (step.map leaf).map (text flat) = step := by
  cases step <;> rfl

end Filter

/-- The connective that a kind is. -/
def Kind.connective? : Kind → Option Connective
  | join connective => some connective
  | _ => none

namespace Converter

variable (converter : Converter)

/-- The text of a node that is a test. -/
def testText (expr : Expr) : Except ConvertError String :=
  match expr.kind with
  | .compare comparison => converter.compareText comparison expr
  | .member negated => converter.memberText negated expr
  | .absent negated => converter.absentText negated expr
  | kind => .error (.malformed kind .notComparison)

variable {converter}

/-- A tree and the filter that it is checked as are put in parentheses at the same places. -/
theorem parenthesizedIf_brackets {operand : Operand} {filter : Filter String}
    (checked : operand.toFilter? converter.testText = some (.ok filter)) (parent : Kind)
    (text : String) :
    Text.parenthesizedIf (converter.brackets parent operand) text =
      filter.bracketedText converter.flat parent.connective? text := by
  cases operand with
  | key | value => cases checked
  | group content =>
    obtain ⟨inner, -, rfl⟩ := map_eq_ok_iff.mp (Option.some.inj checked)
    rfl
  | expr content =>
    have checked := Option.some.inj checked
    match content with
    | .unary .not operand =>
      obtain ⟨inner, rfl⟩ := Expr.exists_not_of_toFilter checked
      simp [brackets, Expr.kind, Kind.isJoin, Text.parenthesizedIf, Filter.bracketedText]
    | .binary (.join connective) left right =>
      obtain ⟨first, second, rfl⟩ := Expr.exists_join_of_toFilter checked
      cases parent <;>
        simp [brackets, Expr.kind, Kind.isJoin, Filter.bracketedText, Kind.connective?, eq_comm]
    | .unary (.join _) _ | .binary .not _ _ => cases checked
    | .unary (.compare _) _ | .unary (.member _) _ | .unary (.absent _) _
    | .binary (.compare _) _ _ | .binary (.member _) _ _ | .binary (.absent _) _ _ =>
      obtain ⟨inner, -, rfl⟩ := map_eq_ok_iff.mp checked
      simp [brackets, Expr.kind, Kind.isJoin, Text.parenthesizedIf, Filter.bracketedText]

variable (converter)

mutual

/-- A walk writes the filter that a tree is checked as, or fails as the check does. -/
theorem exprText_eq_map (expr : Expr) :
    converter.exprText expr =
      (expr.toFilter converter.testText).map (Filter.text converter.flat) := by
  match expr with
  | .unary .not operand =>
    rw [exprText]
    refine attached_negationOperand_bind fun checked step isOperand => ?_
    dsimp only
    rw [operandText_eq_map operand isOperand]
    cases step with
    | error error => rfl
    | ok filter =>
      exact congrArg (Except.ok <| "NOT " ++ ·) (parenthesizedIf_brackets isOperand .not _)
  | .binary (.join connective) left right =>
    rw [exprText]
    refine attached_joinOperands_bind fun checked leftStep rightStep isLeft isRight => ?_
    dsimp only
    rw [operandText_eq_map left isLeft, operandText_eq_map right isRight]
    cases leftStep with
    | error error => rfl
    | ok first =>
      cases rightStep with
      | error error => rfl
      | ok second =>
        have leftText := parenthesizedIf_brackets isLeft (.join connective)
          (first.text converter.flat)
        have rightText := parenthesizedIf_brackets isRight (.join connective)
          (second.text converter.flat)
        change Except.ok
          (Text.parenthesizedIf (converter.brackets (.join connective) left) _ ++ connective.word ++
            Text.parenthesizedIf (converter.brackets (.join connective) right) _) = _
        rw [leftText, rightText]
        rfl
  | .unary (.join _) operand | .binary .not left right =>
    rw [exprText]
    rfl
  | .unary (.compare _) _ | .unary (.member _) _ | .unary (.absent _) _
  | .binary (.compare _) _ _ | .binary (.member _) _ _ | .binary (.absent _) _ _ =>
    rw [exprText]
    exact (Filter.map_text_leaf converter.flat _).symm

/-- So does a walk through an operand that is or contains an expression. -/
theorem operandText_eq_map (operand : Operand) {step : Except ConvertError (Filter String)}
    (isOperand : operand.toFilter? converter.testText = some step) :
    converter.operandText operand = step.map (Filter.text converter.flat) := by
  match operand with
  | .key _ | .value _ => cases isOperand
  | .expr content =>
    cases isOperand
    rw [operandText]
    exact exprText_eq_map content
  | .group content =>
    cases isOperand
    rw [operandText, exprText_eq_map content]
    cases content.toFilter converter.testText <;> rfl

end

/-- A walk that writes each test once it has been checked writes the texts of the tests in the
filter that a tree is checked as. -/
theorem exprText_eq_map_leaf {leafText : Leaf → String}
    (tests : ∀ expr, converter.testText expr = expr.leaf.map leafText) (expr : Expr) :
    converter.exprText expr = (expr.toFilter Expr.leaf).map fun filter =>
      (filter.map leafText).text converter.flat := by
  rw [exprText_eq_map, Expr.toFilter_map tests]
  cases expr.toFilter Expr.leaf <;> rfl

end Converter

end PortableFilter
