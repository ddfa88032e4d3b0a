import PortableFilter.Proofs.Expr.Meaning
import PortableFilter.Proofs.Precedence.Faithful
import PortableFilter.Proofs.Precedence.Lexing

/-! # Well-shaped trees as filters

A well-shaped tree passes the check of the dialects, which turns it into a filter of valid tests
with the structure and the meaning of the tree (`Expr.exists_toFilter`). Every other filter of valid
tests with that structure comes from a well-shaped tree, too (`Expr.exists_of_form`). -/

namespace PortableFilter

mutual

/-- The structure of a tree without its tests. -/
def Expr.form : Expr → Filter Unit
  | .unary .not operand => .not operand.form
  | .binary (.join connective) left right => .join connective left.form right.form
  | _ => .leaf ()

def Operand.form : Operand → Filter Unit
  | .expr content => content.form
  | .group content => .group content.form
  | .key _ | .value _ => .leaf ()

end

/-- What is in place of an operand, given what is in place of its content. -/
def Operand.enclose {α : Type} : Operand → Filter α → Filter α
  | .group _, content => .group content
  | _, content => content

namespace Operand

variable {α : Type} {operand : Operand} {content : Expr}

/-- An operand has the form of its content, in a group if the operand is one. -/
theorem form_of_content (inside : operand.content? = some content) :
    operand.form = operand.enclose content.form := by
  cases operand with
  | key | value => cases inside
  | expr | group =>
    cases inside
    rfl

/-- An operand is checked as its content is, in a group if the operand is one. -/
theorem toFilter?_of_content (leaf : Expr → Except ConvertError α)
    (inside : operand.content? = some content) :
    operand.toFilter? leaf = some ((content.toFilter leaf).map operand.enclose) := by
  cases operand with
  | key | value => cases inside
  | group =>
    cases inside
    rfl
  | expr =>
    cases inside
    cases checked : content.toFilter leaf <;> rw [toFilter?, checked] <;> rfl

theorem form_enclose (operand : Operand) (filter : Filter α) :
    (operand.enclose filter).form = operand.enclose filter.form := by
  cases operand <;> rfl

theorem map_enclose {β : Type} (operand : Operand) (f : α → β) (filter : Filter α) :
    (operand.enclose filter).map f = operand.enclose (filter.map f) := by
  cases operand <;> rfl

theorem holds_enclose (operand : Operand) (truth : α → Bool) (filter : Filter α) :
    (operand.enclose filter).holds truth = filter.holds truth := by
  cases operand <;> rfl

theorem tests_enclose (operand : Operand) (filter : Filter α) :
    (operand.enclose filter).tests = filter.tests := by
  cases operand <;> rfl

end Operand

namespace Expr

/-- The node of a valid test is checked as the test. -/
theorem toFilter_expr {leaf : Leaf} (valid : leaf.Valid) :
    leaf.expr.toFilter Expr.leaf = .ok (.leaf leaf) := by
  have checked : leaf.expr.toFilter Expr.leaf = leaf.expr.leaf.map .leaf := by
    cases leaf <;> rfl
  rw [checked, Leaf.leaf_expr valid]
  rfl

/-- A negation is checked as the negated filter of its operand. -/
theorem toFilter_not {α : Type} {leaf : Expr → Except ConvertError α} {operand : Operand}
    {filter : Filter α} (checked : operand.toFilter? leaf = some (.ok filter)) :
    (Expr.unary .not operand).toFilter leaf = .ok (.not filter) := by
  rw [toFilter, checked]
  rfl

/-- A connective is checked as the joined filters of its operands. -/
theorem toFilter_join {α : Type} {leaf : Expr → Except ConvertError α} {connective : Connective}
    {left right : Operand} {first second : Filter α}
    (checkedLeft : left.toFilter? leaf = some (.ok first))
    (checkedRight : right.toFilter? leaf = some (.ok second)) :
    (Expr.binary (.join connective) left right).toFilter leaf =
      .ok (.join connective first second) := by
  rw [toFilter, checkedLeft, checkedRight]
  rfl

/-- A well-shaped tree passes the check, as a filter of valid tests with its structure and its
meaning. -/
theorem exists_toFilter {expr : Expr} (shaped : expr.Shaped) :
    ∃ filter : Filter Leaf, expr.toFilter Expr.leaf = .ok filter ∧
      (∀ leaf ∈ filter.tests, leaf.Valid) ∧ filter.form = expr.form ∧
      ∀ truth, filter.holds truth = expr.holds truth := by
  induction shaped with
  | @test leaf valid =>
    refine ⟨.leaf leaf, toFilter_expr valid, ?_, ?_, fun truth => (leaf.holds_expr truth).symm⟩
    · intro other member
      rwa [List.mem_singleton.mp member]
    · cases leaf <;> rfl
  | @not operand content inside _ ih =>
    obtain ⟨filter, checked, valid, sameForm, sameTruth⟩ := ih
    have isOperand := operand.toFilter?_of_content Expr.leaf inside
    rw [checked] at isOperand
    refine ⟨.not (operand.enclose filter), toFilter_not isOperand, ?_, ?_, ?_⟩
    · rwa [Filter.tests, Operand.tests_enclose]
    · rw [form, Operand.form_of_content inside, ← sameForm, ← Operand.form_enclose]
      rfl
    · intro truth
      rw [Filter.holds, Operand.holds_enclose, sameTruth, holds,
        Operand.holds_of_content truth inside]
  | @join connective left right first second inLeft inRight _ _ ihLeft ihRight =>
    obtain ⟨firstFilter, firstChecked, firstValid, firstForm, firstTruth⟩ := ihLeft
    obtain ⟨secondFilter, secondChecked, secondValid, secondForm, secondTruth⟩ := ihRight
    have isLeft := left.toFilter?_of_content Expr.leaf inLeft
    have isRight := right.toFilter?_of_content Expr.leaf inRight
    rw [firstChecked] at isLeft
    rw [secondChecked] at isRight
    refine ⟨.join connective (left.enclose firstFilter) (right.enclose secondFilter),
      toFilter_join isLeft isRight, ?_, ?_, ?_⟩
    · rw [Filter.tests, Operand.tests_enclose, Operand.tests_enclose]
      exact List.forall_mem_append.mpr ⟨firstValid, secondValid⟩
    · rw [form, Operand.form_of_content inLeft, Operand.form_of_content inRight, ← firstForm,
        ← secondForm, ← Operand.form_enclose, ← Operand.form_enclose]
      rfl
    · intro truth
      have leftTruth := Operand.holds_of_content truth inLeft
      have rightTruth := Operand.holds_of_content truth inRight
      cases connective <;>
        simp [Filter.holds, holds, Operand.holds_enclose, firstTruth, secondTruth, leftTruth,
          rightTruth]

/-- An operand with a structure of its own, given an expression with the structure of its
content. -/
theorem exists_operand_of_form {α : Type} {operand : Operand} {content : Expr}
    (inside : operand.content? = some content) {pick : α → Leaf} {labels : Filter α}
    (sameForm : labels.form = operand.form)
    (ofContent : ∀ {labels : Filter α}, labels.form = content.form → ∃ other : Expr,
      other.Shaped ∧ other.form = content.form ∧
        other.toFilter Expr.leaf = .ok (labels.map pick)) :
    ∃ (other : Operand) (expr : Expr), other.content? = some expr ∧ expr.Shaped ∧
      other.form = operand.form ∧ other.toFilter? Expr.leaf = some (.ok (labels.map pick)) := by
  cases operand with
  | key | value => cases inside
  | expr =>
    cases inside
    obtain ⟨other, shaped, otherForm, checked⟩ := ofContent sameForm
    exact ⟨.expr other, other, rfl, shaped, otherForm, congrArg some checked⟩
  | group =>
    cases inside
    cases labels with
    | leaf | join | not => cases sameForm
    | group labels =>
      obtain ⟨other, shaped, otherForm, checked⟩ := ofContent (Filter.group.inj sameForm)
      refine ⟨.group other, other, rfl, shaped, congrArg Filter.group otherForm, ?_⟩
      rw [Operand.toFilter?, checked]
      rfl

/-- Whatever valid tests are put in the place of those of a well-shaped tree, the result comes from
a well-shaped tree. -/
theorem exists_of_form {α : Type} {expr : Expr} (shaped : expr.Shaped) {pick : α → Leaf}
    (valid : ∀ label, (pick label).Valid) {labels : Filter α} (sameForm : labels.form = expr.form) :
    ∃ other : Expr, other.Shaped ∧ other.form = expr.form ∧
      other.toFilter Expr.leaf = .ok (labels.map pick) := by
  induction shaped generalizing labels with
  | @test leaf _ =>
    have isLeaf : labels.form = .leaf () := by
      rw [sameForm]
      cases leaf <;> rfl
    cases labels with
    | join | not | group => cases isLeaf
    | leaf label =>
      refine ⟨(pick label).expr, .test (valid label), ?_, toFilter_expr (valid label)⟩
      rw [← sameForm]
      cases pick label <;> rfl
  | @not operand content inside _ ih =>
    cases labels with
    | leaf | join | group => cases sameForm
    | not labels =>
      obtain ⟨other, content, inOther, shaped, otherForm, checked⟩ :=
        exists_operand_of_form inside (Filter.not.inj sameForm) ih
      exact ⟨.unary .not other, .not inOther shaped, congrArg Filter.not otherForm,
        toFilter_not checked⟩
  | @join connective left right first second inLeft inRight _ _ ihLeft ihRight =>
    cases labels with
    | leaf | not | group => cases sameForm
    | join other leftLabels rightLabels =>
      obtain ⟨rfl, leftForm, rightForm⟩ := Filter.join.inj sameForm
      obtain ⟨newLeft, _, inNewLeft, leftShaped, newLeftForm, leftChecked⟩ :=
        exists_operand_of_form inLeft leftForm ihLeft
      obtain ⟨newRight, _, inNewRight, rightShaped, newRightForm, rightChecked⟩ :=
        exists_operand_of_form inRight rightForm ihRight
      refine ⟨.binary (.join other) newLeft newRight,
        .join inNewLeft inNewRight leftShaped rightShaped, ?_,
        toFilter_join leftChecked rightChecked⟩
      rw [form, form, newLeftForm, newRightForm]

end Expr

end PortableFilter
