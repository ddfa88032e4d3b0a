import PortableFilter.Proofs.Document.Acceptance

/-! # The nodes of a tree and their checks

A tree is well-shaped exactly if each of its nodes passes the check that its kind asks for
(`Expr.wellShaped_iff_nodes`). If a tree cannot be rendered, the error is that of the check of one
node (`Expr.exists_node_of_toFilter`), and for a document query perhaps that of the opposite of one
node, since negations are pushed down before tests are checked
(`Document.exists_node_of_ofExpr`). -/

namespace PortableFilter

/-- The check of the topmost node, as its kind asks for. -/
def Expr.check (expr : Expr) : Except ConvertError Unit :=
  match expr.kind with
  | .join _ => expr.joinOperands.map fun _ => ()
  | .not => expr.negationOperand.map fun _ => ()
  | .compare _ | .member _ => expr.comparisonOperands.map fun _ => ()
  | .absent _ => expr.absenceKey.map fun _ => ()

mutual

/-- All nodes of a tree. -/
def Expr.nodes : Expr → List Expr
  | .unary kind operand => .unary kind operand :: operand.nodes
  | .binary kind left right => .binary kind left right :: (left.nodes ++ right.nodes)

def Operand.nodes : Operand → List Expr
  | .key _ | .value _ => []
  | .expr content | .group content => content.nodes

end

namespace Expr

/-- To pass the checks of a node is to have no fault reported. -/
theorem checks_eq_isOk_check (expr : Expr) : expr.checks = expr.check.isOk := by
  have kept : ∀ {α : Type} (step : Except ConvertError α),
      (step.map fun _ => ()).isOk = step.isOk := by
    intro α step
    cases step <;> rfl
  unfold checks check
  cases expr.kind <;> exact (kept _).symm

/-- A node passes its checks exactly if its report is empty. -/
theorem checks_iff_check_eq_ok {expr : Expr} : expr.checks ↔ expr.check = .ok () := by
  rw [checks_eq_isOk_check]
  cases expr.check with
  | error => simp [Except.isOk, Except.toBool]
  | ok => simp [Except.isOk, Except.toBool]

section Among

variable {p : Expr → Prop} {kind : Kind} {operand left right : Operand}

/-- A tree is one of its own nodes. -/
theorem exists_node_self {expr : Expr} (here : p expr) : ∃ node ∈ expr.nodes, p node := by
  cases expr <;> exact ⟨_, List.mem_cons_self, here⟩

/-- The nodes of an operand are nodes of the tree. -/
theorem exists_node_operand (inside : ∃ node ∈ operand.nodes, p node) :
    ∃ node ∈ (Expr.unary kind operand).nodes, p node := by
  obtain ⟨node, member, holds⟩ := inside
  exact ⟨node, List.mem_cons_of_mem _ member, holds⟩

theorem exists_node_left (inside : ∃ node ∈ left.nodes, p node) :
    ∃ node ∈ (Expr.binary kind left right).nodes, p node := by
  obtain ⟨node, member, holds⟩ := inside
  exact ⟨node, List.mem_cons_of_mem _ (List.mem_append_left _ member), holds⟩

theorem exists_node_right (inside : ∃ node ∈ right.nodes, p node) :
    ∃ node ∈ (Expr.binary kind left right).nodes, p node := by
  obtain ⟨node, member, holds⟩ := inside
  exact ⟨node, List.mem_cons_of_mem _ (List.mem_append_right _ member), holds⟩

end Among

/-- A negation of something that is no expression is malformed, and the sort of the operand is
reported. -/
theorem check_not_of_bare {operand : Operand} (bare : operand.content? = none) :
    (Expr.unary .not operand).check =
      .error (.malformed .not (.expressionExpected operand.sort)) := by
  cases operand with
  | key | value => rfl
  | expr | group => cases bare

/-- A connective whose left operand is no expression is malformed, whatever the right one is. -/
theorem check_join_of_bare_left {connective : Connective} {left : Operand}
    (bare : left.content? = none) (right : Operand) :
    (Expr.binary (.join connective) left right).check =
      .error (.malformed (.join connective) (.expressionsExpected left.sort)) := by
  cases left with
  | key | value => rfl
  | expr | group => cases bare

/-- The right operand is reported only if the left one is an expression. -/
theorem check_join_of_bare_right {connective : Connective} {left right : Operand}
    (present : left.content? ≠ none) (bare : right.content? = none) :
    (Expr.binary (.join connective) left right).check =
      .error (.malformed (.join connective) (.expressionsExpected right.sort)) := by
  cases right with
  | expr | group => cases bare
  | key | value =>
    cases left with
    | expr | group => rfl
    | key | value => exact absurd rfl present

/-- A test is checked as a node as it is checked when it is rendered. -/
theorem check_of_isTest {expr : Expr} (isTest : expr.kind.isTest) :
    expr.check = expr.leaf.map fun _ => () := by
  unfold check leaf comparisonOperands
  split
  · rename_i isJoin
    rw [isJoin] at isTest
    cases isTest
  · rename_i isNot
    rw [isNot] at isTest
    cases isTest
  · rename_i comparison isCompare
    simp only [isCompare]
    cases Kind.keyOperand (.compare comparison) expr.left with
    | error => rfl
    | ok key => cases comparison.scalarOperand expr.right? <;> rfl
  · rename_i negated isMember
    simp only [isMember]
    cases Kind.keyOperand (.member negated) expr.left with
    | error => rfl
    | ok key => cases Kind.itemsOperand (.member negated) expr.right? <;> rfl
  · rename_i negated isAbsent
    simp only [isAbsent]
    cases expr.absenceKey <;> rfl

end Expr

/-- Exactly the operands without content have no filter. -/
theorem Operand.toFilter?_eq_none_iff {operand : Operand} {α : Type}
    {leaf : Expr → Except ConvertError α} :
    operand.toFilter? leaf = none ↔ operand.content? = none := by
  cases operand <;> simp [Operand.toFilter?, Operand.content?]

mutual

/-- A tree is well-shaped exactly if all of its nodes pass their checks. -/
theorem Expr.wellShaped_iff_nodes (expr : Expr) :
    expr.wellShaped ↔ ∀ node ∈ expr.nodes, node.check = .ok () := by
  match expr with
  | .unary kind operand =>
    rw [Expr.wellShaped, Expr.nodes, List.forall_mem_cons, Bool.and_eq_true,
      Expr.checks_iff_check_eq_ok, operand.wellShaped_iff_nodes]
  | .binary kind left right =>
    rw [Expr.wellShaped, Expr.nodes, List.forall_mem_cons, List.forall_mem_append,
      Bool.and_eq_true, Bool.and_eq_true, Expr.checks_iff_check_eq_ok, left.wellShaped_iff_nodes,
      right.wellShaped_iff_nodes, and_assoc]

/-- An operand passes all checks exactly if each of its nodes does. -/
theorem Operand.wellShaped_iff_nodes (operand : Operand) :
    operand.wellShaped ↔ ∀ node ∈ operand.nodes, node.check = .ok () := by
  match operand with
  | .key _ | .value _ => simp [Operand.wellShaped, Operand.nodes]
  | .expr content | .group content => exact content.wellShaped_iff_nodes

end

mutual

/-- The error of a tree that does not pass the check is that of one of its nodes. -/
theorem Expr.exists_node_of_toFilter (expr : Expr) {error : ConvertError}
    (failed : expr.toFilter Expr.leaf = .error error) :
    ∃ node ∈ expr.nodes, node.check = .error error := by
  match expr with
  | .unary .not operand =>
    rw [Expr.toFilter] at failed
    split at failed
    · rename_i step isOperand
      apply Expr.exists_node_operand
      exact operand.exists_node_of_toFilter? isOperand (map_eq_error_iff.mp failed)
    · rename_i bare
      cases failed
      apply Expr.exists_node_self
      exact Expr.check_not_of_bare (Operand.toFilter?_eq_none_iff.mp bare)
  | .binary (.join connective) left right =>
    rw [Expr.toFilter] at failed
    split at failed
    · rename_i leftStep rightStep isLeft isRight
      rcases bind_eq_error_iff.mp failed with broken | ⟨_, -, failed⟩
      · exact Expr.exists_node_left (left.exists_node_of_toFilter? isLeft broken)
      · rcases bind_eq_error_iff.mp failed with broken | ⟨_, -, done⟩
        · exact Expr.exists_node_right (right.exists_node_of_toFilter? isRight broken)
        · cases done
    · rename_i bare
      cases failed
      apply Expr.exists_node_self
      exact Expr.check_join_of_bare_left (Operand.toFilter?_eq_none_iff.mp bare) right
    · rename_i bare present
      cases failed
      apply Expr.exists_node_self
      exact Expr.check_join_of_bare_right (mt Operand.toFilter?_eq_none_iff.mpr present)
        (Operand.toFilter?_eq_none_iff.mp bare)
  | .unary (.join _) _ | .binary .not _ _ =>
    cases failed
    exact Expr.exists_node_self rfl
  | .unary (.compare _) _ | .unary (.member _) _ | .unary (.absent _) _
  | .binary (.compare _) _ _ | .binary (.member _) _ _ | .binary (.absent _) _ _ =>
    rw [Expr.toFilter_of_isTest rfl, map_eq_error_iff] at failed
    apply Expr.exists_node_self
    rw [Expr.check_of_isTest rfl, map_eq_error_iff]
    exact failed

/-- What the check of an operand reports is reported by one of its nodes. -/
theorem Operand.exists_node_of_toFilter? (operand : Operand)
    {step : Except ConvertError (Filter Leaf)} (isOperand : operand.toFilter? Expr.leaf = some step)
    {error : ConvertError} (failed : step = .error error) :
    ∃ node ∈ operand.nodes, node.check = .error error := by
  match operand with
  | .key _ | .value _ => cases isOperand
  | .expr content =>
    cases isOperand
    exact content.exists_node_of_toFilter failed
  | .group content =>
    cases isOperand
    exact content.exists_node_of_toFilter (map_eq_error_iff.mp failed)

end

namespace Document

/-- Exactly the operands without content have no query. -/
theorem ofOperand?_eq_none_iff {negated : Bool} {operand : Operand} :
    ofOperand? negated operand = none ↔ operand.content? = none := by
  cases operand <;> simp [ofOperand?, Operand.content?]

/-- What is reported for a node as it is written is reported for the node or for its opposite. -/
theorem broken_of_written {negated : Bool} {node : Expr} {error : ConvertError}
    (broken : (if negated then node.opposite else node).check = .error error) :
    node.check = .error error ∨ node.opposite.check = .error error := by
  cases negated with
  | false => exact .inl broken
  | true => exact .inr broken

mutual

/-- The error of a tree without a document query is that of one of its nodes, or of the opposite of
one. -/
theorem exists_node_of_ofExpr (negated : Bool) (expr : Expr) {error : ConvertError}
    (failed : ofExpr negated expr = .error error) :
    ∃ node ∈ expr.nodes, node.check = .error error ∨ node.opposite.check = .error error := by
  match expr with
  | .unary .not operand =>
    rw [ofExpr] at failed
    split at failed
    · rename_i step isOperand
      exact Expr.exists_node_operand (exists_node_of_ofOperand? (!negated) operand isOperand failed)
    · rename_i bare
      cases failed
      apply Expr.exists_node_self
      exact .inl (Expr.check_not_of_bare (ofOperand?_eq_none_iff.mp bare))
  | .binary (.join connective) left right =>
    rw [ofExpr] at failed
    split at failed
    · rename_i leftStep rightStep isLeft isRight
      rcases bind_eq_error_iff.mp failed with broken | ⟨_, -, failed⟩
      · exact Expr.exists_node_left (exists_node_of_ofOperand? negated left isLeft broken)
      · rcases bind_eq_error_iff.mp failed with broken | ⟨_, -, done⟩
        · exact Expr.exists_node_right (exists_node_of_ofOperand? negated right isRight broken)
        · cases done
    · rename_i bare
      have isBare := ofOperand?_eq_none_iff.mp bare
      refine Expr.exists_node_self (@broken_of_written negated _ _ ?_)
      cases negated with
      | false | true =>
        cases failed
        exact Expr.check_join_of_bare_left isBare right
    · rename_i bare present
      have isPresent := mt ofOperand?_eq_none_iff.mpr present
      have isBare := ofOperand?_eq_none_iff.mp bare
      refine Expr.exists_node_self (@broken_of_written negated _ _ ?_)
      cases negated with
      | false | true =>
        cases failed
        exact Expr.check_join_of_bare_right isPresent isBare
  | .unary (.join _) _ =>
    refine Expr.exists_node_self (@broken_of_written negated _ _ ?_)
    cases negated with
    | false | true =>
      cases failed
      rfl
  | .binary .not left right =>
    cases negated with
    | false =>
      cases failed
      exact Expr.exists_node_self (.inl rfl)
    | true =>
      cases isLeft : ofOperand? false left with
      | some step =>
        simp only [ofExpr, isLeft] at failed
        exact Expr.exists_node_left (exists_node_of_ofOperand? false left isLeft failed)
      | none =>
        simp only [ofExpr, isLeft] at failed
        cases failed
        exact Expr.exists_node_self (.inl rfl)
  | .unary (.compare _) _ | .unary (.member _) _ | .unary (.absent _) _
  | .binary (.compare _) _ _ | .binary (.member _) _ _ | .binary (.absent _) _ _ =>
    rw [ofExpr_of_isTest rfl, map_eq_error_iff] at failed
    refine Expr.exists_node_self (@broken_of_written negated _ _ ?_)
    rw [Expr.check_of_isTest (by cases negated <;> rfl), map_eq_error_iff]
    exact failed

/-- What is reported for the query of an operand is reported by one of its nodes, or by the opposite
of one. -/
theorem exists_node_of_ofOperand? (negated : Bool) (operand : Operand)
    {step : Except ConvertError Query} (isOperand : ofOperand? negated operand = some step)
    {error : ConvertError} (failed : step = .error error) :
    ∃ node ∈ operand.nodes, node.check = .error error ∨ node.opposite.check = .error error := by
  match operand with
  | .key _ | .value _ => cases isOperand
  | .expr content | .group content =>
    cases isOperand
    exact exists_node_of_ofExpr negated content failed

end

end Document

end PortableFilter
