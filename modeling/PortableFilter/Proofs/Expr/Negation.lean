import PortableFilter.Proofs.Expr.Nodes

/-! # The complement of a tree

`Expr.negate` takes a negation away instead of pushing it down, exchanges the connectives, and turns
each test into its opposite. The complement of a well-shaped tree is well-shaped and holds exactly
if the tree does not. Without negations there is nothing to take away, and the complement of the
complement is the tree itself, groups included (`Expr.negate_complements`). -/

namespace PortableFilter

/-- The negated operand contains the negated content. -/
theorem Operand.content?_negate {operand : Operand} {content : Expr}
    (inside : operand.content? = some content) : operand.negate.content? = some content.negate := by
  cases operand with
  | key | value => cases inside
  | expr | group =>
    cases inside
    simp only [Operand.negate, Operand.content?]

namespace Expr

/-- A test is negated to its opposite. -/
theorem negate_of_isTest {expr : Expr} (isTest : expr.kind.isTest) :
    expr.negate = expr.opposite := by
  cases expr with
  | unary kind | binary kind =>
    cases kind with
    | join | not => cases isTest
    | compare | member | absent => rfl

/-- A test that is negated twice is the test itself. -/
theorem negate_negate_of_isTest {expr : Expr} (isTest : expr.kind.isTest) :
    expr.negate.negate = expr := by
  rw [negate_of_isTest isTest, negate_of_isTest (isTest_kind_opposite isTest), opposite_opposite]

/-- The negated node of a test is the node of the opposite test. -/
theorem negate_expr (leaf : Leaf) : leaf.expr.negate = leaf.complement.expr := by
  rw [negate_of_isTest leaf.isTest_kind_expr, opposite_expr]

/-- A negation is negated by leaving it out. -/
theorem negate_not {operand : Operand} {content : Expr}
    (inside : operand.content? = some content) : (Expr.unary .not operand).negate = content := by
  rw [negate, inside, Option.getD_some]

/-- A connective is negated to its dual, with both operands negated. -/
theorem negate_join (connective : Connective) (left right : Operand) :
    (Expr.binary (.join connective) left right).negate =
      .binary (.join connective.dual) left.negate right.negate := by
  rw [negate]

/-- A negation holds exactly if its content does not. -/
theorem holds_not (truth : Leaf → Bool) {operand : Operand} {content : Expr}
    (inside : operand.content? = some content) :
    (Expr.unary .not operand).holds truth = !content.holds truth := by
  rw [holds, operand.holds_of_content truth inside]

/-- De Morgan's laws. -/
theorem holds_join_dual {truth : Leaf → Bool} (connective : Connective)
    {left right left' right' : Operand} (leftFlips : left'.holds truth = !left.holds truth)
    (rightFlips : right'.holds truth = !right.holds truth) :
    (Expr.binary (.join connective.dual) left' right').holds truth =
      !(Expr.binary (.join connective) left right).holds truth := by
  cases connective with
  | and => simp only [Connective.dual, holds, leftFlips, rightFlips, Bool.not_and]
  | or => simp only [Connective.dual, holds, leftFlips, rightFlips, Bool.not_or]

/-- What is well-shaped is well-shaped when negated. -/
theorem Shaped.negate {expr : Expr} (shaped : expr.Shaped) : expr.negate.Shaped := by
  induction shaped with
  | @test leaf valid =>
    rw [negate_expr]
    exact .test (Leaf.valid_complement valid)
  | not inside shaped _ =>
    rw [negate_not inside]
    exact shaped
  | join inLeft inRight _ _ ihLeft ihRight =>
    rw [negate_join]
    exact .join (Operand.content?_negate inLeft) (Operand.content?_negate inRight) ihLeft ihRight

/-- A negated tree holds exactly if the tree does not. -/
theorem Shaped.holds_negate {truth : Leaf → Bool} (complementary : Complementary truth)
    {expr : Expr} (shaped : expr.Shaped) : expr.negate.holds truth = !expr.holds truth := by
  induction shaped with
  | @test leaf _ =>
    rw [negate_expr, Leaf.holds_expr, Leaf.holds_expr, complementary.complement]
  | not inside _ _ => rw [negate_not inside, holds_not truth inside, Bool.not_not]
  | @join connective left right first second inLeft inRight _ _ ihLeft ihRight =>
    -- an operand holds as its content does, so the operands flip as the contents do
    have flips : ∀ {operand : Operand} {content : Expr}, operand.content? = some content →
        content.negate.holds truth = (!content.holds truth) →
        operand.negate.holds truth = !operand.holds truth := by
      intro operand content inside flip
      rw [Operand.holds_of_content truth (Operand.content?_negate inside), flip,
        Operand.holds_of_content truth inside]
    rw [negate_join]
    exact holds_join_dual connective (flips inLeft ihLeft) (flips inRight ihRight)

end Expr

mutual

/-- Without a negation in a tree, nothing is lost in its complement. -/
theorem Expr.negate_negate (expr : Expr) (plain : ∀ node ∈ expr.nodes, node.kind ≠ .not) :
    expr.negate.negate = expr := by
  match expr with
  | .unary .not _ | .binary .not _ _ =>
    rw [Expr.nodes, List.forall_mem_cons] at plain
    exact absurd rfl plain.1
  | .unary (.join connective) operand =>
    rw [Expr.nodes, List.forall_mem_cons] at plain
    rw [Expr.negate, Expr.negate, connective.dual_dual, operand.negate_negate plain.2]
  | .binary (.join connective) left right =>
    rw [Expr.nodes, List.forall_mem_cons, List.forall_mem_append] at plain
    rw [Expr.negate_join, Expr.negate_join, connective.dual_dual,
      left.negate_negate plain.2.1, right.negate_negate plain.2.2]
  | .unary (.compare _) _ | .unary (.member _) _ | .unary (.absent _) _
  | .binary (.compare _) _ _ | .binary (.member _) _ _ | .binary (.absent _) _ _ =>
    exact Expr.negate_negate_of_isTest rfl

/-- An operand without negations is itself again when negated twice. -/
theorem Operand.negate_negate (operand : Operand)
    (plain : ∀ node ∈ operand.nodes, node.kind ≠ .not) : operand.negate.negate = operand := by
  match operand with
  | .key _ | .value _ => simp only [Operand.negate]
  | .expr content | .group content =>
    rw [Operand.nodes] at plain
    simp only [Operand.negate, content.negate_negate plain]

end

/-- The complement of a well-shaped tree is well-shaped, and it holds exactly if the tree does not,
whatever the truth values of tests as long as opposite tests exclude and complete each other. It
undoes itself on every tree without a negation. -/
theorem Expr.negate_complements (expr : Expr) :
    (expr.wellShaped → expr.negate.wellShaped ∧
      ∀ truth, Complementary truth → (expr.negate.holds truth ↔ expr.holds truth = false)) ∧
    ((∀ node ∈ expr.nodes, node.kind ≠ .not) → expr.negate.negate = expr) := by
  refine ⟨fun wellShaped => ?_, expr.negate_negate⟩
  have shaped := expr.shaped_of_wellShaped wellShaped
  refine ⟨Expr.wellShaped_of_shaped shaped.negate, fun truth complementary => ?_⟩
  rw [shaped.holds_negate complementary, Bool.not_eq_true']

/-- True of exactly one of every two opposite tests. -/
def Leaf.affirms : Leaf → Bool
  | compare comparison _ _ => comparison = .eq || comparison = .gt || comparison = .gte
  | member negated _ _ | absent negated _ => !negated

/-- Exactly one of a test and its opposite is affirmed. -/
theorem Leaf.complementary_affirms : Complementary Leaf.affirms where
  ne _ _ := rfl
  lte _ _ := rfl
  lt _ _ := rfl
  nin _ _ := rfl
  present _ := rfl

/-- Connectives within groups, over all sorts of tests: the complement is well-shaped, it is false
where the tree is true, and it undoes itself. -/
theorem Expr.negate_complements_nested : ∃ expr : Expr,
    (expr.wellShaped ∧ (∀ node ∈ expr.nodes, node.kind ≠ .not) ∧ expr.holds Leaf.affirms) ∧
      expr.negate.wellShaped ∧ ¬ expr.negate.holds Leaf.affirms ∧ expr.negate.negate = expr := by
  let expr := Expr.join .and (.expr (.compare .gte ⟨"a"⟩ (.scalar (.int 1))))
    (.group (.join .or (.expr (.member true ⟨"b"⟩ (.ofScalars [.text "x", .null])))
      (.group (.absent false ⟨"'c'"⟩))))
  have shaped : expr.wellShaped := by decide
  have plain : ∀ node ∈ expr.nodes, node.kind ≠ .not := by
    simp [expr, join, compare, member, absent, nodes, Operand.nodes, kind]
  have holds : expr.holds Leaf.affirms := by decide
  obtain ⟨complement, twice⟩ := expr.negate_complements
  obtain ⟨complementShaped, complementHolds⟩ := complement shaped
  refine ⟨expr, ⟨shaped, plain, holds⟩, complementShaped, fun both => ?_, twice plain⟩
  have fails := (complementHolds _ Leaf.complementary_affirms).mp both
  rw [holds] at fails
  cases fails

end PortableFilter
