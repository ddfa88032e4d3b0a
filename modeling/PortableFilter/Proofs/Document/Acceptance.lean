import PortableFilter.Proofs.Document
import PortableFilter.Proofs.Expr.Acceptance

/-! # Which trees have a document query

A negation is pushed down into its operand before the operand is checked. A negation that is met on
the way, in complement, gives way to its own operand without a check of its own, and if it has a
second operand, that one is never looked at. `Expr.pruned` takes those second operands away. A tree
has a document query exactly if what is left is well-shaped (`exists_render_iff_pruned`), so every
other broken rule of shape is still found, however many negations stand above it. -/

namespace PortableFilter

mutual

/-- A tree, or the complement of one if `negated`, without the second operands of the negations
that are met in complement. -/
def Expr.pruned (negated : Bool) : Expr → Expr
  | .unary .not operand => .unary .not (operand.pruned !negated)
  | .binary .not left right =>
    if negated then .unary .not (left.pruned false) else .binary .not left right
  | .binary (.join connective) left right =>
    .binary (.join connective) (left.pruned negated) (right.pruned negated)
  | expr => expr

def Operand.pruned (negated : Bool) : Operand → Operand
  | .expr content => .expr (content.pruned negated)
  | .group content => .group (content.pruned negated)
  | .key key => .key key
  | .value value => .value value

end

namespace Operand

variable {operand : Operand} {content : Expr} {negated : Bool}

/-- Nothing is cut from an operand if nothing is cut from its content. -/
theorem pruned_of_content (inside : operand.content? = some content)
    (same : content.pruned negated = content) : operand.pruned negated = operand := by
  cases operand with
  | key | value => cases inside
  | expr =>
    cases inside
    exact congrArg Operand.expr same
  | group =>
    cases inside
    exact congrArg Operand.group same

end Operand

/-- The dual of the dual is the connective itself. -/
theorem Connective.dual_dual (connective : Connective) : connective.dual.dual = connective := by
  cases connective <;> rfl

theorem Kind.complement_complement (kind : Kind) : kind.complement.complement = kind := by
  cases kind with
  | join connective => exact congrArg join connective.dual_dual
  | not => rfl
  | compare comparison => cases comparison <;> rfl
  | member negated | absent negated => cases negated <;> rfl

namespace Expr

/-- A negation is well-shaped exactly if its operand contains a well-shaped tree. -/
theorem shaped_not_iff {operand : Operand} :
    (Expr.unary .not operand).Shaped ↔
      ∃ content, operand.content? = some content ∧ content.Shaped := by
  constructor
  · intro shaped
    generalize same : Expr.unary .not operand = expr at shaped
    cases shaped with
    | @test leaf _ => cases leaf <;> cases same
    | not inside shaped =>
      cases same
      exact ⟨_, inside, shaped⟩
    | join => cases same
  · rintro ⟨content, inside, shaped⟩
    exact .not inside shaped

/-- A connective is well-shaped exactly if both operands contain well-shaped trees. -/
theorem shaped_join_iff {connective : Connective} {left right : Operand} :
    (Expr.binary (.join connective) left right).Shaped ↔
      (∃ first, left.content? = some first ∧ first.Shaped) ∧
        ∃ second, right.content? = some second ∧ second.Shaped := by
  constructor
  · intro shaped
    generalize same : Expr.binary (.join connective) left right = expr at shaped
    cases shaped with
    | @test leaf _ => cases leaf <;> cases same
    | not => cases same
    | join inLeft inRight shapedLeft shapedRight =>
      cases same
      exact ⟨⟨_, inLeft, shapedLeft⟩, _, inRight, shapedRight⟩
  · rintro ⟨⟨first, inLeft, shapedLeft⟩, second, inRight, shapedRight⟩
    exact .join inLeft inRight shapedLeft shapedRight

/-- A connective or a negation with the wrong number of operands is not well-shaped. -/
theorem not_shaped_of_missing (connective : Connective) (operand : Operand) :
    ¬ (Expr.unary (.join connective) operand).Shaped := by
  intro shaped
  generalize same : Expr.unary (.join connective) operand = expr at shaped
  cases shaped with
  | @test leaf _ => cases leaf <;> cases same
  | not | join => cases same

/-- A negation with a second operand is not well-shaped. -/
theorem not_shaped_of_excess (left right : Operand) : ¬ (Expr.binary .not left right).Shaped := by
  intro shaped
  generalize same : Expr.binary .not left right = expr at shaped
  cases shaped with
  | @test leaf _ => cases leaf <;> cases same
  | not | join => cases same

/-- A node that is neither a connective nor a negation is well-shaped exactly if it passes the check
of tests. -/
theorem exists_leaf_iff_shaped {expr : Expr} (isTest : expr.kind.isTest) :
    (∃ leaf, expr.leaf = .ok leaf) ↔ expr.Shaped := by
  rw [← exists_toFilter_iff_shaped, toFilter_of_isTest isTest]
  constructor
  · rintro ⟨leaf, checked⟩
    exact ⟨_, map_eq_ok_iff.mpr ⟨leaf, checked, rfl⟩⟩
  · rintro ⟨filter, checked⟩
    obtain ⟨leaf, checked, -⟩ := map_eq_ok_iff.mp checked
    exact ⟨leaf, checked⟩

/-- The node with the same operands and the kind of the complement. -/
def opposite : Expr → Expr
  | .unary kind operand => .unary kind.complement operand
  | .binary kind left right => .binary kind.complement left right

/-- The opposite of the opposite is the node itself. -/
theorem opposite_opposite (expr : Expr) : expr.opposite.opposite = expr := by
  cases expr <;> simp [opposite, Kind.complement_complement]

/-- The opposite of the node of a test is the node of the opposite test. -/
theorem opposite_expr (leaf : Leaf) : leaf.expr.opposite = leaf.complement.expr := by
  cases leaf <;> rfl

theorem isTest_kind_opposite {expr : Expr} (isTest : expr.kind.isTest) :
    expr.opposite.kind.isTest := by
  have kept : ∀ kind : Kind, kind.isTest → kind.complement.isTest := by
    intro kind isTest
    cases kind with
    | join | not => cases isTest
    | compare | member | absent => rfl
  cases expr with
  | unary kind | binary kind => exact kept kind isTest

/-- The opposite of a well-shaped test is well-shaped. -/
theorem shaped_opposite {expr : Expr} (isTest : expr.kind.isTest) (shaped : expr.Shaped) :
    expr.opposite.Shaped := by
  obtain ⟨leaf, checked⟩ := (exists_leaf_iff_shaped isTest).mpr shaped
  obtain ⟨rfl, valid⟩ := leaf_eq_ok_iff.mp checked
  rw [opposite_expr]
  exact .test (Leaf.valid_complement valid)

end Expr

namespace Document

/-- The query of a node that is a test is that test, or its opposite if the query is negated. -/
theorem ofExpr_of_isTest {expr : Expr} (isTest : expr.kind.isTest) (negated : Bool) :
    ofExpr negated expr = (if negated then expr.opposite else expr).leaf.map Query.test := by
  cases expr with
  | unary kind operand =>
    cases kind with
    | join | not => cases isTest
    | compare | member | absent => cases negated <;> rfl
  | binary kind left right =>
    cases kind with
    | join | not => cases isTest
    | compare | member | absent => cases negated <;> rfl

/-- A test has a query exactly if it is well-shaped, in complement or not. -/
theorem exists_ofExpr_test_iff {expr : Expr} (isTest : expr.kind.isTest) (negated : Bool) :
    (∃ query, ofExpr negated expr = .ok query) ↔ expr.Shaped := by
  have asWritten : ∀ written : Expr, written.kind.isTest →
      ((∃ query, written.leaf.map Query.test = .ok query) ↔ written.Shaped) := by
    intro written isTest
    rw [← Expr.exists_leaf_iff_shaped isTest]
    cases written.leaf <;> simp [Except.map]
  rw [ofExpr_of_isTest isTest]
  cases negated with
  | false => exact asWritten expr isTest
  | true =>
    refine (asWritten expr.opposite (Expr.isTest_kind_opposite isTest)).trans ⟨?_, ?_⟩
    · intro shaped
      have again := Expr.shaped_opposite (Expr.isTest_kind_opposite isTest) shaped
      rwa [Expr.opposite_opposite] at again
    · exact Expr.shaped_opposite isTest

theorem pruned_of_isTest {expr : Expr} (isTest : expr.kind.isTest) (negated : Bool) :
    expr.pruned negated = expr := by
  cases expr with
  | unary kind operand =>
    cases kind with
    | join | not => cases isTest
    | compare | member | absent => rfl
  | binary kind left right =>
    cases kind with
    | join | not => cases isTest
    | compare | member | absent => rfl

mutual

/-- A tree, or its complement, has a query exactly if it is well-shaped without the second operands
of the negations that are met in complement. -/
theorem exists_ofExpr_iff (negated : Bool) (expr : Expr) :
    (∃ query, ofExpr negated expr = .ok query) ↔ (expr.pruned negated).Shaped := by
  match expr with
  | .unary .not operand =>
    rw [Expr.pruned, Expr.shaped_not_iff, ← exists_ofOperand?_iff (!negated) operand, ofExpr]
    cases ofOperand? (!negated) operand <;> simp
  | .binary (.join connective) left right =>
    rw [Expr.pruned, Expr.shaped_join_iff, ← exists_ofOperand?_iff negated left,
      ← exists_ofOperand?_iff negated right, ofExpr]
    cases ofOperand? negated left with
    | none => simp
    | some first =>
      cases ofOperand? negated right with
      | none => simp
      | some second => cases first <;> cases second <;> simp [bind, Except.bind, pure, Except.pure]
  | .binary .not left right =>
    cases negated with
    | false => simp [ofExpr, Expr.pruned, Expr.not_shaped_of_excess]
    | true =>
      rw [Expr.pruned, if_pos rfl, Expr.shaped_not_iff, ← exists_ofOperand?_iff false left]
      cases isLeft : ofOperand? false left <;> simp [ofExpr, isLeft]
  | .unary (.join connective) operand =>
    simp [Expr.pruned, ofExpr, Expr.not_shaped_of_missing]
  | .unary (.compare _) _ | .unary (.member _) _ | .unary (.absent _) _
  | .binary (.compare _) _ _ | .binary (.member _) _ _ | .binary (.absent _) _ _ =>
    rw [pruned_of_isTest rfl]
    exact exists_ofExpr_test_iff rfl negated

/-- An operand has a query exactly if what is left of it contains a well-shaped tree. -/
theorem exists_ofOperand?_iff (negated : Bool) (operand : Operand) :
    (∃ query, ofOperand? negated operand = some (.ok query)) ↔
      ∃ content, (operand.pruned negated).content? = some content ∧ content.Shaped := by
  match operand with
  | .key _ | .value _ => simp [ofOperand?, Operand.pruned, Operand.content?]
  | .expr content | .group content =>
    simp only [ofOperand?, Operand.pruned, Operand.content?, Option.some.injEq, exists_eq_left']
    exact exists_ofExpr_iff negated content

end

/-- A tree is written exactly if it has a query. -/
theorem exists_render_iff_ofExpr (expr : Expr) :
    (∃ text, render expr = .ok text) ↔ ∃ query, ofExpr false expr = .ok query := by
  rw [render_eq_map]
  exact exists_map_eq_ok_iff

end Document

/-- A well-shaped tree has no second operand of a negation to take away. -/
theorem Expr.pruned_of_shaped {expr : Expr} (shaped : expr.Shaped) (negated : Bool) :
    expr.pruned negated = expr := by
  induction shaped generalizing negated with
  | @test leaf _ =>
    cases leaf <;> rfl
  | not inside _ ih =>
    rw [pruned, Operand.pruned_of_content inside (ih _)]
  | join inLeft inRight _ _ ihLeft ihRight =>
    rw [pruned, Operand.pruned_of_content inLeft (ihLeft _),
      Operand.pruned_of_content inRight (ihRight _)]

/-- A tree has a graph condition exactly if it is well-shaped. -/
theorem Graph.exists_render_iff_shaped (settings : GraphSettings) (expr : Expr) :
    (∃ text, render settings expr = .ok text) ↔ expr.Shaped := by
  rw [← Expr.exists_toFilter_iff_shaped, render_eq_map]
  exact exists_map_eq_ok_iff

namespace Document

/-- A tree has a document query exactly if there is a graph condition for what is left of it without
the second operands of the negations that are met in complement. So it has a graph condition, and
obeys the rules of shape, exactly if it has a document query and nothing is taken away. -/
theorem exists_render_iff_pruned (settings : GraphSettings) (expr : Expr) :
    ((∃ text, render expr = .ok text) ↔
        ∃ text, Graph.render settings (expr.pruned false) = .ok text) ∧
      ((∃ text, Graph.render settings expr = .ok text) ↔ expr.Shaped) ∧
      (expr.Shaped ↔ (∃ text, render expr = .ok text) ∧ expr.pruned false = expr) := by
  have accepted : (∃ text, render expr = .ok text) ↔ (expr.pruned false).Shaped :=
    (exists_render_iff_ofExpr expr).trans (exists_ofExpr_iff false expr)
  refine ⟨?_, Graph.exists_render_iff_shaped settings expr, ?_⟩
  · rw [accepted, Graph.exists_render_iff_shaped]
  · rw [accepted]
    constructor
    · intro shaped
      have same := Expr.pruned_of_shaped shaped false
      exact ⟨same.symm ▸ shaped, same⟩
    · rintro ⟨shaped, same⟩
      exact same ▸ shaped

/-- A negation with two operands, below another negation. -/
def excess : Expr :=
  .not (.expr (.binary .not (.expr (.compare .eq ⟨"a"⟩ (.scalar (.int 1))))
    (.expr (.compare .eq ⟨"b"⟩ (.scalar (.int 2))))))

/-- A negation with two operands has a document query if it stands below another negation, though
it breaks a rule of shape and has no graph condition. -/
theorem render_excess :
    render excess = .ok "\x7b\"a\": \x7b\"$eq\": 1\x7d\x7d" ∧ ¬ excess.Shaped ∧
      Graph.render {} excess = .error (.malformed .not .singleOperand) := by
  have refused : Graph.render {} excess = .error (.malformed .not .singleOperand) :=
    Graph.render_eq_map {} excess
  refine ⟨?_, ?_, refused⟩
  · rw [render_eq_map]
    decide
  rw [← Graph.exists_render_iff_shaped {}]
  rintro ⟨text, rendered⟩
  cases refused.symm.trans rendered

end Document

end PortableFilter
