import PortableFilter.Render
import PortableFilter.Proofs.Rendering
import PortableFilter.Proofs.Sql.Compilation

/-! # Which trees the dialects accept

The check of a tree stops at the first malformed node. `Expr.ChecksAs` says which trees pass it, and
as which filters, whatever the check of single tests is (`Expr.toFilter_eq_ok_iff`). Every dialect
that renders filters accepts the well-shaped trees and reports the same rule of shape for all
others; the dialect without a test for existence refuses some well-shaped trees as well
(`Settings.render_ok_iff_shaped`). -/

namespace PortableFilter

mutual

/-- Whether a tree tests somewhere if a field is absent, or present, or compares a field with null
for equality. -/
def Expr.asksForNull : Expr → Bool
  | .unary (.absent _) _ | .binary (.absent _) _ _ => true
  | .binary (.compare .eq) _ (.value (.scalar .null))
  | .binary (.compare .ne) _ (.value (.scalar .null)) => true
  | .unary _ operand => operand.asksForNull
  | .binary _ left right => left.asksForNull || right.asksForNull

def Operand.asksForNull : Operand → Bool
  | .key _ | .value _ => false
  | .expr content | .group content => content.asksForNull

end

/-! ## What passes the check -/

section

variable {α : Type} (leaf : Expr → Except ConvertError α)

/-- A tree passes the check as a filter, where `leaf` checks the nodes that are tests. -/
inductive Expr.ChecksAs : Expr → Filter α → Prop where
  | test {expr : Expr} {content : α} (isTest : expr.kind.isTest)
      (passes : leaf expr = .ok content) : ChecksAs expr (.leaf content)
  | not {operand : Operand} {content : Expr} {filter : Filter α}
      (inside : operand.content? = some content) (checks : ChecksAs content filter) :
      ChecksAs (.unary .not operand) (.not (operand.enclose filter))
  | join {connective : Connective} {left right : Operand} {first second : Expr}
      {leftFilter rightFilter : Filter α} (inLeft : left.content? = some first)
      (inRight : right.content? = some second) (checksLeft : ChecksAs first leftFilter)
      (checksRight : ChecksAs second rightFilter) :
      ChecksAs (.binary (.join connective) left right)
        (.join connective (left.enclose leftFilter) (right.enclose rightFilter))

end

section

variable {α : Type} {leaf : Expr → Except ConvertError α}

/-- What passes the check of a test passes as that test. -/
theorem checksAs_of_test {expr : Expr} {filter : Filter α} (isTest : expr.kind.isTest)
    (checked : expr.toFilter leaf = .ok filter) : expr.ChecksAs leaf filter := by
  rw [Expr.toFilter_of_isTest isTest] at checked
  obtain ⟨content, passes, rfl⟩ := map_eq_ok_iff.mp checked
  exact .test isTest passes

mutual

/-- What passes the check obeys the rules of its nodes. -/
theorem Expr.checksAs_of_toFilter (expr : Expr) {filter : Filter α}
    (checked : expr.toFilter leaf = .ok filter) : expr.ChecksAs leaf filter := by
  match expr with
  | .unary .not operand =>
    rw [Expr.toFilter] at checked
    split at checked
    · rename_i step isOperand
      obtain ⟨content, rfl, rfl⟩ := map_eq_ok_iff.mp checked
      obtain ⟨inner, innerFilter, inside, rfl, checks⟩ := operand.checksAs_of_toFilter? isOperand
      exact .not inside checks
    · cases checked
  | .binary (.join connective) left right =>
    rw [Expr.toFilter] at checked
    split at checked
    · rename_i leftStep rightStep isLeft isRight
      obtain ⟨leftContent, leftPasses, checked⟩ := bind_eq_ok_iff.mp checked
      obtain ⟨rightContent, rightPasses, checked⟩ := bind_eq_ok_iff.mp checked
      rw [leftPasses] at isLeft
      rw [rightPasses] at isRight
      obtain ⟨first, firstFilter, inLeft, rfl, checksLeft⟩ := left.checksAs_of_toFilter? isLeft
      obtain ⟨second, secondFilter, inRight, rfl, checksRight⟩ :=
        right.checksAs_of_toFilter? isRight
      cases checked
      exact .join inLeft inRight checksLeft checksRight
    · cases checked
    · cases checked
  | .unary (.join _) _ | .binary .not _ _ => cases checked
  | .unary (.compare _) _ | .unary (.member _) _ | .unary (.absent _) _
  | .binary (.compare _) _ _ | .binary (.member _) _ _ | .binary (.absent _) _ _ =>
    exact checksAs_of_test rfl checked

/-- What passes as an operand is the content of the operand, in a group if the operand is one. -/
theorem Operand.checksAs_of_toFilter? (operand : Operand) {filter : Filter α}
    (checked : operand.toFilter? leaf = some (.ok filter)) :
    ∃ content inner, operand.content? = some content ∧ filter = operand.enclose inner ∧
      content.ChecksAs leaf inner := by
  match operand with
  | .key _ | .value _ => cases checked
  | .expr content =>
    exact ⟨content, filter, rfl, rfl, content.checksAs_of_toFilter (Option.some.inj checked)⟩
  | .group content =>
    obtain ⟨inner, passes, rfl⟩ := map_eq_ok_iff.mp (Option.some.inj checked)
    exact ⟨content, inner, rfl, rfl, content.checksAs_of_toFilter passes⟩

end

/-- The check passes exactly the trees whose connectives and negations have expressions for operands
and whose tests pass. -/
theorem Expr.toFilter_eq_ok_iff {expr : Expr} {filter : Filter α} :
    expr.toFilter leaf = .ok filter ↔ expr.ChecksAs leaf filter := by
  constructor
  · exact expr.checksAs_of_toFilter
  · intro checks
    induction checks with
    | test isTest passes =>
      rw [Expr.toFilter_of_isTest isTest, passes]
      rfl
    | @not operand content filter inside _ ih =>
      have isOperand := operand.toFilter?_of_content leaf inside
      rw [ih] at isOperand
      exact toFilter_not isOperand
    | @join connective left right first second _ _ inLeft inRight _ _ ihLeft ihRight =>
      have isLeft := left.toFilter?_of_content leaf inLeft
      have isRight := right.toFilter?_of_content leaf inRight
      rw [ihLeft] at isLeft
      rw [ihRight] at isRight
      exact toFilter_join isLeft isRight

/-! ## What is reported of other trees -/

/-- A step that fails reports a rule of shape. -/
def ReportsShape {β : Type} (step : Except ConvertError β) : Prop :=
  ∀ error, step = .error error → ∃ kind fault, error = .malformed kind fault

theorem reportsShape_ok {β : Type} (value : β) : ReportsShape (.ok value) := nofun

/-- To report a malformed node is to report a rule of shape. -/
theorem reportsShape_malformed {β : Type} (kind : Kind) (fault : Fault) :
    ReportsShape (.error (.malformed kind fault) : Except ConvertError β) := by
  rintro _ ⟨⟩
  exact ⟨kind, fault, rfl⟩

theorem ReportsShape.map {β γ : Type} {step : Except ConvertError β} (reports : ReportsShape step)
    (f : β → γ) : ReportsShape (step.map f) := by
  cases step with
  | ok value => exact reportsShape_ok _
  | error error =>
    rintro _ ⟨⟩
    exact reports error rfl

/-- Two steps report rules of shape one behind the other if each of them does. -/
theorem ReportsShape.bind {β γ : Type} {step : Except ConvertError β} (reports : ReportsShape step)
    {next : β → Except ConvertError γ} (later : ∀ value, ReportsShape (next value)) :
    ReportsShape (step >>= next) := by
  cases step with
  | ok value => exact later value
  | error error =>
    rintro _ ⟨⟩
    exact reports error rfl

/-- The check of a key reports a rule of shape. -/
theorem reportsShape_keyOperand (kind : Kind) (operand : Operand) :
    ReportsShape (kind.keyOperand operand) := by
  unfold Kind.keyOperand
  split
  · split
    · exact reportsShape_malformed _ _
    · exact reportsShape_ok _
  · exact reportsShape_malformed _ _

theorem reportsShape_valueOperand (kind : Kind) (right : Option Operand) :
    ReportsShape (kind.valueOperand right) := by
  unfold Kind.valueOperand
  split
  · exact reportsShape_ok _
  · exact reportsShape_malformed _ _
  · exact reportsShape_malformed _ _

/-- The check of a scalar reports a rule of shape. -/
theorem reportsShape_scalarOperand (comparison : Comparison) (right : Option Operand) :
    ReportsShape (comparison.scalarOperand right) := by
  refine (reportsShape_valueOperand _ right).bind fun value => ?_
  cases value with
  | list items => exact reportsShape_malformed _ _
  | scalar value =>
    dsimp only
    split
    · exact reportsShape_malformed _ _
    · split
      · exact reportsShape_ok _
      · exact reportsShape_malformed _ _

theorem reportsShape_itemsOperand (kind : Kind) (right : Option Operand) :
    ReportsShape (kind.itemsOperand right) := by
  refine (reportsShape_valueOperand _ right).bind fun value => ?_
  cases value with
  | scalar value => exact reportsShape_malformed _ _
  | list items =>
    dsimp only
    split
    · exact reportsShape_malformed _ _
    · split
      · exact reportsShape_ok _
      · exact reportsShape_malformed _ _

/-- The check of a test for absence reports a rule of shape. -/
theorem reportsShape_absenceKey (expr : Expr) : ReportsShape expr.absenceKey := by
  unfold Expr.absenceKey
  split
  · exact reportsShape_malformed _ _
  · exact reportsShape_keyOperand _ _

/-- The check of a test reports a rule of shape. -/
theorem reportsShape_leaf (expr : Expr) : ReportsShape expr.leaf := by
  unfold Expr.leaf
  split
  · refine (reportsShape_keyOperand _ _).bind fun key => ?_
    exact (reportsShape_scalarOperand _ _).bind fun value => reportsShape_ok _
  · refine (reportsShape_keyOperand _ _).bind fun key => ?_
    exact (reportsShape_itemsOperand _ _).bind fun items => reportsShape_ok _
  · exact (reportsShape_absenceKey expr).bind fun key => reportsShape_ok _
  · exact reportsShape_malformed _ _

mutual

/-- If the check of tests reports rules of shape, then so does the check of trees. -/
theorem Expr.reportsShape_toFilter (reports : ∀ expr, ReportsShape (leaf expr)) (expr : Expr) :
    ReportsShape (expr.toFilter leaf) := by
  match expr with
  | .unary .not operand =>
    rw [Expr.toFilter]
    split
    · rename_i step isOperand
      exact (operand.reportsShape_toFilter? reports isOperand).map _
    · exact reportsShape_malformed _ _
  | .binary (.join connective) left right =>
    rw [Expr.toFilter]
    split
    · rename_i leftStep rightStep isLeft isRight
      refine (left.reportsShape_toFilter? reports isLeft).bind fun _ => ?_
      exact (right.reportsShape_toFilter? reports isRight).bind fun _ => reportsShape_ok _
    · exact reportsShape_malformed _ _
    · exact reportsShape_malformed _ _
  | .unary (.join _) _ | .binary .not _ _ => exact reportsShape_malformed _ _
  | .unary (.compare _) _ | .unary (.member _) _ | .unary (.absent _) _
  | .binary (.compare _) _ _ | .binary (.member _) _ _ | .binary (.absent _) _ _ =>
    exact (reports _).map _

/-- The check of an operand reports rules of shape if that of tests does. -/
theorem Operand.reportsShape_toFilter? (reports : ∀ expr, ReportsShape (leaf expr))
    (operand : Operand) {step : Except ConvertError (Filter α)}
    (isOperand : operand.toFilter? leaf = some step) : ReportsShape step := by
  match operand with
  | .key _ | .value _ => cases isOperand
  | .expr content =>
    cases isOperand
    exact content.reportsShape_toFilter reports
  | .group content =>
    cases isOperand
    exact (content.reportsShape_toFilter reports).map _

end

end

/-! ## Well-shaped trees -/

namespace Expr

/-- What passes the check is well-shaped. -/
theorem shaped_of_checksAs {expr : Expr} {filter : Filter Leaf}
    (checks : expr.ChecksAs Expr.leaf filter) : expr.Shaped := by
  induction checks with
  | test _ passes =>
    obtain ⟨rfl, valid⟩ := leaf_eq_ok_iff.mp passes
    exact .test valid
  | not inside _ ih => exact .not inside ih
  | join inLeft inRight _ _ ihLeft ihRight => exact .join inLeft inRight ihLeft ihRight

/-- The tests of a tree that passes the check are valid. -/
theorem valid_of_checksAs {expr : Expr} {filter : Filter Leaf}
    (checks : expr.ChecksAs Expr.leaf filter) : ∀ test ∈ filter.tests, test.Valid := by
  induction checks with
  | test _ passes =>
    intro test member
    rw [List.mem_singleton.mp member]
    exact (leaf_eq_ok_iff.mp passes).2
  | not _ _ ih =>
    rw [Filter.tests, Operand.tests_enclose]
    exact ih
  | join _ _ _ _ ihLeft ihRight =>
    rw [Filter.tests, Operand.tests_enclose, Operand.tests_enclose]
    exact List.forall_mem_append.mpr ⟨ihLeft, ihRight⟩

/-- The check passes exactly the well-shaped trees. -/
theorem exists_toFilter_iff_shaped (expr : Expr) :
    (∃ filter, expr.toFilter Expr.leaf = .ok filter) ↔ expr.Shaped := by
  constructor
  · rintro ⟨filter, checked⟩
    exact shaped_of_checksAs (toFilter_eq_ok_iff.mp checked)
  · intro shaped
    obtain ⟨filter, checked, -⟩ := exists_toFilter shaped
    exact ⟨filter, checked⟩

end Expr

namespace Leaf

/-- The node of a test is neither a connective nor a negation. -/
theorem isTest_kind_expr (leaf : Leaf) : leaf.expr.kind.isTest := by
  cases leaf <;> rfl

/-- The node of a test is well-shaped exactly if the test is valid. -/
theorem shaped_expr_iff {leaf : Leaf} : leaf.expr.Shaped ↔ leaf.Valid := by
  refine ⟨fun shaped => ?_, .test⟩
  obtain ⟨filter, checked⟩ := (Expr.exists_toFilter_iff_shaped _).mpr shaped
  rw [Expr.toFilter_of_isTest leaf.isTest_kind_expr] at checked
  obtain ⟨other, passes, -⟩ := map_eq_ok_iff.mp checked
  obtain ⟨same, valid⟩ := Expr.leaf_eq_ok_iff.mp passes
  have sameTest := congrArg Expr.test? same
  rw [test?_expr, test?_expr] at sameTest
  cases sameTest
  exact valid

/-- The node of a test passes the check exactly if the test is valid. -/
theorem exists_toFilter_expr_iff (leaf : Leaf) :
    (∃ filter, leaf.expr.toFilter Expr.leaf = .ok filter) ↔ leaf.Valid :=
  (Expr.exists_toFilter_iff_shaped _).trans shaped_expr_iff

end Leaf

/-! ## Trees without tests for null -/

namespace Range

open QueryString

/-- A valid test has a text unless it asks for null. -/
theorem exists_clauseText?_iff (test : Leaf) :
    (∃ text, clauseText? (Clause.ofLeaf test) = some text) ↔ test.expr.asksForNull = false := by
  cases test with
  | compare comparison key value =>
    cases comparison <;> cases value <;>
      simp [Clause.ofLeaf, clauseText?, Leaf.expr, Expr.compare, Expr.asksForNull,
        Operand.asksForNull]
  | member negated key items =>
    simp [Clause.ofLeaf, clauseText?, Leaf.expr, Expr.member, Expr.asksForNull,
      Operand.asksForNull]
  | absent negated key =>
    simp [Clause.ofLeaf, clauseText?, Leaf.expr, Expr.absent, Expr.asksForNull]

/-- A node has the text of a test exactly if it is a valid test that does not ask for null. -/
theorem leafText_eq_ok_iff {expr : Expr} {text : String} :
    leafText expr = .ok text ↔ ∃ test : Leaf, expr = test.expr ∧ test.Valid ∧
      clauseText? (Clause.ofLeaf test) = some text := by
  constructor
  · intro written
    unfold leafText at written
    split at written
    · cases written
    · obtain ⟨test, checked, written⟩ := bind_eq_ok_iff.mp written
      obtain ⟨isTest, valid⟩ := Expr.leaf_eq_ok_iff.mp checked
      split at written
      · rename_i same isText
        cases written
        exact ⟨test, isTest, valid, isText⟩
      · cases written
  · rintro ⟨test, rfl, valid, isText⟩
    have checked := Leaf.leaf_expr valid
    cases test with
    | absent => cases isText
    | compare | member =>
      refine bind_eq_ok_iff.mpr ⟨_, checked, ?_⟩
      rw [isText]

/-- The text of a valid test, unless it asks whether a field exists. -/
theorem leafText_expr {leaf : Leaf} (valid : leaf.Valid) :
    leafText leaf.expr = (clauseText? (Clause.ofLeaf leaf)).elim
      (.error (.unsupported leaf.expr.kind .range)) .ok := by
  cases written : clauseText? (Clause.ofLeaf leaf) with
  | some text => exact leafText_eq_ok_iff.mpr ⟨leaf, rfl, valid, written⟩
  | none =>
    have checked := Leaf.leaf_expr valid
    cases leaf with
    | absent => rfl
    | compare =>
      refine bind_eq_error_iff.mpr (.inr ⟨_, checked, ?_⟩)
      rw [written]
    | member => cases written

/-- An operand asks for null exactly if its content does. -/
theorem asksForNull_of_content {operand : Operand} {content : Expr}
    (inside : operand.content? = some content) : operand.asksForNull = content.asksForNull := by
  cases operand with
  | key | value => cases inside
  | expr | group =>
    cases inside
    rfl

/-- What passes the check that refuses tests for null is well-shaped and does not ask for null. -/
theorem shaped_of_checksAs {expr : Expr} {filter : Filter String}
    (checks : expr.ChecksAs leafText filter) : expr.Shaped ∧ expr.asksForNull = false := by
  induction checks with
  | test _ passes =>
    obtain ⟨test, rfl, valid, isText⟩ := leafText_eq_ok_iff.mp passes
    exact ⟨.test valid, (exists_clauseText?_iff test).mp ⟨_, isText⟩⟩
  | @not operand content filter inside _ ih =>
    refine ⟨.not inside ih.1, ?_⟩
    rw [Expr.asksForNull, asksForNull_of_content inside, ih.2]
    all_goals exact nofun
  | @join connective left right first second _ _ inLeft inRight _ _ ihLeft ihRight =>
    refine ⟨.join inLeft inRight ihLeft.1 ihRight.1, ?_⟩
    rw [Expr.asksForNull, asksForNull_of_content inLeft, asksForNull_of_content inRight, ihLeft.2,
      ihRight.2]
    · rfl
    all_goals exact nofun

/-- A well-shaped tree that does not ask for null passes that check. -/
theorem exists_checksAs_of_shaped {expr : Expr} (shaped : expr.Shaped)
    (noNull : expr.asksForNull = false) : ∃ filter, expr.ChecksAs leafText filter := by
  induction shaped with
  | @test leaf valid =>
    obtain ⟨text, isText⟩ := (exists_clauseText?_iff leaf).mpr noNull
    exact ⟨_, .test leaf.isTest_kind_expr (leafText_eq_ok_iff.mpr ⟨leaf, rfl, valid, isText⟩)⟩
  | @not operand content inside _ ih =>
    rw [Expr.asksForNull, asksForNull_of_content inside] at noNull
    · obtain ⟨filter, checks⟩ := ih noNull
      exact ⟨_, .not inside checks⟩
    all_goals exact nofun
  | @join connective left right first second inLeft inRight _ _ ihLeft ihRight =>
    rw [Expr.asksForNull, asksForNull_of_content inLeft, asksForNull_of_content inRight,
      Bool.or_eq_false_iff] at noNull
    · obtain ⟨firstFilter, checksLeft⟩ := ihLeft noNull.1
      obtain ⟨secondFilter, checksRight⟩ := ihRight noNull.2
      exact ⟨_, .join inLeft inRight checksLeft checksRight⟩
    all_goals exact nofun

/-- A tree has a query string with bracketed ranges exactly if it is well-shaped and does not ask
for null. -/
theorem exists_render_iff (expr : Expr) :
    (∃ text, render expr = .ok text) ↔ expr.Shaped ∧ expr.asksForNull = false := by
  constructor
  · rintro ⟨text, rendered⟩
    rw [render_eq_map] at rendered
    obtain ⟨filter, checked, -⟩ := map_eq_ok_iff.mp rendered
    exact shaped_of_checksAs (Expr.toFilter_eq_ok_iff.mp checked)
  · rintro ⟨shaped, noNull⟩
    obtain ⟨filter, checks⟩ := exists_checksAs_of_shaped shaped noNull
    rw [render_eq_map, Expr.toFilter_eq_ok_iff.mpr checks]
    exact ⟨_, rfl⟩

end Range

/-! ## Acceptance -/

/-- The dialects with a test for existence, apart from document queries, write filters that passed
the check. -/
theorem Settings.exists_render_eq_map (settings : Settings) (expr : Expr) {dialect : Dialect}
    (notDocument : dialect ≠ .document) (notRange : dialect ≠ .range) :
    ∃ write, settings.render dialect expr = (expr.toFilter Expr.leaf).map write := by
  cases dialect with
  | document => exact absurd rfl notDocument
  | range => exact absurd rfl notRange
  | graph => exact ⟨_, Graph.render_eq_map settings.graph expr⟩
  | lucene => exact ⟨_, Lucene.render_eq_map settings.lucene expr⟩
  | sql => exact ⟨_, Sql.render_eq_map settings.sql expr⟩

/-- A well-shaped tree is rendered by every dialect with a test for existence. For any other tree
all of them report the same broken rule of shape, whatever the settings are. The dialect without a
test for existence renders exactly the well-shaped trees that do not ask for null. -/
theorem Settings.render_ok_iff_shaped (expr : Expr) :
    ((expr.Shaped ∧ ∀ settings : Settings, ∃ graph lucene sql,
        settings.render .graph expr = .ok graph ∧ settings.render .lucene expr = .ok lucene ∧
          settings.render .sql expr = .ok sql) ∨
      (¬ expr.Shaped ∧ ∃ kind fault, ∀ settings : Settings,
        settings.render .graph expr = .error (.malformed kind fault) ∧
          settings.render .lucene expr = .error (.malformed kind fault) ∧
          settings.render .sql expr = .error (.malformed kind fault))) ∧
      ∀ settings : Settings, (∃ text, settings.render .range expr = .ok text) ↔
        expr.Shaped ∧ expr.asksForNull = false := by
  refine ⟨?_, fun settings => Range.exists_render_iff expr⟩
  cases checked : expr.toFilter Expr.leaf with
  | ok filter =>
    refine .inl ⟨(Expr.exists_toFilter_iff_shaped expr).mp ⟨filter, checked⟩, fun settings => ?_⟩
    have renders (dialect : Dialect) (notDocument : dialect ≠ .document)
        (notRange : dialect ≠ .range) : ∃ text, settings.render dialect expr = .ok text := by
      obtain ⟨write, same⟩ := settings.exists_render_eq_map expr notDocument notRange
      exact ⟨write filter, same.trans (congrArg (Except.map write) checked)⟩
    obtain ⟨graph, isGraph⟩ := renders .graph (by decide) (by decide)
    obtain ⟨lucene, isLucene⟩ := renders .lucene (by decide) (by decide)
    obtain ⟨sql, isSql⟩ := renders .sql (by decide) (by decide)
    exact ⟨graph, lucene, sql, isGraph, isLucene, isSql⟩
  | error error =>
    obtain ⟨kind, fault, rfl⟩ := expr.reportsShape_toFilter reportsShape_leaf error checked
    have refuses (settings : Settings) (dialect : Dialect) (notDocument : dialect ≠ .document)
        (notRange : dialect ≠ .range) :
        settings.render dialect expr = .error (.malformed kind fault) := by
      obtain ⟨write, same⟩ := settings.exists_render_eq_map expr notDocument notRange
      exact same.trans (congrArg (Except.map write) checked)
    refine .inr ⟨fun shaped => ?_, kind, fault, fun settings => ⟨?_, ?_, ?_⟩⟩
    · obtain ⟨filter, passes⟩ := (Expr.exists_toFilter_iff_shaped expr).mpr shaped
      cases checked.symm.trans passes
    · exact refuses settings .graph (by decide) (by decide)
    · exact refuses settings .lucene (by decide) (by decide)
    · exact refuses settings .sql (by decide) (by decide)

end PortableFilter
