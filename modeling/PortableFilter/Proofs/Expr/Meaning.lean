import PortableFilter.Leaf
import PortableFilter.Proofs.Outcome

/-! # What filter trees mean

A tree is well-shaped if each of its nodes passes the check for its kind. A well-shaped tree holds
or does not, once it is known which tests do: `Expr.holds` reads the nodes as they stand, apart
from the checks. `Expr.Shaped` says what the checks ensure, as a way to take well-shaped trees
apart (`Expr.shaped_of_wellShaped`). -/

namespace PortableFilter

namespace Expr

/-- Whether the operands of the topmost node suit its kind. -/
def checks (expr : Expr) : Bool :=
  match expr.kind with
  | .join _ => expr.joinOperands.isOk
  | .not => expr.negationOperand.isOk
  | .compare _ | .member _ => expr.comparisonOperands.isOk
  | .absent _ => expr.absenceKey.isOk

end Expr

mutual

/-- Whether every node of a tree passes the check for its kind. -/
def Expr.wellShaped : Expr → Bool
  | .unary kind operand => (Expr.unary kind operand).checks && operand.wellShaped
  | .binary kind left right =>
    (Expr.binary kind left right).checks && left.wellShaped && right.wellShaped

def Operand.wellShaped : Operand → Bool
  | .key _ | .value _ => true
  | .expr content | .group content => content.wellShaped

end

/-- The test that a node is, if it is one. -/
def Expr.test? : Expr → Option Leaf
  | .binary (.compare comparison) (.key key) (.value (.scalar value)) =>
    some (.compare comparison key value)
  | .binary (.member negated) (.key key) (.value (.list items)) =>
    (Value.scalars? items).map (.member negated key)
  | .unary (.absent negated) (.key key) => some (.absent negated key)
  | _ => none

mutual

/-- Whether a tree holds, given which tests hold. -/
def Expr.holds (truth : Leaf → Bool) : Expr → Bool
  | .unary .not operand => !operand.holds truth
  | .binary (.join .and) left right => left.holds truth && right.holds truth
  | .binary (.join .or) left right => left.holds truth || right.holds truth
  | expr => expr.test?.any truth

def Operand.holds (truth : Leaf → Bool) : Operand → Bool
  | .expr content | .group content => content.holds truth
  | .key _ | .value _ => false

end

namespace Leaf

/-- The node that a test is. -/
def expr : Leaf → Expr
  | compare comparison key value => .compare comparison key (.scalar value)
  | member negated key items => .member negated key (.ofScalars items)
  | absent negated key => .absent negated key

/-- The name of the field is not empty, numbers are finite, and null is not asked for its order. -/
def Valid : Leaf → Prop
  | compare comparison key value =>
    key.unquoted ≠ "" ∧ (value = .null → comparison.admitsNull) ∧ value.isFinite
  | member _ key items => key.unquoted ≠ "" ∧ items.all Scalar.isFinite
  | absent _ key => key.unquoted ≠ ""

/-- The opposite of a test. -/
def complement : Leaf → Leaf
  | compare comparison key value => compare comparison.complement key value
  | member negated key items => member (!negated) key items
  | absent negated key => absent (!negated) key

end Leaf

/-- Truth values of tests under which each test and its opposite exclude and complete each other: to
be unequal and to be equal, to be at most and to be greater, to be less and to be at least, to be
none and to be one of some values, and to be present and to be absent. -/
structure Complementary (truth : Leaf → Bool) : Prop where
  ne (key : Key) (value : Scalar) :
    truth (.compare .ne key value) = !truth (.compare .eq key value)
  lte (key : Key) (value : Scalar) :
    truth (.compare .lte key value) = !truth (.compare .gt key value)
  lt (key : Key) (value : Scalar) :
    truth (.compare .lt key value) = !truth (.compare .gte key value)
  nin (key : Key) (items : List Scalar) :
    truth (.member true key items) = !truth (.member false key items)
  present (key : Key) : truth (.absent true key) = !truth (.absent false key)

/-- Then the opposite of every test has the opposite truth value. -/
theorem Complementary.complement {truth : Leaf → Bool} (complementary : Complementary truth)
    (leaf : Leaf) : truth leaf.complement = !truth leaf := by
  cases leaf with
  | compare comparison key value =>
    cases comparison with
    | eq => exact complementary.ne key value
    | gt => exact complementary.lte key value
    | gte => exact complementary.lt key value
    | ne =>
      rw [complementary.ne, Bool.not_not]
      rfl
    | lte =>
      rw [complementary.lte, Bool.not_not]
      rfl
    | lt =>
      rw [complementary.lt, Bool.not_not]
      rfl
  | member negated key items =>
    cases negated with
    | false => exact complementary.nin key items
    | true =>
      rw [complementary.nin, Bool.not_not]
      rfl
  | absent negated key =>
    cases negated with
    | false => exact complementary.present key
    | true =>
      rw [complementary.present, Bool.not_not]
      rfl

/-! ## What the checks ensure -/

/-- A list of scalars is flat. -/
theorem Value.scalars?_map_scalar (scalars : List Scalar) :
    scalars? (scalars.map .scalar) = some scalars := by
  induction scalars with
  | nil => rfl
  | cons value scalars ih => rw [List.map_cons, scalars?, ih, Option.map_some]

/-- Only lists of scalars are flat. -/
theorem Value.eq_map_scalar_of_scalars? {items : List Value} {scalars : List Scalar}
    (flat : scalars? items = some scalars) : items = scalars.map .scalar := by
  fun_induction scalars? items generalizing scalars with
  | case1 =>
    cases flat
    rfl
  | case2 value items ih =>
    obtain ⟨later, found, rfl⟩ := Option.map_eq_some_iff.mp flat
    rw [ih found, List.map_cons]
  | case3 => cases flat

/-- An operand holds exactly if its content does. -/
theorem Operand.holds_of_content {operand : Operand} {content : Expr} (truth : Leaf → Bool)
    (inside : operand.content? = some content) : operand.holds truth = content.holds truth := by
  cases operand with
  | key | value => cases inside
  | expr | group =>
    cases inside
    rfl

/-- An operand passes as a key exactly if it is one and not empty. -/
theorem Kind.keyOperand_eq_ok_iff {kind : Kind} {operand : Operand} {key : Key} :
    kind.keyOperand operand = .ok key ↔ operand = .key key ∧ key.unquoted ≠ "" := by
  constructor
  · intro checked
    unfold keyOperand at checked
    split at checked
    · split at checked
      · cases checked
      · rename_i named
        cases checked
        exact ⟨rfl, named⟩
    · cases checked
  · rintro ⟨rfl, named⟩
    rw [keyOperand, if_neg named]

/-- An operand passes as a value exactly if there is one and it is a value. -/
theorem Kind.valueOperand_eq_ok_iff {kind : Kind} {right : Option Operand} {value : Value} :
    kind.valueOperand right = .ok value ↔ right = some (.value value) := by
  constructor
  · intro checked
    unfold valueOperand at checked
    split at checked
    · cases checked
      rfl
    · cases checked
    · cases checked
  · rintro rfl
    rfl

/-- An operand passes as a scalar exactly if it is a finite one, and null only where the comparison
admits it. -/
theorem Comparison.scalarOperand_eq_ok_iff {comparison : Comparison} {right : Option Operand}
    {value : Scalar} :
    comparison.scalarOperand right = .ok value ↔ right = some (.value (.scalar value)) ∧
      (value = .null → comparison.admitsNull) ∧ value.isFinite := by
  unfold scalarOperand
  rw [bind_eq_ok_iff]
  simp only [Kind.valueOperand_eq_ok_iff]
  constructor
  · rintro ⟨content, rfl, checked⟩
    cases content with
    | list items => cases checked
    | scalar scalar =>
      simp only at checked
      split at checked
      · cases checked
      · split at checked
        · rename_i ordered finite
          cases checked
          simp only [Bool.not_eq_true', not_and, Bool.not_eq_false] at ordered
          exact ⟨rfl, ordered, finite⟩
        · cases checked
  · rintro ⟨rfl, admitted, finite⟩
    have ordered : ¬ (value = .null ∧ (!comparison.admitsNull) = true) := by
      rintro ⟨isNull, refused⟩
      rw [admitted isNull] at refused
      cases refused
    refine ⟨_, rfl, ?_⟩
    simp only
    rw [if_neg ordered, if_pos finite]

/-- An operand passes as a list exactly if it is one of finite scalars. -/
theorem Kind.itemsOperand_eq_ok_iff {kind : Kind} {right : Option Operand}
    {scalars : List Scalar} :
    kind.itemsOperand right = .ok scalars ↔
      right = some (.value (.ofScalars scalars)) ∧ scalars.all Scalar.isFinite := by
  unfold itemsOperand
  rw [bind_eq_ok_iff]
  simp only [Kind.valueOperand_eq_ok_iff]
  constructor
  · rintro ⟨content, rfl, checked⟩
    cases content with
    | scalar scalar => cases checked
    | list items =>
      simp only at checked
      split at checked
      · cases checked
      · rename_i flat
        split at checked
        · rename_i finite
          cases checked
          exact ⟨by rw [Value.eq_map_scalar_of_scalars? flat, Value.ofScalars], finite⟩
        · cases checked
  · rintro ⟨rfl, finite⟩
    refine ⟨_, rfl, ?_⟩
    simp only [Value.ofScalars, Value.scalars?_map_scalar, finite, if_true]

namespace Leaf

/-- A valid test passes the check of its node. -/
theorem leaf_expr {leaf : Leaf} (valid : leaf.Valid) : leaf.expr.leaf = .ok leaf := by
  cases leaf with
  | compare comparison key value =>
    exact bind_eq_ok_iff.mpr ⟨key, Kind.keyOperand_eq_ok_iff.mpr ⟨rfl, valid.1⟩,
      bind_eq_ok_iff.mpr ⟨value, Comparison.scalarOperand_eq_ok_iff.mpr ⟨rfl, valid.2⟩, rfl⟩⟩
  | member negated key items =>
    exact bind_eq_ok_iff.mpr ⟨key, Kind.keyOperand_eq_ok_iff.mpr ⟨rfl, valid.1⟩,
      bind_eq_ok_iff.mpr ⟨items, Kind.itemsOperand_eq_ok_iff.mpr ⟨rfl, valid.2⟩, rfl⟩⟩
  | absent negated key =>
    exact bind_eq_ok_iff.mpr ⟨key, Kind.keyOperand_eq_ok_iff.mpr ⟨rfl, valid⟩, rfl⟩

/-- The node of a test is read back as the test. -/
theorem test?_expr (leaf : Leaf) : leaf.expr.test? = some leaf := by
  cases leaf with
  | member negated key items =>
    exact congrArg (Option.map _) (Value.scalars?_map_scalar items)
  | compare | absent => rfl

/-- The node of a test holds exactly if the test does. -/
theorem holds_expr (truth : Leaf → Bool) (leaf : Leaf) : leaf.expr.holds truth = truth leaf := by
  have read : leaf.expr.holds truth = leaf.expr.test?.any truth := by
    cases leaf <;> rfl
  rw [read, test?_expr]
  rfl

/-- The opposite of a valid test is valid. -/
theorem valid_complement {leaf : Leaf} (valid : leaf.Valid) : leaf.complement.Valid := by
  cases leaf with
  | compare comparison key value =>
    obtain ⟨named, admitted, finite⟩ := valid
    refine ⟨named, fun isNull => ?_, finite⟩
    have admits := admitted isNull
    cases comparison with
    | eq | ne => rfl
    | gt | gte | lt | lte => cases admits
  | member | absent => exact valid

end Leaf

namespace Expr

/-- A node passes the check of tests exactly if it is a valid test. -/
theorem leaf_eq_ok_iff {expr : Expr} {test : Leaf} :
    expr.leaf = .ok test ↔ expr = test.expr ∧ test.Valid := by
  constructor
  · intro checked
    unfold leaf at checked
    split at checked
    · rename_i comparison isCompare
      obtain ⟨key, isKey, checked⟩ := bind_eq_ok_iff.mp checked
      obtain ⟨value, isValue, checked⟩ := bind_eq_ok_iff.mp checked
      obtain ⟨onLeft, named⟩ := Kind.keyOperand_eq_ok_iff.mp isKey
      obtain ⟨onRight, valid⟩ := Comparison.scalarOperand_eq_ok_iff.mp isValue
      cases checked
      cases expr with
      | unary => cases onRight
      | binary =>
        cases isCompare
        cases onLeft
        cases onRight
        exact ⟨rfl, named, valid⟩
    · rename_i negated isMember
      obtain ⟨key, isKey, checked⟩ := bind_eq_ok_iff.mp checked
      obtain ⟨items, isItems, checked⟩ := bind_eq_ok_iff.mp checked
      obtain ⟨onLeft, named⟩ := Kind.keyOperand_eq_ok_iff.mp isKey
      obtain ⟨onRight, finite⟩ := Kind.itemsOperand_eq_ok_iff.mp isItems
      cases checked
      cases expr with
      | unary => cases onRight
      | binary =>
        cases isMember
        cases onLeft
        cases onRight
        exact ⟨rfl, named, finite⟩
    · rename_i negated isAbsent
      obtain ⟨key, isKey, checked⟩ := bind_eq_ok_iff.mp checked
      cases checked
      cases expr with
      | binary => cases isKey
      | unary =>
        cases isAbsent
        obtain ⟨rfl, named⟩ := Kind.keyOperand_eq_ok_iff.mp isKey
        exact ⟨rfl, named⟩
    · cases checked
  · rintro ⟨rfl, valid⟩
    exact Leaf.leaf_expr valid

/-- A tree of valid tests in which connectives and negations have expressions for operands. -/
inductive Shaped : Expr → Prop where
  | test {leaf : Leaf} (valid : leaf.Valid) : Shaped leaf.expr
  | not {operand : Operand} {content : Expr} (inside : operand.content? = some content)
      (shaped : Shaped content) : Shaped (.unary .not operand)
  | join {connective : Connective} {left right : Operand} {first second : Expr}
      (inLeft : left.content? = some first) (inRight : right.content? = some second)
      (shapedLeft : Shaped first) (shapedRight : Shaped second) :
      Shaped (.binary (.join connective) left right)

/-- A comparison or a membership test that passes its check is a valid test. -/
theorem shaped_of_comparisonOperands {expr : Expr} {operands : Key × Value}
    (checked : expr.comparisonOperands = .ok operands) : Shaped expr := by
  unfold comparisonOperands at checked
  split at checked
  · rename_i comparison isCompare
    obtain ⟨key, isKey, checked⟩ := bind_eq_ok_iff.mp checked
    obtain ⟨value, isValue, -⟩ := bind_eq_ok_iff.mp checked
    obtain ⟨left, named⟩ := Kind.keyOperand_eq_ok_iff.mp isKey
    obtain ⟨right, valid⟩ := Comparison.scalarOperand_eq_ok_iff.mp isValue
    cases expr with
    | unary kind operand => cases right
    | binary kind first second =>
      cases isCompare
      cases left
      cases right
      exact @Shaped.test (.compare comparison key value) ⟨named, valid⟩
  · rename_i negated isMember
    obtain ⟨key, isKey, checked⟩ := bind_eq_ok_iff.mp checked
    obtain ⟨items, isItems, -⟩ := bind_eq_ok_iff.mp checked
    obtain ⟨left, named⟩ := Kind.keyOperand_eq_ok_iff.mp isKey
    obtain ⟨right, finite⟩ := Kind.itemsOperand_eq_ok_iff.mp isItems
    cases expr with
    | unary kind operand => cases right
    | binary kind first second =>
      cases isMember
      cases left
      cases right
      exact @Shaped.test (.member negated key items) ⟨named, finite⟩
  · cases checked

/-- Only what contains a tree can be negated. -/
theorem exists_content_of_negationOperand {operand : Operand}
    (isOk : (Expr.unary .not operand).negationOperand.isOk) :
    ∃ content, operand.content? = some content := by
  cases operand with
  | key | value => cases isOk
  | expr content | group content => exact ⟨content, rfl⟩

theorem exists_contents_of_joinOperands {connective : Connective} {left right : Operand}
    (isOk : (Expr.binary (.join connective) left right).joinOperands.isOk) :
    (∃ first, left.content? = some first) ∧ ∃ second, right.content? = some second := by
  cases left with
  | key | value => cases isOk
  | expr first | group first =>
    cases right with
    | key | value => cases isOk
    | expr second | group second => exact ⟨⟨first, rfl⟩, second, rfl⟩

/-- A test for absence whose key passes is well-shaped. -/
theorem shaped_of_absenceKey {negated : Bool} {operand : Operand}
    (isOk : (Expr.unary (.absent negated) operand).absenceKey.isOk) :
    Shaped (.unary (.absent negated) operand) := by
  obtain ⟨key, checked⟩ := exists_ok_of_isOk isOk
  obtain ⟨rfl, named⟩ := Kind.keyOperand_eq_ok_iff.mp checked
  exact @Shaped.test (.absent negated key) named

end Expr

mutual

/-- The checks of all nodes together ensure that a tree is put together from valid tests. -/
theorem Expr.shaped_of_wellShaped (expr : Expr) (shaped : expr.wellShaped) : expr.Shaped := by
  match expr with
  | .unary .not operand =>
    rw [Expr.wellShaped, Bool.and_eq_true] at shaped
    obtain ⟨content, inside⟩ := Expr.exists_content_of_negationOperand shaped.1
    exact .not inside (operand.shaped_of_wellShaped shaped.2 inside)
  | .binary (.join connective) left right =>
    rw [Expr.wellShaped, Bool.and_eq_true, Bool.and_eq_true] at shaped
    obtain ⟨⟨first, inLeft⟩, second, inRight⟩ := Expr.exists_contents_of_joinOperands shaped.1.1
    exact .join inLeft inRight (left.shaped_of_wellShaped shaped.1.2 inLeft)
      (right.shaped_of_wellShaped shaped.2 inRight)
  | .unary (.absent negated) operand =>
    rw [Expr.wellShaped, Bool.and_eq_true] at shaped
    exact Expr.shaped_of_absenceKey shaped.1
  | .unary (.compare _) _ | .unary (.member _) _ =>
    rw [Expr.wellShaped, Bool.and_eq_true] at shaped
    obtain ⟨operands, checked⟩ := exists_ok_of_isOk shaped.1
    exact Expr.shaped_of_comparisonOperands checked
  | .binary (.compare _) _ _ | .binary (.member _) _ _ =>
    rw [Expr.wellShaped, Bool.and_eq_true, Bool.and_eq_true] at shaped
    obtain ⟨operands, checked⟩ := exists_ok_of_isOk shaped.1.1
    exact Expr.shaped_of_comparisonOperands checked
  | .unary (.join _) _ | .binary .not _ _ | .binary (.absent _) _ _ => cases shaped

/-- The content of an operand is well-shaped if the operand passes all checks. -/
theorem Operand.shaped_of_wellShaped (operand : Operand) (shaped : operand.wellShaped)
    {content : Expr} (inside : operand.content? = some content) : content.Shaped := by
  match operand with
  | .key _ | .value _ => cases inside
  | .expr other | .group other =>
    have shapedOther := other.shaped_of_wellShaped shaped
    cases inside
    exact shapedOther

end

/-- The node of a valid test passes its check. -/
theorem Leaf.checks_expr {leaf : Leaf} (valid : leaf.Valid) : leaf.expr.checks := by
  cases leaf with
  | compare comparison key value =>
    have checked : (Leaf.compare comparison key value).expr.comparisonOperands =
        .ok (key, .scalar value) :=
      bind_eq_ok_iff.mpr ⟨key, Kind.keyOperand_eq_ok_iff.mpr ⟨rfl, valid.1⟩,
        bind_eq_ok_iff.mpr ⟨value, Comparison.scalarOperand_eq_ok_iff.mpr ⟨rfl, valid.2⟩, rfl⟩⟩
    exact congrArg Except.isOk checked
  | member negated key items =>
    have checked : (Leaf.member negated key items).expr.comparisonOperands =
        .ok (key, .ofScalars items) :=
      bind_eq_ok_iff.mpr ⟨key, Kind.keyOperand_eq_ok_iff.mpr ⟨rfl, valid.1⟩,
        bind_eq_ok_iff.mpr ⟨items, Kind.itemsOperand_eq_ok_iff.mpr ⟨rfl, valid.2⟩, rfl⟩⟩
    exact congrArg Except.isOk checked
  | absent negated key =>
    have checked : (Leaf.absent negated key).expr.absenceKey = .ok key :=
      Kind.keyOperand_eq_ok_iff.mpr ⟨rfl, valid⟩
    exact congrArg Except.isOk checked

/-- An operand passes all checks if its content does. -/
theorem Operand.wellShaped_of_content {operand : Operand} {content : Expr}
    (inside : operand.content? = some content) (shaped : content.wellShaped) :
    operand.wellShaped := by
  cases operand with
  | key | value => cases inside
  | expr | group =>
    cases inside
    exact shaped

/-- What is put together from valid tests passes all checks. -/
theorem Expr.wellShaped_of_shaped {expr : Expr} (shaped : expr.Shaped) : expr.wellShaped := by
  induction shaped with
  | @test leaf valid =>
    have onlyNode : leaf.expr.wellShaped = leaf.expr.checks := by
      cases leaf <;>
        simp [Leaf.expr, Expr.compare, Expr.member, Expr.absent, Expr.wellShaped,
          Operand.wellShaped]
    rw [onlyNode]
    exact Leaf.checks_expr valid
  | @not operand content inside _ ih =>
    have checked : (Expr.unary .not operand).checks := by
      simp [checks, kind, negationOperand, right?, left, inside, Except.isOk, Except.toBool]
    rw [Expr.wellShaped, Bool.and_eq_true]
    exact ⟨checked, operand.wellShaped_of_content inside ih⟩
  | @join connective left right first second inLeft inRight _ _ ihLeft ihRight =>
    have checked : (Expr.binary (.join connective) left right).checks := by
      simp [checks, kind, joinOperands, right?, Expr.left, inLeft, inRight, Except.isOk,
        Except.toBool]
    rw [Expr.wellShaped, Bool.and_eq_true, Bool.and_eq_true]
    exact ⟨⟨checked, left.wellShaped_of_content inLeft ihLeft⟩,
      right.wellShaped_of_content inRight ihRight⟩

/-! ## Choices between values -/

/-- The test that a field is equal to a value. -/
def Expr.equalTo (key : Key) (value : Scalar) : Expr := .compare .eq key (.scalar value)

/-- The test that a field is one of some values. -/
def Expr.oneOf (key : Key) (values : List Scalar) : Expr := .member false key (.ofScalars values)

/-- A value of a valid list can be compared on its own. -/
theorem Leaf.valid_compare_of_member {key : Key} {values : List Scalar} {value : Scalar}
    (valid : (Leaf.member false key values).Valid) (member : value ∈ values) :
    (Leaf.compare .eq key value).Valid :=
  ⟨valid.1, fun _ => rfl, List.all_eq_true.mp valid.2 value member⟩

/-- A choice from some values is valid exactly if all the equalities are. -/
theorem Leaf.valid_member_iff {key : Key} {values : List Scalar} (nonempty : values ≠ []) :
    (Leaf.member false key values).Valid ↔
      ∀ value ∈ values, (Leaf.compare .eq key value).Valid := by
  refine ⟨fun valid value => valid_compare_of_member valid, fun valid => ?_⟩
  obtain ⟨value, member⟩ := List.exists_mem_of_ne_nil values nonempty
  have finite : ∀ other ∈ values, other.isFinite := fun other isValue => (valid other isValue).2.2
  exact ⟨(valid value member).1, List.all_eq_true.mpr finite⟩

end PortableFilter
