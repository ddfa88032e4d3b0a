import PortableFilter.Proofs.Expr.Acceptance
import PortableFilter.Proofs.QueryString.Parentheses
import PortableFilter.Proofs.QueryString.Reading

/-! # What query strings mean

A query is about which fields exist and about how fields compare with values. `leafTruth` says what
a test of a filter means in these terms, without regard to how query strings are written, and
`Test.holds` what a test that was read from a query string means. The dialects differ in their
`Wording` of clauses. If a dialect writes its clauses as its wording says, then its query strings
keep the meaning of filters (`keepsMeaning_text`). -/

namespace PortableFilter.QueryString

open Precedence

/-- What is true or false of a record. -/
inductive Atom where
  /-- The field exists. -/
  | present (field : String)
  /-- The field compares with the value, as the value is written. -/
  | compare (comparison : Comparison) (field value : String)
  deriving DecidableEq, Repr

/-- Whether a test holds. A range is open on the side away from its value, so that only the bracket
next to the value matters. -/
def Test.holds (truth : Atom → Bool) : Test → Bool
  | present field => truth (.present field)
  | term field value => truth (.compare .eq field value)
  | oneOf field values => values.any fun value => truth (.compare .eq field value)
  | range field .lower closedBelow _ value =>
    truth (.compare (if closedBelow then .gte else .gt) field value)
  | range field .upper _ closedAbove value =>
    truth (.compare (if closedAbove then .lte else .lt) field value)
  | never => false

/-- Whether a test of a filter holds, given the names of fields and the texts of values. To be null
is to be absent, to differ is not to be equal, and to be a member is to equal one of the items. -/
def leafTruth (field : Key → String) (value : Scalar → String) (truth : Atom → Bool) : Leaf → Bool
  | .compare .eq key .null => !truth (.present (field key))
  | .compare .ne key .null => truth (.present (field key))
  | .compare .ne key operand => !truth (.compare .eq (field key) (value operand))
  | .compare comparison key operand => truth (.compare comparison (field key) (value operand))
  | .member negated key items =>
    negated != items.any fun item => truth (.compare .eq (field key) (value item))
  | .absent negated key => negated == truth (.present (field key))

/-- A text is read without precedence as a query that holds exactly when the tree does, whichever
fields exist and however they compare with values. -/
def KeepsMeaning (existence : Bool) (field : Key → String) (value : Scalar → String) (expr : Expr)
    (text : String) : Prop :=
  ∃ read, read? existence text = some read ∧ read.uniform ∧
    ∀ truth, read.holds (Test.holds truth) = expr.holds (leafTruth field value truth)

/-! ## Wordings -/

/-- A condition behind a negation, if it is negated. -/
def negatedCondition (negated : Bool) (condition : Filter Test) : Filter Test :=
  if negated then .not condition else condition

/-- What a dialect decides about writing clauses. -/
structure Wording where
  /-- The field that a key names. -/
  field : Key → String
  /-- The text of a value. -/
  value : Scalar → String
  /-- The condition that a field has one of the values. -/
  choice : String → List String → Filter Test
  /-- Whether the brackets below and above a range are closed. -/
  brackets : Bound → Bool → Bool × Bool
  holds_choice : ∀ truth field values, (choice field values).holds (Test.holds truth) =
    values.any fun value => truth (.compare .eq field value)
  lower_bracket : ∀ inclusive, (brackets .lower inclusive).1 = inclusive
  upper_bracket : ∀ inclusive, (brackets .upper inclusive).2 = inclusive

namespace Wording

variable (wording : Wording)

/-- The condition that a clause is written as. -/
def condition : Clause → Filter Test
  | .present negated key => negatedCondition negated (.leaf (.present (wording.field key)))
  | .term negated key value =>
    negatedCondition negated (.leaf (.term (wording.field key) (wording.value value)))
  | .anyOf negated key values =>
    negatedCondition negated (wording.choice (wording.field key) (values.map wording.value))
  | .bounded bound inclusive key value =>
    .leaf (.range (wording.field key) bound (wording.brackets bound inclusive).1
      (wording.brackets bound inclusive).2 (wording.value value))

/-- A negated condition holds exactly if the condition does not. -/
theorem holds_negatedCondition (truth : Test → Bool) (negated : Bool) (condition : Filter Test) :
    (negatedCondition negated condition).holds truth = (negated != condition.holds truth) := by
  cases negated with
  | true => rw [Bool.true_bne]; rfl
  | false => rw [Bool.false_bne]; rfl

/-- The condition that a test is written as means what the test means. -/
theorem holds_condition (truth : Atom → Bool) (leaf : Leaf) :
    (wording.condition (Clause.ofLeaf leaf)).holds (Test.holds truth) =
      leafTruth wording.field wording.value truth leaf := by
  cases leaf with
  | compare comparison key value =>
    cases comparison with
    | eq | ne => cases value <;> rfl
    | gt | gte =>
      simp [Clause.ofLeaf, condition, Filter.holds, Test.holds, leafTruth, wording.lower_bracket]
    | lt | lte =>
      simp [Clause.ofLeaf, condition, Filter.holds, Test.holds, leafTruth, wording.upper_bracket]
  | member negated key items =>
    rw [Clause.ofLeaf, condition, holds_negatedCondition, wording.holds_choice, List.any_map]
    rfl
  | absent negated key =>
    rw [Clause.ofLeaf, condition, holds_negatedCondition, leafTruth, Filter.holds, Test.holds]
    cases negated <;> simp

end Wording

/-- A text spells a condition of tests that are read from their texts. -/
abbrev Spells (existence : Bool) (text : String) (condition : Filter Test) : Prop :=
  Expresses (readTest? existence) Test.chars text condition

/-- A well-formed test spells itself. -/
theorem spells_leaf {existence : Bool} {text : String} {test : Test}
    (wellFormed : test.WellFormed existence) (spelled : text.toList = test.chars) :
    Spells existence text (.leaf test) where
  spelled := by rw [Filter.chars_leaf, spelled]
  reads := List.forall_mem_singleton.mpr (readsTest wellFormed)
  single := rfl
  levelled := .leaf test

/-- A negated text spells the negated condition. -/
theorem negatedText_toList {text : String} {condition : Filter Test}
    (spelled : text.toList = condition.chars Test.chars) (negated : Bool) :
    (negatedText negated text).toList =
      (negatedCondition negated condition).chars Test.chars := by
  cases negated with
  | false => exact spelled
  | true =>
    rw [negatedCondition, if_pos rfl, Filter.chars_not, ← spelled]
    simp [negatedText, Mark.chars]

/-- What spells a condition spells its negation when negated. -/
theorem Spells.negated {existence : Bool} {text : String} {condition : Filter Test}
    (spells : Spells existence text condition) (negated : Bool) :
    Spells existence (negatedText negated text) (negatedCondition negated condition) := by
  have spelled := negatedText_toList spells.spelled negated
  cases negated with
  | false => exact spells
  | true => exact ⟨spelled, spells.reads, rfl, .not spells.single spells.levelled⟩

/-- A query string whose tests are written as a wording says keeps the meaning of the tree. -/
theorem keepsMeaning_text {wording : Wording} {existence : Bool} {expr : Expr}
    {filter : Filter Leaf} (checks : expr.ChecksAs Expr.leaf filter) {text : Leaf → String}
    (spells : ∀ leaf ∈ filter.tests,
      Spells existence (text leaf) (wording.condition (Clause.ofLeaf leaf))) :
    KeepsMeaning existence wording.field wording.value expr ((filter.map text).text true) := by
  obtain ⟨read, isRead, uniform, meaning⟩ := exists_read_text spells
  obtain ⟨same, checked, -, -, sameTruth⟩ := Expr.exists_toFilter (Expr.shaped_of_checksAs checks)
  cases (Expr.toFilter_eq_ok_iff.mpr checks).symm.trans checked
  refine ⟨read, isRead, uniform, fun truth => ?_⟩
  calc read.holds (Test.holds truth)
      = filter.holds fun leaf =>
          (wording.condition (Clause.ofLeaf leaf)).holds (Test.holds truth) := meaning _
    _ = filter.holds (leafTruth wording.field wording.value truth) := by
          rw [funext (wording.holds_condition truth)]
    _ = expr.holds (leafTruth wording.field wording.value truth) := sameTruth _

end PortableFilter.QueryString
