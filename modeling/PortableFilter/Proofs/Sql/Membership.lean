import PortableFilter.Proofs.Sql.Meaning

/-! # Membership and equality in SQL

To be one of several values is to be equal to one of them. A membership test compares its field with
each value under the cast for the first one, and compares it with null as with any other value. An
equality has the cast for its own value, and asks for null if that is its value. So the membership
test has the truth value of the equalities, joined by "or", for every row exactly if none of the
values is null and all of them have one cast (`Sql.conditionOf_oneOf`). -/

namespace PortableFilter

namespace Ternary

/-- The truth value of what is known. -/
def ofBool (value : Bool) : Ternary := if value then yes else no

/-- A disjunction is true exactly if one of its values is. -/
theorem any_eq_yes_iff {values : List Ternary} : any values = yes ↔ yes ∈ values := by
  induction values with
  | nil => simp [any]
  | cons value values ih =>
    have joined : any (value :: values) = value.or (any values) := rfl
    rw [joined, List.mem_cons, ← ih]
    cases value <;> cases any values <;> simp [or]

end Ternary

namespace Sql

/-! ## Rows -/

/-- What conditions ask of a row: which fields are null, and how the others compare with values once
they are cast. -/
structure Row where
  isNull : String → Bool
  compares : Comparison → Option Cast → String → Scalar → Bool

namespace Row

/-- The truth value of a comparison. It is unknown if the field or the value is null. -/
def compare (row : Row) (comparison : Comparison) (cast : Option Cast) (field : String)
    (value : Scalar) : Ternary :=
  if row.isNull field ∨ value = .null then .unknown
  else .ofBool (row.compares comparison cast field value)

/-- The truth value of an atomic test. A test for null is never unknown. -/
def truth (row : Row) : Atom → Ternary
  | .compare comparison cast field value => row.compare comparison cast field value
  | .noneOf cast field values =>
    (Ternary.any (values.map fun value => row.compare .eq cast field value)).not
  | .isNull negated _ field => .ofBool (row.isNull field != negated)

end Row

/-! ## The atomic tests of a condition -/

/-- The atomic tests that a condition is put together from, from left to right. -/
def Condition.atoms : Condition → List Atom
  | compare comparison column value =>
    [.compare comparison column.cast column.key.unquoted value]
  | member false column values =>
    values.map fun value => .compare .eq column.cast column.key.unquoted value
  | member true column values => [.noneOf column.cast column.key.unquoted values]
  | isNull negated column => [.isNull negated column.cast column.key.unquoted]
  | join _ left right => left.atoms ++ right.atoms
  | not operand => operand.atoms

/-- The atomic test that an equality is. -/
def equalityAtom (key : Key) (value : Scalar) : Atom :=
  if value = .null then .isNull false none key.unquoted
  else .compare .eq (Cast.ofScalar? value) key.unquoted value

/-- The atomic test of one of the values of a choice. -/
def choiceAtom (cast : Option Cast) (key : Key) (value : Scalar) : Atom :=
  .compare .eq cast key.unquoted value

/-- An equality is one atom. -/
theorem atoms_equality (key : Key) (value : Scalar) :
    (Condition.ofLeaf (.compare .eq key value)).atoms = [equalityAtom key value] := by
  cases value <;> rfl

theorem value_equality (truth : Atom → Ternary) (key : Key) (value : Scalar) :
    (Condition.ofLeaf (.compare .eq key value)).value truth = truth (equalityAtom key value) := by
  cases value <;> rfl

/-- The equalities of a key are one atom for each value. -/
theorem atoms_equalities (key : Key) (values : List Scalar) :
    (values.map fun value => Condition.ofLeaf (.compare .eq key value)).flatMap Condition.atoms =
      values.map (equalityAtom key) := by
  rw [List.flatMap_map]
  simp only [atoms_equality]
  exact List.map_eq_flatMap.symm

/-- A choice is one atom for each value, all with the cast of the first. -/
theorem atoms_choice (key : Key) (values : List Scalar) :
    (Condition.ofLeaf (.member false key values)).atoms =
      values.map (choiceAtom (values.head?.bind Cast.ofScalar?) key) :=
  rfl

/-- A choice has the value of the disjunction of its atoms. -/
theorem value_choice (truth : Atom → Ternary) (key : Key) (values : List Scalar) :
    (Condition.ofLeaf (.member false key values)).value truth = .any (values.map fun value =>
      truth (choiceAtom (values.head?.bind Cast.ofScalar?) key value)) :=
  rfl

/-- A value is compared alike in a choice and alone exactly if it is not null and has the cast of
the choice. -/
theorem choiceAtom_eq_equalityAtom_iff {cast : Option Cast} {key : Key} {value : Scalar} :
    choiceAtom cast key value = equalityAtom key value ↔
      value ≠ .null ∧ Cast.ofScalar? value = cast := by
  unfold choiceAtom equalityAtom
  by_cases isNull : value = .null
  · simp [isNull]
  · simp [isNull, eq_comm]

/-! ## Values that are compared alike -/

/-- None of the values is null, and all of them have the cast of the first one. -/
def ComparedAlike (values : List Scalar) : Prop :=
  .null ∉ values ∧ ∀ value ∈ values, Cast.ofScalar? value = values.head?.bind Cast.ofScalar?

instance (values : List Scalar) : Decidable (ComparedAlike values) :=
  inferInstanceAs (Decidable (_ ∧ _))

variable {cast : Option Cast} {key : Key} {values : List Scalar}

/-- All values are compared alike exactly if none is null and all have that cast. -/
theorem map_choiceAtom_eq_iff :
    values.map (choiceAtom cast key) = values.map (equalityAtom key) ↔
      .null ∉ values ∧ ∀ value ∈ values, Cast.ofScalar? value = cast := by
  rw [List.map_inj_left]
  simp only [choiceAtom_eq_equalityAtom_iff]
  constructor
  · intro alike
    exact ⟨fun member => (alike .null member).1 rfl, fun value member => (alike value member).2⟩
  · rintro ⟨noNull, oneCast⟩ value member
    refine ⟨?_, oneCast value member⟩
    rintro rfl
    exact noNull member

/-- A comparison is true only if neither the field nor the value is null. -/
theorem Row.compare_eq_yes_iff {row : Row} {comparison : Comparison} {field : String}
    {value : Scalar} :
    row.compare comparison cast field value = .yes ↔
      (row.isNull field = false ∧ value ≠ .null) ∧ row.compares comparison cast field value := by
  unfold Row.compare Ternary.ofBool
  split <;> rename_i known
  · simp only [reduceCtorEq, false_iff]
    rintro ⟨⟨nonnull, isValue⟩, -⟩
    rcases known with isNull | isNull
    · rw [isNull] at nonnull
      cases nonnull
    · exact isValue isNull
  · rw [not_or, Bool.not_eq_true] at known
    simp [known]

section

variable (same : ∀ row : Row,
  Ternary.any (values.map fun value => row.truth (choiceAtom cast key value)) =
    .any (values.map fun value => row.truth (equalityAtom key value)))

include same

/-- In a row of nulls no choice is true, but an equality with null is. -/
theorem null_not_mem_of_rows : .null ∉ values := by
  intro member
  let row : Row := ⟨fun _ => true, fun _ _ _ _ => true⟩
  have isTrue : Ternary.any (values.map fun value => row.truth (equalityAtom key value)) = .yes :=
    Ternary.any_eq_yes_iff.mpr (List.mem_map.mpr ⟨.null, member, rfl⟩)
  rw [← same row, Ternary.any_eq_yes_iff, List.mem_map] at isTrue
  obtain ⟨value, -, holds⟩ := isTrue
  cases holds

/-- A field that is equal to one value, and under one cast only, tells that cast from the others. -/
theorem cast_eq_of_rows {value : Scalar} (member : value ∈ values) :
    Cast.ofScalar? value = cast := by
  have noNull := null_not_mem_of_rows same
  let row : Row := ⟨fun _ => false, fun _ given _ other => given = cast ∧ other = value⟩
  have isTrue : Ternary.any (values.map fun value => row.truth (choiceAtom cast key value)) =
      .yes := by
    refine Ternary.any_eq_yes_iff.mpr (List.mem_map.mpr ⟨value, member, ?_⟩)
    refine Row.compare_eq_yes_iff.mpr ⟨⟨rfl, ?_⟩, decide_eq_true ⟨rfl, rfl⟩⟩
    rintro rfl
    exact noNull member
  rw [same row, Ternary.any_eq_yes_iff, List.mem_map] at isTrue
  obtain ⟨other, isOther, holds⟩ := isTrue
  have nonnull : other ≠ .null := by
    rintro rfl
    exact noNull isOther
  rw [equalityAtom, if_neg nonnull] at holds
  obtain ⟨sameCast, rfl⟩ := of_decide_eq_true (Row.compare_eq_yes_iff.mp holds).2
  exact sameCast

end

/-- The values of a choice have the truth value of the equalities in every row exactly if they are
the same atomic tests. -/
theorem forall_rows_iff :
    (∀ row : Row, Ternary.any (values.map fun value => row.truth (choiceAtom cast key value)) =
        .any (values.map fun value => row.truth (equalityAtom key value))) ↔
      .null ∉ values ∧ ∀ value ∈ values, Cast.ofScalar? value = cast := by
  constructor
  · intro same
    exact ⟨null_not_mem_of_rows same, fun value => cast_eq_of_rows same⟩
  · intro alike row
    have sameAtoms : values.map (choiceAtom cast key) = values.map (equalityAtom key) :=
      map_choiceAtom_eq_iff.mpr alike
    have sameTruth := congrArg (List.map row.truth) sameAtoms
    rw [List.map_map, List.map_map] at sameTruth
    exact congrArg Ternary.any sameTruth

/-! ## The conditions of choices and equalities -/

/-- The condition that a tree is rendered as. -/
def conditionOf (limit : Nat) (expr : Expr) : Except ConvertError Condition :=
  (compileTree limit expr).map Prod.fst

/-- The condition of a tree is that of the filter it is checked as. -/
theorem conditionOf_eq_map (limit : Nat) (expr : Expr) :
    conditionOf limit expr =
      (expr.toFilter Expr.leaf).map fun filter => (compile limit filter).1 := by
  rw [conditionOf, compileTree_eq_map]
  cases expr.toFilter Expr.leaf <;> rfl

/-- The statement of a tree is that of its condition. -/
theorem render_eq_map_conditionOf (settings : SqlSettings) (expr : Expr) :
    render settings expr = (conditionOf settings.foldLimit expr).map (selectText settings) := by
  rw [render_eq_map, conditionOf_eq_map]
  cases expr.toFilter Expr.leaf <;> rfl

/-- A valid test is compiled to its condition. -/
theorem conditionOf_expr (limit : Nat) {leaf : Leaf} (valid : leaf.Valid) :
    conditionOf limit leaf.expr = .ok (.ofLeaf leaf) := by
  rw [conditionOf_eq_map, Expr.toFilter_expr valid]
  rfl

/-- A choice has a condition exactly if its key is not empty and its values are finite. Then so do
the equalities. The condition consists of the atomic tests that the equalities are, and has the
truth value of their disjunction in every row, exactly if the values are compared alike. -/
theorem conditionOf_oneOf (settings : SqlSettings) (key : Key) (values : List Scalar) :
    ((∃ condition, conditionOf settings.foldLimit (.oneOf key values) = .ok condition) ↔
        key.unquoted ≠ "" ∧ ∀ value ∈ values, value.isFinite) ∧
      ∀ condition, conditionOf settings.foldLimit (.oneOf key values) = .ok condition →
        render settings (.oneOf key values) = .ok (selectText settings condition) ∧
        ∃ equalities : List Condition,
          values.map (fun value => conditionOf settings.foldLimit (.equalTo key value)) =
              equalities.map .ok ∧
            (condition.atoms = equalities.flatMap Condition.atoms ↔ ComparedAlike values) ∧
            ((∀ row : Row, condition.value row.truth =
                .any (equalities.map fun equality => equality.value row.truth)) ↔
              ComparedAlike values) := by
  have accepts : (∃ condition, conditionOf settings.foldLimit (.oneOf key values) = .ok condition) ↔
      (Leaf.member false key values).Valid := by
    rw [conditionOf_eq_map, exists_map_eq_ok_iff]
    exact Leaf.exists_toFilter_expr_iff (.member false key values)
  refine ⟨accepts.trans ?_, fun condition isCondition => ?_⟩
  · rw [Leaf.Valid, List.all_eq_true]
  · have valid := accepts.mp ⟨condition, isCondition⟩
    have isChoice : condition = .ofLeaf (.member false key values) :=
      Except.ok.inj (isCondition.symm.trans (conditionOf_expr _ valid))
    refine ⟨?_, values.map fun value => .ofLeaf (.compare .eq key value), ?_, ?_, ?_⟩
    · rw [render_eq_map_conditionOf, isCondition]
      rfl
    · rw [List.map_map]
      exact List.map_congr_left fun value member =>
        conditionOf_expr _ (Leaf.valid_compare_of_member valid member)
    · rw [isChoice, atoms_choice, atoms_equalities]
      exact map_choiceAtom_eq_iff
    · simp only [isChoice, value_choice, List.map_map, Function.comp_def, value_equality]
      exact forall_rows_iff

/-- A text, a date and another text are compared without a cast: the choice between them is the
disjunction of the equalities. -/
theorem conditionOf_oneOf_uncast : ∃ (condition : Condition) (equalities : List Condition),
    conditionOf 5 (.oneOf ⟨"a"⟩ [.text "x", .date ⟨0, 0⟩, .text ""]) = .ok condition ∧
      [.text "x", .date ⟨0, 0⟩, .text ""].map (fun value => conditionOf 5 (.equalTo ⟨"a"⟩ value)) =
        equalities.map .ok ∧
      condition.atoms = equalities.flatMap Condition.atoms ∧
      ∀ row : Row, condition.value row.truth =
        .any (equalities.map fun equality => equality.value row.truth) := by
  obtain ⟨accepts, ofCondition⟩ :=
    conditionOf_oneOf {} ⟨"a"⟩ [.text "x", .date ⟨0, 0⟩, .text ""]
  obtain ⟨condition, isCondition⟩ := accepts.mpr (by decide)
  obtain ⟨-, equalities, areEqualities, atoms, truth⟩ := ofCondition condition isCondition
  have alike : ComparedAlike [.text "x", .date ⟨0, 0⟩, .text ""] := by decide
  exact ⟨condition, equalities, isCondition, areEqualities, atoms.mpr alike, truth.mpr alike⟩

/-- For a field that is null, the choice from null alone is unknown though the field is equal to
null. A number behind a text is compared without the cast that an equality with it has. -/
theorem conditionOf_oneOf_unlike :
    (∃ (choice equality : Condition) (row : Row),
      conditionOf 5 (.oneOf ⟨"a"⟩ [.null]) = .ok choice ∧
        conditionOf 5 (.equalTo ⟨"a"⟩ .null) = .ok equality ∧
        choice.value row.truth = .unknown ∧ equality.value row.truth = .yes) ∧
      ∃ (choice text number : Condition) (row : Row),
        conditionOf 5 (.oneOf ⟨"a"⟩ [.text "x", .int 1]) = .ok choice ∧
          conditionOf 5 (.equalTo ⟨"a"⟩ (.text "x")) = .ok text ∧
          conditionOf 5 (.equalTo ⟨"a"⟩ (.int 1)) = .ok number ∧
          choice.value row.truth = .no ∧
          (text.value row.truth).or (number.value row.truth) = .yes := by
  simp only [conditionOf_eq_map]
  constructor
  · exact ⟨_, _, ⟨fun _ => true, fun _ _ _ _ => true⟩, rfl, rfl, rfl, rfl⟩
  · exact ⟨_, _, _, ⟨fun _ => false, fun _ cast _ _ => cast = some .numeric⟩, rfl, rfl, rfl, rfl,
      rfl⟩

end Sql

end PortableFilter
