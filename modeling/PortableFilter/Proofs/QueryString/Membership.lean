import PortableFilter.Proofs.Expr.Acceptance
import PortableFilter.Proofs.Text

/-! # Membership and equality in query strings

To be one of several values is to be equal to one of them. Both dialects of query strings write a
choice between values as the terms of the equalities, as long as none of the values is null. An
equality with null asks whether the field exists, or is refused where that cannot be asked; in a
choice null is a term like any other (`QueryString.oneOf_iff_equalTo`). -/

namespace PortableFilter

open QueryString

variable {key : Key} {values : List Scalar}

/-! ## Quoted texts and prefixed fields -/

namespace Lucene

variable (settings : LuceneSettings)

/-- A valid test is rendered as its clause. -/
theorem render_expr {leaf : Leaf} (valid : leaf.Valid) :
    render settings leaf.expr = .ok (clauseText settings (Clause.ofLeaf leaf)) := by
  rw [render_eq_map, Expr.toFilter_expr valid]
  rfl

/-- A test is rendered exactly if it is valid. -/
theorem exists_render_expr_iff (leaf : Leaf) :
    (∃ text, render settings leaf.expr = .ok text) ↔ leaf.Valid := by
  rw [render_eq_map, exists_map_eq_ok_iff]
  exact Leaf.exists_toFilter_expr_iff leaf

/-- The text of an equality. -/
def equalityText (key : Key) (value : Scalar) : String :=
  clauseText settings (Clause.ofLeaf (.compare .eq key value))

/-- An equality with a value other than null is a term. -/
theorem equalityText_of_ne_null {value : Scalar} (nonnull : value ≠ .null) :
    equalityText settings key value = scalarTermText settings key value := by
  cases value with
  | null => exact absurd rfl nonnull
  | bool | int | number | text | date => rfl

/-- The text of an equality with null is longer than the term of null. -/
theorem length_equalityText (key : Key) (value : Scalar) :
    (equalityText settings key value).toList.length =
      (scalarTermText settings key value).toList.length + if value == .null then 8 else 0 := by
  by_cases isNull : value = .null
  · rw [isNull]
    simp [equalityText, Clause.ofLeaf, clauseText, presentText, negatedText, scalarTermText,
      ValueStyle.scalarText]
  · rw [equalityText_of_ne_null settings isNull, if_neg (by simpa using isNull), Nat.add_zero]

/-- Behind separators, equalities are longer than terms by the same length for each null. -/
theorem length_flatMap_equalityText (separator : List Char) (key : Key) (values : List Scalar) :
    (values.flatMap fun value => separator ++ (equalityText settings key value).toList).length =
      (values.flatMap fun value => separator ++ (scalarTermText settings key value).toList).length +
        8 * values.count .null := by
  induction values with
  | nil => rfl
  | cons value values ih =>
    have here := length_equalityText settings key value
    rw [List.flatMap_cons, List.flatMap_cons, List.count_cons]
    simp only [List.length_append, ih, here]
    split <;> omega

/-- The texts of equalities with separators between them are longer than the terms, by the same
length for each null. -/
theorem length_intercalate_equalityText (key : Key) (values : List Scalar) :
    (" OR ".intercalate (values.map (equalityText settings key))).toList.length =
      (" OR ".intercalate (values.map (scalarTermText settings key))).toList.length +
        8 * values.count .null := by
  cases values with
  | nil => rfl
  | cons value values =>
    have here := length_equalityText settings key value
    have later := length_flatMap_equalityText settings " OR ".toList key values
    rw [List.map_cons, List.map_cons, Text.intercalate_cons_toList, Text.intercalate_cons_toList,
      List.flatMap_map, List.flatMap_map, List.length_append, List.length_append, here, later,
      List.count_cons]
    split <;> omega

/-- A membership is written as a choice of terms. -/
theorem clauseText_member (key : Key) (values : List Scalar) :
    clauseText settings (Clause.ofLeaf (.member false key values)) =
      "(" ++ " OR ".intercalate (values.map (scalarTermText settings key)) ++ ")" :=
  rfl

/-- A choice is written as the equalities are, with "or" between them, exactly if null is not one of
the values. -/
theorem clauseText_member_eq_iff (key : Key) (values : List Scalar) :
    clauseText settings (Clause.ofLeaf (.member false key values)) =
        "(" ++ " OR ".intercalate (values.map (equalityText settings key)) ++ ")" ↔
      .null ∉ values := by
  rw [clauseText_member]
  constructor
  · -- Values can hold the separator, so it is the lengths that tell the texts apart.
    intro same
    have sameLength := congrArg (fun text => text.toList.length) same
    simp only [String.toList_append, List.length_append,
      length_intercalate_equalityText settings key values] at sameLength
    exact List.count_eq_zero.mp (by omega)
  · intro noNull
    have sameTexts : values.map (scalarTermText settings key) =
        values.map (equalityText settings key) := by
      refine List.map_congr_left fun value member => ?_
      refine (equalityText_of_ne_null settings ?_).symm
      rintro rfl
      exact noNull member
    rw [sameTexts]

end Lucene

/-! ## Bare texts and bracketed ranges -/

namespace Range

/-- A valid test is rendered as its clause, if the clause has a text. -/
theorem render_expr {leaf : Leaf} (valid : leaf.Valid) {text : String}
    (written : clauseText? (Clause.ofLeaf leaf) = some text) : render leaf.expr = .ok text := by
  rw [render_eq_map, Expr.toFilter_of_isTest leaf.isTest_kind_expr, leafText_expr valid, written]
  rfl

/-- An equality is written exactly if it is valid and does not ask for null. -/
theorem exists_render_equalTo_iff (key : Key) (value : Scalar) :
    (∃ text, render (.equalTo key value) = .ok text) ↔
      (Leaf.compare .eq key value).Valid ∧ value ≠ .null := by
  have shaped := @Leaf.shaped_expr_iff (.compare .eq key value)
  have asks : (Expr.equalTo key value).asksForNull = false ↔ value ≠ .null := by
    cases value <;> simp [Expr.equalTo, Expr.compare, Expr.asksForNull, Operand.asksForNull]
  rw [exists_render_iff, asks]
  exact and_congr_left' shaped

/-- A membership is written exactly if it is valid. -/
theorem exists_render_oneOf_iff (key : Key) (values : List Scalar) :
    (∃ text, render (.oneOf key values) = .ok text) ↔ (Leaf.member false key values).Valid := by
  rw [exists_render_iff]
  exact (and_iff_left rfl).trans (@Leaf.shaped_expr_iff (.member false key values))

theorem render_equalTo {value : Scalar} (valid : (Leaf.compare .eq key value).Valid)
    (nonnull : value ≠ .null) :
    render (.equalTo key value) = .ok (keyText key ++ style.scalarText value) := by
  refine render_expr valid ?_
  cases value with
  | null => exact absurd rfl nonnull
  | bool | int | number | text | date => rfl

theorem render_oneOf (valid : (Leaf.member false key values).Valid) :
    render (.oneOf key values) =
      .ok (keyText key ++ ("(" ++ " OR ".intercalate (values.map style.scalarText) ++ ")")) :=
  render_expr valid rfl

end Range

/-! ## Both dialects -/

/-- A choice from some values and the equalities with them. With quoted texts the choice is accepted
exactly if all the equalities are, and it is written as they are exactly if null is not one of the
values. With bare texts the equalities are accepted exactly if the choice is and null is not one of
the values, and then it is written as they are, with the field named once. -/
theorem QueryString.oneOf_iff_equalTo (settings : LuceneSettings) (key : Key) {values : List Scalar}
    (nonempty : values ≠ []) :
    ((∃ text, Lucene.render settings (.oneOf key values) = .ok text) ↔
        ∀ value ∈ values, ∃ text, Lucene.render settings (.equalTo key value) = .ok text) ∧
      (∀ text, Lucene.render settings (.oneOf key values) = .ok text →
        ∃ texts : List String,
          values.map (fun value => Lucene.render settings (.equalTo key value)) = texts.map .ok ∧
            (text = "(" ++ " OR ".intercalate texts ++ ")" ↔ .null ∉ values)) ∧
      ((∀ value ∈ values, ∃ text, Range.render (.equalTo key value) = .ok text) ↔
        (∃ text, Range.render (.oneOf key values) = .ok text) ∧ .null ∉ values) ∧
      ∀ text, Range.render (.oneOf key values) = .ok text → .null ∉ values →
        ∃ parts : List String,
          values.map (fun value => Range.render (.equalTo key value)) =
              parts.map (fun part => .ok (Range.keyText key ++ part)) ∧
            text = Range.keyText key ++ "(" ++ " OR ".intercalate parts ++ ")" := by
  have validIff := @Leaf.valid_member_iff key values nonempty
  have acceptsOneOf := Lucene.exists_render_expr_iff settings (.member false key values)
  have acceptsEqualTo := fun value =>
    Lucene.exists_render_expr_iff settings (.compare .eq key value)
  refine ⟨?_, fun text rendered => ?_, ?_, fun text rendered noNull => ?_⟩
  · exact acceptsOneOf.trans (validIff.trans
      (forall₂_congr fun value _ => (acceptsEqualTo value).symm))
  · have valid := acceptsOneOf.mp ⟨text, rendered⟩
    have isText := Except.ok.inj (rendered.symm.trans (Lucene.render_expr settings valid))
    rw [isText]
    refine ⟨values.map (Lucene.equalityText settings key), ?_,
      Lucene.clauseText_member_eq_iff settings key values⟩
    rw [List.map_map]
    exact List.map_congr_left fun value member =>
      Lucene.render_expr settings (validIff.mp valid value member)
  · rw [Range.exists_render_oneOf_iff, validIff]
    simp only [Range.exists_render_equalTo_iff]
    constructor
    · intro accepted
      exact ⟨fun value member => (accepted value member).1,
        fun isMember => (accepted .null isMember).2 rfl⟩
    · rintro ⟨valid, noNull⟩ value member
      refine ⟨valid value member, ?_⟩
      rintro rfl
      exact noNull member
  · have valid := (Range.exists_render_oneOf_iff key values).mp ⟨text, rendered⟩
    have isText := Except.ok.inj (rendered.symm.trans (Range.render_oneOf valid))
    refine ⟨values.map Range.style.scalarText, ?_, ?_⟩
    · rw [List.map_map]
      refine List.map_congr_left fun value member => ?_
      refine Range.render_equalTo (validIff.mp valid value member) ?_
      rintro rfl
      exact noNull member
    · rw [isText]
      simp only [String.append_assoc]

/-- A truth value, a text with a blank, a text that is read as a date, and a number: both dialects
accept the choice and write it as the equalities. -/
theorem QueryString.oneOf_iff_equalTo_mixed : ∃ values : List Scalar,
    values = [.bool true, .text "x y", .text "2024-03-01T12:00:00Z", .int (-1)] ∧ values ≠ [] ∧
      (∃ texts : List String,
        Lucene.render ⟨"m."⟩ (.oneOf ⟨"a"⟩ values) =
            .ok ("(" ++ " OR ".intercalate texts ++ ")") ∧
          values.map (fun value => Lucene.render ⟨"m."⟩ (.equalTo ⟨"a"⟩ value)) = texts.map .ok) ∧
      ∃ parts : List String,
        Range.render (.oneOf ⟨"a"⟩ values) =
            .ok (Range.keyText ⟨"a"⟩ ++ "(" ++ " OR ".intercalate parts ++ ")") ∧
          values.map (fun value => Range.render (.equalTo ⟨"a"⟩ value)) =
            parts.map fun part => .ok (Range.keyText ⟨"a"⟩ ++ part) := by
  obtain ⟨values, areValues⟩ : ∃ values : List Scalar,
      values = [.bool true, .text "x y", .text "2024-03-01T12:00:00Z", .int (-1)] := ⟨_, rfl⟩
  have nonempty : values ≠ [] := by simp [areValues]
  have noNull : .null ∉ values := by simp [areValues]
  obtain ⟨-, ofLucene, -, ofRange⟩ := oneOf_iff_equalTo ⟨"m."⟩ ⟨"a"⟩ nonempty
  obtain ⟨text, rendered⟩ : ∃ text, Lucene.render ⟨"m."⟩ (.oneOf ⟨"a"⟩ values) = .ok text := by
    rw [areValues, Lucene.render_eq_map]
    exact ⟨_, rfl⟩
  obtain ⟨rangeText, rangeRendered⟩ : ∃ text, Range.render (.oneOf ⟨"a"⟩ values) = .ok text := by
    rw [areValues, Range.render_eq_map]
    exact ⟨_, rfl⟩
  obtain ⟨texts, each, same⟩ := ofLucene text rendered
  obtain ⟨parts, eachPart, isChoice⟩ := ofRange rangeText rangeRendered noNull
  rw [same.mpr noNull] at rendered
  rw [isChoice] at rangeRendered
  exact ⟨values, areValues, nonempty, ⟨texts, rendered, each⟩, parts, rangeRendered, eachPart⟩

/-- Null is a word in a choice, while an equality with null asks whether the field exists and is
refused where that cannot be asked. -/
theorem QueryString.render_oneOf_null :
    Lucene.render {} (.oneOf ⟨"a"⟩ [.null]) = .ok "(a:null)" ∧
      Lucene.render {} (.equalTo ⟨"a"⟩ .null) = .ok "NOT _exists_:a" ∧
      Range.render (.oneOf ⟨"a"⟩ [.null]) = .ok "a:(null)" ∧
      Range.render (.equalTo ⟨"a"⟩ .null) = .error (.unsupported (.compare .eq) .range) := by
  simp only [Lucene.render_eq_map, Range.render_eq_map]
  exact ⟨rfl, rfl, rfl, rfl⟩

end PortableFilter
