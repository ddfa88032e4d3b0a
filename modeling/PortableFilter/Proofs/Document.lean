import PortableFilter.Proofs.Document.Query
import PortableFilter.Proofs.Binary64.RoundTrip
import PortableFilter.Proofs.Expr.Meaning
import PortableFilter.Proofs.Json.RoundTrip
import PortableFilter.Proofs.ValueStyle

/-! # Document queries mean what their filters mean

The text of a document query is JSON. `Condition.ofJson?` reads such JSON as a filter: an object
whose value is an array of two joins them, and an object whose value is an object tests a field.
There is no way to read a negation. The query of a well-shaped tree is read as a condition with
the meaning of the tree (`render_holds`). -/

namespace PortableFilter.Document

/-! ## Reading a document query -/

/-- A test of a field as a document query has it. -/
inductive Test where
  | compare (comparison : Comparison) (field : String) (argument : Json)
  | member (negated : Bool) (field : String) (items : List Json)
  | present (value : Bool) (field : String)

namespace Test

/-- The test of a field that an operator and its argument stand for. -/
def ofOperator? (field operator : String) (argument : Json) : Option Test :=
  match operator, argument with
  | "$eq", argument => some (compare .eq field argument)
  | "$ne", argument => some (compare .ne field argument)
  | "$gt", argument => some (compare .gt field argument)
  | "$gte", argument => some (compare .gte field argument)
  | "$lt", argument => some (compare .lt field argument)
  | "$lte", argument => some (compare .lte field argument)
  | "$in", .array items => some (member false field items)
  | "$nin", .array items => some (member true field items)
  | "$exists", .bool value => some (present value field)
  | _, _ => none

/-- Truth values of tests under which each test and its opposite exclude and complete each other: to
be unequal and to be equal, to be at most and to be greater, to be less and to be at least, to be
none and to be one of some values, and to be present and to be absent. -/
structure Complementary (truth : Test → Bool) : Prop where
  ne (field : String) (argument : Json) :
    truth (compare .ne field argument) = !truth (compare .eq field argument)
  lte (field : String) (argument : Json) :
    truth (compare .lte field argument) = !truth (compare .gt field argument)
  lt (field : String) (argument : Json) :
    truth (compare .lt field argument) = !truth (compare .gte field argument)
  nin (field : String) (items : List Json) :
    truth (member true field items) = !truth (member false field items)
  present (field : String) : truth (present true field) = !truth (present false field)

end Test

/-- A document query as it is read: tests, and two conditions joined. -/
inductive Condition where
  | test (test : Test)
  | join (connective : Connective) (left right : Condition)

namespace Condition

/-- The connective that a name stands for. -/
def connective? : String → Option Connective
  | "$and" => some .and
  | "$or" => some .or
  | _ => none

/-- The condition that a JSON value stands for. A name is a connective only in front of an array,
so a field may have any name. -/
def ofJson? : Json → Option Condition
  | .object [(some name, .array [left, right])] => do
    return .join (← connective? name) (← ofJson? left) (← ofJson? right)
  | .object [(some field, .object [(some operator, argument)])] =>
    (Test.ofOperator? field operator argument).map .test
  | _ => none

/-- Whether a condition holds, given which tests hold. -/
def holds (truth : Test → Bool) : Condition → Bool
  | test content => truth content
  | join .and left right => left.holds truth && right.holds truth
  | join .or left right => left.holds truth || right.holds truth

end Condition

/-! ## The query of a tree -/

/-- The JSON value of a scalar. A text that reads as a timestamp stands for that timestamp. -/
def scalarJson : Scalar → Json
  | .null => .null
  | .bool value => .bool value
  | .int value => .number (toString value)
  | .number value => .number value.toPointedText
  | .text value => .string (some ((Timestamp.read? value).elim value Timestamp.toText))
  | .date value => .string (some value.toText)

/-- The test of a field that a leaf stands for. -/
def Test.ofLeaf : Leaf → Test
  | .compare comparison key value => .compare comparison key.unquoted (scalarJson value)
  | .member negated key items => .member negated key.unquoted (items.map scalarJson)
  | .absent negated key => .present negated key.unquoted

namespace Query

/-- Whether a query holds, given which tests hold. -/
def holds (truth : Leaf → Bool) : Query → Bool
  | test leaf => truth leaf
  | join .and left right => left.holds truth && right.holds truth
  | join .or left right => left.holds truth || right.holds truth

/-- All tests of a query are valid. -/
def Valid : Query → Prop
  | test leaf => leaf.Valid
  | join _ left right => left.Valid ∧ right.Valid

end Query

/-- The query of a test is the test, or its opposite if the query is negated. -/
theorem ofExpr_expr (negated : Bool) (leaf : Leaf) :
    ofExpr negated leaf.expr =
      (if negated then leaf.complement else leaf).expr.leaf.map Query.test := by
  cases leaf <;> cases negated <;> rfl

/-- The query of an operand is that of its content. -/
theorem ofOperand?_of_content {operand : Operand} {content : Expr}
    (inside : operand.content? = some content) (negated : Bool) :
    ofOperand? negated operand = some (ofExpr negated content) := by
  cases operand with
  | key | value => cases inside
  | expr | group =>
    cases inside
    rfl

/-- A well-shaped tree has a query of valid tests that holds exactly when the tree does, and one
that holds exactly when it does not. -/
theorem ofExpr_of_shaped {expr : Expr} (shaped : expr.Shaped) (negated : Bool) :
    ∃ query, ofExpr negated expr = .ok query ∧ query.Valid ∧
      ∀ truth, Complementary truth → query.holds truth = (expr.holds truth != negated) := by
  induction shaped generalizing negated with
  | @test leaf valid =>
    rw [ofExpr_expr]
    cases negated with
    | false =>
      refine ⟨.test leaf, congrArg (Except.map _) (Leaf.leaf_expr valid), valid, ?_⟩
      intro truth _
      rw [Leaf.holds_expr, Bool.bne_false]
      rfl
    | true =>
      refine ⟨.test leaf.complement,
        congrArg (Except.map _) (Leaf.leaf_expr (Leaf.valid_complement valid)),
        Leaf.valid_complement valid, ?_⟩
      intro truth complementary
      rw [Leaf.holds_expr, Bool.bne_true]
      exact complementary.complement leaf
  | @not operand content inside _ ih =>
    obtain ⟨query, written, valid, meaning⟩ := ih (!negated)
    refine ⟨query, ?_, valid, ?_⟩
    · rw [ofExpr, ofOperand?_of_content inside, written]
    · intro truth complementary
      rw [meaning truth complementary, Expr.holds, Operand.holds_of_content truth inside]
      cases content.holds truth <;> cases negated <;> rfl
  | @join connective left right first second inLeft inRight _ _ ihLeft ihRight =>
    obtain ⟨leftQuery, leftWritten, leftValid, leftMeaning⟩ := ihLeft negated
    obtain ⟨rightQuery, rightWritten, rightValid, rightMeaning⟩ := ihRight negated
    refine ⟨.join (if negated then connective.dual else connective) leftQuery rightQuery, ?_,
      ⟨leftValid, rightValid⟩, ?_⟩
    · rw [ofExpr, ofOperand?_of_content inLeft, ofOperand?_of_content inRight, leftWritten,
        rightWritten]
      rfl
    · intro truth complementary
      have leftHolds := leftMeaning truth complementary
      have rightHolds := rightMeaning truth complementary
      rw [← Operand.holds_of_content truth inLeft] at leftHolds
      rw [← Operand.holds_of_content truth inRight] at rightHolds
      cases negated <;> cases connective <;>
        simp [Query.holds, Expr.holds, Connective.dual, leftHolds, rightHolds]

/-! ## The text of a query -/

/-- The test of a field with an operator and its argument. -/
def testJson (key : Key) (operator : String) (argument : Json) : Json :=
  .object [(some key.unquoted, .object [(some operator, argument)])]

/-- The JSON value of a test. -/
def leafJson : Leaf → Json
  | .compare comparison key value =>
    testJson key (comparisonOperator comparison) (scalarJson value)
  | .member negated key items =>
    testJson key (membershipOperator negated) (.array (items.map scalarJson))
  | .absent negated key => testJson key "$exists" (.bool negated)

/-- The JSON value of a query. -/
def Query.json : Query → Json
  | test leaf => leafJson leaf
  | join connective left right =>
    .object [(some (connectiveOperator connective), .array [left.json, right.json])]

/-- A scalar is written as its JSON. -/
theorem scalarText_toList (value : Scalar) :
    (style.scalarText value).toList = (scalarJson value).chars := by
  cases value with
  | null => rfl
  | bool value => cases value <;> rfl
  | int | number => rw [ValueStyle.scalarText, scalarJson, Json.chars]
  | text value =>
    rw [ValueStyle.scalarText, scalarJson, Json.chars]
    cases Timestamp.read? value <;> rfl
  | date value =>
    rw [ValueStyle.scalarText, scalarJson, Json.chars]
    rfl

/-- Each item of an array is written behind a comma, and a bracket behind all of them. -/
theorem itemsChars_eq (items : List Json) :
    Json.itemsChars items = items.flatMap (fun item => ',' :: item.chars) ++ [']'] := by
  induction items with
  | nil => rfl
  | cons item items ih =>
    rw [Json.itemsChars, ih, List.flatMap_cons, List.append_assoc]
    rfl

theorem scalarsText_toList (values : List Scalar) :
    (style.scalarsText values).toList = (Json.array (values.map scalarJson)).chars := by
  cases values with
  | nil => rfl
  | cons value values =>
    rw [ValueStyle.scalarsText_cons_toList scalarText_toList, List.map_cons, Json.chars,
      itemsChars_eq, List.flatMap_map]
    rfl

/-- A test is written as the JSON of a test if its argument is written as JSON. -/
theorem testText_toList {key : Key} {operator argument : String} {json : Json}
    (written : argument.toList = json.chars) :
    (testText key operator argument).toList = (testJson key operator json).chars := by
  unfold testText testJson
  simp only [String.toList_append, written, List.append_assoc]
  simp [Json.chars, Json.fieldsChars, keyText]

/-- The text of a test is that of its JSON. -/
theorem leafText_toList (leaf : Leaf) : (leafText leaf).toList = (leafJson leaf).chars := by
  cases leaf with
  | compare comparison key value => exact testText_toList (scalarText_toList value)
  | member negated key items => exact testText_toList (scalarsText_toList items)
  | absent negated key =>
    cases negated with
    | false => exact testText_toList rfl
    | true => exact testText_toList rfl

/-- The text of a query is the text of its JSON value. -/
theorem Query.text_toList (query : Query) : query.text.toList = query.json.chars := by
  induction query with
  | test leaf => exact leafText_toList leaf
  | join connective left right ihLeft ihRight =>
    unfold Query.text Query.json joinText
    simp only [String.toList_append, ihLeft, ihRight, List.append_assoc]
    simp [Json.chars, Json.fieldsChars, Json.itemsChars]

/-- A finite scalar can be printed. -/
theorem printable_scalarJson {value : Scalar} (finite : value.isFinite) :
    (scalarJson value).Printable := by
  cases value with
  | null | bool => trivial
  | text | date => rfl
  | int value =>
    obtain ⟨sign, digits, negative, spelled, -, signs, nonempty, numeric, plain, -⟩ :=
      Decimal.toString_eq_signed value
    refine ⟨sign, digits, [], ?_, signs, ⟨nonempty, numeric, plain⟩, .inl rfl⟩
    rw [spelled, List.append_nil]
  | number value =>
    obtain ⟨sign, whole, fraction, magnitude, spelled, signs, pointed, -⟩ :=
      Binary64.read?_toPointedText finite
    refine ⟨sign, whole, '.' :: fraction, ?_, signs,
      ⟨pointed.whole_ne_nil, pointed.whole_digits, pointed.whole_plain⟩,
      .inr ⟨fraction, rfl, pointed.fraction_ne_nil, pointed.fraction_digits⟩⟩
    rw [spelled, pointed.spelled]

theorem printableItems_scalarJson {values : List Scalar} (finite : values.all Scalar.isFinite) :
    Json.PrintableItems (values.map scalarJson) := by
  induction values with
  | nil => trivial
  | cons value values ih =>
    rw [List.all_cons, Bool.and_eq_true] at finite
    exact ⟨printable_scalarJson finite.1, ih finite.2⟩

/-- A valid test can be printed. -/
theorem printable_leafJson {leaf : Leaf} (valid : leaf.Valid) : (leafJson leaf).Printable := by
  cases leaf with
  | compare comparison key value =>
    exact ⟨rfl, ⟨rfl, printable_scalarJson valid.2.2, trivial⟩, trivial⟩
  | member negated key items =>
    exact ⟨rfl, ⟨rfl, printableItems_scalarJson valid.2, trivial⟩, trivial⟩
  | absent negated key => exact ⟨rfl, ⟨rfl, trivial, trivial⟩, trivial⟩

/-- A query of valid tests can be printed. -/
theorem Query.printable_json {query : Query} (valid : query.Valid) : query.json.Printable := by
  induction query with
  | test leaf => exact printable_leafJson valid
  | join connective left right ihLeft ihRight =>
    exact ⟨rfl, ⟨ihLeft valid.1, ihRight valid.2, trivial⟩, trivial⟩

/-- The text of a query of valid tests is JSON, and is read as the JSON value of the query. -/
theorem Query.read?_text {query : Query} (valid : query.Valid) :
    Json.read? query.text = some query.json := by
  have read := Json.read?_chars (query.printable_json valid)
  rw [← query.text_toList, String.ofList_toList] at read
  exact read

/-! ## The meaning of the text -/

/-- The condition that a query is read as. -/
def Query.condition : Query → Condition
  | test leaf => .test (.ofLeaf leaf)
  | join connective left right => .join connective left.condition right.condition

/-- The JSON of a test is read back as the test. -/
theorem ofJson?_leafJson (leaf : Leaf) :
    Condition.ofJson? (leafJson leaf) = some (.test (.ofLeaf leaf)) := by
  cases leaf with
  | compare comparison key value => cases comparison <;> rfl
  | member negated key items => cases negated <;> rfl
  | absent negated key => rfl

/-- The JSON of a query is read back as the condition of the query. -/
theorem Query.ofJson?_json (query : Query) :
    Condition.ofJson? query.json = some query.condition := by
  induction query with
  | test leaf => exact ofJson?_leafJson leaf
  | join connective left right ihLeft ihRight =>
    have named : Condition.connective? (connectiveOperator connective) = some connective := by
      cases connective <;> rfl
    rw [Query.json, Condition.ofJson?, named, ihLeft, ihRight]
    rfl

/-- The condition of a query holds exactly if the query does. -/
theorem Query.holds_condition (truth : Test → Bool) (query : Query) :
    query.condition.holds truth = query.holds fun leaf => truth (.ofLeaf leaf) := by
  induction query with
  | test leaf => rfl
  | join connective left right ihLeft ihRight =>
    cases connective with
    | and => rw [condition, Condition.holds, ihLeft, ihRight, holds]
    | or => rw [condition, Condition.holds, ihLeft, ihRight, holds]

/-- Tests of a tree have opposite truth values if what they are read as has. -/
theorem Test.Complementary.ofLeaf {truth : Test → Bool} (complementary : Test.Complementary truth) :
    PortableFilter.Complementary fun leaf => truth (.ofLeaf leaf) where
  ne _ _ := complementary.ne _ _
  lte _ _ := complementary.lte _ _
  lt _ _ := complementary.lt _ _
  nin _ _ := complementary.nin _ _
  present _ := complementary.present _

/-- Every well-shaped tree is rendered, as JSON that is read as a condition without negations. The
condition holds exactly when the tree does, whatever the truth values of tests are, as long as
opposite tests have opposite ones. -/
theorem render_holds {expr : Expr} (shaped : expr.wellShaped) :
    ∃ text json condition, render expr = .ok text ∧ Json.read? text = some json ∧
      Condition.ofJson? json = some condition ∧
      ∀ truth : Test → Bool, Test.Complementary truth →
        condition.holds truth = expr.holds fun leaf => truth (.ofLeaf leaf) := by
  obtain ⟨query, written, valid, meaning⟩ :=
    ofExpr_of_shaped (expr.shaped_of_wellShaped shaped) false
  refine ⟨query.text, query.json, query.condition, ?_, query.read?_text valid,
    query.ofJson?_json, fun truth complementary => ?_⟩
  · rw [render_eq_map, written]
    rfl
  · rw [Query.holds_condition, meaning _ complementary.ofLeaf, Bool.bne_false]

/-- True of exactly one of every two opposite tests. -/
def Test.affirms : Test → Bool
  | compare comparison _ _ => comparison = .eq || comparison = .gt || comparison = .gte
  | member negated _ _ => !negated
  | present value _ => !value

/-- Exactly one of a test and its opposite is affirmed. -/
theorem Test.complementary_affirms : Test.Complementary Test.affirms where
  ne _ _ := rfl
  lte _ _ := rfl
  lt _ _ := rfl
  nin _ _ := rfl
  present _ := rfl

/-- Negations over connectives, a field that is named like a connective, and a text with quotes
are rendered with their meaning: under truth values that are opposite for opposite tests, the
condition holds as the tree does. -/
theorem render_holds_nested : ∃ expr : Expr, expr.wellShaped ∧
    ∃ text json condition, render expr = .ok text ∧ Json.read? text = some json ∧
      Condition.ofJson? json = some condition ∧ Test.Complementary Test.affirms ∧
      (expr.holds fun leaf => Test.affirms (.ofLeaf leaf)) ∧ condition.holds Test.affirms := by
  let expr := Expr.not (.group (.join .and
    (.expr (.compare .eq ⟨"'$and'"⟩ (.scalar (.text "a\"b\\"))))
    (.expr (.not (.expr (.join .or
      (.expr (.member false ⟨"x"⟩ (.ofScalars [.int (-1), .null])))
      (.group (.absent true ⟨"y"⟩))))))))
  have shaped : expr.wellShaped := by decide
  have holds : expr.holds fun leaf => Test.affirms (.ofLeaf leaf) := by decide
  obtain ⟨text, json, condition, rendered, isJson, isCondition, meaning⟩ := render_holds shaped
  refine ⟨expr, shaped, text, json, condition, rendered, isJson, isCondition,
    Test.complementary_affirms, holds, ?_⟩
  exact (meaning Test.affirms Test.complementary_affirms).trans holds

end PortableFilter.Document
