import PortableFilter.Proofs.Binary64.RoundTrip
import PortableFilter.Proofs.Decimal
import PortableFilter.Proofs.Expr.Checked
import PortableFilter.Proofs.Graph.Reading
import PortableFilter.Proofs.Rendering
import PortableFilter.Proofs.ValueStyle

/-! # When graph conditions mean what their filters mean

The graph condition of a well-shaped tree can be read for every name of the node and of its
properties, but parentheses stand in it only where the tree has groups. So a connective that is no
group may be torn apart by what stands around it. Trees of a faithful form keep their meaning
whatever their tests are, and no other form has this property (`keepsMeaning_iff_faithful`). -/

namespace PortableFilter

open Precedence

namespace Filter

variable {α β : Type}

/-- If every test is replaced by one operand, then the alternatives are those of the tests. -/
theorem flat_map_expand {f : α → Filter β} {truth : β → Bool}
    (single : ∀ test, flat ((f test).map truth) = one ((f test).holds truth)) (filter : Filter α) :
    flat ((filter.expand f).map truth) = flat (filter.map fun test => (f test).holds truth) := by
  induction filter with
  | leaf test => exact single test
  | join connective left right ihLeft ihRight =>
    rw [flat] at ihLeft ihRight ⊢
    rw [expand, map, alternatives, ihLeft, ihRight]
    rfl
  | not operand ih => exact congrArg (modifyFirst Bool.not) ih
  | group content ih => exact congrArg (fun inside => one (value inside)) ih

end Filter

namespace Graph

/-! ## What a test is written as -/

/-- The value that a scalar is written as. A text that reads as a timestamp stands for that
timestamp. -/
def argument : Scalar → Argument
  | .null => .null
  | .bool value => .bool value
  | .int value => .number (toString value)
  | .number value => .number value.toPointedText
  | .text value => .text ((Timestamp.read? value).elim value Timestamp.toText)
  | .date value => .text value.toText

/-- The property that a key names. -/
def property (settings : GraphSettings) (key : Key) : String :=
  settings.metadataPrefix ++ key.unquoted

/-- The condition that a test is written as. There is no test for being none of the items of a list,
only the negation of the test for being one of them. -/
def condition (settings : GraphSettings) : Leaf → Filter Test
  | .compare comparison key value =>
    .leaf (.compare comparison (property settings key) (argument value))
  | .member false key items => .leaf (.member (property settings key) (items.map argument))
  | .member true key items => .not (.leaf (.member (property settings key) (items.map argument)))
  | .absent negated key => .leaf (.absent negated (property settings key))

/-- Whether a test holds, given which tests of properties do. -/
def leafTruth (settings : GraphSettings) (truth : Test → Bool) (leaf : Leaf) : Bool :=
  (condition settings leaf).holds truth

/-- A name with its quotes doubled is spelled character by character. -/
theorem doubled_toList (text : String) :
    (Text.doubled '\x60' text).toList = text.toList.flatMap nameChar := by
  rw [Text.doubled, String.toList_ofList]
  rfl

/-- A key is spelled as a property of the node. -/
theorem keyText_toList (settings : GraphSettings) (key : Key) :
    (keyText settings key).toList = propertyChars settings.nodeAlias (property settings key) := by
  simp [keyText, doubled_toList, propertyChars, opening, property]

/-- A scalar is spelled as an argument. -/
theorem scalarText_toList (value : Scalar) :
    (style.scalarText value).toList = (argument value).chars := by
  cases value with
  | null => rfl
  | bool value => cases value <;> rfl
  | int | number => rw [ValueStyle.scalarText, argument, Argument.chars]
  | text value =>
    rw [ValueStyle.scalarText, argument, Argument.chars]
    cases Timestamp.read? value <;> simp [style, Text.doubleQuoted]
  | date value =>
    rw [ValueStyle.scalarText, argument, Argument.chars]
    simp [style, Text.doubleQuoted]

/-- A list of scalars is spelled as a list of arguments. -/
theorem scalarsText_toList (values : List Scalar) :
    (style.scalarsText values).toList = listChars (values.map argument) := by
  cases values with
  | nil => rfl
  | cons value values =>
    rw [ValueStyle.scalarsText_cons_toList scalarText_toList, List.map_cons, listChars, moreChars,
      List.flatMap_map]
    rfl

/-- The text of a test spells its condition. -/
theorem leafText_toList (settings : GraphSettings) (leaf : Leaf) :
    (leafText settings leaf).toList =
      (condition settings leaf).chars (Test.chars settings.nodeAlias) := by
  cases leaf with
  | compare comparison key value =>
    rw [condition, Filter.chars_leaf, leafText]
    simp [Test.chars, predicateChars, Test.property, keyText_toList, scalarText_toList]
  | member negated key items =>
    cases negated with
    | false =>
      rw [condition, Filter.chars_leaf, leafText]
      simp [Test.chars, predicateChars, Test.property, keyText_toList, scalarsText_toList]
    | true =>
      rw [condition, Filter.chars_not, Filter.chars_leaf, leafText]
      simp [Test.chars, predicateChars, Test.property, keyText_toList, scalarsText_toList,
        Mark.chars]
  | absent negated key =>
    rw [condition, Filter.chars_leaf, leafText]
    cases negated <;>
      simp [Test.chars, predicateChars, absenceWords, Test.property, keyText_toList]

theorem isNumeral_of_isDigit {c : Char} (digit : c.isDigit) : isNumeral c := by
  simp [isNumeral, digit]

theorem isNumeral_of_mem_sign {sign : List Char} (signs : sign = [] ∨ sign = ['-']) :
    ∀ c ∈ sign, isNumeral c := by
  rcases signs with rfl | rfl
  · exact List.forall_mem_nil _
  · exact List.forall_mem_singleton.mpr (by decide)

/-- The argument of a finite scalar is well-formed. -/
theorem wellFormed_argument {value : Scalar} (finite : value.isFinite) :
    (argument value).WellFormed := by
  cases value with
  | null | bool | text | date => trivial
  | int value =>
    obtain ⟨sign, digits, negative, spelled, -, signs, nonempty, numeric, -, -⟩ :=
      Decimal.toString_eq_signed value
    rw [argument, Argument.WellFormed, spelled]
    refine ⟨List.append_ne_nil_of_right_ne_nil sign nonempty, List.forall_mem_append.mpr ?_⟩
    exact ⟨isNumeral_of_mem_sign signs, fun c member => isNumeral_of_isDigit (numeric c member)⟩
  | number value =>
    obtain ⟨sign, whole, fraction, magnitude, spelled, signs, pointed, -⟩ :=
      Binary64.read?_toPointedText finite
    rw [argument, Argument.WellFormed, spelled, pointed.spelled]
    refine ⟨by simp, List.forall_mem_append.mpr ⟨isNumeral_of_mem_sign signs, ?_⟩⟩
    refine List.forall_mem_append.mpr ⟨?_, List.forall_mem_cons.mpr ⟨by decide, ?_⟩⟩
    · exact fun c member => isNumeral_of_isDigit (pointed.whole_digits c member)
    · exact fun c member => isNumeral_of_isDigit (pointed.fraction_digits c member)

/-- The condition of a valid test consists of well-formed tests. -/
theorem wellFormed_of_mem_condition {settings : GraphSettings} {leaf : Leaf} (valid : leaf.Valid)
    {test : Test} (member : test ∈ (condition settings leaf).tests) : test.WellFormed := by
  cases leaf with
  | compare comparison key value =>
    rw [List.mem_singleton.mp member]
    exact wellFormed_argument valid.2.2
  | member negated key items =>
    have items : ∀ item ∈ items.map argument, item.WellFormed := by
      intro item isItem
      obtain ⟨value, isValue, rfl⟩ := List.mem_map.mp isItem
      exact wellFormed_argument (List.all_eq_true.mp valid.2 value isValue)
    cases negated <;>
    · rw [List.mem_singleton.mp member]
      exact items
  | absent negated key =>
    rw [List.mem_singleton.mp member]
    trivial

/-! ## What the text of a tree is read as -/

/-- The text of a filter is that of the conditions its tests are written as. -/
theorem text_toList (settings : GraphSettings) (filter : Filter Leaf) :
    ((filter.map (leafText settings)).text false).toList =
      (filter.expand (condition settings)).chars (Test.chars settings.nodeAlias) := by
  induction filter with
  | leaf leaf => exact leafText_toList settings leaf
  | join connective left right ihLeft ihRight =>
    rw [Filter.map, Filter.text, Filter.bracketedText_false, Filter.bracketedText_false,
      Filter.expand, Filter.chars_join, ← ihLeft, ← ihRight]
    cases connective <;> simp [Connective.word, Mark.chars]
  | not operand ih =>
    rw [Filter.map, Filter.text, Filter.bracketedText_false, Filter.expand, Filter.chars_not, ← ih]
    simp [Mark.chars]
  | group content ih =>
    rw [Filter.map, Filter.text, Filter.expand, Filter.chars_group, ← ih]
    simp [Text.parenthesized, Mark.chars]

/-- A condition counts as one operand that holds exactly if its test does. -/
theorem flat_condition (settings : GraphSettings) (truth : Test → Bool) (leaf : Leaf) :
    flat ((condition settings leaf).map truth) = one (leafTruth settings truth leaf) := by
  cases leaf with
  | compare | absent => rfl
  | member negated => cases negated <;> rfl

/-- The text of a filter of valid tests is read as the alternatives of the conditions its tests are
written as. -/
theorem read?_text {settings : GraphSettings} {filter : Filter Leaf}
    (valid : ∀ leaf ∈ filter.tests, leaf.Valid) :
    read? settings.nodeAlias ((filter.map (leafText settings)).text false) =
      some (disjunction (reading (filter.expand (condition settings)))) := by
  rw [read?, text_toList]
  refine ofText?_chars fun test member => ?_
  obtain ⟨leaf, isLeaf, inside⟩ := Filter.exists_mem_tests_of_expand member
  exact readsTest settings.nodeAlias (wellFormed_of_mem_condition (valid leaf isLeaf) inside)

/-- Every well-shaped tree is rendered as a text that can be read. What is read has the alternatives
of the filter that the tree is checked as. -/
theorem exists_read {settings : GraphSettings} {expr : Expr} {filter : Filter Leaf}
    (checked : expr.toFilter Expr.leaf = .ok filter) (valid : ∀ leaf ∈ filter.tests, leaf.Valid) :
    ∃ text read, render settings expr = .ok text ∧ read? settings.nodeAlias text = some read ∧
      ∀ truth, read.holds truth = value (flat (filter.map (leafTruth settings truth))) := by
  refine ⟨(filter.map (leafText settings)).text false,
    disjunction (reading (filter.expand (condition settings))), ?_, read?_text valid,
    fun truth => ?_⟩
  · rw [render_eq_map, checked]
    rfl
  rw [holds_reading, Filter.flat_map_expand (flat_condition settings truth)]
  rfl

/-- The text of a tree is read as a condition that holds exactly when the tree does, whichever tests
hold. -/
def KeepsMeaning (settings : GraphSettings) (expr : Expr) : Prop :=
  ∃ text read, render settings expr = .ok text ∧ read? settings.nodeAlias text = some read ∧
    ∀ truth, read.holds truth = expr.holds (leafTruth settings truth)

/-- A tree whose form is read as it is meant keeps its meaning. -/
theorem keepsMeaning_of_faithful (settings : GraphSettings) {expr : Expr} (shaped : expr.Shaped)
    (faithful : expr.form.faithful false) : KeepsMeaning settings expr := by
  obtain ⟨filter, checked, valid, sameForm, sameTruth⟩ := Expr.exists_toFilter shaped
  obtain ⟨text, read, rendered, isRead, meaning⟩ := @exists_read settings expr filter checked valid
  refine ⟨text, read, rendered, isRead, fun truth => ?_⟩
  rw [← sameForm, Filter.form, Filter.faithful_map] at faithful
  rw [← Filter.faithful_map (leafTruth settings truth)] at faithful
  rw [meaning, ← behind_false, value_behind_of_faithful faithful, Bool.false_bne, Filter.holds_map,
    ← sameTruth]
  rfl

/-- A tree does not keep its meaning if its filter has another truth value than its alternatives,
for some truth values of tests. -/
theorem not_keepsMeaning_of_value_ne {settings : GraphSettings} {expr : Expr}
    (shaped : expr.Shaped) {filter : Filter Leaf} (checked : expr.toFilter Expr.leaf = .ok filter)
    {truth : Test → Bool} {labels : Filter Bool}
    (labelled : filter.map (leafTruth settings truth) = labels)
    (differs : value (flat labels) ≠ labels.holds id) : ¬ KeepsMeaning settings expr := by
  rintro ⟨text, read, rendered, isRead, meaning⟩
  obtain ⟨same, sameChecked, valid, -, sameTruth⟩ := Expr.exists_toFilter shaped
  cases checked.symm.trans sameChecked
  obtain ⟨_, _, sameRendered, sameRead, alternatives⟩ :=
    @exists_read settings expr filter checked valid
  cases rendered.symm.trans sameRendered
  cases isRead.symm.trans sameRead
  refine differs ?_
  rw [← labelled, ← alternatives, meaning, ← sameTruth, Filter.holds_map]
  rfl

/-- A test for each truth value: that a field is absent, and that it is present. -/
def labelTest (label : Bool) : Leaf := .absent (!label) ⟨"x"⟩

theorem valid_labelTest (label : Bool) : (labelTest label).Valid :=
  (by decide : (Key.mk "x").unquoted ≠ "")

/-- The truth values of tests if every field is absent. -/
def absentTruth : Test → Bool
  | .absent negated _ => !negated
  | _ => false

theorem leafTruth_labelTest (settings : GraphSettings) (label : Bool) :
    leafTruth settings absentTruth (labelTest label) = label := Bool.not_not label

/-- Some tree with a form that is not faithful does not keep its meaning. -/
theorem exists_not_keepsMeaning (settings : GraphSettings) {expr : Expr} (shaped : expr.Shaped)
    (unfaithful : expr.form.faithful false = false) :
    ∃ other : Expr, other.Shaped ∧ other.form = expr.form ∧ ¬ KeepsMeaning settings other := by
  obtain ⟨labels, sameForm, differs⟩ := fails_of_unfaithful unfaithful
  rw [behind_false, Bool.false_bne] at differs
  obtain ⟨other, otherShaped, otherForm, checked⟩ :=
    Expr.exists_of_form shaped valid_labelTest sameForm
  refine ⟨other, otherShaped, otherForm, ?_⟩
  exact not_keepsMeaning_of_value_ne otherShaped checked
    (Filter.map_map_cancel (leafTruth_labelTest settings) labels) differs

/-- Every well-shaped tree is rendered as a text that can be read. All trees of its form keep their
meaning if and only if the form is faithful. -/
theorem keepsMeaning_iff_faithful (settings : GraphSettings) {expr : Expr}
    (shaped : expr.wellShaped) :
    (∃ text read, render settings expr = .ok text ∧ read? settings.nodeAlias text = some read) ∧
      ((∀ other : Expr, other.wellShaped → other.form = expr.form → KeepsMeaning settings other) ↔
        expr.form.faithful false) := by
  have isShaped := expr.shaped_of_wellShaped shaped
  refine ⟨?_, fun kept => ?_, fun faithful other otherShaped sameForm => ?_⟩
  · obtain ⟨filter, checked, valid, -, -⟩ := Expr.exists_toFilter isShaped
    obtain ⟨text, read, rendered, isRead, -⟩ := @exists_read settings expr filter checked valid
    exact ⟨text, read, rendered, isRead⟩
  · cases faithful : expr.form.faithful false with
    | true => rfl
    | false =>
      obtain ⟨other, otherShaped, sameForm, notKept⟩ :=
        exists_not_keepsMeaning settings isShaped faithful
      exact absurd (kept other (Expr.wellShaped_of_shaped otherShaped) sameForm) notKept
  · rw [← sameForm] at faithful
    exact keepsMeaning_of_faithful settings (other.shaped_of_wellShaped otherShaped) faithful

/-- Bare operands of "and" that contain no "or", and a connective behind two bare negations, keep
their meaning for the default settings. -/
theorem keepsMeaning_iff_faithful_nested : ∃ expr : Expr, expr.wellShaped ∧
    (∃ text read, render {} expr = .ok text ∧ read? "node" text = some read) ∧
      ((∀ other : Expr, other.wellShaped → other.form = expr.form → KeepsMeaning {} other) ↔
        expr.form.faithful false) := by
  have shaped : (Expr.join .and
      (.expr (.not (.expr (.not (.expr (.join .and
        (.expr (.compare .eq ⟨"a"⟩ (.scalar (.text "x`\"\\"))))
        (.group (.join .or
          (.expr (.member true ⟨"NOT b"⟩ (.ofScalars [.int (-1), .null])))
          (.expr (.absent true ⟨"c"⟩))))))))))
      (.expr (.not (.expr (.compare .lt ⟨"`d`"⟩ (.scalar (.int 3))))))).wellShaped := by
    decide
  exact ⟨_, shaped, keepsMeaning_iff_faithful {} shaped⟩

/-- Two alternatives joined to a third test, without a group around them. -/
def bareOr : Expr :=
  .join .and
    (.expr (.join .or (.expr (.compare .eq ⟨"a"⟩ (.scalar (.int 1))))
      (.expr (.compare .eq ⟨"b"⟩ (.scalar (.int 2))))))
    (.expr (.compare .eq ⟨"c"⟩ (.scalar (.int 3))))

/-- An "or" in an operand of "and" that is no group is torn apart: only its second alternative is
joined to the other operand. -/
theorem not_keepsMeaning_bareOr : bareOr.wellShaped ∧
    render {} bareOr =
      .ok "node.`metadata.a` = 1 OR node.`metadata.b` = 2 AND node.`metadata.c` = 3" ∧
    ¬ KeepsMeaning {} bareOr := by
  have shaped : bareOr.wellShaped := by decide
  have labelled : (Filter.join .and
      (.join .or (.leaf (.compare .eq ⟨"a"⟩ (.int 1))) (.leaf (.compare .eq ⟨"b"⟩ (.int 2))))
      (.leaf (.compare .eq ⟨"c"⟩ (.int 3)))).map
        (leafTruth {} fun test => test.property = "metadata.a") =
      .join .and (.join .or (.leaf true) (.leaf false)) (.leaf false) := by
    decide
  refine ⟨shaped, ?_, ?_⟩
  · rw [render_eq_map]
    decide +kernel
  exact not_keepsMeaning_of_value_ne (bareOr.shaped_of_wellShaped shaped) rfl labelled (by decide)

end Graph

end PortableFilter
