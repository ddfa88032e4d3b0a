import PortableFilter.Proofs.Graph.Meaning
import PortableFilter.Proofs.Precedence.Layered

/-! # Reading trees from graph conditions

A graph condition does not tell how a key was quoted, writes a test for being none of several values
as a negation, and writes a text that reads as a timestamp as that timestamp. `Expr.canonical` is
what is left of a tree then. Nothing else is lost: the canonical form of a tree that was read from a
text is read again from its graph condition, so two texts with one graph condition have the same
canonical form (`Graph.readExpr?_render`). -/

namespace PortableFilter

/-! ## Canonical trees -/

/-- A scalar in which a text that reads as a timestamp is the text of that timestamp. -/
def Scalar.normal : Scalar → Scalar
  | text value => text ((Timestamp.read? value).elim value Timestamp.toText)
  | scalar => scalar

namespace Value

mutual

/-- A value with normal scalars. -/
def normal : Value → Value
  | .scalar value => .scalar value.normal
  | .list items => .list (normalItems items)

def normalItems : List Value → List Value
  | [] => []
  | item :: items => normal item :: normalItems items

end

/-- The normal form of a flat list holds the normal forms of its scalars. -/
theorem normal_ofScalars (scalars : List Scalar) :
    (ofScalars scalars).normal = ofScalars (scalars.map Scalar.normal) := by
  have items : normalItems (scalars.map .scalar) = (scalars.map Scalar.normal).map .scalar := by
    induction scalars with
    | nil => rfl
    | cons value scalars ih =>
      rw [List.map_cons, normalItems, ih, normal, List.map_cons, List.map_cons]
  exact congrArg Value.list items

/-- A flat list determines its scalars. -/
theorem ofScalars_inj {left right : List Scalar} (same : ofScalars left = ofScalars right) :
    left = right := by
  have scalars := congrArg scalars? (Value.list.inj same)
  rw [scalars?_map_scalar, scalars?_map_scalar] at scalars
  exact Option.some.inj scalars

end Value

/-- A key that is written as the name of its field. -/
def Key.bare (key : Key) : Key := ⟨key.unquoted⟩

mutual

/-- A tree with bare keys and normal scalars, in which to be none of several values is not to be one
of them. -/
def Expr.canonical : Expr → Expr
  | .unary kind operand => .unary kind operand.canonical
  | .binary (.member true) left right =>
    .not (.expr (.binary (.member false) left.canonical right.canonical))
  | .binary kind left right => .binary kind left.canonical right.canonical

def Operand.canonical : Operand → Operand
  | .key key => .key key.bare
  | .value value => .value value.normal
  | .expr content => .expr content.canonical
  | .group content => .group content.canonical

end

/-! ## The reader -/

namespace Filter

variable {α β γ : Type}

/-- A filter with each test replaced, if all of them can be. -/
def traverse? (f : α → Option β) : Filter α → Option (Filter β)
  | leaf test => (f test).map leaf
  | join connective left right => do
    return join connective (← left.traverse? f) (← right.traverse? f)
  | not operand => (operand.traverse? f).map not
  | group content => (content.traverse? f).map group

/-- The operand that a filter with a given tree becomes. -/
def wrap : Filter α → Expr → Operand
  | group _, content => .group content
  | _, content => .expr content

/-- The tree of a filter, without a group around the whole. -/
def expr : Filter Leaf → Expr
  | leaf test => test.expr
  | join connective left right => .join connective (left.wrap left.expr) (right.wrap right.expr)
  | not operand => .not (operand.wrap operand.expr)
  | group content => content.expr

/-- A filter with filters in place of its tests is read back test by test. -/
theorem traverse?_expand {f : α → Filter β} {g : β → Option γ} {h : α → Filter γ}
    {filter : Filter α} (each : ∀ test ∈ filter.tests, (f test).traverse? g = some (h test)) :
    (filter.expand f).traverse? g = some (filter.expand h) := by
  induction filter with
  | leaf test => exact each test (List.mem_singleton_self test)
  | join connective left right ihLeft ihRight =>
    obtain ⟨eachLeft, eachRight⟩ := List.forall_mem_append.mp each
    rw [expand, traverse?, ihLeft eachLeft, ihRight eachRight]
    rfl
  | not operand ih =>
    rw [expand, traverse?, ih each]
    rfl
  | group content ih =>
    rw [expand, traverse?, ih each]
    rfl

end Filter

namespace Graph

/-- The scalar that a value in a condition denotes. A number with a point is not an integer. -/
def Argument.scalar? : Argument → Option Scalar
  | null => some .null
  | bool value => some (.bool value)
  | number literal =>
    if '.' ∈ literal.toList then (Binary64.read? literal.toList).map .number
    else (Reading.readInteger? literal.toList).map .int
  | text value => some (.text value)

/-- The key that names a property. -/
def key? (settings : GraphSettings) (property : String) : Option Key :=
  (Precedence.dropWord? settings.metadataPrefix.toList property.toList).map fun name =>
    ⟨String.ofList name⟩

/-- The test of a field that a test of a property is. -/
def Test.leaf? (settings : GraphSettings) : Test → Option Leaf
  | compare comparison property argument => do
    return .compare comparison (← key? settings property) (← argument.scalar?)
  | member property items => do
    return .member false (← key? settings property) (← items.mapM Argument.scalar?)
  | absent negated property => do return .absent negated (← key? settings property)

/-- The tree that a graph condition spells. -/
def readExpr? (settings : GraphSettings) (text : String) : Option Expr := do
  let condition ← read? settings.nodeAlias text
  let filter ← condition.traverse? (Test.leaf? settings)
  return filter.expr

/-! ## Tests are read again -/

/-- A scalar that can be written is read back from its argument in normal form. -/
theorem scalar?_argument {value : Scalar} (writable : value.IsWritable) :
    (argument value).scalar? = some value.normal := by
  cases value with
  | null | bool | text => rfl
  | date => exact writable.elim
  | int value =>
    obtain ⟨sign, digits, negative, spelled, isSign, signs, nonempty, numeric, -, denotes⟩ :=
      Decimal.toString_eq_signed value
    change Grammar.signed negative (Decimal.ofDigits digits) = value at denotes
    have whole : '.' ∉ (toString value).toList := by
      rw [spelled, List.mem_append]
      rintro (inSign | inDigits)
      · rcases signs with rfl | rfl
        · cases inSign
        · exact absurd inSign (by decide)
      · exact absurd (numeric '.' inDigits) (by decide)
    have read : Reading.readInteger? (toString value).toList = some value := by
      rw [Reading.readInteger?_eq_some_iff]
      refine ⟨sign, digits, [], negative, ?_, .single isSign, nonempty,
        List.all_eq_true.mpr numeric, .absent, ?_, ?_, denotes.symm⟩
      · rw [spelled, List.append_nil]
      · rw [denotes]
        exact writable.1
      · rw [denotes]
        exact writable.2
    rw [argument, Argument.scalar?, if_neg whole, read]
    rfl
  | number value =>
    obtain ⟨sign, whole, fraction, magnitude, spelled, -, pointed, read⟩ :=
      Binary64.read?_toPointedText writable
    have point : '.' ∈ value.toPointedText.toList := by
      rw [spelled, pointed.spelled]
      simp
    rw [argument, Argument.scalar?, if_pos point, read]
    rfl

theorem mapM_scalar?_argument {values : List Scalar}
    (writable : ∀ value ∈ values, value.IsWritable) :
    (values.map argument).mapM Argument.scalar? = some (values.map Scalar.normal) := by
  induction values with
  | nil => rfl
  | cons value values ih =>
    obtain ⟨here, later⟩ := List.forall_mem_cons.mp writable
    rw [List.map_cons, List.mapM_cons, scalar?_argument here, ih later]
    rfl

/-- A key is read back from its property without quotes. -/
theorem key?_property (settings : GraphSettings) (key : Key) :
    key? settings (property settings key) = some key.bare := by
  rw [key?, property, String.toList_append, Precedence.dropWord?_append, Option.map_some,
    String.ofList_toList]
  rfl

/-- What is read from the condition that a test is written as. -/
def canonicalTest : Leaf → Filter Leaf
  | .compare comparison key value => .leaf (.compare comparison key.bare value.normal)
  | .member false key items => .leaf (.member false key.bare (items.map Scalar.normal))
  | .member true key items => .not (.leaf (.member false key.bare (items.map Scalar.normal)))
  | .absent negated key => .leaf (.absent negated key.bare)

/-- A test that can be written is read back from its condition in canonical form. -/
theorem traverse?_condition (settings : GraphSettings) {leaf : Leaf}
    (writable : leaf.expr.IsWritableTest) :
    (condition settings leaf).traverse? (Test.leaf? settings) = some (canonicalTest leaf) := by
  generalize same : leaf.expr = expr at writable
  cases leaf with
  | compare comparison key value =>
    cases writable with
    | member | absent => cases same
    | compare _ writable =>
      cases same
      simp [condition, Filter.traverse?, Test.leaf?, key?_property, scalar?_argument writable,
        canonicalTest]
  | member negated key items =>
    cases writable with
    | compare | absent => cases same
    | @member _ _ values _ writable =>
      obtain ⟨-, -, sameValue⟩ := Expr.binary.inj same
      have sameItems := Value.ofScalars_inj (Operand.value.inj sameValue)
      subst sameItems
      have read := mapM_scalar?_argument writable
      cases negated <;>
        simp [condition, Filter.traverse?, Test.leaf?, key?_property, read, canonicalTest]
  | absent negated key =>
    simp [condition, Filter.traverse?, Test.leaf?, key?_property, canonicalTest]

/-! ## Trees are read again -/

/-- The canonical form of a test is that of its node. -/
theorem expr_canonicalTest (leaf : Leaf) :
    (canonicalTest leaf).expr = leaf.expr.canonical := by
  cases leaf with
  | compare | absent => rfl
  | member negated key items =>
    have list := Value.normal_ofScalars items
    cases negated <;>
      simp [canonicalTest, Filter.expr, Filter.wrap, Leaf.expr, Expr.member, Expr.canonical,
        Operand.canonical, list]

/-- Groups stay where they are when filters take the place of tests. -/
theorem expand_enclose {α β : Type} (operand : Operand) (f : α → Filter β) (filter : Filter α) :
    (operand.enclose filter).expand f = operand.enclose (filter.expand f) := by
  cases operand <;> rfl

/-- A group does not change the tree of a filter. -/
theorem expr_enclose (operand : Operand) (filter : Filter Leaf) :
    (operand.enclose filter).expr = filter.expr := by
  cases operand <;> rfl

/-- What is read of a tree is not a group as a whole. -/
theorem wrap_expand_of_checksAs {expr : Expr} {filter : Filter Leaf}
    (checks : expr.ChecksAs Expr.leaf filter) (content : Expr) :
    (filter.expand canonicalTest).wrap content = .expr content := by
  cases checks with
  | @test _ leaf =>
    cases leaf with
    | compare | absent => rfl
    | member negated => cases negated <;> rfl
  | not | join => rfl

/-- An operand in canonical form is a group where the operand is. -/
theorem wrap_enclose {operand : Operand} {content : Expr} {filter : Filter Leaf}
    (inside : operand.content? = some content) (checks : content.ChecksAs Expr.leaf filter) :
    (operand.enclose (filter.expand canonicalTest)).wrap content.canonical =
      operand.canonical := by
  cases operand with
  | key | value => cases inside
  | group =>
    cases inside
    rfl
  | expr =>
    cases inside
    exact wrap_expand_of_checksAs checks _

/-- The tree of what is read is the canonical form of the tree that was written. -/
theorem expr_expand_of_checksAs {expr : Expr} {filter : Filter Leaf}
    (checks : expr.ChecksAs Expr.leaf filter) :
    (filter.expand canonicalTest).expr = expr.canonical := by
  induction checks with
  | @test expr leaf _ passes =>
    obtain ⟨rfl, -⟩ := Expr.leaf_eq_ok_iff.mp passes
    exact expr_canonicalTest leaf
  | @not operand content filter inside checks ih =>
    rw [Filter.expand, expand_enclose, Filter.expr, expr_enclose, ih, wrap_enclose inside checks]
    rfl
  | @join connective left right first second _ _ inLeft inRight checksLeft checksRight ihLeft
      ihRight =>
    rw [Filter.expand, expand_enclose, expand_enclose, Filter.expr, expr_enclose, expr_enclose,
      ihLeft, ihRight, wrap_enclose inLeft checksLeft, wrap_enclose inRight checksRight]
    rfl

/-- The tests of what can be written can be written. -/
theorem isWritableTest_of_checksAs {phrase : Phrase} (writable : phrase.IsWritable)
    {filter : Filter Leaf} (checks : phrase.content.ChecksAs Expr.leaf filter) :
    ∀ leaf ∈ filter.tests, leaf.expr.IsWritableTest := by
  induction phrase generalizing filter with
  | test content =>
    have isTest := Precedence.isTest_kind_of_isWritableTest writable
    cases checks with
    | @test _ leaf _ passes =>
      obtain ⟨isLeaf, -⟩ := Expr.leaf_eq_ok_iff.mp passes
      intro other member
      rw [List.mem_singleton.mp member, ← isLeaf]
      exact writable
    | not | join => cases isTest
  | join connective left right ihLeft ihRight =>
    cases checks with
    | test isTest => cases isTest
    | join inLeft inRight checksLeft checksRight =>
      cases left.content?_operand.symm.trans inLeft
      cases right.content?_operand.symm.trans inRight
      rw [Filter.tests, Operand.tests_enclose, Operand.tests_enclose]
      exact List.forall_mem_append.mpr
        ⟨ihLeft writable.1 checksLeft, ihRight writable.2 checksRight⟩
  | not operand ih =>
    cases checks with
    | test isTest => cases isTest
    | not inside checks =>
      cases operand.content?_operand.symm.trans inside
      rw [Filter.tests, Operand.tests_enclose]
      exact ih writable checks
  | parens content ih => exact ih writable checks

/-- The canonical form of a tree that was read from a text is read again from its graph
condition. -/
theorem readExpr?_of_parse {settings : GraphSettings} {text condition : String} {expr : Expr}
    (parsed : Expr.parse text = .ok expr) (rendered : render settings expr = .ok condition) :
    readExpr? settings condition = some expr.canonical := by
  obtain ⟨phrase, fits, writable, -, rfl⟩ := Expr.exists_phrase_of_parse parsed
  rw [render_eq_map] at rendered
  obtain ⟨filter, checked, rfl⟩ := map_eq_ok_iff.mp rendered
  have checks := Expr.toFilter_eq_ok_iff.mp checked
  have isRead := @read?_text settings filter (Expr.valid_of_checksAs checks)
  have layered : Precedence.Layered (.chain .or) (filter.expand (Graph.condition settings)) := by
    refine Precedence.layered_expand (fun leaf => ?_)
      (Precedence.layered_of_enclose (Precedence.layered_of_fits fits writable checks))
    cases leaf with
    | compare | absent => exact .plain .leaf
    | member negated =>
      cases negated with
      | false => exact .plain .leaf
      | true => exact .not (.plain .leaf)
  have tests := Filter.traverse?_expand fun leaf member =>
    traverse?_condition settings (isWritableTest_of_checksAs writable checks leaf member)
  rw [Precedence.disjunction_reading layered] at isRead
  rw [readExpr?, isRead, Option.bind_eq_bind, Option.bind_some, tests]
  exact congrArg some (expr_expand_of_checksAs checks)

/-- The graph condition of a tree that was read from a text is read as the canonical form of the
tree. So texts with the same graph condition have trees with the same canonical form. -/
theorem readExpr?_render {settings : GraphSettings} {text condition : String} {expr : Expr}
    (parsed : Expr.parse text = .ok expr) (rendered : render settings expr = .ok condition) :
    readExpr? settings condition = some expr.canonical ∧
      ∀ otherText otherExpr, Expr.parse otherText = .ok otherExpr →
        render settings otherExpr = .ok condition → otherExpr.canonical = expr.canonical := by
  have isRead := readExpr?_of_parse parsed rendered
  refine ⟨isRead, fun otherText otherExpr otherParsed otherRendered => ?_⟩
  have otherRead := readExpr?_of_parse otherParsed otherRendered
  exact Option.some.inj (otherRead.symm.trans isRead)

/-- Keys with quotes and backquotes, words inside of texts, a number, a generous timestamp and a
test for being none of several values are read again under a metadata prefix with a backquote. -/
theorem readExpr?_render_nested :
    ∃ expr condition, Expr.parse
        "not (\"a` OR\" == 'x\" AND') || k nin [-1, 0.0, '+2024-3-01T10:15:00Z'] && b is null" =
          .ok expr ∧
      render { metadataPrefix := "m`." } expr = .ok condition ∧
      readExpr? { metadataPrefix := "m`." } condition = some expr.canonical ∧
      ∀ otherText otherExpr, Expr.parse otherText = .ok otherExpr →
        render { metadataPrefix := "m`." } otherExpr = .ok condition →
          otherExpr.canonical = expr.canonical := by
  have parsed : Expr.parse
      "not (\"a` OR\" == 'x\" AND') || k nin [-1, 0.0, '+2024-3-01T10:15:00Z'] && b is null" =
        .ok (.join .or
          (.expr (.not (.group (.compare .eq ⟨"\"a` OR\""⟩ (.scalar (.text "x\" AND"))))))
          (.expr (.join .and
            (.expr (.member true ⟨"k"⟩ (.ofScalars [.int (-1), .number ⟨false, 0⟩,
              .text "+2024-3-01T10:15:00Z"])))
            (.expr (.absent false ⟨"b"⟩))))) := by
    cbv
  have rendered : render { metadataPrefix := "m`." } (.join .or
      (.expr (.not (.group (.compare .eq ⟨"\"a` OR\""⟩ (.scalar (.text "x\" AND"))))))
      (.expr (.join .and
        (.expr (.member true ⟨"k"⟩ (.ofScalars [.int (-1), .number ⟨false, 0⟩,
          .text "+2024-3-01T10:15:00Z"])))
        (.expr (.absent false ⟨"b"⟩))))) =
      .ok ("NOT (node.`m``.a`` OR` = \"x\\\" AND\") OR NOT node.`m``.k` IN " ++
        "[-1,0.0,\"2024-03-01T10:15:00Z\"] AND node.`m``.b` IS NULL") := by
    decide +kernel
  exact ⟨_, _, parsed, rendered, readExpr?_render parsed rendered⟩

end Graph

end PortableFilter
