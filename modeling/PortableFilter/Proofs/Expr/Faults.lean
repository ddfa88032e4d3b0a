import PortableFilter.Proofs.Expr.Nodes
import PortableFilter.Proofs.Expr.RoundTrip

/-! # Which rules of shape a filter that was read breaks

Reading builds nodes with the operands that their kinds ask for, lists without lists in them, and
finite numbers. Two rules of shape are left to break: a quoted key can be empty, and null can be
asked for its order (`Expr.check_of_isReadable`). These two decide whether a filter that was read
can be rendered, and they are what an error says (`Settings.render_of_parse`). -/

namespace PortableFilter

open Token

/-- The empty text in quotes of either kind. -/
def Key.IsEmptyLiteral (key : Key) : Prop := key.raw = "''" ∨ key.raw = "\"\""

namespace Expr

/-- A test of a field whose name is the empty text in quotes. -/
def IsNameless (node : Expr) : Prop :=
  node.kind.isTest ∧ ∃ key, node.left = .key key ∧ key.IsEmptyLiteral

/-- A comparison that asks for the order of a field and null. -/
def OrdersNull (node : Expr) : Prop :=
  ∃ comparison ∈ [Comparison.gt, .gte, .lt, .lte], ∃ key,
    node = .compare comparison key (.scalar .null)

/-- A node as reading yields it. -/
inductive IsReadable : Expr → Prop where
  | test {node : Expr} (writable : node.IsWritableTest) : IsReadable node
  | not {operand : Operand} {content : Expr} (inside : operand.content? = some content) :
      IsReadable (.unary .not operand)
  | join {connective : Connective} {left right : Operand} {first second : Expr}
      (inLeft : left.content? = some first) (inRight : right.content? = some second) :
      IsReadable (.binary (.join connective) left right)

end Expr

/-- A path starts as a name does. -/
theorem Token.IsPath.exists_startsName {path : List Char} (isPath : IsPath path) :
    ∃ first rest, path = first :: rest ∧ Text.startsName first := by
  induction isPath with
  | @name word named =>
    have isWord := named.1
    cases word with
    | nil => cases isWord
    | cons first rest =>
      rw [Token.isWord, Bool.and_eq_true] at isWord
      exact ⟨first, rest, rfl, isWord.1⟩
  | dotted _ _ ih =>
    obtain ⟨first, rest, rfl, starts⟩ := ih
    exact ⟨first, _, List.cons_append, starts⟩

namespace Key

/-- A path has no quotes, so it stands for itself and is not empty. -/
theorem unquoted_of_isPath {key : Key} (isPath : IsPath key.raw.toList) :
    key.unquoted = key.raw ∧ key.raw ≠ "" ∧ ¬ key.IsEmptyLiteral := by
  obtain ⟨first, rest, spelled, starts⟩ := isPath.exists_startsName
  have noQuote : ¬ (first = '"' ∨ first = '\'') := by
    rintro (rfl | rfl) <;> exact absurd starts (by decide)
  refine ⟨?_, ?_, ?_⟩
  · rw [unquoted, spelled, betweenQuotes?, if_neg fun quoted => noQuote quoted.1]
  · intro empty
    rw [empty] at spelled
    cases spelled
  · rintro (literal | literal) <;> rw [literal] at spelled <;> cases spelled <;>
      exact absurd starts (by decide)

/-- A literal stands for nothing exactly if there is nothing between its quotes. -/
theorem unquoted_of_isLiteral {key : Key} (literal : IsLiteral key.raw.toList) :
    key.unquoted = "" ↔ key.IsEmptyLiteral := by
  obtain ⟨quote, inside, spelled, quotes, -, -⟩ := literal
  have written : key.raw = String.ofList (quote :: (inside ++ [quote])) := by
    rw [← spelled, String.ofList_toList]
  rw [unquoted_of_toList spelled quotes]
  constructor
  · intro empty
    have nothing : inside = [] := by
      rw [← String.toList_ofList (l := inside), empty, String.toList_empty]
    subst nothing
    rcases quotes with rfl | rfl
    · exact .inr written
    · exact .inl written
  · intro empty
    have two : key.raw.toList.length = 2 := by
      rcases empty with empty | empty <;> rw [empty] <;> rfl
    rw [spelled, List.length_cons, List.length_append, List.length_singleton] at two
    rw [List.length_eq_zero_iff.mp (by omega : inside.length = 0)]

/-- The name of a field is empty exactly if it was written as the empty text. -/
theorem unquoted_eq_empty_iff {key : Key} (writable : key.IsWritable) :
    key.unquoted = "" ↔ key.IsEmptyLiteral := by
  rcases writable with isPath | literal
  · obtain ⟨same, nonempty, noLiteral⟩ := unquoted_of_isPath isPath
    rw [same]
    exact ⟨fun empty => absurd empty nonempty, fun empty => absurd empty noLiteral⟩
  · exact unquoted_of_isLiteral literal

end Key

namespace Expr

/-- Nothing is reported for a valid test. -/
theorem check_of_valid {leaf : Leaf} (valid : leaf.Valid) : leaf.expr.check = .ok () :=
  checks_iff_check_eq_ok.mp (Leaf.checks_expr valid)

/-- A key that names nothing is what the check of a test finds first. -/
theorem check_of_unquoted_eq_empty {node : Expr} {key : Key} (writable : node.IsWritableTest)
    (onLeft : node.left = .key key) (empty : key.unquoted = "") :
    node.check = .error (.malformed node.kind .emptyKey) := by
  have refused : ∀ kind : Kind, kind.keyOperand (.key key) = .error (.malformed kind .emptyKey) :=
    fun kind => if_pos empty
  cases writable with
  | compare | member | absent =>
    cases onLeft
    simp only [check, comparisonOperands, absenceKey, compare, member, absent, kind, left, right?,
      refused]
    rfl

/-- For a named key that is ordered against null, exactly that is reported. -/
theorem check_of_ordersNull {node : Expr} {key : Key} (ordered : node.OrdersNull)
    (onLeft : node.left = .key key) (named : key.unquoted ≠ "") :
    node.check = .error (.malformed node.kind .orderedNull) := by
  obtain ⟨comparison, refuses, other, rfl⟩ := ordered
  cases onLeft
  have accepted : (Kind.compare comparison).keyOperand (.key key) = .ok key := if_neg named
  simp only [check, comparisonOperands, compare, kind, left, right?, accepted]
  simp only [List.mem_cons, List.not_mem_nil, or_false] at refuses
  rcases refuses with rfl | rfl | rfl | rfl <;> rfl

/-- A scalar that can be written is finite. -/
theorem isFinite_of_isWritable {value : Scalar} (writable : value.IsWritable) : value.isFinite := by
  cases value with
  | number => exact writable
  | null | bool | int | text | date => rfl

/-- A test that can be written is a valid one, unless it has no name or asks null for its order. -/
theorem exists_leaf_of_isWritableTest {node : Expr} (writable : node.IsWritableTest) :
    ∃ (leaf : Leaf) (key : Key), node = leaf.expr ∧ node.left = .key key ∧ key.IsWritable ∧
      (key.unquoted ≠ "" → ¬ node.OrdersNull → leaf.Valid) := by
  cases writable with
  | @compare comparison key value named writable =>
    refine ⟨.compare comparison key value, key, rfl, rfl, named, fun nonempty unordered => ?_⟩
    refine ⟨nonempty, fun isNull => ?_, isFinite_of_isWritable writable⟩
    subst isNull
    cases comparison with
    | eq | ne => rfl
    | gt | gte | lt | lte => exact absurd ⟨_, by decide, key, rfl⟩ unordered
  | @member negated key values named writable =>
    refine ⟨.member negated key values, key, rfl, rfl, named, fun nonempty _ => ⟨nonempty, ?_⟩⟩
    exact List.all_eq_true.mpr fun value listed => isFinite_of_isWritable (writable value listed)
  | @absent negated key named =>
    exact ⟨.absent negated key, key, rfl, rfl, named, fun nonempty _ => nonempty⟩

/-- A node that was read breaks no rule of shape but two. -/
theorem check_of_isReadable {node : Expr} (readable : node.IsReadable) :
    (node.check = .ok () ∧ ¬ node.IsNameless ∧ ¬ node.OrdersNull) ∨
      (node.check = .error (.malformed node.kind .emptyKey) ∧ node.IsNameless) ∨
      (node.check = .error (.malformed node.kind .orderedNull) ∧ node.OrdersNull) := by
  cases readable with
  | test writable =>
    have isTest : node.kind.isTest := by
      cases writable <;> rfl
    obtain ⟨leaf, key, isLeaf, onLeft, named, valid⟩ := exists_leaf_of_isWritableTest writable
    by_cases empty : key.unquoted = ""
    · refine .inr (.inl ⟨check_of_unquoted_eq_empty writable onLeft empty, isTest, key, onLeft, ?_⟩)
      exact (Key.unquoted_eq_empty_iff named).mp empty
    by_cases ordered : node.OrdersNull
    · exact .inr (.inr ⟨check_of_ordersNull ordered onLeft empty, ordered⟩)
    · refine .inl ⟨isLeaf ▸ check_of_valid (valid empty ordered), ?_, ordered⟩
      rintro ⟨-, other, same, literal⟩
      cases onLeft.symm.trans same
      exact empty ((Key.unquoted_eq_empty_iff named).mpr literal)
  | not inside =>
    refine .inl ⟨?_, ?_, ?_⟩
    · simp [check, kind, negationOperand, right?, left, inside, Except.map]
    · rintro ⟨isTest, -⟩
      cases isTest
    · rintro ⟨comparison, -, key, same⟩
      cases same
  | join inLeft inRight =>
    refine .inl ⟨?_, ?_, ?_⟩
    · simp [check, kind, joinOperands, right?, left, inLeft, inRight, Except.map]
    · rintro ⟨isTest, -⟩
      cases isTest
    · rintro ⟨comparison, -, key, same⟩
      cases same

/-- The opposite of a node that can be read can be read too. -/
theorem isReadable_opposite {node : Expr} (readable : node.IsReadable) :
    node.opposite.IsReadable := by
  cases readable with
  | test writable =>
    cases writable with
    | compare named writable => exact .test (.compare named writable)
    | member named writable => exact .test (.member named writable)
    | absent named => exact .test (.absent named)
  | not inside => exact .not inside
  | join inLeft inRight => exact .join inLeft inRight

end Expr

/-- An operand has the nodes of its content. -/
theorem Operand.nodes_of_content {operand : Operand} {content : Expr}
    (inside : operand.content? = some content) : operand.nodes = content.nodes := by
  cases operand with
  | key | value => cases inside
  | expr | group =>
    cases inside
    rfl

namespace Phrase

/-- Every node of a tree that was read is one that reading yields. -/
theorem isReadable_of_mem_nodes {phrase : Phrase} (writable : phrase.IsWritable) :
    ∀ node ∈ phrase.content.nodes, node.IsReadable := by
  induction phrase with
  | test content =>
    have alone : content.nodes = [content] := by
      cases writable <;> rfl
    intro node member
    change node ∈ content.nodes at member
    rw [alone, List.mem_singleton] at member
    rw [member]
    exact .test writable
  | join connective left right ihLeft ihRight =>
    change ∀ node ∈ (Expr.join connective left.operand right.operand).nodes, _
    rw [Expr.join, Expr.nodes, Operand.nodes_of_content left.content?_operand,
      Operand.nodes_of_content right.content?_operand, List.forall_mem_cons,
      List.forall_mem_append]
    exact ⟨.join left.content?_operand right.content?_operand, ihLeft writable.1,
      ihRight writable.2⟩
  | not operand ih =>
    change ∀ node ∈ (Expr.not operand.operand).nodes, _
    rw [Expr.not, Expr.nodes, Operand.nodes_of_content operand.content?_operand,
      List.forall_mem_cons]
    exact ⟨.not operand.content?_operand, ih writable⟩
  | parens content ih => exact ih writable

/-- Nothing is cut from what can be written. -/
theorem pruned_content {phrase : Phrase} (writable : phrase.IsWritable) (negated : Bool) :
    phrase.content.pruned negated = phrase.content := by
  induction phrase generalizing negated with
  | test content => cases writable <;> rfl
  | join connective left right ihLeft ihRight =>
    change (Expr.join connective left.operand right.operand).pruned negated = _
    rw [Expr.join, Expr.pruned,
      Operand.pruned_of_content left.content?_operand (ihLeft writable.1 _),
      Operand.pruned_of_content right.content?_operand (ihRight writable.2 _)]
    rfl
  | not operand ih =>
    change (Expr.not operand.operand).pruned negated = _
    rw [Expr.not, Expr.pruned, Operand.pruned_of_content operand.content?_operand (ih writable _)]
    rfl
  | parens content ih => exact ih writable negated

end Phrase

namespace Expr

/-- An error that is due to one of two rules of shape, at a node of a tree. -/
def Explains (expr : Expr) (error : ConvertError) : Prop :=
  ∃ node ∈ expr.nodes, ∃ kind, (kind = node.kind ∨ kind = node.kind.complement) ∧
    ((error = .malformed kind .emptyKey ∧ node.IsNameless) ∨
      (error = .malformed kind .orderedNull ∧ node.OrdersNull))

theorem isNameless_of_opposite {node : Expr} (nameless : node.opposite.IsNameless) :
    node.IsNameless := by
  obtain ⟨isTest, key, onLeft, literal⟩ := nameless
  refine ⟨?_, key, ?_, literal⟩
  · have again := isTest_kind_opposite isTest
    rwa [opposite_opposite] at again
  · cases node <;> exact onLeft

/-- The opposite of an order against null is one too. -/
theorem ordersNull_opposite {node : Expr} (ordered : node.OrdersNull) :
    node.opposite.OrdersNull := by
  obtain ⟨comparison, refuses, key, rfl⟩ := ordered
  refine ⟨comparison.complement, ?_, key, rfl⟩
  simp only [List.mem_cons, List.not_mem_nil, or_false] at refuses
  rcases refuses with rfl | rfl | rfl | rfl <;> decide

/-- What is reported for a node that can be read is explained. -/
theorem explains_of_check {expr node : Expr} (member : node ∈ expr.nodes)
    (readable : node.IsReadable) {error : ConvertError} (failed : node.check = .error error) :
    expr.Explains error := by
  refine ⟨node, member, node.kind, .inl rfl, ?_⟩
  rcases check_of_isReadable readable with ⟨passed, -⟩ | ⟨broken, nameless⟩ | ⟨broken, ordered⟩
  · cases passed.symm.trans failed
  · cases broken.symm.trans failed
    exact .inl ⟨rfl, nameless⟩
  · cases broken.symm.trans failed
    exact .inr ⟨rfl, ordered⟩

theorem explains_of_check_opposite {expr node : Expr} (member : node ∈ expr.nodes)
    (readable : node.IsReadable) {error : ConvertError}
    (failed : node.opposite.check = .error error) : expr.Explains error := by
  have kind : node.opposite.kind = node.kind.complement := by
    cases node <;> rfl
  refine ⟨node, member, node.kind.complement, .inr rfl, ?_⟩
  rcases check_of_isReadable (isReadable_opposite readable) with
    ⟨passed, -⟩ | ⟨broken, nameless⟩ | ⟨broken, ordered⟩
  · cases passed.symm.trans failed
  · cases broken.symm.trans failed
    exact .inl ⟨by rw [kind], isNameless_of_opposite nameless⟩
  · cases broken.symm.trans failed
    have again := ordersNull_opposite ordered
    rw [opposite_opposite] at again
    exact .inr ⟨by rw [kind], again⟩

/-- A tree of nodes that were read is well-shaped exactly if it breaks neither of the two rules. -/
theorem shaped_iff_of_isReadable {expr : Expr} (readable : ∀ node ∈ expr.nodes, node.IsReadable) :
    expr.Shaped ↔ ¬ ∃ node ∈ expr.nodes, node.IsNameless ∨ node.OrdersNull := by
  have passes : expr.Shaped ↔ ∀ node ∈ expr.nodes, node.check = .ok () := by
    rw [← wellShaped_iff_nodes]
    exact ⟨wellShaped_of_shaped, expr.shaped_of_wellShaped⟩
  rw [passes]
  constructor
  · rintro passed ⟨node, member, broken⟩
    rcases check_of_isReadable (readable node member) with ⟨-, named, unordered⟩ | failed | failed
    · exact broken.elim named unordered
    · cases (passed node member).symm.trans failed.1
    · cases (passed node member).symm.trans failed.1
  · intro unbroken node member
    rcases check_of_isReadable (readable node member) with passed | ⟨-, nameless⟩ | ⟨-, ordered⟩
    · exact passed.1
    · exact absurd ⟨node, member, .inl nameless⟩ unbroken
    · exact absurd ⟨node, member, .inr ordered⟩ unbroken

end Expr

namespace Settings

/-- In the dialects with a test for existence, a filter that was read can be rendered with all
settings or with none. It cannot exactly if a quoted key is empty or null is asked for its order
somewhere, and then the error says so. No node breaks any other rule of shape. -/
theorem render_of_parse {text : String} {expr : Expr} (read : Expr.parse text = .ok expr) :
    (∀ node ∈ expr.nodes, node.check = .ok () ∨
        (node.check = .error (.malformed node.kind .emptyKey) ∧ node.IsNameless) ∨
        (node.check = .error (.malformed node.kind .orderedNull) ∧ node.OrdersNull)) ∧
      ∀ (settings : Settings) (dialect : Dialect), dialect ≠ .range →
        ((∃ query, settings.render dialect expr = .ok query) ↔
            ¬ ∃ node ∈ expr.nodes, node.IsNameless ∨ node.OrdersNull) ∧
          ∀ error, settings.render dialect expr = .error error → expr.Explains error := by
  obtain ⟨phrase, -, writable, -, rfl⟩ := Expr.exists_phrase_of_parse read
  have readable := Phrase.isReadable_of_mem_nodes writable
  refine ⟨fun node member => ?_, fun settings dialect notRange => ?_⟩
  · exact (Expr.check_of_isReadable (readable node member)).imp_left And.left
  rw [← Expr.shaped_iff_of_isReadable readable]
  by_cases isDocument : dialect = .document
  · subst isDocument
    refine ⟨?_, fun error failed => ?_⟩
    · refine (Document.exists_render_iff_ofExpr _).trans ?_
      rw [Document.exists_ofExpr_iff, Phrase.pruned_content writable]
    · rw [Settings.render, Document.render_eq_map] at failed
      obtain ⟨node, member, broken | broken⟩ :=
        Document.exists_node_of_ofExpr false _ (map_eq_error_iff.mp failed)
      · exact Expr.explains_of_check member (readable node member) broken
      · exact Expr.explains_of_check_opposite member (readable node member) broken
  · obtain ⟨write, rendered⟩ := settings.exists_render_eq_map phrase.content isDocument notRange
    rw [rendered]
    refine ⟨?_, fun error failed => ?_⟩
    · rw [← Expr.exists_toFilter_iff_shaped]
      cases phrase.content.toFilter Expr.leaf <;> simp [Except.map]
    · obtain ⟨node, member, broken⟩ :=
        phrase.content.exists_node_of_toFilter (map_eq_error_iff.mp failed)
      exact Expr.explains_of_check member (readable node member) broken

/-- A filter with an order of null under a negation and an empty key in a group cannot be
rendered. -/
theorem render_of_parse_faulty : ∃ expr,
    Expr.parse "x == 1 or not (a > null and '' in [2])" = .ok expr ∧
    ∀ (settings : Settings) (dialect : Dialect), dialect ≠ .range →
      ∃ error, settings.render dialect expr = .error error ∧ expr.Explains error := by
  have read : Expr.parse "x == 1 or not (a > null and '' in [2])" =
      .ok (.join .or (.expr (.compare .eq ⟨"x"⟩ (.scalar (.int 1))))
        (.expr (.not (.group (.join .and (.expr (.compare .gt ⟨"a"⟩ (.scalar .null)))
          (.expr (.member false ⟨"''"⟩ (.ofScalars [.int 2])))))))) := by
    cbv
  refine ⟨_, read, fun settings dialect notRange => ?_⟩
  obtain ⟨accepted, explained⟩ := (render_of_parse read).2 settings dialect notRange
  cases rendered : settings.render dialect _ with
  | error error => exact ⟨error, rfl, explained error rendered⟩
  | ok query =>
    refine absurd ⟨.compare .gt ⟨"a"⟩ (.scalar .null), ?_, .inr ⟨.gt, by decide, _, rfl⟩⟩
      (accepted.mp ⟨query, rendered⟩)
    simp [Expr.join, Expr.not, Expr.compare, Expr.member, Expr.nodes, Operand.nodes]

end Settings

end PortableFilter
