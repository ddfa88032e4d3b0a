import PortableFilter.Proofs.Expr.Acceptance
import PortableFilter.Proofs.Expr.RoundTrip

/-! # Filters that are read with their own structure

The grammar of filters gives a structure to every text: chains associate to the left, and nothing
weaker stands within something stronger but in a group. A filter of that structure is `Layered`. It
is the very condition that is read from its marks (`Precedence.disjunction_reading`). The filters of
trees that were read from texts are layered (`Precedence.layered_of_fits`). -/

namespace PortableFilter

open Grammar

namespace Precedence

variable {α β : Type}

/-- A filter has the structure that a rule of the grammar gives. -/
inductive Layered : Rule → Filter α → Prop where
  | single {connective : Connective} {filter : Filter α}
      (item : Layered (.item connective) filter) : Layered (.chain connective) filter
  | more {connective : Connective} {left right : Filter α}
      (start : Layered (.chain connective) left) (item : Layered (.item connective) right) :
      Layered (.chain connective) (.join connective left right)
  | not {operand : Filter α} (negated : Layered .negation operand) :
      Layered .negation (.not operand)
  | plain {filter : Filter α} (primary : Layered .primary filter) : Layered .negation filter
  | group {content : Filter α} (inside : Layered (.chain .or) content) :
      Layered .primary (.group content)
  | leaf {test : α} : Layered .primary (.leaf test)

/-! ## Layered filters are read as they are -/

/-- What is read from the marks of a filter is the filter, in the form that a rule leaves it in: a
disjunction, one conjunction, or one operand. -/
def Rereads (filter : Filter α) : Rule → Prop
  | .chain .or => disjunction (reading filter) = filter
  | .chain .and => ∃ chain, reading filter = ⟨chain, []⟩ ∧ chain.joined .and = filter
  | .negation | .primary => reading filter = ⟨⟨filter, []⟩, []⟩

/-- A further conjunction is joined to a disjunction. -/
theorem disjunction_append (left : Chain (Chain (Filter α))) (chain : Chain (Filter α)) :
    disjunction (left.append ⟨chain, []⟩) = .join .or (disjunction left) (chain.joined .and) := by
  simp [disjunction, Chain.append, Chain.map, Chain.joined, Chain.toList]

/-- A further operand is joined to a chain. -/
theorem joined_append (connective : Connective) (left : Chain (Filter α)) (right : Filter α) :
    (left.append ⟨right, []⟩).joined connective =
      .join connective (left.joined connective) right := by
  simp [Chain.append, Chain.joined, Chain.toList]

/-- An item is a chain of one. -/
theorem rereads_single {connective : Connective} {filter : Filter α}
    (item : Rereads filter (.item connective)) : Rereads filter (.chain connective) := by
  cases connective with
  | and => exact ⟨⟨filter, []⟩, item, rfl⟩
  | or =>
    obtain ⟨chain, isRead, joined⟩ := item
    change disjunction (reading filter) = filter
    rw [isRead]
    exact joined

/-- A chain goes on with an item. -/
theorem rereads_more {connective : Connective} {left right : Filter α}
    (start : Rereads left (.chain connective)) (item : Rereads right (.item connective)) :
    Rereads (.join connective left right) (.chain connective) := by
  cases connective with
  | and =>
    obtain ⟨chain, isRead, joined⟩ := start
    refine ⟨chain.append ⟨right, []⟩, ?_, ?_⟩
    · change meet (reading left) (reading right) = _
      rw [isRead, item, meet_one]
    · rw [joined_append, joined]
  | or =>
    obtain ⟨chain, isRead, joined⟩ := item
    change disjunction ((reading left).append (reading right)) = _
    rw [isRead, disjunction_append, joined]
    exact congrArg (Filter.join .or · right) start

theorem rereads_of_layered {rule : Rule} {filter : Filter α} (layered : Layered rule filter) :
    Rereads filter rule := by
  induction layered with
  | single _ ih => exact rereads_single ih
  | more _ _ startRead itemRead => exact rereads_more startRead itemRead
  | not _ ih => exact congrArg (modifyFirst Filter.not) ih
  | plain _ ih => exact ih
  | @group content _ ih =>
    change (⟨⟨.group (disjunction (reading content)), []⟩, []⟩ : Chain (Chain (Filter α))) = _
    rw [ih]
  | leaf => rfl

/-- A layered filter is what is read from its marks. -/
theorem disjunction_reading {filter : Filter α} (layered : Layered (.chain .or) filter) :
    disjunction (reading filter) = filter := rereads_of_layered layered

/-! ## Tests that are written as conditions -/

/-- The rule for what stands in the place of a phrase of a rule, if tests become negations. -/
def negationAtLeast : Rule → Rule
  | .primary => .negation
  | rule => rule

/-- A layered filter stays layered if its tests are replaced by tests or their negations. -/
theorem layered_expand {f : α → Filter β} (negations : ∀ test, Layered .negation (f test))
    {rule : Rule} {filter : Filter α} (layered : Layered rule filter) :
    Layered (negationAtLeast rule) (filter.expand f) := by
  induction layered with
  | @single connective _ _ ih => cases connective <;> exact .single ih
  | @more connective _ _ _ _ startLayered itemLayered =>
    cases connective <;> exact .more startLayered itemLayered
  | not _ ih => exact .not ih
  | plain _ ih => exact ih
  | group _ ih => exact .plain (.group ih)
  | leaf => exact negations _

/-! ## Trees that were read -/

theorem layered_of_group {content : Filter α} {rule : Rule}
    (layered : Layered rule (.group content)) : Layered (.chain .or) content := by
  generalize same : Filter.group content = filter at layered
  induction layered with
  | single _ ih => exact ih same
  | more | not | leaf => cases same
  | plain _ ih => exact ih same
  | group inside =>
    cases same
    exact inside

/-- The filter of an operand is layered exactly if that of its content is. -/
theorem layered_of_enclose {operand : Operand} {filter : Filter α}
    (layered : Layered (.chain .or) (operand.enclose filter)) : Layered (.chain .or) filter := by
  cases operand with
  | group => exact layered_of_group layered
  | key | value | expr => exact layered

/-- A test that can be written is neither a connective nor a negation. -/
theorem isTest_kind_of_isWritableTest {content : Expr} (writable : content.IsWritableTest) :
    content.kind.isTest := by
  cases writable <;> rfl

/-- The filter that a phrase of a rule is checked as has the structure of the rule. -/
theorem layered_of_fits {leaf : Expr → Except ConvertError α} {rule : Rule} {phrase : Phrase}
    (fits : Fits rule phrase) (writable : phrase.IsWritable) {filter : Filter α}
    (checks : phrase.content.ChecksAs leaf filter) :
    Layered rule (phrase.operand.enclose filter) := by
  induction fits generalizing filter with
  | single _ ih => exact .single (ih writable checks)
  | @more connective left right _ _ ihLeft ihRight =>
    cases checks with
    | test isTest => cases isTest
    | join inLeft inRight checksLeft checksRight =>
      cases left.content?_operand.symm.trans inLeft
      cases right.content?_operand.symm.trans inRight
      exact .more (ihLeft writable.1 checksLeft) (ihRight writable.2 checksRight)
  | @not operand _ ih =>
    cases checks with
    | test isTest => cases isTest
    | not inside checks =>
      cases operand.content?_operand.symm.trans inside
      exact .not (ih writable checks)
  | plain _ ih => exact .plain (ih writable checks)
  | parens _ ih => exact .group (layered_of_enclose (ih writable checks))
  | @test content =>
    have isTest := isTest_kind_of_isWritableTest writable
    cases checks with
    | test => exact .leaf
    | not | join => cases isTest

end Precedence

end PortableFilter
