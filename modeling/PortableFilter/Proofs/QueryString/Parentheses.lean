import PortableFilter.Proofs.Converter
import PortableFilter.Proofs.Precedence.Uniform

/-! # The parentheses of query strings

`Filter.bracket` puts groups where a query string gets parentheses. They keep connectives of two
kinds apart, so that a query string can be read without precedence, and what is read means what the
filter means (`exists_read_text`). -/

namespace PortableFilter

open Precedence

namespace Filter

variable {α β : Type}

/-- The content of an operand, in a group if the operand is a connective other than that of its
parent. A negation as a parent has none. -/
def bracketIn (parent : Option Connective) (operand content : Filter α) : Filter α :=
  match operand with
  | join connective _ _ => if parent = some connective then content else group content
  | leaf _ | not _ | group _ => content

/-- A filter with a group around each connective within a connective of another kind or within a
negation. -/
def bracket : Filter α → Filter α
  | leaf test => leaf test
  | join connective left right =>
    join connective (bracketIn (some connective) left left.bracket)
      (bracketIn (some connective) right right.bracket)
  | not operand => not (bracketIn none operand operand.bracket)
  | group content => group content.bracket

theorem holds_bracketIn (parent : Option Connective) (operand content : Filter α)
    (truth : α → Bool) : (bracketIn parent operand content).holds truth = content.holds truth := by
  cases operand with
  | leaf | not | group => rfl
  | join connective =>
    rw [bracketIn]
    by_cases same : parent = some connective
    · rw [if_pos same]
    · rw [if_neg same, holds]

theorem tests_bracketIn (parent : Option Connective) (operand content : Filter α) :
    (bracketIn parent operand content).tests = content.tests := by
  cases operand with
  | leaf | not | group => rfl
  | join connective =>
    rw [bracketIn]
    by_cases same : parent = some connective
    · rw [if_pos same]
    · rw [if_neg same, tests]

/-- Groups do not change what a filter means. -/
theorem holds_bracket (truth : α → Bool) (filter : Filter α) :
    filter.bracket.holds truth = filter.holds truth := by
  induction filter with
  | leaf test => rfl
  | join connective left right ihLeft ihRight =>
    cases connective <;>
      rw [bracket, holds, holds_bracketIn, holds_bracketIn, ihLeft, ihRight, holds]
  | not operand ih => rw [bracket, holds, holds_bracketIn, ih, holds]
  | group content ih => exact ih

theorem tests_bracket (filter : Filter α) : filter.bracket.tests = filter.tests := by
  induction filter with
  | leaf test => rfl
  | join connective left right ihLeft ihRight =>
    rw [bracket, tests, tests_bracketIn, tests_bracketIn, ihLeft, ihRight, tests]
  | not operand ih => rw [bracket, tests, tests_bracketIn, ih, tests]
  | group content ih => exact ih

end Filter

namespace QueryString

variable {α β : Type}

/-- A text spells a condition that can stand as an operand between any connectives. -/
structure Expresses (test? : List Char → Option (β × List Char)) (spell : β → List Char)
    (text : String) (condition : Filter β) : Prop where
  spelled : text.toList = condition.chars spell
  reads : ∀ test ∈ condition.tests, ReadsTest test? spell test
  single : condition.isJoin = false
  levelled : Levelled .and condition

section

variable {test? : List Char → Option (β × List Char)} {spell : β → List Char}
  {text : α → String} {condition : α → Filter β}

/-- An operand in a query string spells its content, with a group for its parentheses. -/
theorem bracketedText_toList (parent : Option Connective) {operand content : Filter α}
    {contentText : String} (spelled : contentText.toList = (content.expand condition).chars spell) :
    ((operand.map text).bracketedText true parent contentText).toList =
      ((operand.bracketIn parent content).expand condition).chars spell := by
  cases operand with
  | leaf | not | group => exact spelled
  | join connective =>
    rw [Filter.map, Filter.bracketedText, Filter.bracketIn]
    by_cases same : parent = some connective
    · simpa [same, Text.parenthesizedIf] using spelled
    · rw [if_neg same, Filter.expand, Filter.chars_group, ← spelled]
      simp [same, Text.parenthesizedIf, Text.parenthesized, Mark.chars]

/-- A query string spells its filter with groups for its parentheses. -/
theorem text_toList {filter : Filter α}
    (spelled : ∀ test ∈ filter.tests, (text test).toList = (condition test).chars spell) :
    ((filter.map text).text true).toList = (filter.bracket.expand condition).chars spell := by
  induction filter with
  | leaf test => exact spelled test (List.mem_singleton_self test)
  | join connective left right ihLeft ihRight =>
    obtain ⟨ofLeft, ofRight⟩ := List.forall_mem_append.mp spelled
    have leftSpelled := @bracketedText_toList _ _ spell text _ (some connective) left _ _
      (ihLeft ofLeft)
    have rightSpelled := @bracketedText_toList _ _ spell text _ (some connective) right _ _
      (ihRight ofRight)
    rw [Filter.map, Filter.text, Filter.bracket, Filter.expand, Filter.chars_join, ← leftSpelled,
      ← rightSpelled]
    cases connective <;> simp [Connective.word, Mark.chars]
  | not operand ih =>
    have operandSpelled := @bracketedText_toList _ _ spell text _ none operand _ _ (ih spelled)
    rw [Filter.map, Filter.text, Filter.bracket, Filter.expand, Filter.chars_not, ← operandSpelled]
    simp [Mark.chars]
  | group content ih =>
    rw [Filter.map, Filter.text, Filter.bracket, Filter.expand, Filter.chars_group, ← ih spelled]
    simp [Text.parenthesized, Mark.chars]

/-- The connective of a filter at its outermost level, if it has one. -/
def outer : Filter α → Connective
  | .join connective _ _ => connective
  | .leaf _ | .not _ | .group _ => .and

theorem isJoin_expand_bracket {filter : Filter α}
    (single : ∀ test ∈ filter.tests, (condition test).isJoin = false) :
    (filter.bracket.expand condition).isJoin = filter.isJoin := by
  cases filter with
  | leaf test => exact single test (List.mem_singleton_self test)
  | join | not | group => rfl

theorem isJoin_expand_bracketIn {operand : Filter α}
    (single : ∀ test ∈ operand.tests, (condition test).isJoin = false) :
    ((operand.bracketIn none operand.bracket).expand condition).isJoin = false := by
  cases operand with
  | leaf test => exact single test (List.mem_singleton_self test)
  | join | not | group => rfl

/-- With its group, an operand can stand next to the connective of its parent. -/
theorem levelled_bracketIn {operand : Filter α}
    (single : ∀ test ∈ operand.tests, (condition test).isJoin = false)
    (levelled : Levelled (outer operand) (operand.bracket.expand condition))
    {parent : Option Connective} {connective : Connective}
    (ofParent : ∀ own ∈ parent, own = connective) :
    Levelled connective ((operand.bracketIn parent operand.bracket).expand condition) := by
  have joins := isJoin_expand_bracket single
  cases operand with
  | leaf | not | group => exact levelled.of_not_isJoin joins
  | join own =>
    rw [Filter.bracketIn]
    -- Without a group, the operands of the connective continue the row of the parent.
    by_cases same : parent = some own
    · rw [if_pos same, ← ofParent own same]
      exact levelled
    · rw [if_neg same]
      exact .group levelled

/-- With its groups, a filter does not depend on precedence. -/
theorem levelled_bracket {filter : Filter α}
    (single : ∀ test ∈ filter.tests, (condition test).isJoin = false)
    (levelled : ∀ test ∈ filter.tests, Levelled .and (condition test)) :
    Levelled (outer filter) (filter.bracket.expand condition) := by
  induction filter with
  | leaf test => exact levelled test (List.mem_singleton_self test)
  | join connective left right ihLeft ihRight =>
    obtain ⟨leftSingle, rightSingle⟩ := List.forall_mem_append.mp single
    obtain ⟨leftLevelled, rightLevelled⟩ := List.forall_mem_append.mp levelled
    have ofParent : ∀ own ∈ some connective, own = connective :=
      fun own isOwn => (Option.some.inj isOwn).symm
    apply Levelled.join
    · exact levelled_bracketIn leftSingle (ihLeft leftSingle leftLevelled) ofParent
    · exact levelled_bracketIn rightSingle (ihRight rightSingle rightLevelled) ofParent
  | not operand ih =>
    rw [Filter.tests] at single levelled
    apply Levelled.not
    · exact isJoin_expand_bracketIn single
    · apply levelled_bracketIn single (ih single levelled)
      intro own isNone
      cases isNone
  | group content ih => exact .group (ih single levelled)

/-- A query string is read without precedence, and what is read means what the filter means. -/
theorem exists_read_text {filter : Filter α}
    (expresses : ∀ test ∈ filter.tests, Expresses test? spell (text test) (condition test)) :
    ∃ read, uniformOfText? test? ((filter.map text).text true).toList = some read ∧
      read.uniform ∧
      ∀ truth, read.holds truth = filter.holds fun test => (condition test).holds truth := by
  have levelled := levelled_bracket (fun test member => (expresses test member).single)
    fun test member => (expresses test member).levelled
  have reads : ∀ test ∈ (filter.bracket.expand condition).tests, ReadsTest test? spell test := by
    intro test member
    obtain ⟨source, isSource, inside⟩ := Filter.exists_mem_tests_of_expand member
    rw [Filter.tests_bracket] at isSource
    exact (expresses source isSource).reads test inside
  obtain ⟨read, isRead, uniform, meaning⟩ := exists_uniformOfText? levelled reads
  refine ⟨read, ?_, uniform, fun truth => ?_⟩
  · rw [text_toList fun test member => (expresses test member).spelled]
    exact isRead
  · rw [meaning, Filter.holds_expand, Filter.holds_bracket]

end

end QueryString

end PortableFilter
