import PortableFilter.Proofs.Filter
import PortableFilter.Proofs.Precedence.Reading

/-! # Reading conditions from texts

The text of a condition has the words "NOT", "AND" and "OR" and parentheses around and between its
tests. `Precedence.ofText?` cuts it into marks, at each place looking only for what may stand there,
and reads the marks by precedence. How tests are written is left open: if each test of a filter can
be read from its own text (`ReadsTest`), then so can the text of the filter (`ofText?_chars`). -/

namespace PortableFilter

namespace Precedence

variable {α : Type}

/-- What a text has behind a word, if it starts with the word. -/
def dropWord? : (word text : List Char) → Option (List Char)
  | [], text => some text
  | c :: word, d :: text => if c = d then dropWord? word text else none
  | _ :: _, [] => none

namespace Mark

/-- The text of a mark, given how tests are spelled. -/
def chars (spell : α → List Char) : Mark α → List Char
  | test content => spell content
  | not => ['N', 'O', 'T', ' ']
  | join .and => [' ', 'A', 'N', 'D', ' ']
  | join .or => [' ', 'O', 'R', ' ']
  | opening => ['(']
  | closing => [')']

/-- Whether an operand has to follow. -/
def wantsOperand : Mark α → Bool
  | test _ | closing => false
  | not | join _ | opening => true

/-- Whether a mark stands before operands only. -/
def leads : Mark α → Bool
  | not | opening => true
  | test _ | join _ | closing => false

/-- What a text has behind a mark other than a test, if it starts with that mark. -/
def drop? (mark : Mark α) (text : List Char) : Option (Mark α × List Char) :=
  (dropWord? (mark.chars fun _ => []) text).map fun rest => (mark, rest)

end Mark

/-- Cuts the first mark off a text. Where an operand has to stand, this is a test, which `test?`
cuts off, or what may stand before one. -/
def nextMark? (test? : List Char → Option (α × List Char)) (atOperand : Bool)
    (text : List Char) : Option (Mark α × List Char) :=
  if atOperand then
    match test? text with
    | some (test, rest) => some (.test test, rest)
    | none => (Mark.drop? .not text).or (Mark.drop? .opening text)
  else
    (Mark.drop? .closing text).or
      ((Mark.drop? (.join .and) text).or (Mark.drop? (.join .or) text))

/-- Cuts a text into fewer than `count` marks. -/
def lexFrom? (test? : List Char → Option (α × List Char)) :
    (count : Nat) → (atOperand : Bool) → List Char → Option (List (Mark α))
  | 0, _, _ => none
  | count + 1, atOperand, text =>
    if !atOperand && text.isEmpty then some []
    else
      (nextMark? test? atOperand text).bind fun (mark, rest) =>
        (lexFrom? test? count mark.wantsOperand rest).map (mark :: ·)

/-- The condition that a text spells. There are no more marks than characters. -/
def ofText? (test? : List Char → Option (α × List Char)) (text : List Char) : Option (Filter α) :=
  (lexFrom? test? (text.length + 1) true text).bind ofMarks?

end Precedence

open Precedence

namespace Filter

variable {α : Type}

/-- The text of a filter, given how tests are spelled. -/
def chars (spell : α → List Char) (filter : Filter α) : List Char :=
  filter.marks.flatMap (Mark.chars spell)

variable (spell : α → List Char)

theorem chars_leaf (test : α) : (leaf test).chars spell = spell test := List.flatMap_singleton _ _

/-- A connective is spelled between its operands. -/
theorem chars_join (connective : Connective) (left right : Filter α) :
    (join connective left right).chars spell =
      left.chars spell ++ (Mark.chars spell (.join connective) ++ right.chars spell) := by
  rw [chars, marks, List.flatMap_append, List.flatMap_cons]
  rfl

theorem chars_not (operand : Filter α) :
    (not operand).chars spell = Mark.chars spell .not ++ operand.chars spell :=
  List.flatMap_cons

theorem chars_group (content : Filter α) :
    (group content).chars spell =
      Mark.chars spell .opening ++ (content.chars spell ++ Mark.chars spell .closing) := by
  rw [chars, marks, List.flatMap_cons, List.flatMap_append, List.flatMap_singleton]
  rfl

/-- The operands of a chain are spelled with its connective between them. -/
theorem chars_joined (connective : Connective) (chain : Chain (Filter α)) :
    (chain.joined connective).chars spell =
      chain.first.chars spell ++ chain.more.flatMap fun operand =>
        Mark.chars spell (.join connective) ++ operand.chars spell := by
  rw [chars, Chain.marks_joined, Chain.spell, List.flatMap_append, List.flatMap_assoc]
  rfl

/-- A chain has the tests of its operands. -/
theorem tests_joined (connective : Connective) (chain : Chain (Filter α)) :
    (chain.joined connective).tests = chain.toList.flatMap tests := by
  obtain ⟨first, more⟩ := chain
  unfold Chain.joined Chain.toList
  induction more generalizing first with
  | nil => simp
  | cons next more ih =>
    rw [List.foldl_cons, ih]
    simp [tests]

end Filter

namespace Precedence

variable {α : Type} {test? : List Char → Option (α × List Char)} {spell : α → List Char}

/-! ## Words -/

/-- A word is taken from the front of a text. -/
theorem dropWord?_append (word rest : List Char) : dropWord? word (word ++ rest) = some rest := by
  induction word with
  | nil => rfl
  | cons c word ih => rw [List.cons_append, dropWord?, if_pos rfl, ih]

/-- Only a text that starts with a word can lose it. -/
theorem eq_append_of_dropWord? {word text rest : List Char}
    (dropped : dropWord? word text = some rest) : text = word ++ rest := by
  fun_induction dropWord? word text with
  | case1 text =>
    cases dropped
    rfl
  | case2 c word text ih => rw [ih dropped, List.cons_append]
  | case3 | case4 => cases dropped

/-! ## Reading the text of a filter -/

/-- What may stand behind an operand. -/
def EndsOperand (rest : List Char) : Prop := ∀ c ∈ rest.head?, c = ' ' ∨ c = ')'

/-- A test is read from its text, and is not found before its text starts. -/
structure ReadsTest (test? : List Char → Option (α × List Char)) (spell : α → List Char)
    (test : α) : Prop where
  ne_nil : spell test ≠ []
  reads : ∀ rest, EndsOperand rest → test? (spell test ++ rest) = some (test, rest)
  refuses : ∀ (lead : List (Mark α)) rest, lead ≠ [] → (∀ mark ∈ lead, mark.leads) →
    test? (lead.flatMap (Mark.chars spell) ++ (spell test ++ rest)) = none

/-- Before the first test of a filter there are negations and parentheses only. -/
theorem exists_chars_eq (filter : Filter α) : ∃ lead : List (Mark α), (∀ mark ∈ lead, mark.leads) ∧
    ∃ test ∈ filter.tests, ∃ more,
      filter.chars spell = lead.flatMap (Mark.chars spell) ++ (spell test ++ more) := by
  induction filter with
  | leaf test =>
    refine ⟨[], List.forall_mem_nil _, test, List.mem_singleton_self test, [], ?_⟩
    rw [Filter.chars_leaf, List.append_nil, List.flatMap_nil, List.nil_append]
  | join connective left right ihLeft _ =>
    obtain ⟨lead, isLeading, test, member, more, spelled⟩ := ihLeft
    refine ⟨lead, isLeading, test, List.mem_append_left _ member,
      more ++ (Mark.chars spell (.join connective) ++ right.chars spell), ?_⟩
    rw [Filter.chars_join, spelled, List.append_assoc, List.append_assoc]
  | not operand ih =>
    obtain ⟨lead, isLeading, test, member, more, spelled⟩ := ih
    refine ⟨.not :: lead, List.forall_mem_cons.mpr ⟨rfl, isLeading⟩, test, member, more, ?_⟩
    rw [Filter.chars_not, spelled, List.flatMap_cons, List.append_assoc]
  | group content ih =>
    obtain ⟨lead, isLeading, test, member, more, spelled⟩ := ih
    refine ⟨.opening :: lead, List.forall_mem_cons.mpr ⟨rfl, isLeading⟩, test, member,
      more ++ [')'], ?_⟩
    rw [Filter.chars_group, spelled, List.flatMap_cons, List.append_assoc, List.append_assoc,
      List.append_assoc]
    rfl

/-- One mark is cut off, and the others behind it. -/
theorem lexFrom?_next {atOperand : Bool} {text rest : List Char} {mark : Mark α}
    (next : nextMark? test? atOperand text = some (mark, rest)) (nonempty : text ≠ [])
    (count : Nat) :
    lexFrom? test? (count + 1) atOperand text =
      (lexFrom? test? count mark.wantsOperand rest).map (mark :: ·) := by
  have goesOn : ¬ (!atOperand && text.isEmpty) = true := by
    simp [nonempty]
  rw [lexFrom?, if_neg goesOn, next, Option.bind_some]

/-- A negation or an opening parenthesis before a filter is cut off. -/
theorem nextMark?_before {filter : Filter α}
    (readsTests : ∀ test ∈ filter.tests, ReadsTest test? spell test) {mark : Mark α}
    (before : mark.leads) (rest : List Char) :
    nextMark? test? true (mark.chars spell ++ (filter.chars spell ++ rest)) =
      some (mark, filter.chars spell ++ rest) := by
  obtain ⟨lead, isLeading, test, member, more, spelled⟩ := @exists_chars_eq _ spell filter
  have refused : test? (mark.chars spell ++ (filter.chars spell ++ rest)) = none := by
    rw [spelled, List.append_assoc, List.append_assoc, ← List.append_assoc, ← List.flatMap_cons]
    exact (readsTests test member).refuses _ _ (List.cons_ne_nil _ _)
      (List.forall_mem_cons.mpr ⟨before, isLeading⟩)
  rw [nextMark?, if_pos rfl, refused]
  cases mark with
  | not | opening => rfl
  | test | join | closing => cases before

/-- A connective is the next mark behind an operand. -/
theorem nextMark?_join (connective : Connective) (rest : List Char) :
    nextMark? test? false (Mark.chars spell (.join connective) ++ rest) =
      some (.join connective, rest) := by
  cases connective <;> rfl

theorem nextMark?_closing (rest : List Char) :
    nextMark? test? false (Mark.chars spell .closing ++ rest) = some (.closing, rest) := rfl

/-- The text of a filter is cut into the marks of the filter. -/
theorem lexFrom?_chars {filter : Filter α}
    (readsTests : ∀ test ∈ filter.tests, ReadsTest test? spell test) (count : Nat)
    {rest : List Char} (ends : EndsOperand rest) :
    lexFrom? test? (filter.marks.length + count) true (filter.chars spell ++ rest) =
      (lexFrom? test? count false rest).map (filter.marks ++ ·) := by
  -- A filter ends where no operand is wanted, and `count` is what is left for the marks behind it.
  induction filter generalizing count rest with
  | leaf test =>
    obtain ⟨nonempty, reads, -⟩ := readsTests test (List.mem_singleton_self test)
    have next : nextMark? test? true (spell test ++ rest) = some (.test test, rest) := by
      rw [nextMark?, if_pos rfl, reads rest ends]
    rw [Filter.chars_leaf, Filter.marks, List.length_singleton, Nat.add_comm,
      lexFrom?_next next (List.append_ne_nil_of_left_ne_nil nonempty _)]
    rfl
  | join connective left right ihLeft ihRight =>
    obtain ⟨readsLeft, readsRight⟩ := List.forall_mem_append.mp readsTests
    have leftEnds : EndsOperand (Mark.chars spell (.join connective) ++
        (right.chars spell ++ rest)) := by
      cases connective <;> exact fun c isHead => .inl (Option.some.inj isHead).symm
    have wordNonempty :
        Mark.chars spell (.join connective) ++ (right.chars spell ++ rest) ≠ [] := by
      cases connective <;> exact List.cons_ne_nil _ _
    have steps : (Filter.join connective left right).marks.length + count =
        left.marks.length + (right.marks.length + count + 1) := by
      rw [Filter.marks, List.length_append, List.length_cons]
      omega
    rw [steps, Filter.chars_join, List.append_assoc, List.append_assoc,
      ihLeft readsLeft _ leftEnds, lexFrom?_next (nextMark?_join connective _) wordNonempty,
      Mark.wantsOperand, ihRight readsRight count ends, Option.map_map, Option.map_map]
    simp [Filter.marks, Function.comp_def]
  | not operand ih =>
    rw [Filter.tests] at readsTests
    have next := @nextMark?_before _ _ spell _ readsTests .not rfl rest
    have steps : (Filter.not operand).marks.length + count =
        operand.marks.length + count + 1 := Nat.succ_add _ _
    rw [steps, Filter.chars_not, List.append_assoc, lexFrom?_next next (List.cons_ne_nil _ _),
      Mark.wantsOperand, ih readsTests count ends, Option.map_map]
    rfl
  | group content ih =>
    rw [Filter.tests] at readsTests
    have next := @nextMark?_before _ _ spell _ readsTests .opening rfl
      (Mark.chars spell .closing ++ rest)
    have contentEnds : EndsOperand (Mark.chars spell .closing ++ rest) :=
      fun c isHead => .inr (Option.some.inj isHead).symm
    have steps : (Filter.group content).marks.length + count =
        content.marks.length + (count + 1) + 1 := by
      rw [Filter.marks, List.length_cons, List.length_append, List.length_singleton]
      omega
    rw [steps, Filter.chars_group, List.append_assoc, List.append_assoc,
      lexFrom?_next next (List.cons_ne_nil _ _), Mark.wantsOperand,
      ih readsTests (count + 1) contentEnds,
      lexFrom?_next (nextMark?_closing rest) (List.cons_ne_nil _ _), Mark.wantsOperand,
      Option.map_map, Option.map_map]
    simp [Filter.marks, Function.comp_def]

/-- A test among the marks of a filter is a test of the filter. -/
theorem mem_tests_of_mem_marks {filter : Filter α} {test : α} (member : .test test ∈ filter.marks) :
    test ∈ filter.tests := by
  induction filter with
  | leaf => simpa [Filter.marks, Filter.tests] using member
  | join connective left right ihLeft ihRight =>
    simp only [Filter.marks, List.mem_append, List.mem_cons, reduceCtorEq, false_or] at member
    exact List.mem_append.mpr (member.imp ihLeft ihRight)
  | not operand ih =>
    simp only [Filter.marks, List.mem_cons, reduceCtorEq, false_or] at member
    exact ih member
  | group content ih =>
    simp only [Filter.marks, List.mem_append, List.mem_cons, List.not_mem_nil, reduceCtorEq,
      false_or, or_false] at member
    exact ih member

/-- There are no more marks than characters if every test is spelled with some. -/
theorem length_marks_le_length_chars {filter : Filter α}
    (nonempty : ∀ test ∈ filter.tests, spell test ≠ []) :
    filter.marks.length ≤ (filter.chars spell).length := by
  refine length_le_length_flatMap fun mark member => ?_
  cases mark with
  | test content => exact nonempty content (mem_tests_of_mem_marks member)
  | join connective => cases connective <;> exact List.cons_ne_nil _ _
  | not | opening | closing => exact List.cons_ne_nil _ _

/-- The whole text of a filter is cut into the marks of the filter. -/
theorem lexFrom?_all {filter : Filter α}
    (readsTests : ∀ test ∈ filter.tests, ReadsTest test? spell test) :
    lexFrom? test? ((filter.chars spell).length + 1) true (filter.chars spell) =
      some filter.marks := by
  have bound := length_marks_le_length_chars fun test member => (readsTests test member).ne_nil
  have steps : (filter.chars spell).length + 1 =
      filter.marks.length + ((filter.chars spell).length - filter.marks.length + 1) := by
    omega
  have ends : EndsOperand [] := fun c isHead => nomatch isHead
  have cut :=
    lexFrom?_chars readsTests ((filter.chars spell).length - filter.marks.length + 1) ends
  rw [List.append_nil] at cut
  rw [steps, cut, lexFrom?]
  simp

/-- The text of a filter is read as the alternatives of the filter. -/
theorem ofText?_chars {filter : Filter α}
    (readsTests : ∀ test ∈ filter.tests, ReadsTest test? spell test) :
    ofText? test? (filter.chars spell) = some (disjunction (reading filter)) := by
  rw [ofText?, lexFrom?_all readsTests, Option.bind_some, ofMarks?_marks]

end Precedence

end PortableFilter
