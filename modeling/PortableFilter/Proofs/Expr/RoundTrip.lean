import PortableFilter.Proofs.Expr.Recognition
import PortableFilter.Proofs.Expr.Spelling

/-! # Reading what was written

A tree is written as a phrase, `Expr.phrase`: with the parentheses of its groups, and with others
around bare expressions that would be read differently without them. The text of a phrase that
follows the grammar is cut into tokens that spell the phrase (`Phrase.spells_print`). The tree of
a phrase that was read needs no more parentheses than its groups have, so it is read again from
its own text (`Expr.parse_print`). -/

namespace PortableFilter

open Token Grammar

namespace Phrase

/-- The text of a phrase. -/
def print : Phrase → String
  | test content => content.print
  | join connective left right => left.print ++ ((Kind.join connective).symbol ++ right.print)
  | not operand => "NOT " ++ operand.print
  | parens content => Text.parenthesized content.print

/-- All tests of a phrase can be written. -/
def IsWritable : Phrase → Prop
  | test content => content.IsWritableTest
  | join _ left right => left.IsWritable ∧ right.IsWritable
  | not operand => operand.IsWritable
  | parens content => content.IsWritable

end Phrase

namespace Grammar

/-- A phrase follows a rule of the grammar. -/
inductive Fits : Rule → Phrase → Prop where
  | single {connective : Connective} {phrase : Phrase} (item : Fits (.item connective) phrase) :
      Fits (.chain connective) phrase
  | more {connective : Connective} {left right : Phrase} (start : Fits (.chain connective) left)
      (item : Fits (.item connective) right) :
      Fits (.chain connective) (.join connective left right)
  | not {operand : Phrase} (negated : Fits .negation operand) : Fits .negation (.not operand)
  | plain {phrase : Phrase} (primary : Fits .primary phrase) : Fits .negation phrase
  | parens {content : Phrase} (inside : Fits (.chain .or) content) :
      Fits .primary (.parens content)
  | test {content : Expr} : Fits .primary (.test content)

/-- A phrase that tokens spell follows the grammar. -/
theorem fits_of_derives {rule : Rule} {tokens : List Token} {phrase : Phrase}
    (derived : Derives rule tokens phrase) : Fits rule phrase := by
  induction derived with
  | single _ ih => exact .single ih
  | more _ _ _ startFits itemFits => exact .more startFits itemFits
  | not _ _ ih => exact .not ih
  | plain _ ih => exact .plain ih
  | parens _ _ _ ih => exact .parens ih
  | test _ _ => exact .test

/-- The tests of a phrase that tokens of a text spell can be written. -/
theorem isWritable_of_derives {rule : Rule} {tokens : List Token} {phrase : Phrase}
    (derived : Derives rule tokens phrase) (cut : ∀ token ∈ tokens, token.IsCut) :
    phrase.IsWritable := by
  induction derived with
  | single _ ih => exact ih cut
  | more _ _ _ startWritable itemWritable =>
    exact ⟨startWritable fun token member => cut token (by simp [member]),
      itemWritable fun token member => cut token (by simp [member])⟩
  | not _ _ ih => exact ih fun token member => cut token (by simp [member])
  | plain _ ih => exact ih cut
  | parens _ _ _ ih => exact ih fun token member => cut token (by simp [member])
  | test named predicate =>
    exact Expr.isWritableTest_of_predicate (fun token member => cut token (by simp [member]))
      (Key.isWritable_of_identifier (fun token member => cut token (by simp [member])) named)
      predicate

end Grammar

namespace Phrase

/-- Parentheses around the text of a phrase spell the phrase in parentheses. -/
theorem spells_parenthesized {text : String} {content : Phrase}
    (spelled : Spells Delimits text.toList fun tokens => Derives (.chain .or) tokens content) :
    Spells Delimits (Text.parenthesized text).toList fun tokens =>
      Derives .primary tokens (.parens content) := by
  have opening : Spells (fun _ => True) ['('] (One .openParen) :=
    .sign fun rest _ => ⟨'(', [], rfl, by decide, rfl⟩
  have closing : Spells Delimits [')'] (One .closeParen) :=
    .sign fun rest _ => ⟨')', [], rfl, by decide, rfl⟩
  have enclosed : (Text.parenthesized text).toList = ['('] ++ (text.toList ++ [')']) := by
    rw [Text.parenthesized, String.toList_append, String.toList_append, List.append_assoc]
    rfl
  rw [enclosed]
  refine (opening.append (spelled.append closing fun rest _ => delimits_cons (by decide) _)
    fun _ _ => trivial).imp ?_
  rintro _ ⟨_, _, rfl, ⟨first, rfl, opens⟩, tokens, _, rfl, inside, last, rfl, closes⟩
  exact .parens opens inside closes

/-- The text of a phrase that follows the grammar is cut into tokens that spell it. -/
theorem spells_print {rule : Rule} {phrase : Phrase} (fits : Fits rule phrase)
    (writable : phrase.IsWritable) :
    Spells Delimits phrase.print.toList fun tokens => Derives rule tokens phrase := by
  induction fits with
  | single _ ih => exact (ih writable).imp fun tokens derived => .single derived
  | @more connective left right _ _ spelledLeft spelledRight =>
    rw [print, String.toList_append, String.toList_append]
    refine ((spelledLeft writable.1).append ((spells_connective connective).append
      (spelledRight writable.2) fun _ _ => trivial) fun rest _ => ?_).imp ?_
    · exact Expr.delimits_append (by cases connective <;> rfl) rest
    · rintro _ ⟨tokens, _, rfl, start, _, later, rfl, ⟨sign, rfl, kind⟩, item⟩
      exact .more start kind item
  | @not operand _ ih =>
    have word : Spells Delimits ['N', 'O', 'T'] (One .not) := .keyword (by decide) (by decide)
    have negation : Spells (fun _ => True) ['N', 'O', 'T', ' '] (One .not) :=
      word.then_blank (by decide) fun rest => delimits_cons (by decide) rest
    rw [print, String.toList_append]
    refine (negation.append (ih writable) fun _ _ => trivial).imp ?_
    rintro _ ⟨_, tokens, rfl, ⟨sign, rfl, kind⟩, negated⟩
    exact .not kind negated
  | plain _ ih => exact (ih writable).imp fun tokens derived => .plain derived
  | parens _ ih => exact spells_parenthesized (ih writable)
  | test => exact Expr.spells_test writable

end Phrase

/-- A phrase in parentheses, if they are asked for. -/
def Phrase.parensIf (condition : Bool) (phrase : Phrase) : Phrase :=
  if condition then .parens phrase else phrase

mutual

/-- The phrase that a tree is written as. -/
def Expr.phrase : Expr → Phrase
  | .unary .not operand => .not (operand.phrase.parensIf (operand.strength < 3))
  | .binary (.join connective) left right =>
    .join connective (left.phrase.parensIf (left.strength < (Kind.join connective).strength))
      (right.phrase.parensIf (right.strength ≤ (Kind.join connective).strength))
  | content => .test content

/-- The phrase that an operand is written as. A key or a value is none; it stands for itself as
a negation that cannot be written. -/
def Operand.phrase : Operand → Phrase
  | .expr content => content.phrase
  | .group content => .parens content.phrase
  | operand => .test (.not operand)

end

namespace Phrase

theorem print_parensIf (condition : Bool) (phrase : Phrase) :
    (phrase.parensIf condition).print = Text.parenthesizedIf condition phrase.print := by
  cases condition <;> rfl

/-- Parentheses do not change whether a phrase can be written. -/
theorem isWritable_parensIf (condition : Bool) (phrase : Phrase) :
    (phrase.parensIf condition).IsWritable ↔ phrase.IsWritable := by
  cases condition <;> rfl

end Phrase

theorem not_isWritableTest_not (operand : Operand) : ¬ (Expr.not operand).IsWritableTest := by
  intro writable
  generalize same : Expr.not operand = content at writable
  cases writable <;> cases same

mutual

/-- A tree whose phrase can be written has the text of its phrase. -/
theorem Expr.print_phrase (content : Expr) (writable : content.phrase.IsWritable) :
    content.phrase.print = content.print := by
  match content with
  | .unary .not operand =>
    rw [Expr.phrase, Phrase.IsWritable, Phrase.isWritable_parensIf] at writable
    rw [Expr.phrase, Phrase.print, Phrase.print_parensIf, operand.print_phrase writable]
    rfl
  | .binary (.join connective) left right =>
    rw [Expr.phrase, Phrase.IsWritable, Phrase.isWritable_parensIf, Phrase.isWritable_parensIf]
      at writable
    rw [Expr.phrase, Phrase.print, Phrase.print_parensIf, Phrase.print_parensIf,
      left.print_phrase writable.1, right.print_phrase writable.2, ← String.append_assoc]
    cases connective <;> rfl
  | .unary (.join _) _ | .unary (.compare _) _ | .unary (.member _) _ | .unary (.absent _) _
  | .binary .not _ _ | .binary (.compare _) _ _ | .binary (.member _) _ _
  | .binary (.absent _) _ _ => rfl

/-- An operand is printed as its phrase is. -/
theorem Operand.print_phrase (operand : Operand) (writable : operand.phrase.IsWritable) :
    operand.phrase.print = operand.print := by
  match operand with
  | .expr content => exact content.print_phrase writable
  | .group content => exact congrArg Text.parenthesized (content.print_phrase writable)
  | .key _ | .value _ => exact absurd writable (not_isWritableTest_not _)

end

/-- No kind binds weaker than "or". -/
theorem Kind.strength_pos (kind : Kind) : 1 ≤ kind.strength := by
  unfold strength
  split <;> decide

namespace Grammar

/-- How strongly the phrases of a rule hold together at least. -/
def Rule.strength : Rule → Nat
  | .chain connective => (Kind.join connective).strength
  | .negation | .primary => 3

/-- A group or a test follows every rule. -/
theorem Fits.of_primary {phrase : Phrase} (fits : Fits .primary phrase) (rule : Rule) :
    Fits rule phrase := by
  cases rule with
  | primary => exact fits
  | negation => exact .plain fits
  | chain connective =>
    cases connective with
    | and => exact .single (.plain fits)
    | or => exact .single (.single (.plain fits))

/-- A negation follows every rule but that of groups and tests. -/
theorem Fits.of_negation {phrase : Phrase} (fits : Fits .negation phrase) {rule : Rule}
    (compound : rule ≠ .primary) : Fits rule phrase := by
  cases rule with
  | primary => exact absurd rfl compound
  | negation => exact fits
  | chain connective =>
    cases connective with
    | and => exact .single fits
    | or => exact .single (.single fits)

/-- A chain follows every rule that asks for no stronger connective. -/
theorem Fits.of_chain {connective : Connective} {phrase : Phrase}
    (fits : Fits (.chain connective) phrase) {rule : Rule}
    (weaker : rule.strength ≤ (Kind.join connective).strength) : Fits rule phrase := by
  cases rule with
  | primary | negation => cases connective <;> exact absurd weaker (by decide)
  | chain other =>
    cases connective <;> cases other
    case and.and | or.or => exact fits
    case and.or => exact .single fits
    case or.and => exact absurd weaker (by decide)

/-- The operands of a connective have to bind stronger than the connective. -/
theorem Rule.strength_item (connective : Connective) :
    (Rule.item connective).strength = (Kind.join connective).strength + 1 := by
  cases connective <;> rfl

theorem Rule.item_ne_primary (connective : Connective) : Rule.item connective ≠ .primary := by
  cases connective <;> exact nofun

/-- Parentheses around a phrase that is too weak for a rule make it follow the rule. -/
theorem fits_parensIf {operand : Operand} {rule : Rule} {parens : Bool}
    (fits : ∀ {rule : Rule}, rule ≠ .primary → rule.strength ≤ operand.strength →
      Fits rule operand.phrase)
    (compound : rule ≠ .primary) (needed : parens = decide (operand.strength < rule.strength)) :
    Fits rule (operand.phrase.parensIf parens) := by
  have positive : 1 ≤ operand.strength := by
    unfold Operand.strength
    split
    · exact Kind.strength_pos _
    · decide
  subst needed
  unfold Phrase.parensIf
  split
  · exact (Fits.parens (fits nofun positive)).of_primary rule
  · rename_i strong
    exact fits compound (by simpa using strong)

end Grammar

mutual

/-- A tree is written as a phrase that follows every rule that is not stronger than its kind. -/
theorem Expr.fits_phrase (content : Expr) {rule : Rule} (compound : rule ≠ .primary)
    (weaker : rule.strength ≤ content.kind.strength) : Fits rule content.phrase := by
  match content with
  | .unary .not operand =>
    have fits : ∀ {rule : Rule}, rule ≠ .primary → rule.strength ≤ operand.strength →
        Fits rule operand.phrase := operand.fits_phrase
    have negated : Fits .negation (operand.phrase.parensIf (operand.strength < 3)) :=
      fits_parensIf fits nofun rfl
    exact (Fits.not negated).of_negation compound
  | .binary (.join connective) left right =>
    have start : Fits (.chain connective)
        (left.phrase.parensIf (left.strength < (Kind.join connective).strength)) :=
      fits_parensIf left.fits_phrase nofun rfl
    have item : Fits (.item connective)
        (right.phrase.parensIf (right.strength ≤ (Kind.join connective).strength)) :=
      fits_parensIf right.fits_phrase (Rule.item_ne_primary connective)
        (decide_eq_decide.mpr (by rw [Rule.strength_item, Nat.lt_succ_iff]))
    exact (Fits.more start item).of_chain weaker
  | .unary (.join _) _ | .unary (.compare _) _ | .unary (.member _) _ | .unary (.absent _) _
  | .binary .not _ _ | .binary (.compare _) _ _ | .binary (.member _) _ _
  | .binary (.absent _) _ _ => exact Fits.test.of_primary rule

/-- The phrase of an operand follows every rule that asks for no more than its strength. -/
theorem Operand.fits_phrase (operand : Operand) {rule : Rule} (compound : rule ≠ .primary)
    (weaker : rule.strength ≤ operand.strength) : Fits rule operand.phrase := by
  match operand with
  | .expr content => exact content.fits_phrase compound weaker
  | .group content =>
    have inside : Fits (.chain .or) content.phrase :=
      content.fits_phrase nofun (Kind.strength_pos _)
    exact (Fits.parens inside).of_primary rule
  | .key _ | .value _ => exact Fits.test.of_primary rule

end

namespace Phrase

/-- Tests bind as strong as negations do. -/
theorem strength_of_isWritableTest {content : Expr} (writable : content.IsWritableTest) :
    content.kind.strength = 3 := by
  cases writable <;> rfl

/-- A phrase of a rule becomes an operand that holds together as strongly as the rule asks. -/
theorem strength_operand_of_fits {rule : Rule} {phrase : Phrase} (fits : Fits rule phrase)
    (writable : phrase.IsWritable) : rule.strength ≤ phrase.operand.strength := by
  induction fits with
  | @single connective phrase _ ih =>
    have strong := ih writable
    rw [Rule.strength_item] at strong
    exact Nat.le_of_succ_le strong
  | more => exact Nat.le_refl _
  | not => exact Nat.le_refl _
  | plain _ ih => exact ih writable
  | parens => exact Nat.le_refl _
  | test => exact (strength_of_isWritableTest writable).ge

/-- No parentheses are put where a phrase follows the rule as it is. -/
theorem parensIf_of_fits {rule : Rule} {phrase : Phrase} {condition : Bool}
    (fits : Fits rule phrase) (writable : phrase.IsWritable)
    (needed : condition = decide (phrase.operand.strength < rule.strength)) (other : Phrase) :
    other.parensIf condition = other := by
  have strong := strength_operand_of_fits fits writable
  rw [needed, decide_eq_false (Nat.not_lt.mpr strong)]
  rfl

/-- The operand of a phrase contains the tree of the phrase. -/
theorem content?_operand (phrase : Phrase) : phrase.operand.content? = some phrase.content := by
  unfold operand wrap
  split <;> rfl

/-- An operand has the phrase of its content, in parentheses if it is a group. -/
theorem phrase_operand (phrase : Phrase) :
    phrase.operand.phrase = phrase.content.phrase.parensIf phrase.grouped := by
  unfold operand wrap
  cases phrase.grouped <;> rfl

/-- Phrases that become the same operand become the same tree. -/
theorem content_eq_of_operand_eq {left right : Phrase} (same : left.operand = right.operand) :
    left.content = right.content := by
  unfold operand wrap at same
  split at same <;> split at same
  · exact Operand.group.inj same
  · cases same
  · cases same
  · exact Operand.expr.inj same

/-- Parentheses do not change the tree of a phrase. -/
theorem content_parensIf (condition : Bool) (phrase : Phrase) :
    (phrase.parensIf condition).content = phrase.content := by
  cases condition <;> rfl

/-- Parentheses do not make a phrase less nested. -/
theorem nesting_le_parensIf (condition : Bool) (phrase : Phrase) :
    phrase.nesting ≤ (phrase.parensIf condition).nesting := by
  cases condition with
  | true => exact Nat.le_succ _
  | false => exact Nat.le_refl _

/-- From the phrase of an operand to the phrase of its tree. -/
theorem content_phrase_of_operand {phrase : Phrase}
    (again : phrase.operand.phrase.operand = phrase.operand)
    (nesting : phrase.operand.phrase.nesting ≤ phrase.nesting)
    (writable : phrase.operand.phrase.IsWritable) :
    phrase.content.phrase.content = phrase.content ∧
      phrase.content.phrase.nesting ≤ phrase.nesting ∧ phrase.content.phrase.IsWritable := by
  have same := content_eq_of_operand_eq again
  rw [phrase_operand] at same nesting writable
  rw [content_parensIf] at same
  rw [isWritable_parensIf] at writable
  exact ⟨same, Nat.le_trans (nesting_le_parensIf _ _) nesting, writable⟩

/-- What a phrase becomes is written as a phrase that becomes the same, is no deeper, and has tests
that can be written. -/
theorem operand_phrase_of_fits {rule : Rule} {phrase : Phrase} (fits : Fits rule phrase)
    (writable : phrase.IsWritable) :
    phrase.operand.phrase.operand = phrase.operand ∧
      phrase.operand.phrase.nesting ≤ phrase.nesting ∧ phrase.operand.phrase.IsWritable := by
  induction fits with
  | single _ ih => exact ih writable
  | @more connective left right start item ihLeft ihRight =>
    obtain ⟨leftAgain, leftNesting, leftWritable⟩ := ihLeft writable.1
    obtain ⟨rightAgain, rightNesting, rightWritable⟩ := ihRight writable.2
    have written : (join connective left right).operand.phrase =
        .join connective left.operand.phrase right.operand.phrase := by
      change Phrase.join connective (left.operand.phrase.parensIf _)
        (right.operand.phrase.parensIf _) = _
      refine congrArg₂ (join connective) (parensIf_of_fits start writable.1 rfl _)
        (parensIf_of_fits item writable.2 (decide_eq_decide.mpr ?_) _)
      rw [Rule.strength_item, Nat.lt_succ_iff]
      rfl
    rw [written]
    refine ⟨?_, by simp only [nesting]; omega, leftWritable, rightWritable⟩
    change Operand.expr (.join connective left.operand.phrase.operand
      right.operand.phrase.operand) = _
    rw [leftAgain, rightAgain]
    rfl
  | @not operand negated ih =>
    obtain ⟨again, nesting, writableOperand⟩ := ih writable
    have written : (not operand).operand.phrase = .not operand.operand.phrase := by
      change Phrase.not (operand.operand.phrase.parensIf _) = _
      exact congrArg Phrase.not (parensIf_of_fits negated writable rfl _)
    rw [written]
    refine ⟨?_, Nat.succ_le_succ nesting, writableOperand⟩
    change Operand.expr (.not operand.operand.phrase.operand) = _
    rw [again]
    rfl
  | plain _ ih => exact ih writable
  | @parens content _ ih =>
    obtain ⟨again, nesting, writableContent⟩ := ih writable
    obtain ⟨contentAgain, contentNesting, contentWritable⟩ :=
      content_phrase_of_operand again nesting writableContent
    refine ⟨?_, Nat.succ_le_succ contentNesting, contentWritable⟩
    exact congrArg Operand.group contentAgain
  | @test content =>
    have written : content.phrase = .test content := by
      cases writable <;> rfl
    have same : (test content).operand.phrase = .test content := written
    rw [same]
    exact ⟨rfl, Nat.le_refl _, writable⟩

end Phrase

namespace Expr

/-- A text whose tokens spell a phrase is read as the tree of the phrase, if that is not nested too
deep. -/
theorem parse_of_spells {text : String} {phrase : Phrase}
    (spelled : Spells Delimits text.toList fun tokens => Derives (.chain .or) tokens phrase)
    (nested : phrase.nesting ≤ Reading.maxNesting) : parse text = .ok phrase.content := by
  obtain ⟨tokens, cut, derived⟩ := spelled .start [] nofun
  rw [List.append_nil, lexFrom_nil] at cut
  rw [parse, lex, cut, Reading.ofTokens_append_finish_eq_ok_iff derived.kind_ne_finish rfl]
  exact ⟨phrase, .bare derived, nested, rfl⟩

/-- The text of a tree is read as the tree of its phrase, if that is not nested too deep and if the
tests can be written. -/
theorem parse_print_eq_content_phrase {content : Expr} (writable : content.phrase.IsWritable)
    (nested : content.phrase.nesting ≤ Reading.maxNesting) :
    parse content.print = .ok content.phrase.content := by
  have fits : Fits (.chain .or) content.phrase := content.fits_phrase nofun (Kind.strength_pos _)
  have spelled := Phrase.spells_print fits writable
  rw [content.print_phrase writable] at spelled
  exact parse_of_spells spelled nested

/-- A tree is read back from its own text if it is the tree of its phrase, if that is not nested
too deep, and if its tests can be written. -/
theorem parse_print_of_phrase {content : Expr} (writable : content.phrase.IsWritable)
    (again : content.phrase.content = content)
    (nested : content.phrase.nesting ≤ Reading.maxNesting) :
    parse content.print = .ok content :=
  (parse_print_eq_content_phrase writable nested).trans (congrArg Except.ok again)

end Expr

/-! ## Equality to itself -/

/-- A scalar that can be written is equal to itself. -/
theorem Scalar.same_self {scalar : Scalar} (writable : scalar.IsWritable) :
    scalar.same scalar = true := by
  cases scalar with
  | number value =>
    have finite : value.rank < Binary64.infinityRank := of_decide_eq_true writable
    have defined : value.isNaN = false := decide_eq_false (Nat.lt_asymm finite)
    rw [same, Binary64.sameNumber, defined, beq_self_eq_true]
    rfl
  | null | bool _ | int _ | text _ | date _ => simp [same]

/-- A list of scalars that can be written is equal to itself. -/
theorem Value.sameItems_self {values : List Scalar}
    (writable : ∀ value ∈ values, value.IsWritable) :
    sameItems (values.map .scalar) (values.map .scalar) = true := by
  induction values with
  | nil => rfl
  | cons value values ih =>
    obtain ⟨here, later⟩ := List.forall_mem_cons.mp writable
    rw [List.map_cons, sameItems, same, Scalar.same_self here, ih later]
    rfl

namespace Phrase

/-- An operand is equal to itself if its content is. -/
theorem same_wrap {phrase : Phrase} (same : phrase.content.same phrase.content = true) :
    (phrase.wrap phrase.content).same (phrase.wrap phrase.content) = true := by
  unfold wrap
  cases phrase.grouped <;> exact same

/-- Tests that can be written hold no undefined numbers, so a tree of them equals itself. -/
theorem same_content {phrase : Phrase} (writable : phrase.IsWritable) :
    phrase.content.same phrase.content = true := by
  induction phrase with
  | test content =>
    cases writable with
    | compare _ writable =>
      simp [content, Expr.compare, Expr.same, Operand.same, Value.same, Scalar.same_self writable]
    | member _ writable =>
      simp [content, Expr.member, Value.ofScalars, Expr.same, Operand.same, Value.same,
        Value.sameItems_self writable]
    | absent _ => simp [content, Expr.absent, Expr.same, Operand.same]
  | join connective left right ihLeft ihRight =>
    simp [content, Expr.join, Expr.same, same_wrap (ihLeft writable.1),
      same_wrap (ihRight writable.2)]
  | not operand ih => simp [content, Expr.not, Expr.same, same_wrap (ih writable)]
  | parens content ih => exact ih writable

end Phrase

namespace Expr

/-- A tree that was read is that of a phrase that follows the grammar, has tests that can be written
and is not nested too deep. -/
theorem exists_phrase_of_parse {text : String} {content : Expr} (read : parse text = .ok content) :
    ∃ phrase, Fits (.chain .or) phrase ∧ phrase.IsWritable ∧
      phrase.nesting ≤ Reading.maxNesting ∧ phrase.content = content := by
  obtain ⟨body, stop, cut, others⟩ := lexFrom_eq_append_finish .start text.toList
  rw [parse, lex, cut, Reading.ofTokens_append_finish_eq_ok_iff others rfl] at read
  obtain ⟨phrase, filter, nested, isContent⟩ := read
  have cutBody : ∀ token ∈ body, token.IsCut := fun token member =>
    isCut_of_mem_lexFrom (cut ▸ List.mem_append_left _ member)
  cases filter with
  | bare derived =>
    refine ⟨phrase, fits_of_derives derived, ?_, nested, isContent⟩
    exact isWritable_of_derives derived cutBody
  | introduced _ derived =>
    refine ⟨phrase, fits_of_derives derived, isWritable_of_derives derived ?_, nested, isContent⟩
    exact fun token member => cutBody token (List.mem_cons_of_mem _ member)

/-- A filter is read again from its own text. -/
theorem parse_print {text : String} {content : Expr} (read : parse text = .ok content) :
    parse content.print = .ok content ∧ content.same content = true := by
  obtain ⟨phrase, fits, writable, nested, rfl⟩ := exists_phrase_of_parse read
  obtain ⟨again, nesting, writableAgain⟩ := Phrase.operand_phrase_of_fits fits writable
  obtain ⟨contentAgain, contentNesting, contentWritable⟩ :=
    Phrase.content_phrase_of_operand again nesting writableAgain
  refine ⟨parse_print_of_phrase contentWritable contentAgain ?_, Phrase.same_content writable⟩
  exact Nat.le_trans contentNesting nested

/-- Doubled parentheses, a negation, a marked integer, a negative zero and quoted texts of both
kinds are read again from the text of their tree. -/
theorem parse_print_nested :
    ∃ content, parse
      "where ((not (a.b == \"it's\") or x nin [-10L, -0.0, null])) and 'k \\' 1' is not null" =
        .ok content ∧
      parse content.print = .ok content ∧ content.same content = true := by
  have read : parse
      "where ((not (a.b == \"it's\") or x nin [-10L, -0.0, null])) and 'k \\' 1' is not null" =
        .ok (.join .and
          (.group (.join .or
            (.expr (.not (.group (.compare .eq ⟨"a.b"⟩ (.scalar (.text "it's"))))))
            (.expr (.member true ⟨"x"⟩ (.ofScalars [.int (-10), .number ⟨true, 0⟩, .null])))))
          (.expr (.absent true ⟨"'k \\' 1'"⟩))) := by
    cbv
  exact ⟨_, read, parse_print read⟩

end Expr

end PortableFilter
