import PortableFilter.Proofs.Expr.Meaning
import PortableFilter.Proofs.Expr.RoundTrip

/-! # Reading the text of any tree

A tree need not come from a text: bare connectives can stand below each other as they please, and
values can be dates. Its text then has parentheses that no group stands for, and texts for dates.
`Expr.regrouped` puts a group around exactly the bare operands that need one, and
`Expr.datesAsTexts` puts texts in the place of dates. The text of a well-shaped tree is read as the
tree with both (`Expr.parse_print_eq_regrouped_iff`). -/

namespace PortableFilter

open Token Grammar

/-! ## What is read in place of a tree -/

/-- A scalar with its text in place of a date. -/
def Scalar.datesAsTexts : Scalar → Scalar
  | .date value => .text value.toText
  | value => value

namespace Value

mutual

/-- A value with a text in place of each date. -/
def datesAsTexts : Value → Value
  | .scalar value => .scalar value.datesAsTexts
  | .list items => .list (datesAsTextsItems items)

def datesAsTextsItems : List Value → List Value
  | [] => []
  | item :: items => datesAsTexts item :: datesAsTextsItems items

end

end Value

mutual

/-- A tree with a text in place of each date. -/
def Expr.datesAsTexts : Expr → Expr
  | .unary kind operand => .unary kind operand.datesAsTexts
  | .binary kind left right => .binary kind left.datesAsTexts right.datesAsTexts

def Operand.datesAsTexts : Operand → Operand
  | .key key => .key key
  | .value value => .value value.datesAsTexts
  | .expr content => .expr content.datesAsTexts
  | .group content => .group content.datesAsTexts

end

/-- Whether a bare operand of a kind is read below a parent only from parentheses: an "or" below an
"and", a connective below a negation, and a second operand that is joined as its parent is. -/
def Kind.groups (parent : Kind) (second : Bool) (kind : Kind) : Bool :=
  match parent, kind with
  | .join .and, .join .or => true
  | .not, .join _ => true
  | .join connective, .join other => second && connective = other
  | _, _ => false

/-- Whether an operand is bare and is read in its place only from parentheses. -/
def Operand.needsGroup (parent : Kind) (second : Bool) : Operand → Bool
  | .expr content => parent.groups second content.kind
  | _ => false

mutual

/-- A tree with a group around each bare operand that needs one. -/
def Expr.regrouped : Expr → Expr
  | .unary kind operand => .unary kind (operand.regrouped (operand.needsGroup kind false))
  | .binary kind left right =>
    .binary kind (left.regrouped (left.needsGroup kind false))
      (right.regrouped (right.needsGroup kind true))

/-- An operand with groups inside it where they are needed, and in a group itself if `needed`. -/
def Operand.regrouped (needed : Bool) : Operand → Operand
  | .key key => .key key
  | .value value => .value value
  | .expr content => if needed then .group content.regrouped else .expr content.regrouped
  | .group content => .group content.regrouped

end

mutual

/-- A tree without its groups. -/
def Expr.ungrouped : Expr → Expr
  | .unary kind operand => .unary kind operand.ungrouped
  | .binary kind left right => .binary kind left.ungrouped right.ungrouped

def Operand.ungrouped : Operand → Operand
  | .key key => .key key
  | .value value => .value value
  | .expr content | .group content => .expr content.ungrouped

end

mutual

/-- The greatest number of groups and negations above a node. -/
def Expr.depth : Expr → Nat
  | .unary .not operand => operand.depth + 1
  | .unary _ operand => operand.depth
  | .binary _ left right => max left.depth right.depth

def Operand.depth : Operand → Nat
  | .key _ | .value _ => 0
  | .expr content => content.depth
  | .group content => content.depth + 1

end

mutual

/-- Groups that are put in do not change what is left without groups. -/
theorem Expr.ungrouped_regrouped (expr : Expr) : expr.regrouped.ungrouped = expr.ungrouped := by
  match expr with
  | .unary kind operand =>
    rw [Expr.regrouped, Expr.ungrouped, operand.ungrouped_regrouped, Expr.ungrouped]
  | .binary kind left right =>
    rw [Expr.regrouped, Expr.ungrouped, left.ungrouped_regrouped, right.ungrouped_regrouped,
      Expr.ungrouped]

/-- Groups that are put around an operand are taken away with all others. -/
theorem Operand.ungrouped_regrouped (operand : Operand) (needed : Bool) :
    (operand.regrouped needed).ungrouped = operand.ungrouped := by
  match operand with
  | .key _ | .value _ => rfl
  | .expr content =>
    have same := congrArg Operand.expr content.ungrouped_regrouped
    cases needed <;> exact same
  | .group content => exact congrArg Operand.expr content.ungrouped_regrouped

end

/-! ## The text of dates -/

/-- A date and its text are printed alike. -/
theorem Scalar.print_datesAsTexts (value : Scalar) : value.datesAsTexts.print = value.print := by
  cases value <;> rfl

namespace Value

mutual

/-- A value and the value with texts for its dates are printed alike. -/
theorem print_datesAsTexts (value : Value) : value.datesAsTexts.print = value.print := by
  match value with
  | .scalar value => exact value.print_datesAsTexts
  | .list items => rw [datesAsTexts, print, printItems_datesAsTexts items, print]

theorem printItems_datesAsTexts (items : List Value) :
    printItems (datesAsTextsItems items) = printItems items := by
  match items with
  | [] => rfl
  | item :: items =>
    rw [datesAsTextsItems, printItems, print_datesAsTexts item, printItems_datesAsTexts items,
      printItems]

end

end Value

/-- Texts for dates do not change how strong an operand binds. -/
theorem Operand.strength_datesAsTexts (operand : Operand) :
    operand.datesAsTexts.strength = operand.strength := by
  cases operand with
  | key | value | group => rfl
  | expr content => cases content <;> rfl

mutual

/-- A date is written as its text is. -/
theorem Expr.print_datesAsTexts (expr : Expr) : expr.datesAsTexts.print = expr.print := by
  match expr with
  | .unary kind operand =>
    rw [Expr.datesAsTexts, Expr.print, Expr.print, operand.print_datesAsTexts]
    cases kind <;> simp only [Kind.printUnary, operand.strength_datesAsTexts]
  | .binary kind left right =>
    rw [Expr.datesAsTexts, Expr.print, Expr.print, left.print_datesAsTexts,
      right.print_datesAsTexts]
    cases kind <;> simp only [Kind.printUnary, Kind.printSecond, left.strength_datesAsTexts,
      right.strength_datesAsTexts]

/-- An operand and the operand with texts for its dates are printed alike. -/
theorem Operand.print_datesAsTexts (operand : Operand) :
    operand.datesAsTexts.print = operand.print := by
  match operand with
  | .key _ => rfl
  | .value value => exact value.print_datesAsTexts
  | .expr content => exact content.print_datesAsTexts
  | .group content => exact congrArg Text.parenthesized content.print_datesAsTexts

end

/-! ## Parentheses where groups are needed -/

namespace Operand

/-- Exactly the operands that bind weaker than a negation need a group behind one. -/
theorem decide_strength_lt_three (operand : Operand) :
    decide (operand.strength < 3) = operand.needsGroup .not false := by
  cases operand with
  | key | value | group => rfl
  | expr content =>
    rw [strength, needsGroup]
    rcases content.kind with (_ | _) | _ | _ | _ | _ <;> rfl

/-- Exactly the first operands that bind weaker than the connective need a group. -/
theorem decide_strength_lt (operand : Operand) (connective : Connective) :
    decide (operand.strength < (Kind.join connective).strength) =
      operand.needsGroup (.join connective) false := by
  cases operand with
  | key | value | group => cases connective <;> rfl
  | expr content =>
    rw [strength, needsGroup]
    rcases content.kind with (_ | _) | _ | _ | _ | _ <;> cases connective <;> rfl

/-- Exactly the second operands that do not bind stronger than the connective need a group. -/
theorem decide_strength_le (operand : Operand) (connective : Connective) :
    decide (operand.strength ≤ (Kind.join connective).strength) =
      operand.needsGroup (.join connective) true := by
  cases operand with
  | key | value | group => cases connective <;> rfl
  | expr content =>
    rw [strength, needsGroup]
    rcases content.kind with (_ | _) | _ | _ | _ | _ <;> cases connective <;> rfl

end Operand

theorem Expr.grouped_phrase (expr : Expr) : expr.phrase.grouped = false := by
  match expr with
  | .unary .not _ | .binary (.join _) _ _ => rfl
  | .unary (.join _) _ | .unary (.compare _) _ | .unary (.member _) _ | .unary (.absent _) _
  | .binary .not _ _ | .binary (.compare _) _ _ | .binary (.member _) _ _
  | .binary (.absent _) _ _ => rfl

/-- A test that can be written has no operands to put into groups. -/
theorem Expr.regrouped_of_isWritableTest {expr : Expr} (writable : expr.IsWritableTest) :
    expr.regrouped = expr ∧ expr.depth = 0 := by
  cases writable <;> exact ⟨rfl, rfl⟩

mutual

/-- The parentheses of a tree's text are those of its groups and of the groups it needs. -/
theorem Expr.phrase_eq_regrouped (expr : Expr) (writable : expr.phrase.IsWritable) :
    expr.phrase.content = expr.regrouped ∧ expr.phrase.nesting = expr.regrouped.depth := by
  match expr with
  | .unary .not operand =>
    rw [Expr.phrase, Phrase.IsWritable, Phrase.isWritable_parensIf] at writable
    obtain ⟨same, nesting⟩ := operand.phrase_eq_regrouped writable .not false
    rw [Expr.phrase, operand.decide_strength_lt_three, Expr.regrouped, Expr.depth, ← nesting,
      ← same]
    exact ⟨rfl, rfl⟩
  | .binary (.join connective) left right =>
    rw [Expr.phrase, Phrase.IsWritable, Phrase.isWritable_parensIf, Phrase.isWritable_parensIf]
      at writable
    obtain ⟨sameLeft, leftNesting⟩ :=
      left.phrase_eq_regrouped writable.1 (.join connective) false
    obtain ⟨sameRight, rightNesting⟩ :=
      right.phrase_eq_regrouped writable.2 (.join connective) true
    rw [Expr.phrase, left.decide_strength_lt, right.decide_strength_le, Expr.regrouped, Expr.depth,
      ← leftNesting, ← rightNesting, ← sameLeft, ← sameRight]
    exact ⟨rfl, rfl⟩
  | .unary (.join _) _ | .unary (.compare _) _ | .unary (.member _) _ | .unary (.absent _) _
  | .binary .not _ _ | .binary (.compare _) _ _ | .binary (.member _) _ _
  | .binary (.absent _) _ _ =>
    obtain ⟨same, flat⟩ := Expr.regrouped_of_isWritableTest writable
    rw [same, flat]
    exact ⟨rfl, rfl⟩

/-- An operand in parentheses where it needs them is read as the regrouped operand. -/
theorem Operand.phrase_eq_regrouped (operand : Operand) (writable : operand.phrase.IsWritable)
    (parent : Kind) (second : Bool) :
    (operand.phrase.parensIf (operand.needsGroup parent second)).operand =
        operand.regrouped (operand.needsGroup parent second) ∧
      (operand.phrase.parensIf (operand.needsGroup parent second)).nesting =
        (operand.regrouped (operand.needsGroup parent second)).depth := by
  match operand with
  | .expr content =>
    obtain ⟨same, nesting⟩ := content.phrase_eq_regrouped writable
    rw [Operand.phrase, Operand.regrouped, ← same]
    cases (Operand.expr content).needsGroup parent second with
    | true => exact ⟨rfl, by rw [if_pos rfl, Operand.depth, same, ← nesting]; rfl⟩
    | false =>
      refine ⟨?_, by rw [if_neg Bool.false_ne_true, Operand.depth, same, ← nesting]; rfl⟩
      rw [Phrase.parensIf, if_neg Bool.false_ne_true, Phrase.operand, Phrase.wrap,
        content.grouped_phrase]
  | .group content =>
    obtain ⟨same, nesting⟩ := content.phrase_eq_regrouped writable
    rw [Operand.phrase, Operand.regrouped, ← same]
    exact ⟨rfl, by rw [Operand.depth, same, ← nesting]; rfl⟩
  | .key _ | .value _ => exact absurd writable (not_isWritableTest_not _)

end

namespace Phrase

/-- A tree is no deeper than the operand that contains it. -/
theorem depth_content_le_operand (phrase : Phrase) :
    phrase.content.depth ≤ phrase.operand.depth := by
  unfold operand wrap
  split
  · exact Nat.le_succ _
  · exact Nat.le_refl _

/-- What a phrase becomes is not nested deeper than the phrase. -/
theorem depth_operand_le {phrase : Phrase} (writable : phrase.IsWritable) :
    phrase.operand.depth ≤ phrase.nesting := by
  induction phrase with
  | test content => exact (Expr.regrouped_of_isWritableTest writable).2.le
  | join connective left right ihLeft ihRight =>
    exact max_le_max (ihLeft writable.1) (ihRight writable.2)
  | not operand ih => exact Nat.succ_le_succ (ih writable)
  | parens content ih =>
    exact Nat.succ_le_succ (Nat.le_trans content.depth_content_le_operand (ih writable))

end Phrase

/-! ## Trees that can be written -/

/-- A key that a filter can spell: names with dots between them, or a quoted text that is one
token. -/
def Key.Spellable (key : Key) : Prop :=
  IsPath key.raw.toList ∨ ∃ token stop, Token.lex key.raw = [token, .finish stop] ∧
    token.kind = .quoted ∧ token.text = key.raw

/-- An integer of 64 bits, a text on one line, or any other scalar. -/
def Scalar.Spellable : Scalar → Prop
  | .int value => -0x8000000000000000 ≤ value ∧ value < 0x8000000000000000
  | .text value => '\n' ∉ value.toList ∧ '\r' ∉ value.toList
  | .null | .bool _ | .number _ | .date _ => True

/-- A test whose key and scalars a filter can spell. -/
def Leaf.Spellable : Leaf → Prop
  | .compare _ key value => key.Spellable ∧ value.Spellable
  | .member _ key items => key.Spellable ∧ ∀ item ∈ items, item.Spellable
  | .absent _ key => key.Spellable

mutual

/-- The tests of a tree. -/
def Expr.tests : Expr → List Leaf
  | .unary .not operand => operand.tests
  | .binary (.join _) left right => left.tests ++ right.tests
  | expr => expr.test?.toList

def Operand.tests : Operand → List Leaf
  | .key _ | .value _ => []
  | .expr content | .group content => content.tests

end

/-- A key that can be spelled can be written. -/
theorem Key.isWritable_of_spellable {key : Key} (spellable : key.Spellable) : key.IsWritable := by
  rcases spellable with isPath | ⟨token, stop, cut, kind, text⟩
  · exact .inl isPath
  · have member : token ∈ Token.lexFrom .start key.raw.toList := by
      change token ∈ Token.lex key.raw
      rw [cut]
      exact List.mem_cons_self
    have literal := (isCut_of_mem_lexFrom member).literal kind
    rw [text] at literal
    exact .inr literal

namespace Timestamp

theorem endsLine_of_mem_padded (width n : Nat) : ∀ c ∈ padded width n, endsLine c = false := by
  have digit : ∀ c : Char, c.isDigit → endsLine c = false := by
    intro c isDigit
    by_contra ends
    rw [Bool.not_eq_false, endsLine, Bool.or_eq_true, beq_iff_eq, beq_iff_eq] at ends
    rcases ends with rfl | rfl <;> exact absurd isDigit (by decide)
  intro c member
  rcases List.mem_append.mp member with zero | digits
  · rw [List.eq_of_mem_replicate zero]
    rfl
  · exact digit c (Nat.isDigit_of_mem_toDigits (by decide) (by decide) digits)

/-- The text of a timestamp stays on one line. -/
theorem oneLine_toText (timestamp : Timestamp) :
    ∀ c ∈ timestamp.toText.toList, endsLine c = false := by
  have year : ∀ year : Int, ∀ c ∈ yearText year, endsLine c = false := by
    intro year
    unfold yearText
    split
    · exact endsLine_of_mem_padded _ _
    · refine List.forall_mem_cons.mpr ⟨?_, endsLine_of_mem_padded _ _⟩
      split <;> rfl
  have field : ∀ (mark : Char) (n : Nat), endsLine mark = false →
      ∀ c ∈ mark :: padded 2 n, endsLine c = false := fun mark n oneLine =>
    List.forall_mem_cons.mpr ⟨oneLine, endsLine_of_mem_padded _ _⟩
  rw [toText, String.toList_ofList, chars]
  simp only [List.forall_mem_append]
  refine ⟨⟨⟨⟨⟨⟨year _, field _ _ rfl⟩, field _ _ rfl⟩, field _ _ rfl⟩, field _ _ rfl⟩,
    field _ _ rfl⟩, ?_⟩
  simp [endsLine]

end Timestamp

/-- A finite scalar that can be spelled can be written, with its date as a text. -/
theorem Scalar.isWritable_datesAsTexts {value : Scalar} (spellable : value.Spellable)
    (finite : value.isFinite) : value.datesAsTexts.IsWritable := by
  cases value with
  | null | bool => trivial
  | int => exact spellable
  | number => exact finite
  | date value => exact value.oneLine_toText
  | text value =>
    intro c member
    by_contra ends
    rw [Bool.not_eq_false, endsLine, Bool.or_eq_true, beq_iff_eq, beq_iff_eq] at ends
    rcases ends with rfl | rfl
    · exact spellable.1 member
    · exact spellable.2 member

/-- The dates of a list are replaced one by one. -/
theorem Value.datesAsTexts_ofScalars (values : List Scalar) :
    (ofScalars values).datesAsTexts = ofScalars (values.map Scalar.datesAsTexts) := by
  have items : datesAsTextsItems (values.map .scalar) =
      (values.map Scalar.datesAsTexts).map .scalar := by
    induction values with
    | nil => rfl
    | cons value values ih =>
      rw [List.map_cons, datesAsTextsItems, ih, datesAsTexts, List.map_cons, List.map_cons]
  rw [ofScalars, datesAsTexts, items, ofScalars]

/-- A valid test that can be spelled is written with the text of each date. -/
theorem Leaf.isWritableTest_datesAsTexts {leaf : Leaf} (valid : leaf.Valid)
    (spellable : leaf.Spellable) : leaf.expr.datesAsTexts.IsWritableTest := by
  cases leaf with
  | compare comparison key value =>
    exact .compare (Key.isWritable_of_spellable spellable.1)
      (Scalar.isWritable_datesAsTexts spellable.2 valid.2.2)
  | member negated key items =>
    have written : (Leaf.member negated key items).expr.datesAsTexts =
        .member negated key (.ofScalars (items.map Scalar.datesAsTexts)) := by
      rw [expr, Expr.member, Expr.datesAsTexts, Operand.datesAsTexts, Operand.datesAsTexts,
        Value.datesAsTexts_ofScalars, Expr.member]
    rw [written]
    refine .member (Key.isWritable_of_spellable spellable.1) fun value listed => ?_
    obtain ⟨item, inItems, rfl⟩ := List.mem_map.mp listed
    exact Scalar.isWritable_datesAsTexts (spellable.2 item inItems)
      (List.all_eq_true.mp valid.2 item inItems)
  | absent negated key => exact .absent (Key.isWritable_of_spellable spellable)

/-- An operand can be written if its content can. -/
theorem Operand.isWritable_phrase_of_content {operand : Operand} {content : Expr}
    (inside : operand.content? = some content)
    (writable : content.datesAsTexts.phrase.IsWritable) :
    operand.datesAsTexts.phrase.IsWritable := by
  cases operand with
  | key | value => cases inside
  | expr | group =>
    cases inside
    exact writable

/-- An operand has the tests of its content. -/
theorem Operand.tests_of_content {operand : Operand} {content : Expr}
    (inside : operand.content? = some content) : operand.tests = content.tests := by
  cases operand with
  | key | value => cases inside
  | expr | group =>
    cases inside
    rfl

/-- A well-shaped tree whose tests can be spelled is written as a phrase whose tests can be
written. -/
theorem Expr.isWritable_phrase_datesAsTexts {expr : Expr} (shaped : expr.Shaped)
    (spellable : ∀ leaf ∈ expr.tests, leaf.Spellable) :
    expr.datesAsTexts.phrase.IsWritable := by
  induction shaped with
  | @test leaf valid =>
    have alone : leaf.expr.tests = leaf.expr.test?.toList := by
      cases leaf <;> rfl
    have whole : leaf.expr.datesAsTexts.phrase = .test leaf.expr.datesAsTexts := by
      cases leaf <;> rfl
    rw [alone, Leaf.test?_expr] at spellable
    rw [whole]
    exact Leaf.isWritableTest_datesAsTexts valid (spellable leaf List.mem_cons_self)
  | @not operand content inside _ ih =>
    rw [Expr.tests, Operand.tests_of_content inside] at spellable
    rw [Expr.datesAsTexts, Expr.phrase, Phrase.IsWritable, Phrase.isWritable_parensIf]
    exact Operand.isWritable_phrase_of_content inside (ih spellable)
  | @join connective left right first second inLeft inRight _ _ ihLeft ihRight =>
    rw [Expr.tests, Operand.tests_of_content inLeft, Operand.tests_of_content inRight,
      List.forall_mem_append] at spellable
    rw [Expr.datesAsTexts, Expr.phrase, Phrase.IsWritable, Phrase.isWritable_parensIf,
      Phrase.isWritable_parensIf]
    exact ⟨Operand.isWritable_phrase_of_content inLeft (ihLeft spellable.1),
      Operand.isWritable_phrase_of_content inRight (ihRight spellable.2)⟩

namespace Expr

/-- The text of a well-shaped tree is read as that tree with texts in place of dates and with the
groups it needs, exactly if these are not nested more than 128 deep. Without groups, that is the
tree that was written. -/
theorem parse_print_eq_regrouped_iff {expr : Expr} (shaped : expr.wellShaped)
    (spellable : ∀ leaf ∈ expr.tests, leaf.Spellable) :
    (parse expr.print = .ok expr.datesAsTexts.regrouped ↔
        expr.datesAsTexts.regrouped.depth ≤ 128) ∧
      expr.datesAsTexts.regrouped.ungrouped = expr.datesAsTexts.ungrouped := by
  have writable := isWritable_phrase_datesAsTexts (expr.shaped_of_wellShaped shaped) spellable
  obtain ⟨same, nesting⟩ := expr.datesAsTexts.phrase_eq_regrouped writable
  refine ⟨⟨fun read => ?_, fun nested => ?_⟩, expr.datesAsTexts.ungrouped_regrouped⟩
  · obtain ⟨phrase, -, writable, nested, content⟩ := exists_phrase_of_parse read
    calc expr.datesAsTexts.regrouped.depth = phrase.content.depth := by rw [content]
      _ ≤ phrase.operand.depth := phrase.depth_content_le_operand
      _ ≤ phrase.nesting := Phrase.depth_operand_le writable
      _ ≤ 128 := nested
  · rw [← expr.print_datesAsTexts, ← same]
    exact parse_print_eq_content_phrase writable (nesting.trans_le nested)

/-- A tree of bare connectives, with a date in a list. -/
def bare : Expr :=
  .join .and
    (.expr (.join .or (.expr (.compare .lt ⟨"a.b"⟩ (.scalar (.int (-1)))))
      (.expr (.absent false ⟨"'it\\'s'"⟩))))
    (.expr (.join .and (.expr (.member true ⟨"a.b"⟩ (.ofScalars [.date ⟨0, 0⟩, .text "'"])))
      (.expr (.not (.expr (.join .and (.expr (.absent true ⟨"a.b"⟩))
        (.group (.absent false ⟨"a.b"⟩))))))))

/-- An "or" below an "and", an "and" on the right of an "and", a connective below a negation, a date
and a quoted key are read again from the text of their tree, with three groups more. -/
theorem parse_print_bare : bare.wellShaped ∧ (∀ leaf ∈ bare.tests, leaf.Spellable) ∧
    parse bare.print = .ok bare.datesAsTexts.regrouped ∧
    bare.datesAsTexts.regrouped.ungrouped = bare.datesAsTexts.ungrouped := by
  have path : (⟨"a.b"⟩ : Key).Spellable :=
    .inl (.dotted (@IsPath.name ['a'] ⟨by decide, by decide⟩) ⟨by decide, by decide⟩)
  have quoted : (⟨"'it\\'s'"⟩ : Key).Spellable :=
    .inr ⟨⟨.quoted, "'it\\'s'", .start, 7⟩, ⟨7, 1, 8⟩, by cbv, rfl, rfl⟩
  have spellable : ∀ leaf ∈ bare.tests, leaf.Spellable := by
    simp only [bare, join, compare, member, absent, Expr.not, Expr.tests, Operand.tests, test?,
      Value.ofScalars, Value.scalars?_map_scalar, Option.map_some, Option.toList_some,
      List.cons_append, List.nil_append, List.forall_mem_cons]
    refine ⟨⟨path, ?_⟩, quoted, ⟨path, ?_⟩, path, path, by simp⟩
    · simp [Scalar.Spellable]
    · simp [Scalar.Spellable]
  obtain ⟨reads, same⟩ := @parse_print_eq_regrouped_iff bare (by decide) spellable
  exact ⟨by decide, spellable, reads.mpr (by decide), same⟩

end Expr

end PortableFilter
