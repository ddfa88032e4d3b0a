import PortableFilter.Proofs.Expr.RoundTrip
import PortableFilter.Proofs.Token.Relocation

/-! # Filters put together from texts

A filter in parentheses can be joined with another one without knowing what either says. The grammar
does not see where tokens stand (`Grammar.Derives.relocate`), and a delimiter ends the last token of
a text, so the tokens of an accepted filter spell the same phrase inside a longer text
(`Grammar.spells_of_lex`). Hence no filter changes how the one it is joined with is read
(`Expr.parse_joined`). -/

namespace PortableFilter

open Token

namespace Grammar

/-! ## Derivations at another place -/

/-- A constant is the same wherever it stands. -/
theorem Constant.relocate {token other : Token} {value : Scalar} (constant : Constant token value)
    (same : other.lexeme = token.lexeme) : Constant other value := by
  obtain ⟨sameKind, sameText⟩ := Prod.mk.inj same
  cases constant with
  | integer kind spelled signs nonempty numeric marks above below =>
    exact .integer (sameKind.trans kind) (sameText ▸ spelled) signs nonempty numeric marks above
      below
  | decimal kind spelled finite =>
    exact .decimal (sameKind.trans kind) (sameText ▸ spelled) finite
  | quoted kind => exact sameText ▸ .quoted (sameKind.trans kind)
  | boolean kind => exact .boolean (sameKind.trans kind)
  | null kind => exact .null (sameKind.trans kind)

/-- Items are the same wherever they stand. -/
theorem Items.relocate {tokens : List Token} {values : List Scalar} (items : Items tokens values) :
    ∀ {others : List Token}, others.map lexeme = tokens.map lexeme → Items others values := by
  induction items with
  | single constant =>
    intro others same
    obtain ⟨other, rfl, sameToken⟩ := List.map_eq_singleton_iff.mp same
    exact .single (constant.relocate sameToken)
  | more constant kind items ih =>
    intro others same
    obtain ⟨other, _, rfl, sameToken, same⟩ := List.map_eq_cons_iff.mp same
    obtain ⟨comma, _, rfl, sameComma, same⟩ := List.map_eq_cons_iff.mp same
    exact .more (constant.relocate sameToken) (kind_eq_of_lexeme sameComma kind) (ih same)

/-- Tokens that are spelled as something between two tokens stand between two such tokens
themselves. -/
theorem exists_enclosed_of_lexeme {opening closing : Token} {tokens others : List Token}
    (same : others.map lexeme = (opening :: tokens ++ [closing]).map lexeme) :
    ∃ first inside last, others = first :: inside ++ [last] ∧ first.lexeme = opening.lexeme ∧
      inside.map lexeme = tokens.map lexeme ∧ last.lexeme = closing.lexeme := by
  rw [List.map_append] at same
  obtain ⟨_, _, rfl, sameFront, sameBack⟩ := List.map_eq_append_iff.mp same
  obtain ⟨first, inside, rfl, sameFirst, sameInside⟩ := List.map_eq_cons_iff.mp sameFront
  obtain ⟨last, rfl, sameLast⟩ := List.map_eq_singleton_iff.mp sameBack
  exact ⟨first, inside, last, rfl, sameFirst, sameInside, sameLast⟩

theorem Bracketed.relocate {tokens others : List Token} {values : List Scalar}
    (bracketed : Bracketed tokens values) (same : others.map lexeme = tokens.map lexeme) :
    Bracketed others values := by
  cases bracketed with
  | empty opens closes =>
    obtain ⟨opening, _, rfl, sameOpening, same⟩ := List.map_eq_cons_iff.mp same
    obtain ⟨closing, rfl, sameClosing⟩ := List.map_eq_singleton_iff.mp same
    exact .empty (kind_eq_of_lexeme sameOpening opens) (kind_eq_of_lexeme sameClosing closes)
  | items opens items closes =>
    obtain ⟨opening, inside, closing, rfl, sameOpening, sameInside, sameClosing⟩ :=
      exists_enclosed_of_lexeme same
    exact .items (kind_eq_of_lexeme sameOpening opens) (items.relocate sameInside)
      (kind_eq_of_lexeme sameClosing closes)

theorem Path.relocate {tokens : List Token} {path : String} (named : Path tokens path) :
    ∀ {others : List Token}, others.map lexeme = tokens.map lexeme → Path others path := by
  induction named with
  | name kind =>
    intro others same
    obtain ⟨other, rfl, sameToken⟩ := List.map_eq_singleton_iff.mp same
    obtain ⟨sameKind, sameText⟩ := Prod.mk.inj sameToken
    exact sameText ▸ .name (sameKind.trans kind)
  | dotted start dots kind ih =>
    intro others same
    rw [List.map_append] at same
    obtain ⟨before, _, rfl, sameBefore, same⟩ := List.map_eq_append_iff.mp same
    obtain ⟨dot, _, rfl, sameDot, same⟩ := List.map_eq_cons_iff.mp same
    obtain ⟨part, rfl, samePart⟩ := List.map_eq_singleton_iff.mp same
    obtain ⟨sameKind, sameText⟩ := Prod.mk.inj samePart
    exact sameText ▸ .dotted (ih sameBefore) (kind_eq_of_lexeme sameDot dots) (sameKind.trans kind)

theorem Identifier.relocate {tokens others : List Token} {key : Key}
    (named : Identifier tokens key) (same : others.map lexeme = tokens.map lexeme) :
    Identifier others key := by
  cases named with
  | path named => exact .path (named.relocate same)
  | quoted kind =>
    obtain ⟨other, rfl, sameToken⟩ := List.map_eq_singleton_iff.mp same
    obtain ⟨sameKind, sameText⟩ := Prod.mk.inj sameToken
    exact sameText ▸ .quoted (sameKind.trans kind)

theorem Predicate.relocate {key : Key} {tokens others : List Token} {content : Expr}
    (predicate : Predicate key tokens content) (same : others.map lexeme = tokens.map lexeme) :
    Predicate key others content := by
  obtain ⟨word, rest, rfl, sameWord, same⟩ : ∃ word rest, others = word :: rest ∧
      word.lexeme = (Reading.next tokens).lexeme ∧
      rest.map lexeme = tokens.tail.map lexeme := by
    cases predicate <;> exact List.map_eq_cons_iff.mp same
  cases predicate with
  | compare kind constant =>
    obtain ⟨token, rfl, sameToken⟩ := List.map_eq_singleton_iff.mp same
    exact .compare (kind_eq_of_lexeme sameWord kind) (constant.relocate sameToken)
  | member kind bracketed =>
    exact .member (kind_eq_of_lexeme sameWord kind) (bracketed.relocate same)
  | nonmember kind bracketed =>
    exact .nonmember (kind_eq_of_lexeme sameWord kind) (bracketed.relocate same)
  | notMember negates kind bracketed =>
    obtain ⟨other, _, rfl, sameOther, same⟩ := List.map_eq_cons_iff.mp same
    exact .notMember (kind_eq_of_lexeme sameWord negates) (kind_eq_of_lexeme sameOther kind)
      (bracketed.relocate same)
  | absent kind ends =>
    obtain ⟨null, rfl, sameNull⟩ := List.map_eq_singleton_iff.mp same
    exact .absent (kind_eq_of_lexeme sameWord kind) (kind_eq_of_lexeme sameNull ends)
  | present kind negates ends =>
    obtain ⟨negation, _, rfl, sameNegation, same⟩ := List.map_eq_cons_iff.mp same
    obtain ⟨null, rfl, sameNull⟩ := List.map_eq_singleton_iff.mp same
    exact .present (kind_eq_of_lexeme sameWord kind) (kind_eq_of_lexeme sameNegation negates)
      (kind_eq_of_lexeme sameNull ends)

/-- Tokens spell a phrase wherever they stand. -/
theorem Derives.relocate {rule : Rule} {tokens : List Token} {phrase : Phrase}
    (derived : Derives rule tokens phrase) :
    ∀ {others : List Token}, others.map lexeme = tokens.map lexeme →
      Derives rule others phrase := by
  induction derived with
  | single _ ih => exact fun same => .single (ih same)
  | more _ kind _ ihStart ihItem =>
    intro others same
    rw [List.map_append] at same
    obtain ⟨start, _, rfl, sameStart, same⟩ := List.map_eq_append_iff.mp same
    obtain ⟨sign, later, rfl, sameSign, sameLater⟩ := List.map_eq_cons_iff.mp same
    exact .more (ihStart sameStart) (kind_eq_of_lexeme sameSign kind) (ihItem sameLater)
  | not kind _ ih =>
    intro others same
    obtain ⟨sign, later, rfl, sameSign, sameLater⟩ := List.map_eq_cons_iff.mp same
    exact .not (kind_eq_of_lexeme sameSign kind) (ih sameLater)
  | plain _ ih => exact fun same => .plain (ih same)
  | parens opens _ closes ih =>
    intro others same
    obtain ⟨opening, inside, closing, rfl, sameOpening, sameInside, sameClosing⟩ :=
      exists_enclosed_of_lexeme same
    exact .parens (kind_eq_of_lexeme sameOpening opens) (ih sameInside)
      (kind_eq_of_lexeme sameClosing closes)
  | test named predicate =>
    intro others same
    rw [List.map_append] at same
    obtain ⟨path, later, rfl, samePath, sameLater⟩ := List.map_eq_append_iff.mp same
    exact .test (named.relocate samePath) (predicate.relocate sameLater)

/-- What the tokens of a whole text spell, they also spell inside a longer text, in front of a
delimiter. -/
theorem spells_of_lex {text : String} {body : List Token} {stop : Position} {rule : Rule}
    {phrase : Phrase} (cut : lex text = body ++ [.finish stop])
    (derived : Derives rule body phrase) :
    Spells Delimits text.toList fun tokens => Derives rule tokens phrase := by
  intro position rest delimits
  obtain ⟨moved, final, cutMoved, -⟩ := lexFrom_eq_append_finish position text.toList
  have same : moved.map lexeme = body.map lexeme := by
    have whole := map_lexeme_lexFrom position .start text.toList
    rw [cutMoved, ← lex, cut, List.map_append, List.map_append] at whole
    exact List.append_inj_left' whole rfl
  have derivedMoved := derived.relocate same
  exact ⟨moved, lexFrom_append cutMoved derivedMoved.isRecognized delimits, derivedMoved⟩

/-- A phrase is nested no deeper than it has tokens. -/
theorem Derives.nesting_le_length {rule : Rule} {tokens : List Token} {phrase : Phrase}
    (derived : Derives rule tokens phrase) : phrase.nesting ≤ tokens.length := by
  induction derived with
  | single _ ih | plain _ ih => exact ih
  | more _ _ _ ihStart ihItem =>
    simp only [Phrase.nesting, List.length_append, List.length_cons]
    omega
  | not _ _ ih => exact Nat.succ_le_succ ih
  | parens _ _ _ ih =>
    simp only [Phrase.nesting, List.length_append, List.length_cons]
    omega
  | test => exact Nat.zero_le _

/-- A filter is nested no deeper than it has tokens. -/
theorem Filter.nesting_le_length {tokens : List Token} {phrase : Phrase}
    (filter : Grammar.Filter tokens phrase) : phrase.nesting ≤ tokens.length := by
  cases filter with
  | bare derived => exact derived.nesting_le_length
  | introduced _ derived => exact Nat.le_succ_of_le derived.nesting_le_length

end Grammar

/-! ## Two filters in parentheses -/

namespace Expr

open Grammar

/-- A text spells a filter with at most a number of parentheses and negations around a token. -/
def NestsWithin (levels : Nat) (text : String) : Prop :=
  ∃ phrase, Grammar.Filter (beforeFinish (lex text)) phrase ∧ phrase.nesting ≤ levels

/-- Inside a longer text, a filter that no word introduces spells the phrase it is read from. -/
theorem exists_spells_of_parse {levels : Nat} {text : String} {content : Expr}
    (read : parse text = .ok content) (bare : (Reading.next (lex text)).kind ≠ .whereWord)
    (nests : NestsWithin levels text) (enough : levels ≤ Reading.maxNesting) :
    ∃ phrase : Phrase, phrase.nesting ≤ levels ∧ phrase.content = content ∧
      Spells Delimits text.toList fun tokens => Derives (.chain .or) tokens phrase := by
  obtain ⟨body, stop, cut, others⟩ := lexFrom_eq_append_finish .start text.toList
  obtain ⟨phrase, filter, nested⟩ := nests
  rw [← lex] at cut
  rw [cut, beforeFinish_append_finish others] at filter
  cases filter with
  | introduced kind _ =>
    rw [cut] at bare
    exact absurd kind bare
  | bare derived =>
    have spelled := spells_of_lex cut derived
    have readPhrase := parse_of_spells spelled (nested.trans enough)
    exact ⟨phrase, nested, Except.ok.inj (readPhrase.symm.trans read), spelled⟩

/-- Two texts in parentheses with a connective between them spell the join of what they spell. -/
theorem spells_joined (connective : Connective) {first second : String} {left right : Phrase}
    (spelledFirst : Spells Delimits first.toList fun tokens => Derives (.chain .or) tokens left)
    (spelledSecond : Spells Delimits second.toList fun tokens =>
      Derives (.chain .or) tokens right) :
    Spells Delimits (Text.parenthesized first ++ (Kind.join connective).symbol ++
        Text.parenthesized second).toList fun tokens =>
      Derives (.chain .or) tokens (.join connective (.parens left) (.parens right)) := by
  have start := Phrase.spells_parenthesized spelledFirst
  have later := Phrase.spells_parenthesized spelledSecond
  have signed : ∀ rest, Delimits ((Kind.join connective).symbol.toList ++
      (Text.parenthesized second).toList ++ rest) := by
    intro rest
    rw [List.append_assoc]
    exact delimits_append (by cases connective <;> rfl) _
  rw [String.append_assoc, String.toList_append, String.toList_append]
  refine (start.append ((spells_connective connective).append later fun _ _ => trivial)
    fun rest _ => signed rest).imp ?_
  rintro _ ⟨tokens, _, rfl, enclosed, _, others, rfl, ⟨sign, rfl, kind⟩, enclosedLater⟩
  cases connective with
  | and =>
    have joined : Derives (.chain .and) (tokens ++ sign :: others) _ :=
      .more (.single (.plain enclosed)) kind (.plain enclosedLater)
    exact .single joined
  | or => exact .more (.single (.single (.plain enclosed))) kind (.single (.plain enclosedLater))

/-- Two filters in parentheses that are joined are read as the join of what each of them is read as.
Neither may start with the word `where`, and both have to leave a level of nesting for the
parentheses. -/
theorem parse_joined {first second : String} {left right : Expr}
    (readFirst : parse first = .ok left) (readSecond : parse second = .ok right)
    (bareFirst : (Reading.next (lex first)).kind ≠ .whereWord)
    (bareSecond : (Reading.next (lex second)).kind ≠ .whereWord)
    (nestsFirst : NestsWithin 127 first) (nestsSecond : NestsWithin 127 second) :
    parse ("(" ++ first ++ ") && (" ++ second ++ ")") =
        .ok (.join .and (.group left) (.group right)) ∧
      parse ("(" ++ first ++ ") || (" ++ second ++ ")") =
        .ok (.join .or (.group left) (.group right)) := by
  obtain ⟨leftPhrase, leftNested, rfl, spelledFirst⟩ :=
    exists_spells_of_parse readFirst bareFirst nestsFirst (by decide)
  obtain ⟨rightPhrase, rightNested, rfl, spelledSecond⟩ :=
    exists_spells_of_parse readSecond bareSecond nestsSecond (by decide)
  have joined : ∀ connective : Connective,
      parse (Text.parenthesized first ++ (Kind.join connective).symbol ++
        Text.parenthesized second) =
      .ok (.join connective (.group leftPhrase.content) (.group rightPhrase.content)) :=
    fun connective => parse_of_spells (spells_joined connective spelledFirst spelledSecond)
      (Nat.max_le.mpr ⟨Nat.succ_le_succ leftNested, Nat.succ_le_succ rightNested⟩)
  have between (sign : String) : "(" ++ first ++ (")" ++ (sign ++ "(")) ++ second ++ ")" =
      Text.parenthesized first ++ sign ++ Text.parenthesized second := by
    simp only [Text.parenthesized, String.append_assoc]
  exact ⟨(congrArg parse (between " && ")).trans (joined .and),
    (congrArg parse (between " || ")).trans (joined .or)⟩

/-- A filter nests no deeper than it has tokens. -/
theorem nestsWithin_of_parse {levels : Nat} {text : String} {content : Expr}
    (read : parse text = .ok content) (short : (lex text).length ≤ levels) :
    NestsWithin levels text := by
  obtain ⟨body, stop, cut, others⟩ := lexFrom_eq_append_finish .start text.toList
  rw [← lex] at cut
  unfold NestsWithin
  rw [parse, cut, Reading.ofTokens_append_finish_eq_ok_iff others rfl] at read
  rw [cut, List.length_append] at short
  rw [cut, beforeFinish_append_finish others]
  obtain ⟨phrase, filter, -⟩ := read
  exact ⟨phrase, filter, filter.nesting_le_length.trans (Nat.le_of_add_right_le short)⟩

/-- Filters with doubled parentheses, brackets inside quotes and blanks and numbers at the seams. -/
theorem parse_joined_nested :
    ∃ left right, parse " not ((a == 1 or b is null))\t" = .ok left ∧
      parse "\n'x\\')' in ['(', -2L] && c >= 1" = .ok right ∧
      parse ("(" ++ " not ((a == 1 or b is null))\t" ++ ") && (" ++
          "\n'x\\')' in ['(', -2L] && c >= 1" ++ ")") =
        .ok (.join .and (.group left) (.group right)) ∧
      parse ("(" ++ " not ((a == 1 or b is null))\t" ++ ") || (" ++
          "\n'x\\')' in ['(', -2L] && c >= 1" ++ ")") =
        .ok (.join .or (.group left) (.group right)) := by
  have readFirst : parse " not ((a == 1 or b is null))\t" =
      .ok (.not (.group (.join .or (.expr (.compare .eq ⟨"a"⟩ (.scalar (.int 1))))
        (.expr (.absent false ⟨"b"⟩))))) := by
    cbv
  have readSecond : parse "\n'x\\')' in ['(', -2L] && c >= 1" =
      .ok (.join .and (.expr (.member false ⟨"'x\\')'"⟩ (.ofScalars [.text "(", .int (-2)])))
        (.expr (.compare .gte ⟨"c"⟩ (.scalar (.int 1))))) := by
    cbv
  have firstKind : (Reading.next (lex " not ((a == 1 or b is null))\t")).kind = .not := by cbv
  have secondKind : (Reading.next (lex "\n'x\\')' in ['(', -2L] && c >= 1")).kind = .quoted := by
    cbv
  have firstLength : (lex " not ((a == 1 or b is null))\t").length = 13 := by cbv
  have secondLength : (lex "\n'x\\')' in ['(', -2L] && c >= 1").length = 12 := by cbv
  exact ⟨_, _, readFirst, readSecond, parse_joined readFirst readSecond
    (firstKind.trans_ne (by simp)) (secondKind.trans_ne (by simp))
    (nestsWithin_of_parse readFirst (firstLength.trans_le (by simp)))
    (nestsWithin_of_parse readSecond (secondLength.trans_le (by simp)))⟩

end Expr

end PortableFilter
