import PortableFilter.Proofs.Expr.Grammar
import PortableFilter.Proofs.Outcome

/-! # Reading constants, keys and predicates

The readers of the parts of a test follow the grammar: what they take from the front of a list of
tokens is derived by their rule (`items_of_readItems`, `path_of_readPath`,
`predicate_of_readPredicate`), and what their rule derives is taken whole, whatever follows it
(`readList_append`, `readPredicate_append`). -/

namespace PortableFilter

namespace Reading

/-- An integer without the mark at its end. -/
theorem unmarked_append_mark (literal : List Char) :
    ∃ mark, Grammar.LongMark mark ∧
      literal = (if literal.getLast? = some 'l' ∨ literal.getLast? = some 'L'
        then literal.dropLast else literal) ++ mark := by
  by_cases lower : literal.getLast? = some 'l'
  · obtain ⟨body, rfl⟩ := List.getLast?_eq_some_iff.mp lower
    exact ⟨['l'], .lower, by simp⟩
  by_cases upper : literal.getLast? = some 'L'
  · obtain ⟨body, rfl⟩ := List.getLast?_eq_some_iff.mp upper
    exact ⟨['L'], .upper, by simp⟩
  · exact ⟨[], .absent, by simp [lower, upper]⟩

/-- A mark behind a digit is recognized as one. -/
theorem unmarked_of_mark {body mark : List Char} {last : Char} (marks : Grammar.LongMark mark)
    (ends : body.getLast? = some last) (digit : last.isDigit) :
    (if (body ++ mark).getLast? = some 'l' ∨ (body ++ mark).getLast? = some 'L'
      then (body ++ mark).dropLast else body ++ mark) = body := by
  cases marks with
  | lower => simp
  | upper => simp
  | absent =>
    have notLower : last ≠ 'l' := by
      rintro rfl
      exact absurd digit (by decide)
    have notUpper : last ≠ 'L' := by
      rintro rfl
      exact absurd digit (by decide)
    simp [ends, notLower, notUpper]

/-- The signs before a digit are read as those signs. -/
theorem readSign_dropPlus_append {sign digits : List Char} {negative : Bool} {first : Char}
    (signs : Grammar.IntegerSign sign negative) (starts : digits.head? = some first)
    (digit : first.isDigit) :
    Decimal.readSign (dropPlus (sign ++ digits)) = (negative, digits) := by
  cases signs with
  | behindPlus signs => exact Decimal.readSign_append signs starts digit
  | single signs =>
    cases signs with
    | minus => rfl
    | plus => exact Decimal.readSign_append .absent starts digit
    | absent =>
      have kept : dropPlus digits = digits := by
        unfold dropPlus
        split
        · cases starts
          exact absurd digit (by decide)
        · rfl
      rw [List.nil_append, kept]
      exact Decimal.readSign_append .absent starts digit

/-- What is read as signs of an integer are signs of an integer. -/
theorem integerSign_of_readSign {text digits : List Char} {negative : Bool}
    (read : Decimal.readSign (dropPlus text) = (negative, digits)) :
    ∃ sign, Grammar.IntegerSign sign negative ∧ text = sign ++ digits := by
  obtain ⟨sign, signs, rest⟩ := Decimal.sign_of_readSign read
  unfold dropPlus at rest
  split at rest
  · exact ⟨'+' :: sign, .behindPlus signs, congrArg ('+' :: ·) rest⟩
  · exact ⟨sign, .single signs, rest⟩

/-- A literal of a sign, digits and perhaps a mark denotes its value, if that fits into 64 bits. -/
theorem readInteger?_append {sign digits mark : List Char} {negative : Bool}
    (signs : Grammar.IntegerSign sign negative) (nonempty : digits ≠ [])
    (numeric : digits.all Char.isDigit) (marks : Grammar.LongMark mark) :
    readInteger? (sign ++ digits ++ mark) =
      if -0x8000000000000000 ≤ Grammar.signed negative (Decimal.ofDigits digits) ∧
          Grammar.signed negative (Decimal.ofDigits digits) < 0x8000000000000000 then
        some (Grammar.signed negative (Decimal.ofDigits digits))
      else none := by
  obtain ⟨first, starts⟩ := Option.isSome_iff_exists.mp (List.isSome_head?.mpr nonempty)
  obtain ⟨last, ends⟩ := Option.isSome_iff_exists.mp (List.getLast?_isSome.mpr nonempty)
  have firstDigit : first.isDigit :=
    List.all_eq_true.mp numeric first (List.mem_of_head? starts)
  have lastDigit : last.isDigit :=
    List.all_eq_true.mp numeric last (List.mem_of_getLast? ends)
  have bodyEnds : (sign ++ digits).getLast? = some last := by
    rw [List.getLast?_append, ends, Option.some_or]
  have unmarked := unmarked_of_mark marks bodyEnds lastDigit
  unfold readInteger?
  simp only [unmarked, readSign_dropPlus_append signs starts firstDigit]
  exact if_pos ⟨nonempty, numeric⟩

/-- A literal denotes an integer exactly if it consists of signs, digits and perhaps a mark, and the
value fits into 64 bits. -/
theorem readInteger?_eq_some_iff {literal : List Char} {value : Int} :
    readInteger? literal = some value ↔
      ∃ sign digits mark negative, literal = sign ++ digits ++ mark ∧
        Grammar.IntegerSign sign negative ∧ digits ≠ [] ∧ digits.all Char.isDigit ∧
        Grammar.LongMark mark ∧
        -0x8000000000000000 ≤ Grammar.signed negative (Decimal.ofDigits digits) ∧
        Grammar.signed negative (Decimal.ofDigits digits) < 0x8000000000000000 ∧
        value = Grammar.signed negative (Decimal.ofDigits digits) := by
  constructor
  · intro read
    obtain ⟨mark, marks, split⟩ := unmarked_append_mark literal
    unfold readInteger? at read
    simp only at read
    generalize (if literal.getLast? = some 'l' ∨ literal.getLast? = some 'L'
        then literal.dropLast else literal) = body at split read
    rcases signed : Decimal.readSign (dropPlus body) with ⟨negative, digits⟩
    obtain ⟨sign, signs, rfl⟩ := integerSign_of_readSign signed
    simp only [signed] at read
    split at read
    · rename_i numeric
      change (if -0x8000000000000000 ≤ Grammar.signed negative (Decimal.ofDigits digits) ∧
        Grammar.signed negative (Decimal.ofDigits digits) < 0x8000000000000000
        then some (Grammar.signed negative (Decimal.ofDigits digits)) else none) = _ at read
      split at read
      · rename_i range
        cases read
        exact ⟨sign, digits, mark, negative, split, signs, numeric.1, numeric.2, marks,
          range.1, range.2, rfl⟩
      · cases read
    · cases read
  · rintro ⟨sign, digits, mark, negative, rfl, signs, nonempty, numeric, marks, above, below, rfl⟩
    rw [readInteger?_append signs nonempty numeric marks, if_pos ⟨above, below⟩]

/-- A token is read as a constant exactly if the grammar says so. -/
theorem constant_eq_ok_iff {token : Token} {value : Scalar} :
    constant token = .ok value ↔ Grammar.Constant token value := by
  constructor
  · intro read
    unfold constant at read
    split at read
    · rename_i kind
      split at read
      · rename_i number spelled
        cases read
        obtain ⟨sign, digits, mark, negative, literal, signs, nonempty, numeric, marks, above,
          below, rfl⟩ := readInteger?_eq_some_iff.mp spelled
        exact .integer kind literal signs nonempty numeric marks above below
      · cases read
    · rename_i kind
      split at read
      · rename_i number spelled
        split at read
        · rename_i finite
          cases read
          exact .decimal kind spelled finite
        · cases read
      · cases read
    · rename_i kind
      cases read
      exact .quoted kind
    · rename_i truth kind
      cases read
      exact .boolean kind
    · rename_i kind
      cases read
      exact .null kind
    · cases read
  · intro denotes
    cases denotes with
    | integer kind spelled signs nonempty numeric marks above below =>
      have number := readInteger?_eq_some_iff.mpr ⟨_, _, _, _, spelled, signs, nonempty, numeric,
        marks, above, below, rfl⟩
      simp only [constant, kind, number]
    | decimal kind spelled finite => simp only [constant, kind, spelled, finite, if_true]
    | quoted kind => simp only [constant, kind]
    | boolean kind => simp only [constant, kind]
    | null kind => simp only [constant, kind]

@[simp] theorem next_cons (token : Token) (rest : List Token) : next (token :: rest) = token := rfl

/-- A token of the expected kind is taken. -/
theorem expect_cons {kind : TokenKind} {expected : Expected} {token : Token}
    (same : token.kind = kind) (rest : List Token) :
    expect kind expected (token :: rest) = .ok (token, rest) :=
  if_pos same

/-- Reading a token of a kind takes that token and nothing else. -/
theorem expect_eq_ok_iff {kind : TokenKind} {expected : Expected} {tokens rest : List Token}
    {token : Token} (more : kind ≠ .finish) :
    expect kind expected tokens = .ok (token, rest) ↔
      tokens = token :: rest ∧ token.kind = kind := by
  constructor
  · intro read
    unfold expect at read
    simp only at read
    split at read
    · rename_i same
      cases tokens with
      | nil => exact absurd same.symm more
      | cons first later =>
        cases read
        exact ⟨rfl, same⟩
    · cases read
  · rintro ⟨rfl, same⟩
    exact expect_cons same rest

/-- No constant stands at the end of the text. -/
theorem constant_finish_ne_ok (value : Scalar) : constant (next []) ≠ .ok value := by
  intro read
  cases read

/-- What is read as items is a list of items of the grammar. -/
theorem items_of_readItems : ∀ {tokens rest : List Token} {values : List Scalar},
    readItems tokens = .ok (values, rest) →
      ∃ used, tokens = used ++ rest ∧ Grammar.Items used values
  | [], rest, values, read => by
    obtain ⟨value, constant, -⟩ := bind_eq_ok_iff.mp read
    exact absurd constant (constant_finish_ne_ok value)
  | [token], rest, values, read => by
    obtain ⟨value, constant, done⟩ := bind_eq_ok_iff.mp read
    cases done
    exact ⟨[token], rfl, .single (constant_eq_ok_iff.mp constant)⟩
  | token :: comma :: later, rest, values, read => by
    obtain ⟨value, constant, after⟩ := bind_eq_ok_iff.mp read
    have constant := constant_eq_ok_iff.mp constant
    simp only at after
    split at after
    · rename_i kind
      obtain ⟨⟨others, remaining⟩, readLater, done⟩ := bind_eq_ok_iff.mp after
      cases done
      obtain ⟨used, rfl, items⟩ := items_of_readItems readLater
      exact ⟨token :: comma :: used, rfl, .more constant kind items⟩
    · cases after
      exact ⟨[token], rfl, .single constant⟩

/-- Items of the grammar are read whole where no comma follows. -/
theorem readItems_append {used rest : List Token} {values : List Scalar}
    (items : Grammar.Items used values) (ends : (next rest).kind ≠ .comma) :
    readItems (used ++ rest) = .ok (values, rest) := by
  induction items with
  | @single token value constant =>
    rw [List.singleton_append, readItems]
    refine bind_eq_ok_iff.mpr ⟨value, constant_eq_ok_iff.mpr constant, ?_⟩
    cases rest with
    | nil => rfl
    | cons first later => exact if_neg ends
  | @more token comma value tokens values constant kind items ih =>
    rw [List.cons_append, readItems]
    refine bind_eq_ok_iff.mpr ⟨value, constant_eq_ok_iff.mpr constant, ?_⟩
    refine (if_pos kind).trans ?_
    exact bind_eq_ok_iff.mpr ⟨(values, rest), ih, rfl⟩

/-- Items start with a constant, which closes no list. -/
theorem next_items_ne_closeBracket {used rest : List Token} {values : List Scalar}
    (items : Grammar.Items used values) : (next (used ++ rest)).kind ≠ .closeBracket := by
  have opens : ∀ {token : Token} {value : Scalar}, Grammar.Constant token value →
      token.kind ≠ .closeBracket := by
    intro token value constant
    cases constant <;> simp_all
  cases items with
  | single constant => exact opens constant
  | more constant kind items => exact opens constant

/-- A list is read in three steps: a bracket, the items if there are any, and a bracket. -/
theorem readList_eq (tokens : List Token) :
    readList tokens = expect .openBracket .openBracket tokens >>= fun opened =>
      (if (next opened.2).kind = .closeBracket then .ok ([], opened.2) else readItems opened.2) >>=
        fun items => expect .closeBracket .listEnd items.2 >>= fun closed =>
          .ok (items.1, closed.2) := by
  unfold readList
  congr
  funext opened
  dsimp only
  split <;> rfl

/-- What is read as a list is a bracketed list of the grammar. -/
theorem bracketed_of_readList {tokens rest : List Token} {values : List Scalar}
    (read : readList tokens = .ok (values, rest)) :
    ∃ used, tokens = used ++ rest ∧ Grammar.Bracketed used values := by
  rw [readList_eq] at read
  obtain ⟨⟨opening, inside⟩, opened, readInside⟩ := bind_eq_ok_iff.mp read
  obtain ⟨rfl, opens⟩ := (expect_eq_ok_iff (by decide)).mp opened
  obtain ⟨⟨items, afterItems⟩, itemsRead, readClosing⟩ := bind_eq_ok_iff.mp readInside
  obtain ⟨⟨closing, remaining⟩, closed, done⟩ := bind_eq_ok_iff.mp readClosing
  obtain ⟨rfl, closes⟩ := (expect_eq_ok_iff (by decide)).mp closed
  cases done
  split at itemsRead
  · cases itemsRead
    exact ⟨[opening, closing], rfl, .empty opens closes⟩
  · obtain ⟨used, rfl, items⟩ := items_of_readItems itemsRead
    exact ⟨opening :: used ++ [closing], by simp, .items opens items closes⟩

/-- A bracketed list of the grammar is read whole, whatever follows. -/
theorem readList_append {used : List Token} {values : List Scalar}
    (bracketed : Grammar.Bracketed used values) (rest : List Token) :
    readList (used ++ rest) = .ok (values, rest) := by
  rw [readList_eq]
  cases bracketed with
  | @empty opening closing opens closes =>
    refine bind_eq_ok_iff.mpr ⟨(opening, closing :: rest), expect_cons opens _, ?_⟩
    refine bind_eq_ok_iff.mpr ⟨([], closing :: rest), if_pos closes, ?_⟩
    exact bind_eq_ok_iff.mpr ⟨(closing, rest), expect_cons closes rest, rfl⟩
  | @items opening closing tokens values opens items closes =>
    rw [List.cons_append, List.cons_append, List.append_assoc, List.singleton_append]
    refine bind_eq_ok_iff.mpr ⟨(opening, tokens ++ closing :: rest), expect_cons opens _, ?_⟩
    refine bind_eq_ok_iff.mpr ⟨(values, closing :: rest), ?_, ?_⟩
    · refine (if_neg (next_items_ne_closeBracket items)).trans (readItems_append items ?_)
      simp [closes]
    · exact bind_eq_ok_iff.mpr ⟨(closing, rest), expect_cons closes rest, rfl⟩

/-- Reading on from a path extends that path. -/
theorem path_of_readPath : ∀ {tokens rest start : List Token} {path : String} {key : Key},
    readPath path tokens = .ok (key, rest) → Grammar.Path start path →
      ∃ used, tokens = used ++ rest ∧ Grammar.Path (start ++ used) key.raw
  | [], rest, start, path, key, read, named => by
    cases read
    exact ⟨[], rfl, by rwa [List.append_nil]⟩
  | dot :: tokens, rest, start, path, key, read, named => by
    unfold readPath at read
    split at read
    · rename_i dots
      split at read
      · cases read
      · rename_i part later
        split at read
        · rename_i kind
          obtain ⟨used, rfl, extended⟩ := path_of_readPath read (.dotted named dots kind)
          exact ⟨dot :: part :: used, rfl, by simpa using extended⟩
        · cases read
    · cases read
      exact ⟨[], rfl, by rwa [List.append_nil]⟩

/-- A path is read from its first name on. -/
theorem readPath_append {used : List Token} {path : String} (named : Grammar.Path used path) :
    ∃ first later, used = first :: later ∧ first.kind = .name ∧
      ∀ rest, readPath first.text (later ++ rest) = readPath path rest := by
  induction named with
  | @name token kind => exact ⟨token, [], rfl, kind, fun rest => rfl⟩
  | @dotted tokens path dot part start dots kind ih =>
    obtain ⟨first, later, rfl, firstKind, reads⟩ := ih
    refine ⟨first, later ++ [dot, part], rfl, firstKind, fun rest => ?_⟩
    rw [List.append_assoc, reads, List.cons_append, List.singleton_append, readPath, if_pos dots]
    exact if_pos kind

/-- A path ends where no dot follows. -/
theorem readPath_of_next_ne_dot {path : String} {tokens : List Token}
    (ends : (next tokens).kind ≠ .dot) : readPath path tokens = .ok (⟨path⟩, tokens) := by
  cases tokens with
  | nil => rfl
  | cons token later =>
    rw [readPath.eq_def]
    exact if_neg ends

/-- What is read as a comparison is one of the grammar. -/
theorem predicate_of_readComparison {comparison : Comparison} {key : Key} {sign : Token}
    {tokens rest : List Token} {content : Expr}
    (kind : sign.kind = Grammar.comparisonToken comparison)
    (read : readComparison comparison key tokens = .ok (content, rest)) :
    ∃ used, sign :: tokens = used ++ rest ∧ Grammar.Predicate key used content := by
  unfold readComparison at read
  obtain ⟨value, constant, done⟩ := bind_eq_ok_iff.mp read
  cases done
  cases tokens with
  | nil => exact absurd constant (constant_finish_ne_ok value)
  | cons token later =>
    exact ⟨[sign, token], rfl, .compare kind (constant_eq_ok_iff.mp constant)⟩

/-- What is read as a test for membership has a bracketed list. -/
theorem bracketed_of_readMembership {negated : Bool} {key : Key} {tokens rest : List Token}
    {content : Expr} (read : readMembership negated key tokens = .ok (content, rest)) :
    ∃ used values, tokens = used ++ rest ∧ Grammar.Bracketed used values ∧
      content = .member negated key (.ofScalars values) := by
  unfold readMembership at read
  obtain ⟨⟨values, remaining⟩, list, done⟩ := bind_eq_ok_iff.mp read
  cases done
  obtain ⟨used, rfl, bracketed⟩ := bracketed_of_readList list
  exact ⟨used, values, rfl, bracketed, rfl⟩

/-- A test for membership in a bracketed list is read whole. -/
theorem readMembership_append {negated : Bool} {key : Key} {used : List Token}
    {values : List Scalar} (bracketed : Grammar.Bracketed used values) (rest : List Token) :
    readMembership negated key (used ++ rest) =
      .ok (.member negated key (.ofScalars values), rest) :=
  bind_eq_ok_iff.mpr ⟨(values, rest), readList_append bracketed rest, rfl⟩

/-- What is read as a test for absence is one of the grammar. -/
theorem predicate_of_readAbsence {key : Key} {word : Token} {tokens rest : List Token}
    {content : Expr} (kind : word.kind = .isWord)
    (read : readAbsence key tokens = .ok (content, rest)) :
    ∃ used, word :: tokens = used ++ rest ∧ Grammar.Predicate key used content := by
  unfold readAbsence at read
  obtain ⟨⟨null, remaining⟩, ended, done⟩ := bind_eq_ok_iff.mp read
  cases done
  obtain ⟨split, ends⟩ := (expect_eq_ok_iff (by decide)).mp ended
  by_cases negates : (next tokens).kind = .not
  · rw [if_pos negates] at split
    cases tokens with
    | nil => cases split
    | cons negation later =>
      cases split
      simp only [negates]
      exact ⟨[word, negation, null], rfl, .present kind negates ends⟩
  · rw [if_neg negates] at split
    subst split
    simp only [negates]
    exact ⟨[word, null], rfl, .absent kind ends⟩

/-- What is read as a predicate is one of the grammar. -/
theorem predicate_of_readPredicate {key : Key} {tokens rest : List Token} {content : Expr}
    (read : readPredicate key tokens = .ok (content, rest)) :
    ∃ used, tokens = used ++ rest ∧ Grammar.Predicate key used content := by
  cases tokens with
  | nil => cases read
  | cons first later =>
    unfold readPredicate at read
    rw [next_cons, List.tail_cons] at read
    split at read
    · exact predicate_of_readComparison ‹_› read
    · exact predicate_of_readComparison ‹_› read
    · exact predicate_of_readComparison ‹_› read
    · exact predicate_of_readComparison ‹_› read
    · exact predicate_of_readComparison ‹_› read
    · exact predicate_of_readComparison ‹_› read
    · obtain ⟨used, values, rfl, bracketed, rfl⟩ := bracketed_of_readMembership read
      exact ⟨first :: used, rfl, .member ‹_› bracketed⟩
    · obtain ⟨used, values, rfl, bracketed, rfl⟩ := bracketed_of_readMembership read
      exact ⟨first :: used, rfl, .nonmember ‹_› bracketed⟩
    · obtain ⟨⟨word, remaining⟩, worded, listed⟩ := bind_eq_ok_iff.mp read
      obtain ⟨rfl, kind⟩ := (expect_eq_ok_iff (by decide)).mp worded
      obtain ⟨used, values, rfl, bracketed, rfl⟩ := bracketed_of_readMembership listed
      exact ⟨first :: word :: used, rfl, .notMember ‹_› kind bracketed⟩
    · exact predicate_of_readAbsence ‹_› read
    · cases read

/-- A predicate of the grammar is read whole, whatever follows. -/
theorem readPredicate_append {key : Key} {used : List Token} {content : Expr}
    (predicate : Grammar.Predicate key used content) (rest : List Token) :
    readPredicate key (used ++ rest) = .ok (content, rest) := by
  cases predicate with
  | @compare comparison sign token value kind constant =>
    have compared : readComparison comparison key (token :: rest) =
        .ok (.compare comparison key (.scalar value), rest) :=
      bind_eq_ok_iff.mpr ⟨value, constant_eq_ok_iff.mpr constant, rfl⟩
    unfold readPredicate
    simp only [List.cons_append, List.nil_append, next_cons, kind, List.tail_cons]
    cases comparison <;> exact compared
  | member kind bracketed =>
    unfold readPredicate
    simp only [List.cons_append, next_cons, kind, List.tail_cons]
    exact readMembership_append bracketed rest
  | nonmember kind bracketed =>
    unfold readPredicate
    simp only [List.cons_append, next_cons, kind, List.tail_cons]
    exact readMembership_append bracketed rest
  | @notMember negation word tokens values negates kind bracketed =>
    unfold readPredicate
    simp only [List.cons_append, next_cons, negates, List.tail_cons]
    exact bind_eq_ok_iff.mpr ⟨(word, tokens ++ rest), expect_cons kind _,
      readMembership_append bracketed rest⟩
  | @absent word null kind ends =>
    unfold readPredicate
    simp only [List.cons_append, List.nil_append, next_cons, kind, List.tail_cons]
    have positive : (next (null :: rest)).kind ≠ .not := by simp [ends]
    unfold readAbsence
    simp only [positive, decide_false]
    exact bind_eq_ok_iff.mpr ⟨(null, rest), expect_cons ends rest, rfl⟩
  | @present word negation null kind negates ends =>
    unfold readPredicate
    simp only [List.cons_append, List.nil_append, next_cons, kind, List.tail_cons]
    have negative : (next (negation :: null :: rest)).kind = .not := negates
    unfold readAbsence
    simp only [negative, decide_true]
    exact bind_eq_ok_iff.mpr ⟨(null, rest), expect_cons ends rest, rfl⟩

/-- What is said about a key starts with no dot. -/
theorem next_predicate_ne_dot {key : Key} {used rest : List Token} {content : Expr}
    (predicate : Grammar.Predicate key used content) : (next (used ++ rest)).kind ≠ .dot := by
  cases predicate with
  | @compare comparison sign token value kind constant =>
    rw [List.cons_append, next_cons, kind]
    cases comparison <;> decide
  | member kind bracketed => simp [kind]
  | nonmember kind bracketed => simp [kind]
  | notMember negates kind bracketed => simp [negates]
  | absent kind ends => simp [kind]
  | present kind negates ends => simp [kind]

end Reading

end PortableFilter
