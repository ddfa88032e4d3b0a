import PortableFilter.Proofs.Expr.Refusal
import PortableFilter.Proofs.Token.Layout

/-! # Filters that differ in their layout

Readers see the kinds and the texts of tokens and not where they stand. `Reading.Placeless` says so
of one reader, and readers put together from such readers are such readers. Hence tokens that differ
in their places alone are read as the same filter or refused for the same reason
(`Reading.placeless_readFilter`), and so are texts that differ in their blanks alone
(`Expr.parse_of_laysOut`). -/

namespace PortableFilter

open Token

namespace Reading

variable {α β : Type}

/-- Outcomes of readers that differ at most in where tokens stand. -/
inductive Alike : (first second : Except ParseError (α × List Token)) → Prop where
  | read (value : α) {rest other : List Token} (same : other.map lexeme = rest.map lexeme) :
      Alike (.ok (value, rest)) (.ok (value, other))
  | refused (fault : ParseFault) {token other : Token} (same : other.lexeme = token.lexeme) :
      Alike (.error ⟨fault, token⟩) (.error ⟨fault, other⟩)

/-- A reader does not see where tokens stand. -/
def Placeless (reader : Reader α) : Prop :=
  ∀ tokens others : List Token, others.map lexeme = tokens.map lexeme →
    Alike (reader tokens) (reader others)

/-- Tokens that differ in their places have next tokens that do. -/
theorem lexeme_next {tokens others : List Token} (same : others.map lexeme = tokens.map lexeme) :
    (next others).lexeme = (next tokens).lexeme := by
  cases tokens with
  | nil => rw [List.map_eq_nil_iff.mp same]
  | cons token tokens =>
    obtain ⟨other, later, rfl, sameToken, -⟩ := List.map_eq_cons_iff.mp same
    exact sameToken

/-- The next token is of the same kind, wherever it stands. -/
theorem kind_next {tokens others : List Token} (same : others.map lexeme = tokens.map lexeme) :
    (next others).kind = (next tokens).kind :=
  kind_eq_of_lexeme (lexeme_next same) rfl

/-- What follows the next token differs in places only. -/
theorem map_lexeme_tail {tokens others : List Token}
    (same : others.map lexeme = tokens.map lexeme) :
    others.tail.map lexeme = tokens.tail.map lexeme := by
  rw [List.map_tail, same, List.map_tail]

/-- Steps that are alike are followed by steps that are alike. -/
theorem Alike.bind {first second : Except ParseError (α × List Token)} (alike : Alike first second)
    (later : α → Reader β)
    (goesOn : ∀ {value rest other}, first = .ok (value, rest) →
      other.map lexeme = rest.map lexeme → Alike (later value rest) (later value other)) :
    Alike (first >>= fun step => later step.1 step.2)
      (second >>= fun step => later step.1 step.2) := by
  cases alike with
  | read value same => exact goesOn rfl same
  | refused fault same => exact .refused fault same

/-- To refuse the same token at two places is alike. -/
theorem alike_unexpected (fault : ParseFault) {token other : Token}
    (same : other.lexeme = token.lexeme) :
    Alike (α := α) (.error (.unexpected fault token)) (.error (.unexpected fault other)) := by
  unfold ParseError.unexpected
  rw [(Prod.mk.inj same).1]
  exact .refused _ same

namespace Placeless

/-- Where tokens stand does not matter if none is read. -/
theorem pure (value : α) : Placeless fun tokens => .ok (value, tokens) :=
  fun _ _ same => .read value same

/-- Where the refused token stands does not matter. -/
theorem unexpected (fault : ParseFault) :
    Placeless (α := α) fun tokens => .error (.unexpected fault (next tokens)) :=
  fun _ _ same => alike_unexpected fault (lexeme_next same)

/-- Two steps one behind the other. -/
theorem bind {reader : Reader α} (placeless : Placeless reader) (later : α → Reader β)
    (goesOn : ∀ value, Placeless (later value)) :
    Placeless fun tokens => reader tokens >>= fun step => later step.1 step.2 :=
  fun _ _ same => (placeless _ _ same).bind later fun _ => goesOn _ _ _

/-- What is read may be turned into something else. -/
theorem map {reader : Reader α} (placeless : Placeless reader) (f : α → β) :
    Placeless fun tokens => reader tokens >>= fun step => .ok (f step.1, step.2) :=
  placeless.bind _ fun value => .pure (f value)

/-- A token may be left out first. -/
theorem tail {reader : Reader α} (placeless : Placeless reader) :
    Placeless fun tokens => reader tokens.tail :=
  fun _ _ same => placeless _ _ (map_lexeme_tail same)

/-- A reader that goes on in one of two ways, as the next token is of a kind or not. -/
theorem ite {here otherwise : Reader α} (kind : TokenKind) (placelessHere : Placeless here)
    (placelessOtherwise : Placeless otherwise) :
    Placeless fun tokens =>
      if (next tokens).kind = kind then here tokens else otherwise tokens := by
  intro tokens others same
  dsimp only
  rw [kind_next same]
  split
  · exact placelessHere tokens others same
  · exact placelessOtherwise tokens others same

end Placeless

/-! ## The readers of a test -/

/-- Reading a token that is only looked for leaves no trace of its place. -/
theorem placeless_expect (kind : TokenKind) (expected : Expected) {later : Reader α}
    (placeless : Placeless later) :
    Placeless fun tokens => expect kind expected tokens >>= fun step => later step.2 := by
  have expects : (fun tokens => expect kind expected tokens >>= fun step => later step.2) =
      fun tokens => if (next tokens).kind = kind then later tokens.tail
        else .error (.unexpected (.mismatch expected) (next tokens)) := by
    funext tokens
    unfold expect
    dsimp only
    split <;> rfl
  rw [expects]
  exact .ite kind placeless.tail (.unexpected _)

/-- A last token that is expected is expected at every place. -/
theorem placeless_readEnd (kind : TokenKind) (expected : Expected) (value : α) :
    Placeless (readEnd kind expected value) :=
  placeless_expect kind expected (.pure value)

/-- What a constant denotes does not depend on its place. -/
theorem placeless_readConstant : Placeless readConstant := by
  intro tokens others same
  obtain ⟨sameKind, sameText⟩ := Prod.mk.inj (lexeme_next same)
  unfold readConstant constant
  rw [sameKind, sameText]
  split
  · split
    · exact .read _ (map_lexeme_tail same)
    · exact .refused _ (lexeme_next same)
  · split
    · split
      · exact .read _ (map_lexeme_tail same)
      · exact .refused _ (lexeme_next same)
    · exact .refused _ (lexeme_next same)
  · exact .read _ (map_lexeme_tail same)
  · exact .read _ (map_lexeme_tail same)
  · exact .read _ (map_lexeme_tail same)
  · exact alike_unexpected _ (lexeme_next same)

theorem placeless_readComparison (comparison : Comparison) (key : Key) :
    Placeless (readComparison comparison key) := by
  rw [funext (readComparison_eq comparison key)]
  exact placeless_readConstant.map fun value => Expr.compare comparison key (.scalar value)

/-- The items of a list are read alike, by induction on the tokens. -/
theorem placeless_readItems : Placeless readItems := by
  intro tokens
  induction length : tokens.length using Nat.strong_induction_on generalizing tokens with
  | _ count ih =>
    intro others same
    rw [readItems_eq, readItems_eq]
    apply (placeless_readConstant tokens others same).bind readMoreItems
    intro value rest other read sameRest
    have constant : Settles (fun _ => True) readConstant tokens := settles_readConstant tokens
    have notLonger := constant.length_le read
    unfold readMoreItems
    rw [kind_next sameRest]
    split
    · rename_i comma
      have shorter : rest.tail.length < count := by
        cases rest with
        | nil => cases comma
        | cons sign later =>
          rw [← length]
          exact notLonger
      apply (ih _ shorter rest.tail rfl other.tail (map_lexeme_tail sameRest)).bind
        fun values last => .ok (value :: values, last)
      exact fun _ sameLast => .read _ sameLast
    · exact .read _ sameRest

theorem placeless_readList : Placeless readList := by
  have inside : Placeless readInside := .ite .closeBracket (.pure []) placeless_readItems
  have closed : Placeless readClosed :=
    inside.bind _ fun items => placeless_readEnd .closeBracket .listEnd items
  rw [funext readList_eq]
  exact placeless_expect _ _ closed

/-- The names of a path are read alike, by induction on the tokens. -/
theorem placeless_readPath (path : String) : Placeless (readPath path) := by
  intro tokens
  fun_induction readPath path tokens with
  | case1 path =>
    intro others same
    rw [List.map_eq_nil_iff.mp same]
    exact .read _ rfl
  | case2 path dot isDot =>
    intro others same
    obtain ⟨other, rfl, sameDot⟩ := List.map_eq_singleton_iff.mp same
    rw [readPath, if_pos (kind_eq_of_lexeme sameDot isDot)]
    exact .refused _ rfl
  | case3 path dot isDot part rest isName ih =>
    intro others same
    obtain ⟨other, _, rfl, sameDot, same⟩ := List.map_eq_cons_iff.mp same
    obtain ⟨otherPart, otherRest, rfl, samePart, sameRest⟩ := List.map_eq_cons_iff.mp same
    rw [readPath, if_pos (kind_eq_of_lexeme sameDot isDot),
      if_pos (kind_eq_of_lexeme samePart isName), (Prod.mk.inj samePart).2]
    exact ih otherRest sameRest
  | case4 path dot isDot part rest notName =>
    intro others same
    obtain ⟨other, _, rfl, sameDot, same⟩ := List.map_eq_cons_iff.mp same
    obtain ⟨otherPart, otherRest, rfl, samePart, -⟩ := List.map_eq_cons_iff.mp same
    rw [readPath, if_pos (kind_eq_of_lexeme sameDot isDot),
      if_neg fun isName => notName (kind_eq_of_lexeme samePart.symm isName)]
    exact alike_unexpected _ samePart
  | case5 path dot rest notDot =>
    intro others same
    have ends : (next others).kind ≠ .dot := fun isDot => notDot ((kind_next same).symm.trans isDot)
    rw [readPath_of_next_ne_dot ends]
    exact .read _ same

theorem placeless_readMembership (negated : Bool) (key : Key) :
    Placeless (readMembership negated key) :=
  placeless_readList.map fun items => Expr.member negated key (.ofScalars items)

/-- A test for absence is read alike, with a negation and without. -/
theorem placeless_readAbsence (key : Key) : Placeless (readAbsence key) := by
  have choice : readAbsence key = fun tokens =>
      if (next tokens).kind = .not then readEnd .null .null (.absent true key) tokens.tail
      else readEnd .null .null (.absent false key) tokens := by
    funext tokens
    split
    · rename_i negates
      unfold readAbsence
      simp only [negates, decide_true]
      rfl
    · rename_i plain
      exact readAbsence_of_next_ne_not plain
  rw [choice]
  exact .ite .not (placeless_readEnd _ _ _).tail (placeless_readEnd _ _ _)

/-- Whatever says something about a key is read on alike. -/
theorem placeless_predicateReader {key : Key} {kind : TokenKind} {reader : Reader Expr}
    (isReader : predicateReader? key kind = some reader) : Placeless reader := by
  cases kind <;> cases isReader
  case eq | ne | gt | gte | lt | lte => exact placeless_readComparison _ key
  case inWord | ninWord => exact placeless_readMembership _ key
  case not => exact placeless_expect _ _ (placeless_readMembership true key)
  case isWord => exact placeless_readAbsence key

/-- What is said about a key is read alike wherever it stands. -/
theorem placeless_readPredicate (key : Key) : Placeless (readPredicate key) := by
  intro tokens others same
  cases isReader : predicateReader? key (next tokens).kind with
  | none =>
    rw [readPredicate_of_no_reader isReader]
    rw [← kind_next same] at isReader
    rw [readPredicate_of_no_reader isReader]
    exact alike_unexpected _ (lexeme_next same)
  | some reader =>
    rw [readPredicate_of_reader isReader]
    rw [← kind_next same] at isReader
    rw [readPredicate_of_reader isReader]
    exact (placeless_predicateReader isReader).tail tokens others same

/-! ## The readers of a filter -/

section Chain

variable {connective : Connective} {item : Reader Parsed}

/-- Further operands of a connective are read alike if single operands are. -/
theorem placeless_readChainTail (placeless : Placeless item) (count : Nat) (left : Parsed) :
    Placeless (readChainTail connective item count left) := by
  induction count generalizing left with
  | zero => exact .pure left
  | succ count ih =>
    have joins := placeless.bind (fun right => readChainTail connective item count
      ⟨.join connective left.operand right.operand, false⟩) fun right => ih _
    exact .ite (connectiveToken connective) joins.tail (.pure left)

/-- Operands of a connective are read alike if single operands are. -/
theorem placeless_readChain (placeless : Placeless item) :
    Placeless (readChain connective item) := by
  apply placeless.bind (readTail connective item)
  intro left tokens others same
  have sameLength : others.length = tokens.length := by
    simpa only [List.length_map] using congrArg List.length same
  unfold readTail
  rw [sameLength]
  exact placeless_readChainTail placeless tokens.length left tokens others same

end Chain

theorem placeless_readDisjunction {negation : Reader Parsed} (placeless : Placeless negation) :
    Placeless (readDisjunction negation) :=
  placeless_readChain (placeless_readChain placeless)

theorem placeless_readTest (key : Key) : Placeless (readTest key) :=
  (placeless_readPredicate key).map fun content => Parsed.mk content false

/-- What starts with a token is read on alike if all that is nested deeper is. -/
theorem placeless_negationReader {levels : Nat} {token : Token} {reader : Reader Parsed}
    (isReader : negationReader? levels token = some reader)
    (deeper : ∀ lower < levels, Placeless (readNegation lower)) : Placeless reader := by
  unfold negationReader? at isReader
  split at isReader <;> cases isReader
  case h_1 lower kind =>
    exact (deeper lower (Nat.lt_succ_self _)).map fun parsed =>
      Parsed.mk (.not parsed.operand) false
  case h_2 lower kind =>
    apply (placeless_readDisjunction (deeper lower (Nat.lt_succ_self _))).bind
      fun parsed => readEnd .closeParen .groupEnd (Parsed.mk parsed.content true)
    exact fun parsed => placeless_readEnd _ _ _
  case h_3 => exact (placeless_readPath _).bind readTest placeless_readTest
  case h_4 => exact placeless_readTest _

/-- Negations, groups and tests are read alike at every level of nesting. -/
theorem placeless_readNegation (levels : Nat) : Placeless (readNegation levels) := by
  induction levels using Nat.strong_induction_on with
  | _ levels ih =>
    intro tokens others same
    obtain ⟨sameKind, sameText⟩ := Prod.mk.inj (lexeme_next same)
    have sameReader : negationReader? levels (next others) =
        negationReader? levels (next tokens) := by
      simp only [negationReader?, sameKind, sameText]
    rw [readNegation_eq, readNegation_eq, sameReader]
    cases isReader : negationReader? levels (next tokens) with
    | some reader => exact (placeless_negationReader isReader ih).tail tokens others same
    | none =>
      dsimp only
      unfold negationError
      rw [sameKind]
      split
      · exact .refused _ (lexeme_next same)
      · exact alike_unexpected _ (lexeme_next same)

/-- Tokens are read alike wherever they stand. -/
theorem placeless_readFilter : Placeless readFilter := by
  have finish : ∀ content, Placeless (readFinish content) :=
    fun content => .ite .finish (.pure content) (.unexpected _)
  have bare : Placeless readBare :=
    (placeless_readDisjunction (placeless_readNegation maxNesting)).bind _
      fun parsed => finish parsed.content
  have choice : readFilter = fun tokens =>
      if (next tokens).kind = .whereWord then readBare tokens.tail else readBare tokens := by
    funext tokens
    exact apply_ite readBare _ _ _
  rw [choice]
  exact .ite .whereWord bare.tail bare

end Reading

namespace Expr

open Reading

/-- The layout of a filter does not matter. If each token of a text is recognized, then the tokens
with any other blanks before, between and behind them are cut as before, and the text is read as the
same filter or refused for the same reason at the same token. -/
theorem parse_of_laysOut {text other : String}
    (recognized : ∀ token ∈ lex text, token.kind ≠ .unrecognized)
    (laid : LaysOut ((lex text).dropLast.map Token.text) other) :
    (lex other).map lexeme = (lex text).map lexeme ∧
      ((∃ expr, parse text = .ok expr ∧ parse other = .ok expr) ∨
        ∃ error refusal, parse text = .error error ∧ parse other = .error refusal ∧
          refusal.message = error.message ∧ refusal.token.text = error.token.text) := by
  have same := map_lexeme_lex_of_laysOut recognized laid
  have alike := placeless_readFilter (lex text) (lex other) same
  refine ⟨same, ?_⟩
  rw [parse, parse, ofTokens_eq_readFilter, ofTokens_eq_readFilter]
  generalize readFilter (lex text) = first at alike ⊢
  generalize readFilter (lex other) = second at alike ⊢
  cases alike with
  | read expr _ => exact .inl ⟨expr, rfl, rfl⟩
  | @refused fault token other sameToken =>
    have sameText : other.text = token.text := (Prod.mk.inj sameToken).2
    have sameMessage : ParseError.message ⟨fault, other⟩ = ParseError.message ⟨fault, token⟩ := by
      simp only [ParseError.message, sameText]
    exact .inr ⟨_, _, rfl, rfl, sameMessage, sameText⟩

/-- A text without any blank it can do without, and one with blanks of all sorts. -/
theorem parse_of_laysOut_tight :
    ∃ text other, text = "a<=-1.5&&b=='x y'" ∧
      other = "\n " ++ ("a" ++ "\t" ++ ("<=" ++ "  " ++ ("-1.5" ++ "\r\n" ++ ("&&" ++ "\u2003" ++
        ("b" ++ " " ++ ("==" ++ "\n" ++ ("'x y'" ++ "" ++ ""))))))) ∧
      (∀ token ∈ lex text, token.kind ≠ .unrecognized) ∧
      LaysOut ((lex text).dropLast.map Token.text) other ∧
      (lex other).map lexeme = (lex text).map lexeme ∧
      ((∃ expr, parse text = .ok expr ∧ parse other = .ok expr) ∨
        ∃ error refusal, parse text = .error error ∧ parse other = .error refusal ∧
          refusal.message = error.message ∧ refusal.token.text = error.token.text) := by
  have recognized : ∀ token ∈ lex "a<=-1.5&&b=='x y'", token.kind ≠ .unrecognized := by
    have all : (lex "a<=-1.5&&b=='x y'").all (·.kind ≠ .unrecognized) = true := by cbv
    exact fun token member => of_decide_eq_true (List.all_eq_true.mp all token member)
  have words : (lex "a<=-1.5&&b=='x y'").dropLast.map Token.text =
      ["a", "<=", "-1.5", "&&", "b", "==", "'x y'"] := by cbv
  refine ⟨_, _, rfl, rfl, recognized, ?laid, parse_of_laysOut recognized ?laid⟩
  rw [words]
  refine ⟨_, _, rfl, rfl, ?_⟩
  exact .cons rfl (by simp) <| .cons rfl (by simp) <| .cons rfl (by simp) <| .cons rfl (by simp) <|
    .cons rfl (by simp) <| .cons rfl (by simp) <| .cons rfl (by simp) .nil

end Expr

end PortableFilter
