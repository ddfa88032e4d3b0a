import PortableFilter.Proofs.Expr.Settling

/-! # Where a text is refused

A text that is no filter is refused at the first of its tokens with which no filter can go on
(`Expr.exists_earliest_of_refused`). Chains, negations and groups are readers that settle, as the
parts of a test do; the completion of what stands before a refused token is then spelled out and
written behind it. -/

namespace PortableFilter

namespace Reading

variable {follows : TokenKind → Prop}

/-- A test for absence stands wherever a negation can. -/
theorem completes_readNegation (levels : Nat) :
    Completes follows [.name, .isWord, .null] (readNegation levels) := by
  intro more tail ofKinds following
  obtain ⟨name, said, rfl, isName, ofSaid⟩ := List.map_eq_cons_iff.mp ofKinds
  obtain ⟨word, others, rfl, isWord, ofOthers⟩ := List.map_eq_cons_iff.mp ofSaid
  obtain ⟨null, rfl, isNull⟩ := List.map_eq_singleton_iff.mp ofOthers
  have read := @readNegation_test levels _ _ _ _ (.path (.name isName)) (.absent isWord isNull) tail
  exact ⟨_, read⟩

/-- What can follow a chain without being part of it. -/
def endsChain : Connective → TokenKind → Prop
  | .and, kind => kind ≠ .and
  | .or, kind => kind ≠ .and ∧ kind ≠ .or

/-- What can follow an item of a chain without being part of the item. -/
def endsItem : Connective → TokenKind → Prop
  | .and, _ => True
  | .or, kind => kind ≠ .and

/-- What ends a chain is not its connective. -/
theorem ne_connectiveToken_of_endsChain {connective : Connective} {kind : TokenKind}
    (ends : endsChain connective kind) : kind ≠ connectiveToken connective := by
  cases connective with
  | and => exact ends
  | or => exact ends.2

/-- Reads further items of a chain as long as there are any. -/
def readTail (connective : Connective) (item : Reader Parsed) (left : Parsed) : Reader Parsed :=
  fun tokens => readChainTail connective item tokens.length left tokens

section Chain

variable {connective : Connective} {item : Reader Parsed}

/-- What a chain goes on with ends the item before it. -/
theorem endsItem_of_readTail {left parsed : Parsed} {tokens tail : List Token}
    (read : readTail connective item left tokens = .ok (parsed, tail))
    (ends : endsChain connective (next tail).kind) : endsItem connective (next tokens).kind := by
  cases connective with
  | and => trivial
  | or =>
    by_cases goesOn : (next tokens).kind = .or
    · simp [endsItem, goesOn]
    · rw [readTail, readChainTail_of_next_ne goesOn] at read
      cases read
      exact ends.1

/-- A chain can end where it is. -/
theorem completes_readTail (left : Parsed) :
    Completes (endsChain connective) [] (readTail connective item left) := by
  intro more tail ofKinds ends
  rw [List.map_eq_nil_iff.mp ofKinds]
  exact ⟨left, readChainTail_of_next_ne (ne_connectiveToken_of_endsChain ends)⟩

/-- Behind a connective, a chain goes on with an item. -/
theorem readTail_cons (settles : ∀ tokens, Settles (endsItem connective) item tokens)
    {sign : Token} (isSign : sign.kind = connectiveToken connective) (left : Parsed)
    (later : List Token) :
    readTail connective item left (sign :: later) = item later >>= fun step =>
      readTail connective item ⟨.join connective left.operand step.1.operand, false⟩ step.2 := by
  refine (if_pos isSign).trans ?_
  rw [List.tail_cons]
  cases read : item later with
  | error error => rfl
  | ok step =>
    -- The reader still counts the tokens of the item, which have been taken by now.
    exact readChainTail_congr_count (fun read => (settles _).length_le read)
      ((settles later).length_le read) (Nat.le_refl _)

/-- The rest of a chain settles if each item does. -/
theorem settles_readTail (settles : ∀ tokens, Settles (endsItem connective) item tokens)
    (left : Parsed) (tokens : List Token) :
    Settles (endsChain connective) (readTail connective item left) tokens := by
  by_cases goesOn : (next tokens).kind = connectiveToken connective
  · cases tokens with
    | nil => cases connective <;> cases goesOn
    | cons sign later =>
      have recognized : sign.kind.IsRecognized := by
        rw [next_cons] at goesOn
        rw [goesOn]
        cases connective <;> simp [connectiveToken]
      refine .of_cons recognized ?_ (readTail_cons settles goesOn left)
      refine (settles later).bind (fun right => readTail connective item
        ⟨.join connective left.operand right.operand, false⟩) [] (fun right rest read => ?_)
        endsItem_of_readTail (by simp) fun _ => completes_readTail _
      have shorter := (settles later).length_le read
      exact settles_readTail settles _ rest
  · exact .pure (· ≠ connectiveToken connective) left goesOn
      (fun _ => ne_connectiveToken_of_endsChain) fun _ ends => readChainTail_of_next_ne ends
termination_by tokens.length
decreasing_by
  rw [List.length_cons]
  omega

/-- A chain settles if its items do. -/
theorem settles_readChain (settles : ∀ tokens, Settles (endsItem connective) item tokens)
    (tokens : List Token) : Settles (endsChain connective) (readChain connective item) tokens :=
  (settles tokens).bind (readTail connective item) []
    (fun left rest _ => settles_readTail settles left rest) endsItem_of_readTail (by simp)
    completes_readTail

end Chain

/-- A disjunction settles if a negation does. -/
theorem settles_readDisjunction {negation : Reader Parsed}
    (settles : ∀ tokens, Settles (fun _ => True) negation tokens) (tokens : List Token) :
    Settles (endsChain .or) (readDisjunction negation) tokens := by
  have conjunction : ∀ tokens, Settles (endsItem .or) (readChain .and negation) tokens :=
    @settles_readChain .and negation settles
  exact settles_readChain conjunction tokens

/-- Reads a test of a key. -/
def readTest (key : Key) : Reader Parsed := fun tokens =>
  readPredicate key tokens >>= fun step => .ok (⟨step.1, false⟩, step.2)

/-- A test of a key settles. -/
theorem settles_readTest (key : Key) (tokens : List Token) :
    Settles follows (readTest key) tokens :=
  (settles_readPredicate key tokens).map fun content => Parsed.mk content false

/-- Reads a test of a path that starts with a name. -/
def readNamed (name : String) : Reader Parsed := fun tokens =>
  readPath name tokens >>= fun step => readTest step.1 step.2

/-- A test of a name, or of a path that starts with it, settles. -/
theorem settles_readNamed (name : String) (tokens : List Token) :
    Settles follows (readNamed name) tokens := by
  refine (settles_readPath name tokens).bind readTest [.isWord, .null]
    (fun key rest _ => settles_readTest key rest) ?_ (by simp)
    fun key => (completes_readPredicate key).map fun content => Parsed.mk content false
  intro key tokens parsed tail read _
  obtain ⟨⟨content, rest⟩, said, -⟩ := bind_eq_ok_iff.mp read
  obtain ⟨used, rfl, predicate⟩ := predicate_of_readPredicate said
  exact next_predicate_ne_dot predicate

/-- Reads the inside of parentheses and the one that closes them. -/
def readGroup (inside : Reader Parsed) : Reader Parsed := fun tokens =>
  inside tokens >>= fun step => readEnd .closeParen .groupEnd ⟨step.1.content, true⟩ step.2

/-- A group settles if what is inside does. -/
theorem settles_readGroup {inside : Reader Parsed} {tokens : List Token}
    (settles : Settles (endsChain .or) inside tokens) :
    Settles follows (readGroup inside) tokens := by
  have closing : TokenKind.closeParen.IsRecognized := by simp
  refine settles.bind (fun parsed => readEnd .closeParen .groupEnd (Parsed.mk parsed.content true))
    [.closeParen] (fun parsed rest _ => settles_readEnd closing _ _ rest) (fun read _ => ?_)
    (by simp) fun _ => completes_readEnd _ _ _
  rw [kind_of_readEnd read]
  simp [endsChain]

/-- What reads on behind the first token of a negation or a primary expression. -/
def negationReader? (levels : Nat) (token : Token) : Option (Reader Parsed) :=
  match token.kind, levels with
  | .not, levels + 1 => some fun tokens => readNegation levels tokens >>= fun step =>
    .ok (⟨.not step.1.operand, false⟩, step.2)
  | .openParen, levels + 1 => some (readGroup (readExpression levels))
  | .name, _ => some (readNamed token.text)
  | .quoted, _ => some (readTest ⟨token.text⟩)
  | _, _ => none

/-- Why a token starts no negation and no primary expression. -/
def negationError (token : Token) : ParseError :=
  if token.kind = .not ∨ token.kind = .openParen then ⟨.tooDeep, token⟩
  else .unexpected .noAlternative token

/-- The first token of a negation decides what reads on behind it, or how it is refused. -/
theorem readNegation_eq (levels : Nat) (tokens : List Token) :
    readNegation levels tokens =
      match negationReader? levels (next tokens) with
      | some reader => reader tokens.tail
      | none => .error (negationError (next tokens)) := by
  by_cases negates : (next tokens).kind = .not
  · cases levels with
    | zero => simp [readNegation, readNegationWith, negationReader?, negationError, negates]
    | succ levels =>
      simp only [readNegation, readNegationWith, negationReader?, negates, if_true]
      rfl
  · rw [readNegation_of_next_ne_not negates]
    unfold readPrimary
    dsimp only
    split
    · rename_i opens
      cases levels with
      | zero => simp [insideReader, negationReader?, negationError, opens]
      | succ levels =>
        simp only [insideReader, negationReader?, opens]
        rfl
    · rename_i named
      simp only [negationReader?, named]
      rfl
    · rename_i quoted
      simp only [negationReader?, quoted]
      rfl
    · rename_i notOpening notName notQuoted
      have none : negationReader? levels (next tokens) = none := by
        unfold negationReader?
        split <;> simp_all
      rw [none, negationError, if_neg (not_or.mpr ⟨negates, notOpening⟩)]

/-- What reads on behind that token settles if negations with fewer levels left do. -/
theorem settles_negationReader {levels : Nat} {token : Token} {reader : Reader Parsed}
    (isReader : negationReader? levels token = some reader)
    (deeper : ∀ lower < levels, ∀ tokens, Settles (fun _ => True) (readNegation lower) tokens)
    (tokens : List Token) : token.kind.IsRecognized ∧ Settles follows reader tokens := by
  unfold negationReader? at isReader
  split at isReader <;> cases isReader
  case h_1 lower kind =>
    refine ⟨by simp [kind], ?_⟩
    have operand : Settles follows (readNegation lower) tokens :=
      (deeper lower (Nat.lt_succ_self _) tokens).mono fun _ _ => trivial
    exact operand.map fun parsed => Parsed.mk (.not parsed.operand) false
  case h_2 lower kind =>
    refine ⟨by simp [kind], settles_readGroup ?_⟩
    exact settles_readDisjunction (deeper lower (Nat.lt_succ_self _)) tokens
  case h_3 kind =>
    exact ⟨by simp [kind], settles_readNamed _ tokens⟩
  case h_4 kind =>
    exact ⟨by simp [kind], settles_readTest _ tokens⟩

/-- Every reader of a negation settles, with any number of levels of nesting left. -/
theorem settles_readNegation (levels : Nat) (tokens : List Token) :
    Settles (fun _ => True) (readNegation levels) tokens := by
  induction levels using Nat.strong_induction_on generalizing tokens with
  | _ levels ih =>
    cases isReader : negationReader? levels (next tokens) with
    | none =>
      refine .refused (negationError (next tokens)) [.name, .isWord, .null] ?_
        (fun other same => ?_) (by simp) (completes_readNegation levels)
      · unfold negationError
        split <;> rfl
      · rw [readNegation_eq, same, isReader]
    | some reader =>
      cases tokens with
      | nil => cases isReader
      | cons token later =>
        obtain ⟨recognized, settles⟩ := settles_negationReader isReader ih later
        refine .of_cons recognized settles fun other => ?_
        rw [next_cons] at isReader
        rw [readNegation_eq, next_cons, isReader, List.tail_cons]

/-- The end of the text behind a filter. -/
def readFinish (content : Expr) : Reader Expr := fun tokens =>
  if (next tokens).kind = .finish then .ok (content, tokens)
  else .error (.unexpected .extraneous (next tokens))

theorem settles_readFinish (content : Expr) (tokens : List Token) :
    Settles (· = .finish) (readFinish content) tokens := by
  by_cases ends : (next tokens).kind = .finish
  · exact .pure (· = .finish) content ends (fun _ here => here) fun _ here => if_pos here
  · refine .refused (.unexpected .extraneous (next tokens)) [] rfl (fun other same => ?_) (by simp)
      fun more tail ofKinds finish => ?_
    · rw [← same] at ends ⊢
      exact if_neg ends
    · rw [List.map_eq_nil_iff.mp ofKinds]
      exact ⟨content, if_pos finish⟩

/-- Only the end of the text is read as such. -/
theorem kind_of_readFinish {content result : Expr} {tokens tail : List Token}
    (read : readFinish content tokens = .ok (result, tail)) : (next tokens).kind = .finish := by
  unfold readFinish at read
  split at read
  · assumption
  · cases read

/-- Reads a filter without the word that may stand before it. -/
def readBare : Reader Expr := fun tokens =>
  readExpression maxNesting tokens >>= fun step => readFinish step.1.content step.2

theorem settles_readBare (tokens : List Token) : Settles (· = .finish) readBare tokens := by
  have expression := settles_readDisjunction (settles_readNegation maxNesting) tokens
  refine expression.bind (fun parsed => readFinish parsed.content) []
    (fun parsed rest _ => settles_readFinish parsed.content rest) ?_ (by simp) ?_
  · intro parsed tokens content tail read finish
    rw [kind_of_readFinish read]
    simp [endsChain]
  · intro parsed more tail ofKinds finish
    rw [List.map_eq_nil_iff.mp ofKinds]
    exact ⟨parsed.content, if_pos finish⟩

/-- Reads a filter. -/
def readFilter : Reader Expr := fun tokens =>
  readBare (if (next tokens).kind = .whereWord then tokens.tail else tokens)

/-- Tokens are read as a filter by one reader. -/
theorem ofTokens_eq_readFilter (tokens : List Token) :
    Expr.ofTokens tokens = (readFilter tokens).map Prod.fst := by
  unfold Expr.ofTokens readFilter readBare
  dsimp only
  generalize (if (next tokens).kind = .whereWord then tokens.tail else tokens) = tokens
  cases readExpression maxNesting tokens with
  | error error => rfl
  | ok step =>
    by_cases ends : (next step.2).kind = .finish
    · have finished : readFinish step.1.content step.2 = .ok (step.1.content, step.2) := if_pos ends
      exact (if_pos ends).trans (congrArg (Except.map Prod.fst) finished.symm)
    · have refused : readFinish step.1.content step.2 =
          .error (.unexpected .extraneous (next step.2)) := if_neg ends
      exact (if_neg ends).trans (congrArg (Except.map Prod.fst) refused.symm)

/-- No filter starts with the word that may stand before it. -/
theorem next_ne_where_of_readBare {tokens : List Token} {result : Expr × List Token}
    (read : readBare tokens = .ok result) : (next tokens).kind ≠ .whereWord := by
  have sound : Sound maxNesting (.chain .or) (readExpression maxNesting) :=
    sound_readChain (sound_ruleReader_item maxNesting .or)
  obtain ⟨⟨parsed, rest⟩, expression, -⟩ := bind_eq_ok_iff.mp read
  obtain ⟨used, phrase, rfl, derived, -⟩ := sound expression
  exact next_derives_ne_where derived rest

theorem settles_readFilter (tokens : List Token) : Settles (· = .finish) readFilter tokens := by
  by_cases introduced : (next tokens).kind = .whereWord
  · cases tokens with
    | nil => cases introduced
    | cons word later =>
      have isWhere : word.kind = .whereWord := introduced
      exact .of_cons (by simp [isWhere]) (settles_readBare later)
        fun other => congrArg readBare (if_pos isWhere)
  · refine (settles_readBare tokens).congr fun other following => congrArg readBare (if_neg ?_)
    rcases following with same | ⟨result, read⟩
    · rwa [same]
    · exact next_ne_where_of_readBare read

end Reading

namespace Expr

open Reading

/-- The end of a text is a token that is never used up. -/
theorem rest_ne_nil_of_lex {text : String} {used rest : List Token}
    (split : Token.lex text = used ++ rest)
    (recognized : ∀ token ∈ used, token.kind.IsRecognized) : rest ≠ [] := by
  rintro rfl
  obtain ⟨body, stop, ended, -⟩ := Token.lexFrom_eq_append_finish .start text.toList
  have member : .finish stop ∈ used := by
    rw [← List.append_nil used, ← split, Token.lex, ended]
    exact List.mem_append_right _ List.mem_cons_self
  exact absurd rfl (recognized _ member).2

/-- What completes the first tokens of a text can be written behind them. -/
theorem exists_text_of_completes {text : String} {used rest : List Token}
    {kinds : List TokenKind} (split : Token.lex text = used ++ rest)
    (recognized : ∀ token ∈ used, token.kind.IsRecognized)
    (spellable : ∀ kind ∈ kinds, kind.IsRecognized)
    (completes : Completes (· = .finish) kinds fun later => readFilter (used ++ later)) :
    ∃ other rest expr, Token.lex other = used ++ rest ∧ ofTokens (Token.lex other) = .ok expr := by
  obtain ⟨front, back, -, continued⟩ := Token.exists_front_of_lexFrom split recognized
  obtain ⟨tokens, stop, cut, ofKinds⟩ :=
    Token.exists_lexFrom_samples spellable (Position.start.after front)
  obtain ⟨content, read⟩ := completes tokens [.finish stop] ofKinds rfl
  have lexed : Token.lex (String.ofList (front ++ Token.samples kinds)) =
      used ++ (tokens ++ [.finish stop]) := by
    rw [Token.lex, String.toList_ofList, continued _ (Token.delimits_samples kinds), cut]
  refine ⟨_, _, content, lexed, ?_⟩
  rw [lexed, ofTokens_eq_readFilter]
  exact congrArg (Except.map Prod.fst) read

/-- A text is refused at the first of its tokens with which no filter goes on. Whatever is behind
that token, the refusal is the same, and some filter starts with the tokens before it. -/
theorem exists_earliest_of_refused {text : String} {error : ParseError}
    (refused : ofTokens (Token.lex text) = .error error) :
    ∃ before token after, Token.lex text = before ++ token :: after ∧ error.token = token ∧
      (∀ rest, ofTokens (before ++ token :: rest) = .error error) ∧
      ∃ other rest expr, Token.lex other = before ++ rest ∧
        ofTokens (Token.lex other) = .ok expr := by
  rw [ofTokens_eq_readFilter, map_eq_error_iff] at refused
  cases settles_readFilter (Token.lex text) with
  | reads used rest content split recognized same =>
    have read := same rest (.inl rfl)
    rw [← split, refused] at read
    cases read
  | refuses used rest fault split recognized located same kinds spellable completes =>
    have again := same rest rfl
    rw [← split, refused] at again
    cases again
    obtain ⟨token, after, rfl⟩ := List.exists_cons_of_ne_nil (rest_ne_nil_of_lex split recognized)
    refine ⟨used, token, after, split, located, fun rest => ?_,
      exists_text_of_completes split recognized spellable completes⟩
    rw [ofTokens_eq_readFilter, map_eq_error_iff]
    exact same (token :: rest) rfl

/-- A list that goes on with a connective is refused there. -/
theorem exists_earliest_in_list :
    ofTokens (Token.lex "where not (a.b in [1, 'x' and c == 2)") =
        .error ⟨.mismatch .listEnd, ⟨.and, "and", ⟨26, 1, 27⟩, 29⟩⟩ ∧
      ∃ before token after,
        Token.lex "where not (a.b in [1, 'x' and c == 2)" = before ++ token :: after ∧
        (⟨.and, "and", ⟨26, 1, 27⟩, 29⟩ : Token) = token ∧
        (∀ rest, ofTokens (before ++ token :: rest) =
          .error ⟨.mismatch .listEnd, ⟨.and, "and", ⟨26, 1, 27⟩, 29⟩⟩) ∧
        ∃ other rest expr, Token.lex other = before ++ rest ∧
          ofTokens (Token.lex other) = .ok expr := by
  have refused : ofTokens (Token.lex "where not (a.b in [1, 'x' and c == 2)") =
      .error ⟨.mismatch .listEnd, ⟨.and, "and", ⟨26, 1, 27⟩, 29⟩⟩ := by cbv
  exact ⟨refused, exists_earliest_of_refused refused⟩

end Expr

end PortableFilter
