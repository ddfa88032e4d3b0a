import PortableFilter.Proofs.Expr.Reading
import PortableFilter.Proofs.Token.Lexing

/-! # The filters that are accepted

A list of tokens is accepted exactly when the grammar derives it with at most as many parentheses
and negations around a token as the limit of nesting admits
(`Reading.ofTokens_append_finish_eq_ok_iff`). One half is an induction on the levels of nesting
that are left (`Reading.sound_readNegation`), the other an induction on the derivation
(`Reading.complete_of_derives`). -/

namespace PortableFilter

namespace Reading

/-- What reading a phrase gives. -/
def parsedOf (phrase : Phrase) : Parsed := ⟨phrase.content, phrase.grouped⟩

/-- The reader of a rule, with a number of levels of nesting left. -/
def ruleReader (levels : Nat) : Grammar.Rule → Reader Parsed
  | .chain .or => readDisjunction (readNegation levels)
  | .chain .and => readChain .and (readNegation levels)
  | .negation | .primary => readNegation levels

/-- A chain is read as operands with its connective between them. -/
theorem ruleReader_chain (levels : Nat) (connective : Connective) :
    ruleReader levels (.chain connective) =
      readChain connective (ruleReader levels (.item connective)) := by
  cases connective <;> rfl

/-- A reader takes only what a rule derives, nested within the levels it has left. -/
def Sound (levels : Nat) (rule : Grammar.Rule) (reader : Reader Parsed) : Prop :=
  ∀ {tokens rest : List Token} {parsed : Parsed}, reader tokens = .ok (parsed, rest) →
    ∃ used phrase, tokens = used ++ rest ∧ Grammar.Derives rule used phrase ∧
      phrase.nesting ≤ levels ∧ parsed = parsedOf phrase

/-- What follows the items of a chain that have been read extends their derivation to the right. -/
theorem derives_of_readChainTail {levels : Nat} {connective : Connective} {item : Reader Parsed}
    (sound : Sound levels (.item connective) item) :
    ∀ {count : Nat} {left parsed : Parsed} {start tokens rest : List Token} {phrase : Phrase},
      readChainTail connective item count left tokens = .ok (parsed, rest) →
      Grammar.Derives (.chain connective) start phrase → phrase.nesting ≤ levels →
      left = parsedOf phrase →
      ∃ used whole, tokens = used ++ rest ∧
        Grammar.Derives (.chain connective) (start ++ used) whole ∧ whole.nesting ≤ levels ∧
        parsed = parsedOf whole
  | 0, left, parsed, start, tokens, rest, phrase, read, derived, nested, same => by
    cases read
    exact ⟨[], phrase, rfl, by rwa [List.append_nil], nested, same⟩
  | count + 1, left, parsed, start, tokens, rest, phrase, read, derived, nested, same => by
    unfold readChainTail at read
    split at read
    · rename_i kind
      obtain ⟨⟨right, remaining⟩, itemRead, tailRead⟩ := bind_eq_ok_iff.mp read
      obtain ⟨later, next, split, itemDerived, itemNested, rfl⟩ := sound itemRead
      cases tokens with
      | nil => cases connective <;> cases kind
      | cons sign behind =>
        cases split
        have joined : Grammar.Derives (.chain connective) (start ++ sign :: later)
            (.join connective phrase next) := .more derived kind itemDerived
        obtain ⟨used, whole, rfl, wholeDerived, wholeNested, result⟩ :=
          derives_of_readChainTail sound tailRead joined (Nat.max_le.mpr ⟨nested, itemNested⟩)
            (by rw [same]; rfl)
        exact ⟨sign :: later ++ used, whole, by simp, by simpa using wholeDerived, wholeNested,
          result⟩
    · cases read
      exact ⟨[], phrase, rfl, by rwa [List.append_nil], nested, same⟩

/-- What is read as a chain is derived as one, if what is read as an operand is. -/
theorem sound_readChain {levels : Nat} {connective : Connective} {item : Reader Parsed}
    (sound : Sound levels (.item connective) item) :
    Sound levels (.chain connective) (readChain connective item) := by
  intro tokens rest parsed read
  obtain ⟨⟨left, remaining⟩, itemRead, tailRead⟩ := bind_eq_ok_iff.mp read
  obtain ⟨start, phrase, rfl, derived, nested, rfl⟩ := sound itemRead
  obtain ⟨used, whole, rfl, wholeDerived, wholeNested, result⟩ :=
    derives_of_readChainTail sound tailRead (.single derived) nested rfl
  exact ⟨start ++ used, whole, by simp, wholeDerived, wholeNested, result⟩

/-- What is read as a group or a test is derived as one, if what is read inside of groups is
derived. -/
theorem sound_readPrimary {levels : Nat} {inside : Option (Reader Parsed)}
    (sound : ∀ reader ∈ inside, ∃ deeper < levels, Sound deeper (.chain .or) reader) :
    Sound levels .primary (readPrimary inside) := by
  intro tokens rest parsed read
  cases tokens with
  | nil => cases read
  | cons first later =>
    unfold readPrimary at read
    simp only [next_cons, List.tail_cons] at read
    split at read
    · rename_i opens
      cases inside with
      | none => cases read
      | some reader =>
        obtain ⟨deeper, below, insideSound⟩ := sound reader rfl
        obtain ⟨⟨content, remaining⟩, contentRead, closing⟩ := bind_eq_ok_iff.mp read
        obtain ⟨⟨last, behind⟩, closed, done⟩ := bind_eq_ok_iff.mp closing
        obtain ⟨used, phrase, rfl, derived, nested, rfl⟩ := insideSound contentRead
        obtain ⟨rfl, closes⟩ := (expect_eq_ok_iff (by decide)).mp closed
        cases done
        exact ⟨first :: used ++ [last], .parens phrase, by simp, .parens opens derived closes,
          Nat.succ_le_of_lt (Nat.lt_of_le_of_lt nested below), rfl⟩
    · rename_i kind
      obtain ⟨⟨key, remaining⟩, pathRead, predicateRead⟩ := bind_eq_ok_iff.mp read
      obtain ⟨⟨content, behind⟩, predicated, done⟩ := bind_eq_ok_iff.mp predicateRead
      obtain ⟨used, rfl, named⟩ := path_of_readPath pathRead (.name kind)
      obtain ⟨predicate, rfl, said⟩ := predicate_of_readPredicate predicated
      cases done
      exact ⟨first :: used ++ predicate, .test content, by simp, .test (.path named) said,
        Nat.zero_le _, rfl⟩
    · rename_i kind
      obtain ⟨⟨content, behind⟩, predicated, done⟩ := bind_eq_ok_iff.mp read
      obtain ⟨predicate, rfl, said⟩ := predicate_of_readPredicate predicated
      cases done
      exact ⟨[first] ++ predicate, .test content, rfl, .test (.quoted kind) said,
        Nat.zero_le _, rfl⟩
    · cases read

/-- What is read as a negation is derived as one, if what is read behind the negation is derived. -/
theorem sound_readNegationWith {levels : Nat} {deeper : Option (Reader Parsed)}
    (sound : ∀ reader ∈ deeper, ∃ lower < levels, Sound lower .negation reader) :
    Sound levels .negation (readNegationWith deeper) := by
  intro tokens rest parsed read
  unfold readNegationWith at read
  simp only at read
  split at read
  · rename_i kind
    cases deeper with
    | none => cases read
    | some reader =>
      obtain ⟨lower, below, operandSound⟩ := sound reader rfl
      obtain ⟨⟨operand, remaining⟩, operandRead, done⟩ := bind_eq_ok_iff.mp read
      obtain ⟨used, phrase, split, derived, nested, rfl⟩ := operandSound operandRead
      cases tokens with
      | nil => cases kind
      | cons sign later =>
        cases split
        cases done
        exact ⟨sign :: used, .not phrase, rfl, .not kind derived,
          Nat.succ_le_of_lt (Nat.lt_of_le_of_lt nested below), rfl⟩
  · have insideSound : ∀ reader ∈ deeper.map readDisjunction,
        ∃ lower < levels, Sound lower (.chain .or) reader := by
      intro reader member
      obtain ⟨inner, innerMember, rfl⟩ := Option.map_eq_some_iff.mp member
      obtain ⟨lower, below, innerSound⟩ := sound inner innerMember
      have conjunction : Sound lower (.item .or) (readChain .and inner) :=
        sound_readChain innerSound
      exact ⟨lower, below, sound_readChain conjunction⟩
    obtain ⟨used, phrase, split, derived, nested, result⟩ := sound_readPrimary insideSound read
    exact ⟨used, phrase, split, .plain derived, nested, result⟩

/-- Every reader takes only what its rule derives. -/
theorem sound_readNegation (levels : Nat) : Sound levels .negation (readNegation levels) := by
  induction levels with
  | zero => exact sound_readNegationWith (by simp)
  | succ levels ih =>
    apply sound_readNegationWith
    intro reader member
    cases member
    exact ⟨levels, Nat.lt_succ_self levels, ih⟩

/-- A chain ends in front of a token that is not its connective. -/
theorem readChainTail_of_next_ne {connective : Connective} {item : Reader Parsed} {count : Nat}
    {left : Parsed} {tokens : List Token}
    (ends : (next tokens).kind ≠ connectiveToken connective) :
    readChainTail connective item count left tokens = .ok (left, tokens) := by
  cases count with
  | zero => rfl
  | succ count => exact if_neg ends

/-- A connective and an operand behind it are taken into the chain. -/
theorem readChainTail_step {connective : Connective} {item : Reader Parsed} {count : Nat}
    {left right : Parsed} {sign : Token} {later rest : List Token}
    (kind : sign.kind = connectiveToken connective) (read : item later = .ok (right, rest)) :
    readChainTail connective item (count + 1) left (sign :: later) =
      readChainTail connective item count
        ⟨.join connective left.operand right.operand, false⟩ rest := by
  refine (if_pos kind).trans ?_
  rw [List.tail_cons, read]
  rfl

/-- Beyond the number of tokens left, the number of further items does not matter. -/
theorem readChainTail_congr_count {connective : Connective} {item : Reader Parsed}
    (shortens : ∀ {tokens rest : List Token} {parsed : Parsed},
      item tokens = .ok (parsed, rest) → rest.length ≤ tokens.length) :
    ∀ {first second : Nat} {left : Parsed} {tokens : List Token},
      tokens.length ≤ first → tokens.length ≤ second →
      readChainTail connective item first left tokens =
        readChainTail connective item second left tokens := by
  intro first
  -- Every item takes its connective along, so both numbers stay above the tokens that are left.
  induction first with
  | zero =>
    intro second left tokens firstEnough secondEnough
    have empty : tokens = [] := List.length_eq_zero_iff.mp (Nat.le_zero.mp firstEnough)
    have ends : (next tokens).kind ≠ connectiveToken connective := by
      subst empty
      cases connective <;> decide
    rw [readChainTail_of_next_ne ends, readChainTail_of_next_ne ends]
  | succ first ih =>
    intro second left tokens firstEnough secondEnough
    by_cases kind : (next tokens).kind = connectiveToken connective
    · cases tokens with
      | nil => cases connective <;> cases kind
      | cons sign later =>
        rw [List.length_cons] at firstEnough secondEnough
        obtain ⟨second, rfl⟩ : ∃ fewer, second = fewer + 1 := ⟨second - 1, by omega⟩
        unfold readChainTail
        rw [if_pos kind, if_pos kind, List.tail_cons]
        cases read : item later with
        | error error => rfl
        | ok result =>
          have shorter := shortens read
          exact ih (by omega) (by omega)
    · rw [readChainTail_of_next_ne kind, readChainTail_of_next_ne kind]

/-- What is read as an operand of a connective is derived as one. -/
theorem sound_ruleReader_item (levels : Nat) (connective : Connective) :
    Sound levels (.item connective) (ruleReader levels (.item connective)) := by
  cases connective with
  | and => exact sound_readNegation levels
  | or => exact sound_readChain (sound_readNegation levels)

/-- To read an operand makes no tokens. -/
theorem ruleReader_item_shortens {levels : Nat} {connective : Connective}
    {tokens rest : List Token} {parsed : Parsed}
    (read : ruleReader levels (.item connective) tokens = .ok (parsed, rest)) :
    rest.length ≤ tokens.length := by
  obtain ⟨used, phrase, rfl, -⟩ := sound_ruleReader_item levels connective read
  simp

/-- A derivation is read whole. A chain goes on as long as its connective follows, so what is
said of it is where its reader stands after the last item. -/
def Complete (levels : Nat) (used : List Token) (phrase : Phrase) : Grammar.Rule → Prop
  | .chain connective => ∀ rest, (connective = .or → (next rest).kind ≠ .and) →
      ruleReader levels (.chain connective) (used ++ rest) =
        readChainTail connective (ruleReader levels (.item connective)) rest.length
          (parsedOf phrase) rest
  | .negation | .primary => ∀ rest,
      readNegation levels (used ++ rest) = .ok (parsedOf phrase, rest)

/-- An operand of a connective is read whole, if no stronger connective follows it. -/
theorem readItem_of_complete {levels : Nat} {connective : Connective} {used : List Token}
    {phrase : Phrase} (complete : Complete levels used phrase (.item connective))
    {rest : List Token} (ends : connective = .or → (next rest).kind ≠ .and) :
    ruleReader levels (.item connective) (used ++ rest) = .ok (parsedOf phrase, rest) := by
  cases connective with
  | and => exact complete rest
  | or =>
    have conjunction := complete rest nofun
    rw [readChainTail_of_next_ne (ends rfl)] at conjunction
    exact conjunction

/-- The reader of what stands inside parentheses, if the levels left admit parentheses. -/
def insideReader : Nat → Option (Reader Parsed)
  | 0 => none
  | levels + 1 => some (readDisjunction (readNegation levels))

/-- Without a negation at the front, a group or a test is read. -/
theorem readNegation_of_next_ne_not {levels : Nat} {tokens : List Token}
    (plain : (next tokens).kind ≠ .not) :
    readNegation levels tokens = readPrimary (insideReader levels) tokens := by
  cases levels with
  | zero => exact if_neg plain
  | succ levels => exact if_neg plain

/-- A test that the grammar derives is read whole. -/
theorem readNegation_test {levels : Nat} {tokens later : List Token} {key : Key} {content : Expr}
    (named : Grammar.Identifier tokens key) (predicate : Grammar.Predicate key later content)
    (rest : List Token) :
    readNegation levels (tokens ++ later ++ rest) = .ok (⟨content, false⟩, rest) := by
  rw [List.append_assoc]
  cases named with
  | path path =>
    obtain ⟨first, others, rfl, kind, reads⟩ := readPath_append path
    have plain : (next (first :: others ++ (later ++ rest))).kind ≠ .not := by simp [kind]
    rw [readNegation_of_next_ne_not plain]
    unfold readPrimary
    simp only [List.cons_append, next_cons, kind, List.tail_cons]
    rw [reads, readPath_of_next_ne_dot (next_predicate_ne_dot predicate)]
    refine bind_eq_ok_iff.mpr ⟨_, rfl, ?_⟩
    exact bind_eq_ok_iff.mpr ⟨(content, rest), readPredicate_append predicate rest, rfl⟩
  | @quoted token kind =>
    have plain : (next ([token] ++ (later ++ rest))).kind ≠ .not := by simp [kind]
    rw [readNegation_of_next_ne_not plain]
    unfold readPrimary
    simp only [List.singleton_append, next_cons, kind, List.tail_cons]
    exact bind_eq_ok_iff.mpr ⟨(content, rest), readPredicate_append predicate rest, rfl⟩

/-- A group is read whole if its content is. -/
theorem readNegation_parens {levels : Nat} {opening closing : Token} {tokens rest : List Token}
    {content : Phrase} (opens : opening.kind = .openParen) (closes : closing.kind = .closeParen)
    (inside : readDisjunction (readNegation levels) (tokens ++ closing :: rest) =
      .ok (parsedOf content, closing :: rest)) :
    readNegation (levels + 1) (opening :: tokens ++ [closing] ++ rest) =
      .ok (parsedOf (.parens content), rest) := by
  have plain : (next (opening :: (tokens ++ closing :: rest))).kind ≠ .not := by simp [opens]
  rw [List.cons_append, List.cons_append, List.append_assoc, List.singleton_append,
    readNegation_of_next_ne_not plain]
  unfold readPrimary
  simp only [next_cons, opens, insideReader, List.tail_cons]
  refine bind_eq_ok_iff.mpr ⟨(parsedOf content, closing :: rest), inside, ?_⟩
  exact bind_eq_ok_iff.mpr ⟨(closing, rest), expect_cons closes rest, rfl⟩

/-- Every derivation is read whole, with as many levels of nesting as it has. -/
theorem complete_of_derives {rule : Grammar.Rule} {used : List Token} {phrase : Phrase}
    (derived : Grammar.Derives rule used phrase) :
    ∀ levels, phrase.nesting ≤ levels → Complete levels used phrase rule := by
  induction derived with
  | @single connective tokens phrase item ih =>
    intro levels nested rest ends
    rw [ruleReader_chain]
    unfold readChain
    rw [readItem_of_complete (ih levels nested) ends]
    rfl
  | @more connective tokens later sign left right start kind item ihStart ihItem =>
    intro levels nested rest ends
    obtain ⟨leftNested, rightNested⟩ := Nat.max_le.mp nested
    have goesOn : connective = .or → (next (sign :: (later ++ rest))).kind ≠ .and := by
      rintro rfl
      simp [kind, connectiveToken]
    have before := ihStart levels leftNested (sign :: (later ++ rest)) goesOn
    have after := readItem_of_complete (ihItem levels rightNested) ends
    have enough : rest.length ≤ (later ++ rest).length := by
      rw [List.length_append]
      exact Nat.le_add_left _ _
    rw [List.append_assoc, List.cons_append, before, List.length_cons,
      readChainTail_step kind after]
    -- The reader still counts the tokens of the last item, which have been taken by now.
    exact readChainTail_congr_count ruleReader_item_shortens enough (Nat.le_refl _)
  | @not sign tokens operand kind negated ih =>
    intro levels nested rest
    cases levels with
    | zero => exact absurd nested (Nat.not_succ_le_zero _)
    | succ levels =>
      have operandRead := ih levels (Nat.le_of_succ_le_succ nested) rest
      refine (if_pos kind).trans ?_
      exact bind_eq_ok_iff.mpr ⟨(parsedOf operand, rest), operandRead, rfl⟩
  | plain primary ih =>
    intro levels nested
    exact ih levels nested
  | @parens opening closing tokens content opens inside closes ih =>
    intro levels nested rest
    cases levels with
    | zero => exact absurd nested (Nat.not_succ_le_zero _)
    | succ levels =>
      -- A closing parenthesis continues neither chain, so the reader inside stops in front of it.
      have contentRead := ih levels (Nat.le_of_succ_le_succ nested) (closing :: rest)
        fun _ => by simp [closes]
      rw [readChainTail_of_next_ne (by simp [closes, connectiveToken])] at contentRead
      exact readNegation_parens opens closes contentRead
  | @test tokens later key content named predicate =>
    intro levels nested rest
    exact readNegation_test named predicate rest

end Reading

namespace Grammar

/-- The token of a constant is recognized. -/
theorem Constant.isRecognized {token : Token} {value : Scalar} (constant : Constant token value) :
    token.kind.IsRecognized := by
  cases constant <;> simp_all

theorem Items.isRecognized {used : List Token} {values : List Scalar} (items : Items used values) :
    ∀ token ∈ used, token.kind.IsRecognized := by
  induction items with
  | single constant => exact List.forall_mem_singleton.mpr constant.isRecognized
  | more constant kind items ih =>
    simp only [List.forall_mem_cons]
    exact ⟨constant.isRecognized, by simp [kind], ih⟩

theorem Bracketed.isRecognized {used : List Token} {values : List Scalar}
    (bracketed : Bracketed used values) : ∀ token ∈ used, token.kind.IsRecognized := by
  cases bracketed with
  | empty opens closes => simp [opens, closes]
  | items opens items closes =>
    simp only [List.cons_append, List.forall_mem_cons, List.forall_mem_append]
    exact ⟨by simp [opens], items.isRecognized, by simp [closes]⟩

theorem Identifier.isRecognized {used : List Token} {key : Key} (named : Identifier used key) :
    ∀ token ∈ used, token.kind.IsRecognized := by
  cases named with
  | quoted kind => simp [kind]
  | path path =>
    induction path with
    | name kind => simp [kind]
    | dotted start dots kind ih =>
      rw [List.forall_mem_append]
      exact ⟨ih, by simp [dots, kind]⟩

/-- The tokens of what is said about a key are recognized. -/
theorem Predicate.isRecognized {key : Key} {used : List Token} {content : Expr}
    (predicate : Predicate key used content) : ∀ token ∈ used, token.kind.IsRecognized := by
  cases predicate with
  | @compare comparison sign token value kind constant =>
    have signed : sign.kind.IsRecognized := by
      rw [kind]
      cases comparison <;> simp [comparisonToken]
    exact List.forall_mem_cons.mpr
      ⟨signed, List.forall_mem_singleton.mpr constant.isRecognized⟩
  | member kind bracketed =>
    exact List.forall_mem_cons.mpr ⟨by simp [kind], bracketed.isRecognized⟩
  | nonmember kind bracketed =>
    exact List.forall_mem_cons.mpr ⟨by simp [kind], bracketed.isRecognized⟩
  | notMember negates kind bracketed =>
    simp only [List.forall_mem_cons]
    exact ⟨by simp [negates], by simp [kind], bracketed.isRecognized⟩
  | absent kind ends => simp [kind, ends]
  | present kind negates ends => simp [kind, negates, ends]

/-- A derivation consists of recognized tokens, and the token that ends a text is none of them. -/
theorem Derives.isRecognized {rule : Rule} {used : List Token} {phrase : Phrase}
    (derived : Derives rule used phrase) : ∀ token ∈ used, token.kind.IsRecognized := by
  induction derived with
  | single item ih => exact ih
  | @more connective tokens later sign left right start kind item ihStart ihItem =>
    have signed : sign.kind.IsRecognized := by
      rw [kind]
      cases connective <;> simp [Reading.connectiveToken]
    exact List.forall_mem_append.mpr ⟨ihStart, List.forall_mem_cons.mpr ⟨signed, ihItem⟩⟩
  | not kind negated ih => exact List.forall_mem_cons.mpr ⟨by simp [kind], ih⟩
  | plain primary ih => exact ih
  | parens opens inside closes ih =>
    simp only [List.cons_append, List.forall_mem_cons, List.forall_mem_append]
    exact ⟨by simp [opens], ih, by simp [closes]⟩
  | test named predicate =>
    exact List.forall_mem_append.mpr ⟨named.isRecognized, predicate.isRecognized⟩

/-- No token that the grammar derives is the end of the text. -/
theorem Derives.kind_ne_finish {rule : Rule} {used : List Token} {phrase : Phrase}
    (derived : Derives rule used phrase) : ∀ token ∈ used, token.kind ≠ .finish :=
  fun token member => (derived.isRecognized token member).2

end Grammar

namespace Reading

/-- No derivation starts with the word that may stand before a filter. -/
theorem next_derives_ne_where {rule : Grammar.Rule} {used : List Token} {phrase : Phrase}
    (derived : Grammar.Derives rule used phrase) (rest : List Token) :
    (next (used ++ rest)).kind ≠ .whereWord := by
  induction derived generalizing rest with
  | single item ih => exact ih rest
  | more start kind item ihStart ihItem =>
    rw [List.append_assoc]
    exact ihStart _
  | not kind negated ih => simp [kind]
  | plain primary ih => exact ih rest
  | parens opens inside closes ih => simp [opens]
  | test named predicate =>
    cases named with
    | quoted kind => simp [kind]
    | path path =>
      obtain ⟨first, later, rfl, kind, -⟩ := readPath_append path
      simp [kind]

/-- The two parts of a list of tokens that only its last token ends are where that token
divides it. -/
theorem append_finish_inj {body used rest : List Token} {last : Token}
    (more : ∀ token ∈ body, token.kind ≠ .finish) (within : ∀ token ∈ used, token.kind ≠ .finish)
    (split : body ++ [last] = used ++ rest) (ends : last.kind = .finish)
    (stops : (next rest).kind = .finish) : used = body := by
  rcases List.append_eq_append_iff.mp split with ⟨extra, rfl, last⟩ | ⟨extra, rfl, tail⟩
  · cases extra with
    | nil => simp
    | cons token extra =>
      obtain ⟨rfl, -⟩ : token = _ ∧ _ := by simpa using last.symm
      exact absurd ends (within _ (by simp))
  · cases extra with
    | nil => simp
    | cons token extra =>
      subst tail
      exact absurd stops (more token (by simp))

/-- Up to the end of the text, exactly the phrases that the grammar derives are read, as long as
they are not nested too deep. -/
theorem readExpression_eq_ok_iff {body : List Token} {last : Token} {content : Expr}
    (more : ∀ token ∈ body, token.kind ≠ .finish) (ends : last.kind = .finish) :
    (∃ parsed rest, readExpression maxNesting (body ++ [last]) = .ok (parsed, rest) ∧
        (next rest).kind = .finish ∧ parsed.content = content) ↔
      ∃ phrase, Grammar.Derives (.chain .or) body phrase ∧ phrase.nesting ≤ maxNesting ∧
        phrase.content = content := by
  constructor
  · rintro ⟨parsed, rest, read, stops, rfl⟩
    have sound : Sound maxNesting (.chain .or) (readExpression maxNesting) :=
      sound_readChain (sound_ruleReader_item maxNesting .or)
    obtain ⟨used, phrase, split, derived, nested, rfl⟩ := sound read
    have whole := append_finish_inj more derived.kind_ne_finish split ends stops
    exact ⟨phrase, whole ▸ derived, nested, rfl⟩
  · rintro ⟨phrase, derived, nested, rfl⟩
    have read := complete_of_derives derived maxNesting nested [last] fun _ => by simp [ends]
    rw [readChainTail_of_next_ne (by simp [ends, connectiveToken])] at read
    exact ⟨parsedOf phrase, [last], read, ends, rfl⟩

/-- A filter is an expression up to the end of the text, perhaps with a word before it. -/
theorem ofTokens_eq_ok_iff_read {tokens : List Token} {content : Expr} :
    Expr.ofTokens tokens = .ok content ↔
      ∃ parsed rest, readExpression maxNesting
          (if (next tokens).kind = .whereWord then tokens.tail else tokens) = .ok (parsed, rest) ∧
        (next rest).kind = .finish ∧ parsed.content = content := by
  unfold Expr.ofTokens
  constructor
  · intro accepted
    obtain ⟨⟨parsed, rest⟩, read, done⟩ := bind_eq_ok_iff.mp accepted
    simp only at done
    split at done
    · rename_i stops
      cases done
      exact ⟨parsed, rest, read, stops, rfl⟩
    · cases done
  · rintro ⟨parsed, rest, read, stops, rfl⟩
    exact bind_eq_ok_iff.mpr ⟨(parsed, rest), read, if_pos stops⟩

/-- Exactly the filters of the grammar are read from tokens that end the text. -/
theorem ofTokens_append_finish_eq_ok_iff {body : List Token} {last : Token} {content : Expr}
    (more : ∀ token ∈ body, token.kind ≠ .finish) (ends : last.kind = .finish) :
    Expr.ofTokens (body ++ [last]) = .ok content ↔
      ∃ phrase, Grammar.Filter body phrase ∧ phrase.nesting ≤ maxNesting ∧
        phrase.content = content := by
  rw [ofTokens_eq_ok_iff_read]
  by_cases kind : (next (body ++ [last])).kind = .whereWord
  · rw [if_pos kind]
    cases body with
    | nil => exact absurd (kind.symm.trans ends) (by decide)
    | cons word tokens =>
      rw [List.cons_append, List.tail_cons,
        readExpression_eq_ok_iff (List.forall_mem_cons.mp more).2 ends]
      constructor
      · rintro ⟨phrase, derived, nested, same⟩
        exact ⟨phrase, .introduced kind derived, nested, same⟩
      · rintro ⟨phrase, spelled, nested, same⟩
        cases spelled with
        | bare derived => exact absurd kind (next_derives_ne_where derived [last])
        | introduced _ derived => exact ⟨phrase, derived, nested, same⟩
  · rw [if_neg kind, readExpression_eq_ok_iff more ends]
    constructor
    · rintro ⟨phrase, derived, nested, same⟩
      exact ⟨phrase, .bare derived, nested, same⟩
    · rintro ⟨phrase, spelled, nested, same⟩
      cases spelled with
      | bare derived => exact ⟨phrase, derived, nested, same⟩
      | introduced word derived => exact absurd word kind

end Reading

namespace Token

/-- The tokens before the one that ends a text. -/
def beforeFinish (tokens : List Token) : List Token :=
  tokens.takeWhile fun token => token.kind ≠ .finish

/-- The tokens before the end of the text are all that stand before its last token. -/
theorem beforeFinish_append_finish {body : List Token} {stop : Position}
    (others : ∀ token ∈ body, token.kind ≠ .finish) :
    beforeFinish (body ++ [.finish stop]) = body := by
  unfold beforeFinish
  rw [List.takeWhile_append_of_pos (by simpa using others)]
  simp [finish]

end Token

/-- The filters that are accepted are those that the grammar derives with at most 128 parentheses
and negations around a token, and what is read is the tree of the derivation. -/
theorem Expr.ofTokens_lex_eq_ok_iff (text : String) (expr : Expr) :
    Expr.ofTokens (Token.lex text) = .ok expr ↔
      ∃ phrase, Grammar.Filter (Token.beforeFinish (Token.lex text)) phrase ∧
        phrase.nesting ≤ 128 ∧ phrase.content = expr := by
  obtain ⟨body, stop, split, more⟩ := Token.lexFrom_eq_append_finish .start text.toList
  rw [Token.lex, split, Token.beforeFinish_append_finish more]
  exact Reading.ofTokens_append_finish_eq_ok_iff more rfl

end PortableFilter
