import PortableFilter.Proofs.Stepper.Nesting

/-! # Parsers on any list of tokens

Tokens can stand in any order, and there need not be one that ends them. Wherever a parser with a
cursor starts in them, it comes to an end and does what its reader does. If it reads something, its
cursor is as deep as before and further on, and all the way the cursor stays within the tokens and
the limit of nesting (`Stepper.Steady`). So no tree that is read has more than 128 negations and
groups around one of its keys and values (`Stepper.steady_on_tokens`). -/

namespace PortableFilter

/-! ## Negations and groups in a tree -/

/-- The counts of negations and groups around the leaves of a node, given those around the leaves of
its operands. -/
def Kind.enclose (kind : Kind) (counts : List Nat) : List Nat :=
  if kind = .not then counts.map (· + 1) else counts

mutual

/-- For each key and each value of an expression, the number of negations and groups on the way to
it. -/
def Expr.enclosures : Expr → List Nat
  | .unary kind operand => kind.enclose operand.enclosures
  | .binary kind left right => kind.enclose (left.enclosures ++ right.enclosures)

/-- For each key and each value of an operand, the number of negations and groups on the way to
it. -/
def Operand.enclosures : Operand → List Nat
  | .key _ | .value _ => [0]
  | .expr content => content.enclosures
  | .group content => content.enclosures.map (· + 1)

end

namespace Grammar

theorem Predicate.enclosures_eq_zero {key : Key} {tokens : List Token} {content : Expr}
    (said : Predicate key tokens content) : ∀ count ∈ content.enclosures, count = 0 := by
  cases said <;>
    simp [Expr.compare, Expr.member, Expr.absent, Expr.enclosures, Operand.enclosures, Kind.enclose]

end Grammar

namespace Phrase

/-- Around the leaves of a phrase there are at most as many negations and groups as around those of
the operand that it becomes. -/
theorem enclosures_content_le {phrase : Phrase} {bound : Nat}
    (bounded : ∀ count ∈ phrase.operand.enclosures, count ≤ bound) :
    ∀ count ∈ phrase.content.enclosures, count ≤ bound := by
  intro count member
  unfold operand wrap at bounded
  split at bounded
  · have enclosed := bounded (count + 1) (List.mem_map_of_mem member)
    omega
  · exact bounded count member

/-- Only negations and parentheses that were written are on the way to a leaf. -/
theorem enclosures_operand_le_nesting {rule : Grammar.Rule} {tokens : List Token} {phrase : Phrase}
    (derived : Grammar.Derives rule tokens phrase) :
    ∀ count ∈ phrase.operand.enclosures, count ≤ phrase.nesting := by
  induction derived with
  | single item ih => exact ih
  | plain primary ih => exact ih
  | @more connective tokens later sign left right start kind item leftIh rightIh =>
    intro count member
    rcases List.mem_append.mp member with inLeft | inRight
    · exact (leftIh count inLeft).trans (Nat.le_max_left _ _)
    · exact (rightIh count inRight).trans (Nat.le_max_right _ _)
  | @not sign tokens operand kind negated ih =>
    intro count member
    obtain ⟨inner, isInner, rfl⟩ := List.mem_map.mp member
    exact Nat.succ_le_succ (ih inner isInner)
  | @parens opening closing tokens content opens inside closes ih =>
    intro count member
    obtain ⟨inner, isInner, rfl⟩ := List.mem_map.mp member
    exact Nat.succ_le_succ (enclosures_content_le ih inner isInner)
  | test named predicate =>
    intro count member
    exact Nat.le_of_eq (predicate.enclosures_eq_zero count member)

end Phrase

theorem Expr.enclosures_le_of_ofTokens {tokens : List Token} {expr : Expr}
    (read : ofTokens tokens = .ok expr) :
    ∀ count ∈ expr.enclosures, count ≤ Reading.maxNesting := by
  have sound : Reading.Sound Reading.maxNesting (.chain .or)
      (Reading.readExpression Reading.maxNesting) :=
    Reading.sound_readChain (Reading.sound_ruleReader_item Reading.maxNesting .or)
  obtain ⟨parsed, rest, expression, -, rfl⟩ := Reading.ofTokens_eq_ok_iff_read.mp read
  obtain ⟨used, phrase, -, derived, nested, rfl⟩ := sound expression
  intro count member
  exact (Phrase.enclosures_content_le (Phrase.enclosures_operand_le_nesting derived) count
    member).trans nested

/-! ## Steady parsers -/

namespace Stepper

open Reading (Reader Parsed)

variable {α : Type} {tokens : List Token}

/-- Wherever it starts, a parser comes to an end, and it stays within bounds on the way whether it
reads or refuses. It does what a reader does with the tokens from its cursor on, with the levels of
nesting that are left. If it reads something, the cursor is as deep as before, and further on. -/
def Steady (tokens : List Token) (stepper : Nat → Stepper α) (reader : Nat → Reader α) : Prop :=
  ∀ walk : Walk, ∃ outcome after, Ends stepper walk outcome after ∧
    walk.StaysWithin tokens after ∧
    match outcome with
    | .ok value => reader walk.levels (walk.rest tokens) = .ok (value, after.rest tokens) ∧
      after.cursor.depth = walk.cursor.depth ∧ walk.cursor.position < after.cursor.position
    | .error error => reader walk.levels (walk.rest tokens) = .error error

theorem steady_of_agrees {stepper : Nat → Stepper α} {reader : Nat → Reader α}
    (agrees : ∀ walk, Agrees tokens 1 walk stepper (reader walk.levels)) :
    Steady tokens stepper reader := by
  intro walk
  cases agrees walk with
  | reads value after ends same progress balanced stays =>
    exact ⟨.ok value, after, ends, stays, same, balanced, progress⟩
  | refuses error after ends same stays => exact ⟨.error error, after, ends, stays, same⟩

/-- From the first token on, a filter is parsed as it is read. -/
theorem exists_filter_start (tokens : List Token) :
    ∃ after, Ends (filter tokens) .start (Expr.ofTokens tokens) after ∧
      Walk.start.Reaches tokens after := by
  rw [Reading.ofTokens_eq_readFilter]
  have agrees : Agrees tokens 1 .start (filter tokens) Reading.readFilter := agrees_filter .start
  have rest : Walk.start.rest tokens = tokens := rfl
  cases agrees with
  | reads value after ends same progress balanced stays =>
    rw [rest] at same
    rw [same]
    exact ⟨after, ends, stays (Walk.within_start tokens)⟩
  | refuses error after ends same stays =>
    rw [rest] at same
    rw [same]
    exact ⟨after, ends, stays (Walk.within_start tokens)⟩

/-- On every list of tokens the parsers of disjunctions, conjunctions, negations, primary
expressions, predicates and lists are steady. A filter is parsed to its end within bounds, and
no tree that it gives has more than 128 negations and groups on the way to a leaf. -/
theorem steady_on_tokens (tokens : List Token) :
    (∀ connective, Steady tokens (chain tokens connective) fun levels =>
      Reading.ruleReader levels (.chain connective)) ∧
    Steady tokens (negation tokens) Reading.readNegation ∧
    (Steady tokens (primary tokens) fun levels =>
      Reading.readPrimary (Reading.insideReader levels)) ∧
    (∀ key, Steady tokens (predicate tokens key) fun _ => Reading.readPredicate key) ∧
    (Steady tokens (list tokens) fun _ => Reading.readList) ∧
    (∃ after, Ends (filter tokens) .start (Expr.ofTokens tokens) after ∧
      Walk.start.Reaches tokens after ∧
      ∀ cursor ∈ after.cursor :: after.trail, cursor.Within tokens) ∧
    ∀ expr, Expr.ofTokens tokens = .ok expr → ∀ count ∈ expr.enclosures, count ≤ 128 := by
  refine ⟨fun connective => ?_, ?_, ?_, fun key => ?_, ?_, ?_,
    fun expr => Expr.enclosures_le_of_ofTokens⟩
  · apply steady_of_agrees
    intro walk
    exact agrees_rule (agrees_negation walk.levels) connective walk rfl
  · apply steady_of_agrees
    intro walk
    exact agrees_negation walk.levels walk rfl
  · apply steady_of_agrees
    intro walk
    exact agrees_primary (fun lower _ => agrees_negation lower) walk rfl
  · exact steady_of_agrees (agrees_predicate key)
  · exact steady_of_agrees agrees_list
  · obtain ⟨after, parsed, reaches⟩ := exists_filter_start tokens
    refine ⟨after, parsed, reaches, reaches.within_trail ?_⟩
    exact List.forall_mem_singleton.mpr (Walk.within_start tokens)

/-- A negated group without a token that ends the text, and with a name that has no characters. -/
theorem steady_on_tokens_unfinished :
    ∃ tokens expr, tokens.map Token.kind =
        [.not, .openParen, .name, .isWord, .null, .closeParen] ∧
      Expr.ofTokens tokens = .ok expr ∧ expr.enclosures = [2] ∧
      (∃ after, Ends (filter tokens) .start (.ok expr) after ∧
        Walk.start.Reaches tokens after ∧
        ∀ cursor ∈ after.cursor :: after.trail, cursor.Within tokens) ∧
      ∀ count ∈ expr.enclosures, count ≤ 128 := by
  let token (kind : TokenKind) : Token := ⟨kind, "", .start, 0⟩
  let tokens := [token .not, token .openParen, token .name, token .isWord, token .null,
    token .closeParen]
  have read : Expr.ofTokens tokens = .ok (.not (.group (.absent false ⟨""⟩))) := rfl
  obtain ⟨-, -, -, -, -, parsed, enclosed⟩ := steady_on_tokens tokens
  rw [read] at parsed
  exact ⟨tokens, _, rfl, read, rfl, parsed, enclosed _ read⟩

end Stepper

end PortableFilter
