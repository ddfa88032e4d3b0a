import PortableFilter.Proofs.Expr.Refusal
import PortableFilter.Proofs.Stepper.Agreement

/-! # Levels of nesting

The parsers that call each other agree with their readers, with as many levels of nesting left as
the depth of the cursor leaves. What is opened is closed behind what stands inside, so the depth is
as before (`Stepper.agrees_nested`). Chains end because each connective is passed
(`Stepper.agrees_chainTail`), and negations and groups because each of them takes a level
(`Stepper.agrees_negation`). -/

namespace PortableFilter

namespace Reading

/-- Before the end there is a next token. -/
theorem eq_next_cons {tokens : List Token} (more : (next tokens).kind ≠ .finish) :
    tokens = next tokens :: tokens.tail := by
  cases tokens with
  | nil => exact absurd rfl more
  | cons token later => rfl

variable {α : Type}

/-- Reads one level deeper what a token opens, if there is a level left. -/
def nestedReader (token : Token) (reader : Nat → Reader α) : (levels : Nat) → Reader α
  | 0 => fun _ => .error ⟨.tooDeep, token⟩
  | levels + 1 => reader levels

/-- Reads what a token negates. -/
def readNegated (levels : Nat) : Reader Parsed := fun tokens =>
  readNegation levels tokens >>= fun step => .ok (⟨.not step.1.operand, false⟩, step.2)

/-- A negation starts a level of nesting. -/
theorem readNegation_of_next_not {tokens : List Token} (negates : (next tokens).kind = .not)
    (levels : Nat) :
    readNegation levels tokens = nestedReader (next tokens) readNegated levels tokens.tail := by
  cases levels <;> exact if_pos negates

/-- A group starts a level of nesting. -/
theorem readPrimary_of_next_openParen {tokens : List Token}
    (opens : (next tokens).kind = .openParen) (levels : Nat) :
    readPrimary (insideReader levels) tokens =
      nestedReader (next tokens) (fun lower => readGroup (readExpression lower)) levels
        tokens.tail := by
  cases levels <;> simp only [readPrimary, opens, insideReader] <;> rfl

end Reading

open Reading (Reader Parsed next readNegation readExpression)

namespace Walk

variable {walk after : Walk}

/-- How many more groups and negations the limit of nesting admits. -/
def levels (walk : Walk) : Nat := (Reading.maxNesting - walk.cursor.depth).toNat

/-- The walk one level deeper. -/
def entered (walk : Walk) : Walk :=
  walk.moved { walk.cursor with depth := walk.cursor.depth + 1 }

/-- At the same depth there are as many levels left. -/
theorem levels_of_depth (same : after.cursor.depth = walk.cursor.depth) :
    after.levels = walk.levels := by
  rw [Walk.levels, same, Walk.levels]

/-- Each level that is entered is one less that is left. -/
theorem levels_entered {lower : Nat} (left : walk.levels = lower + 1) :
    walk.entered.levels = lower := by
  unfold Walk.levels at left ⊢
  change (Reading.maxNesting - (walk.cursor.depth + 1)).toNat = lower
  omega

end Walk

namespace Stepper

variable {α : Type} {tokens : List Token} {walk : Walk} {least levels : Nat}

/-! ## What is opened and closed -/

/-- Without a level left, the token that would start one is refused. -/
theorem enter_of_levels_eq_zero (none : walk.levels = 0) (token : Token) :
    enter token walk = some (.error ⟨.tooDeep, token⟩, walk) := by
  have deep : Reading.maxNesting ≤ walk.cursor.depth := by
    unfold Walk.levels at none
    omega
  rw [enter, get_bind, if_pos deep]
  rfl

/-- With a level left, it is entered. -/
theorem enter_of_levels_eq_succ (left : walk.levels = levels + 1) (token : Token) :
    enter token walk = some (.ok (), walk.entered) := by
  have shallow : ¬ Reading.maxNesting ≤ walk.cursor.depth := by
    unfold Walk.levels at left
    omega
  rw [enter, get_bind, if_neg shallow]
  rfl

/-- What stands inside starts and ends one level deeper, so closing it leads back to the depth
before it, which was no less than zero. -/
theorem agrees_nested (token : Token) {stepper : Nat → Stepper α} {reader : Nat → Reader α}
    (inside : ∀ lower, walk.levels = lower + 1 →
      Agrees tokens least walk.entered stepper (reader lower)) :
    Agrees tokens least walk (fun fuel => nested token (stepper fuel))
      (Reading.nestedReader token reader walk.levels) := by
  cases left : walk.levels with
  | zero => exact .refused _ (fun _ => bind_of_error (enter_of_levels_eq_zero left token) _) rfl
  | succ lower =>
    have shallow : walk.cursor.depth < 128 := by
      unfold Walk.levels Reading.maxNesting at left
      omega
    have enters : walk.StaysWithin tokens walk.entered := fun within =>
      Walk.Reaches.here.moved .deeper
        ⟨within.position, Int.le_add_one within.nonnegative, shallow⟩
    have opens : Ends (fun _ => enter token) walk (.ok ()) walk.entered :=
      .of_eq fun _ => enter_of_levels_eq_succ left token
    cases inside lower left with
    | refuses error after ends same stays =>
      -- Nothing closes what was opened, and no parser goes on from there.
      exact .refuses error after (opens.bind_ok ends.bind_error) same (enters.trans stays)
    | reads value after ends same progress balanced stays =>
      have back : after.cursor.depth - 1 = walk.cursor.depth := by
        rw [balanced]
        exact Int.add_sub_cancel _ _
      refine .reads value (after.moved { after.cursor with depth := after.cursor.depth - 1 })
        (opens.bind_ok (ends.bind_ok (.of_eq fun _ => rfl))) same progress back fun within => ?_
      have reached := enters.trans stays within
      refine reached.moved .back ⟨(reached.within within).position, ?_, ?_⟩
      · exact back ▸ within.nonnegative
      · exact back ▸ within.limited

/-! ## Chains -/

section Chains

variable {connective : Connective} {reader : Reader Parsed}
  (items : ∀ walk : Walk, walk.levels = levels →
    Agrees tokens 1 walk (item tokens connective) reader)
  (settles : ∀ tokens, Reading.Settles (Reading.endsItem connective) reader tokens)

include items settles

/-- The loop of a chain steps as the rest of a chain is read. -/
theorem agrees_chainTail (left : Parsed) (walk : Walk) (deep : walk.levels = levels) :
    Agrees tokens 0 walk (chainTail tokens connective left)
      (Reading.readTail connective reader left) := by
  apply Agrees.of_succ
  simp only [chainTail]
  by_cases joins : (next (walk.rest tokens)).kind = Reading.connectiveToken connective
  · have more : (next (walk.rest tokens)).kind ≠ .finish := by
      rw [joins]
      cases connective <;> simp [Reading.connectiveToken]
    have inside := Walk.position_lt more
    have passed := Walk.position_advanced more
    -- Items keep the depth, so the next one has the levels that the first one had.
    have deepBehind : (walk.advanced tokens).levels = levels :=
      (Walk.levels_of_depth Walk.depth_advanced).trans deep
    refine (((items _ deepBehind).bind (fun right => Reading.readTail connective reader
      ⟨.join connective left.operand right.operand, false⟩)
      fun right after balanced progress => agrees_chainTail
        ⟨.join connective left.operand right.operand, false⟩ after
        ((Walk.levels_of_depth balanced).trans deepBehind)).of_advanced more (fun _ => ?_) ?_).relax
    · rw [peek_bind, if_pos joins, advance_bind]
    · have further := Reading.readTail_cons settles joins left (walk.rest tokens).tail
      rwa [← Reading.eq_next_cons more] at further
  · refine .pure left (fun _ => ?_) (Reading.readChainTail_of_next_ne joins)
    rw [peek_bind, if_neg joins]
    rfl
termination_by tokens.length - walk.cursor.position

/-- A chain is stepped through as it is read if each item is. -/
theorem agrees_chain (walk : Walk) (deep : walk.levels = levels) :
    Agrees tokens 1 walk (chain tokens connective) (Reading.readChain connective reader) := by
  apply Agrees.of_succ
  simp only [chain]
  exact (items walk deep).bind (Reading.readTail connective reader) fun left after balanced _ =>
    agrees_chainTail items settles left after ((Walk.levels_of_depth balanced).trans deep)

end Chains

section Nested

variable (negations : ∀ walk : Walk, walk.levels = levels →
  Agrees tokens 1 walk (negation tokens) (readNegation levels))

include negations

/-- Conjunctions and disjunctions agree with their readers if negations do. -/
theorem agrees_rule (connective : Connective) (walk : Walk) (deep : walk.levels = levels) :
    Agrees tokens 1 walk (chain tokens connective)
      (Reading.ruleReader levels (.chain connective)) := by
  have settlesNegation : ∀ tokens,
      Reading.Settles (Reading.endsItem .and) (readNegation levels) tokens :=
    Reading.settles_readNegation levels
  have settlesConjunction : ∀ tokens, Reading.Settles (Reading.endsItem .or)
      (Reading.readChain .and (readNegation levels)) tokens :=
    Reading.settles_readChain settlesNegation
  have conjunctions (walk : Walk) (deep : walk.levels = levels) : Agrees tokens 1 walk
      (chain tokens .and) (Reading.readChain .and (readNegation levels)) := by
    refine agrees_chain (fun walk deep => ?_) settlesNegation walk deep
    apply Agrees.of_succ
    simp only [item]
    exact negations walk deep
  cases connective with
  | and => exact conjunctions walk deep
  | or =>
    refine agrees_chain (fun walk deep => ?_) settlesConjunction walk deep
    apply Agrees.of_succ
    simp only [item]
    exact conjunctions walk deep

end Nested

/-! ## Negations and groups -/

/-- A test is stepped through as it is read. -/
theorem agrees_test (key : Key) (walk : Walk) :
    Agrees tokens 1 walk (fun fuel => do
      let content ← predicate tokens key fuel
      return Parsed.mk content false) (Reading.readTest key) :=
  (agrees_predicate key walk).map fun content => Parsed.mk content false

section Deeper

variable (deeper : ∀ lower < levels, ∀ walk : Walk, walk.levels = lower →
  Agrees tokens 1 walk (negation tokens) (readNegation lower))

include deeper

/-- What is negated is stepped through as it is read, one level deeper. -/
theorem agrees_negated (token : Token) (walk : Walk) (deep : walk.levels = levels) :
    Agrees tokens 1 walk (fun fuel => nested token do
      let operand ← negation tokens fuel
      return Parsed.mk (.not operand.operand) false)
      (Reading.nestedReader token Reading.readNegated levels) := by
  subst deep
  refine agrees_nested token fun lower left => ?_
  exact (deeper lower (by omega) walk.entered (Walk.levels_entered left)).map
    fun operand => Parsed.mk (.not operand.operand) false

/-- A group is stepped through as it is read, one level deeper. -/
theorem agrees_group (token : Token) (walk : Walk) (deep : walk.levels = levels) :
    Agrees tokens 1 walk (fun fuel => nested token do
      let parsed ← chain tokens .or fuel
      let _ ← expect tokens .closeParen .groupEnd
      return Parsed.mk parsed.content true)
      (Reading.nestedReader token (fun lower => Reading.readGroup (readExpression lower))
        levels) := by
  subst deep
  refine agrees_nested token fun lower left => ?_
  refine (agrees_rule (deeper lower (by omega)) .or walk.entered (Walk.levels_entered left)).bind
    (fun parsed => Reading.readEnd .closeParen .groupEnd (Parsed.mk parsed.content true))
    fun parsed after _ _ => ?_
  exact ((agrees_expect (by decide) .groupEnd after).map
    fun _ => Parsed.mk parsed.content true).relax

/-- A primary expression is stepped through as it is read. -/
theorem agrees_primary (walk : Walk) (deep : walk.levels = levels) :
    Agrees tokens 1 walk (primary tokens) (Reading.readPrimary (Reading.insideReader levels)) := by
  apply Agrees.of_succ
  simp only [primary]
  cases kind : (next (walk.rest tokens)).kind
  case openParen =>
    refine (agrees_group deeper (next (walk.rest tokens)) (walk.advanced tokens)
      ((Walk.levels_of_depth Walk.depth_advanced).trans deep)).of_advanced (by simp [kind])
      (fun _ => ?_) (Reading.readPrimary_of_next_openParen kind levels)
    rw [peek_bind, kind]
    exact advance_bind _
  case name =>
    have named := (@agrees_path tokens (next (walk.rest tokens)).text (walk.advanced tokens)).bind
      Reading.readTest fun key after _ _ => (agrees_test key after).relax
    refine named.of_advanced (by simp [kind]) (fun _ => ?_) ?_
    · rw [peek_bind, kind]
      simp only [key, bind_assoc]
      rw [advance_bind, kind]
    · simp only [Reading.readPrimary, kind]
      rfl
  case quoted =>
    refine (agrees_test ⟨(next (walk.rest tokens)).text⟩ (walk.advanced tokens)).of_advanced
      (by simp [kind]) (fun _ => ?_) ?_
    · rw [peek_bind, kind]
      simp only [key, bind_assoc]
      rw [advance_bind, kind]
      exact congrFun (pure_bind _ _) _
    · simp only [Reading.readPrimary, kind]
      rfl
  all_goals
    refine .refused (.unexpected .noAlternative (next (walk.rest tokens))) (fun _ => ?_) ?_
    · rw [peek_bind, kind]
      rfl
    · simp only [Reading.readPrimary, kind]

end Deeper

/-- Every parser of a negation agrees with its reader, however deep it starts. -/
theorem agrees_negation (levels : Nat) (walk : Walk) (deep : walk.levels = levels) :
    Agrees tokens 1 walk (negation tokens) (readNegation levels) := by
  -- Groups and negations inside take a level each, and all that is on one level is covered by
  -- `agrees_rule`.
  induction levels using Nat.strong_induction_on generalizing walk with
  | _ levels deeper =>
    apply Agrees.of_succ
    simp only [negation]
    by_cases negates : (next (walk.rest tokens)).kind = .not
    · refine (agrees_negated deeper (next (walk.rest tokens)) (walk.advanced tokens)
        ((Walk.levels_of_depth Walk.depth_advanced).trans deep)).of_advanced (by simp [negates])
        (fun _ => ?_) (Reading.readNegation_of_next_not negates levels)
      rw [peek_bind, if_pos negates, advance_bind]
    · refine (agrees_primary deeper walk deep).congr (fun _ => ?_)
        (Reading.readNegation_of_next_ne_not negates)
      rw [peek_bind, if_neg negates]

/-- A filter is stepped through as it is read, with or without its first word. -/
theorem agrees_filter (walk : Walk) :
    Agrees tokens 1 walk (filter tokens) fun rest =>
      readExpression walk.levels (if (next rest).kind = .whereWord then rest.tail else rest) >>=
        fun step => Reading.readFinish step.1.content step.2 := by
  have bare (after : Walk) (same : after.cursor.depth = walk.cursor.depth) : Agrees tokens 1 after
      (fun fuel => do
        let parsed ← chain tokens .or fuel
        let token ← peek tokens
        if token.kind = .finish then return parsed.content
        else throw (.unexpected .extraneous token)) fun rest =>
      readExpression walk.levels rest >>=
        fun step => Reading.readFinish step.1.content step.2 := by
    refine (agrees_rule (agrees_negation walk.levels) .or after (Walk.levels_of_depth same)).bind
      (fun parsed => Reading.readFinish parsed.content) fun parsed final _ _ => ?_
    by_cases ends : (next (final.rest tokens)).kind = .finish
    · refine .pure parsed.content (fun _ => ?_) (if_pos ends)
      rw [peek_bind, if_pos ends]
      rfl
    · refine .refused (.unexpected .extraneous (next (final.rest tokens))) (fun _ => ?_)
        (if_neg ends)
      rw [peek_bind, if_neg ends]
      rfl
  by_cases introduced : (next (walk.rest tokens)).kind = .whereWord
  · refine (bare (walk.advanced tokens) Walk.depth_advanced).of_advanced (by simp [introduced])
      (fun _ => ?_) ?_
    · rw [filter, peek_bind, if_pos introduced]
      exact advance_bind _
    · rw [if_pos introduced]
  · refine (bare walk rfl).congr (fun _ => ?_) ?_
    · rw [filter, peek_bind, if_neg introduced]
    · rw [if_neg introduced]

end Stepper

end PortableFilter
