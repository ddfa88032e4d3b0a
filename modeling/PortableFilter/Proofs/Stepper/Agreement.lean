import PortableFilter.Proofs.Stepper
import PortableFilter.Proofs.Expr.Settling

/-! # What a parser with a cursor does

A parser comes to an end if some amount of fuel is enough for it (`Stepper.Ends`). It agrees with a
reader if it comes to an end, gives the same, and leaves the cursor where the reader leaves the list
(`Stepper.Agrees`). Agreement also says what becomes of the cursor: it is as deep as before, further
on, and was within bounds all the way. Two parsers one behind the other agree with two readers one
behind the other (`Stepper.Agrees.bind`), and so do the parsers of the parts of a test, up to
`Stepper.agrees_predicate`. -/

namespace PortableFilter

namespace Reading

/-- A path goes on behind each dot with another name. -/
theorem readPath_eq (path : String) (tokens : List Token) :
    readPath path tokens =
      if (next tokens).kind = .dot then
        expect .name .name tokens.tail >>= fun step =>
          readPath (path ++ "." ++ step.1.text) step.2
      else .ok (⟨path⟩, tokens) := by
  split
  · rename_i dot
    cases tokens with
    | nil => cases dot
    | cons first later =>
      rw [readPath.eq_def]
      refine (if_pos dot).trans ?_
      cases later with
      | nil => rfl
      | cons part rest =>
        by_cases named : part.kind = .name
        · rw [List.tail_cons, expect_cons named]
          exact if_pos named
        · have refused : expect .name .name (part :: rest) =
              .error (.unexpected (.mismatch .name) part) := if_neg named
          rw [List.tail_cons, refused]
          exact if_neg named
  · rename_i dot
    exact readPath_of_next_ne_dot dot

end Reading

open Reading (Reader next)

/-! ## Bounds -/

namespace Cursor

/-- A cursor stands within the tokens and within the limit of nesting. -/
structure Within (tokens : List Token) (cursor : Cursor) : Prop where
  position : cursor.position ≤ tokens.length
  nonnegative : 0 ≤ cursor.depth
  limited : cursor.depth ≤ 128

/-- One move: past a token, one level deeper, or one level back. -/
inductive Moves (cursor : Cursor) : Cursor → Prop where
  | past : Moves cursor { cursor with position := cursor.position + 1 }
  | deeper : Moves cursor { cursor with depth := cursor.depth + 1 }
  | back : Moves cursor { cursor with depth := cursor.depth - 1 }

end Cursor

namespace Walk

variable {tokens : List Token} {walk : Walk}

/-- A walk goes on to another one by single moves that stay within bounds. -/
inductive Reaches (tokens : List Token) (walk : Walk) : Walk → Prop where
  | here : Reaches tokens walk walk
  | moved {after : Walk} {cursor : Cursor} (reaches : Reaches tokens walk after)
      (moves : after.cursor.Moves cursor) (within : cursor.Within tokens) :
      Reaches tokens walk (after.moved cursor)

/-- From a cursor within bounds on, a walk goes on to another one and stays within bounds. -/
def StaysWithin (tokens : List Token) (walk after : Walk) : Prop :=
  walk.cursor.Within tokens → walk.Reaches tokens after

/-- Walks that go on one behind the other are one walk. -/
theorem Reaches.trans {middle after : Walk} (first : walk.Reaches tokens middle)
    (later : middle.Reaches tokens after) : walk.Reaches tokens after := by
  induction later with
  | here => exact first
  | moved _ moves within ih => exact ih.moved moves within

/-- A walk within bounds goes on to a walk within bounds. -/
theorem Reaches.within {after : Walk} (reaches : walk.Reaches tokens after)
    (start : walk.cursor.Within tokens) : after.cursor.Within tokens := by
  cases reaches with
  | here => exact start
  | moved _ _ within => exact within

/-- Every cursor of a walk is within bounds if the walk started there. -/
theorem Reaches.within_trail {after : Walk} (reaches : walk.Reaches tokens after)
    (start : ∀ cursor ∈ walk.cursor :: walk.trail, cursor.Within tokens) :
    ∀ cursor ∈ after.cursor :: after.trail, cursor.Within tokens := by
  induction reaches with
  | here => exact start
  | moved _ _ within ih => exact List.forall_mem_cons.mpr ⟨within, ih⟩

/-- Two walks that stay within bounds stay there one behind the other. -/
theorem StaysWithin.trans {middle after : Walk} (first : walk.StaysWithin tokens middle)
    (later : middle.StaysWithin tokens after) : walk.StaysWithin tokens after := by
  intro within
  exact (first within).trans (later ((first within).within within))

theorem within_start (tokens : List Token) : start.cursor.Within tokens :=
  ⟨Nat.zero_le _, Int.le_refl _, Int.zero_le_ofNat 128⟩

/-- The tokens from the cursor on. -/
def rest (tokens : List Token) (walk : Walk) : List Token := tokens.drop walk.cursor.position

/-- The walk behind the token at the cursor. -/
def advanced (tokens : List Token) (walk : Walk) : Walk :=
  if walk.cursor.position < tokens.length then
    walk.moved { walk.cursor with position := walk.cursor.position + 1 }
  else walk

/-- Behind the token at the cursor, the tokens from there on are left. -/
theorem rest_advanced : (walk.advanced tokens).rest tokens = (walk.rest tokens).tail := by
  unfold advanced rest
  split
  · exact List.tail_drop.symm
  · rename_i beyond
    rw [List.drop_eq_nil_of_le (Nat.not_lt.mp beyond), List.tail_nil]

theorem depth_advanced : (walk.advanced tokens).cursor.depth = walk.cursor.depth := by
  unfold advanced
  split <;> rfl

/-- To take a token keeps the cursor within bounds. -/
theorem staysWithin_advanced : walk.StaysWithin tokens (walk.advanced tokens) := by
  intro within
  unfold Walk.advanced
  split
  · rename_i inside
    exact Reaches.here.moved .past ⟨inside, within.nonnegative, within.limited⟩
  · exact .here

/-- A token that is no end of the text is one of the tokens. -/
theorem position_lt (more : (next (walk.rest tokens)).kind ≠ .finish) :
    walk.cursor.position < tokens.length := by
  apply Nat.lt_of_not_le
  intro beyond
  rw [rest, List.drop_eq_nil_of_le beyond] at more
  exact more rfl

/-- A token that is not the end of the text moves the cursor by one. -/
theorem position_advanced (more : (next (walk.rest tokens)).kind ≠ .finish) :
    (walk.advanced tokens).cursor.position = walk.cursor.position + 1 := by
  rw [advanced, if_pos (position_lt more)]
  rfl

end Walk

namespace Stepper

variable {α β : Type} {tokens : List Token} {walk after : Walk}

/-! ## Single steps -/

/-- A parser that has read something hands it on to the next one. -/
theorem bind_of_ok {stepper : Stepper α} {value : α} (done : stepper walk = some (.ok value, after))
    (later : α → Stepper β) : (stepper >>= later) walk = later value after := by
  change (stepper walk).bind _ = _
  rw [done]
  rfl

/-- A parser that has refused something leaves nothing for the next one to do. -/
theorem bind_of_error {stepper : Stepper α} {error : ParseError}
    (done : stepper walk = some (.error error, after)) (later : α → Stepper β) :
    (stepper >>= later) walk = some (.error error, after) := by
  change (stepper walk).bind _ = _
  rw [done]
  rfl

theorem get_bind (later : Walk → Stepper β) :
    ((get : Stepper Walk) >>= later) walk = later walk walk := rfl

/-- To look at the next token does not move the cursor. -/
theorem peek_eq (tokens : List Token) (walk : Walk) :
    peek tokens walk = some (.ok (next (walk.rest tokens)), walk) := by
  rw [next, Walk.rest, List.head?_drop]
  rfl

theorem peek_bind (later : Token → Stepper β) :
    (peek tokens >>= later) walk = later (next (walk.rest tokens)) walk :=
  bind_of_ok (peek_eq tokens walk) later

/-- To take the next token moves the cursor behind it. -/
theorem advance_eq (tokens : List Token) (walk : Walk) :
    advance tokens walk = some (.ok (next (walk.rest tokens)), walk.advanced tokens) := by
  rw [advance, peek_bind, get_bind, Walk.advanced]
  by_cases inside : walk.cursor.position < tokens.length
  · simp only [if_pos inside]
    rfl
  · simp only [if_neg inside]
    rfl

theorem advance_bind (later : Token → Stepper β) :
    (advance tokens >>= later) walk = later (next (walk.rest tokens)) (walk.advanced tokens) :=
  bind_of_ok (advance_eq tokens walk) later

/-! ## Enough fuel -/

/-- With enough fuel, a parser goes on from a walk to another one and comes to an end there. -/
def Ends (stepper : Nat → Stepper α) (walk : Walk) (outcome : Except ParseError α) (after : Walk) :
    Prop :=
  ∃ enough, ∀ fuel, enough ≤ fuel → stepper fuel walk = some (outcome, after)

namespace Ends

variable {stepper : Nat → Stepper α} {later : Nat → α → Stepper β} {middle : Walk} {value : α}

/-- A parser that needs no fuel comes to an end with any amount of it. -/
theorem of_eq {outcome : Except ParseError α}
    (done : ∀ fuel, stepper fuel walk = some (outcome, after)) : Ends stepper walk outcome after :=
  ⟨0, fun fuel _ => done fuel⟩

/-- A parser that goes on as another one ends where that one does. -/
theorem of_goesOn {other : Nat → Stepper α} {outcome : Except ParseError α}
    (goesOn : ∀ fuel, stepper fuel walk = other fuel middle)
    (ends : Ends other middle outcome after) : Ends stepper walk outcome after := by
  obtain ⟨enough, done⟩ := ends
  exact ⟨enough, fun fuel more => (goesOn fuel).trans (done fuel more)⟩

/-- A recursive call takes a unit of the fuel. -/
theorem of_succ {outcome : Except ParseError α}
    (ends : Ends (fun fuel => stepper (fuel + 1)) walk outcome after) :
    Ends stepper walk outcome after := by
  obtain ⟨enough, done⟩ := ends
  refine ⟨enough + 1, fun fuel more => ?_⟩
  obtain ⟨lower, rfl⟩ := Nat.exists_eq_add_of_le' more
  exact done (lower + enough) (Nat.le_add_left enough lower)

/-- If both of two parsers come to an end, they do so one behind the other. -/
theorem bind_ok {outcome : Except ParseError β} (first : Ends stepper walk (.ok value) middle)
    (second : Ends (fun fuel => later fuel value) middle outcome after) :
    Ends (fun fuel => stepper fuel >>= later fuel) walk outcome after := by
  obtain ⟨enough, done⟩ := first
  obtain ⟨enoughLater, doneLater⟩ := second
  refine ⟨max enough enoughLater, fun fuel more => ?_⟩
  have more := Nat.max_le.mp more
  exact (bind_of_ok (done fuel more.1) (later fuel)).trans (doneLater fuel more.2)

/-- If the first of two parsers refuses something, both come to an end there. -/
theorem bind_error {error : ParseError} (first : Ends stepper walk (.error error) after) :
    Ends (fun fuel => stepper fuel >>= later fuel) walk (.error error) after := by
  obtain ⟨enough, done⟩ := first
  exact ⟨enough, fun fuel more => bind_of_error (done fuel more) (later fuel)⟩

end Ends

/-! ## Agreement -/

/-- From a walk on, a parser comes to an end and does what a reader does with the tokens from the
cursor on. If it reads something, at least `least` tokens lie behind it then, and it is as deep as
before. Whether it reads or refuses, the walk stays within bounds. -/
inductive Agrees (tokens : List Token) (least : Nat) (walk : Walk) (stepper : Nat → Stepper α)
    (reader : Reader α) : Prop
  | reads (value : α) (after : Walk) (ends : Ends stepper walk (.ok value) after)
      (same : reader (walk.rest tokens) = .ok (value, after.rest tokens))
      (progress : walk.cursor.position + least ≤ after.cursor.position)
      (balanced : after.cursor.depth = walk.cursor.depth)
      (stays : walk.StaysWithin tokens after)
  | refuses (error : ParseError) (after : Walk) (ends : Ends stepper walk (.error error) after)
      (same : reader (walk.rest tokens) = .error error)
      (stays : walk.StaysWithin tokens after)

namespace Agrees

variable {least : Nat} {stepper other : Nat → Stepper α} {reader otherReader : Reader α}

/-- Nothing is read, and a value is given. -/
theorem pure (value : α) (done : ∀ fuel, stepper fuel walk = some (.ok value, walk))
    (same : reader (walk.rest tokens) = .ok (value, walk.rest tokens)) :
    Agrees tokens 0 walk stepper reader :=
  .reads value walk (.of_eq done) same (Nat.le_refl _) rfl fun _ => .here

/-- The token at the cursor is refused. -/
theorem refused (error : ParseError) (done : ∀ fuel, stepper fuel walk = some (.error error, walk))
    (same : reader (walk.rest tokens) = .error error) : Agrees tokens least walk stepper reader :=
  .refuses error walk (.of_eq done) same fun _ => .here

/-- Parsers and readers that do the same agree alike. -/
theorem congr (agrees : Agrees tokens least walk other otherReader)
    (sameStep : ∀ fuel, stepper fuel walk = other fuel walk)
    (sameRead : reader (walk.rest tokens) = otherReader (walk.rest tokens)) :
    Agrees tokens least walk stepper reader := by
  cases agrees with
  | reads value after ends same progress balanced stays =>
    exact .reads value after (.of_goesOn sameStep ends) (sameRead.trans same) progress balanced
      stays
  | refuses error after ends same stays =>
    exact .refuses error after (.of_goesOn sameStep ends) (sameRead.trans same) stays

/-- How many tokens are taken at least can be left open. -/
theorem relax (agrees : Agrees tokens least walk stepper reader) :
    Agrees tokens 0 walk stepper reader := by
  cases agrees with
  | reads value after ends same progress balanced stays =>
    exact .reads value after ends same (by omega) balanced stays
  | refuses error after ends same stays => exact .refuses error after ends same stays

/-- It is enough to agree once a call has taken its unit of the fuel. -/
theorem of_succ (agrees : Agrees tokens least walk (fun fuel => stepper (fuel + 1)) reader) :
    Agrees tokens least walk stepper reader := by
  cases agrees with
  | reads value after ends same progress balanced stays =>
    exact .reads value after ends.of_succ same progress balanced stays
  | refuses error after ends same stays => exact .refuses error after ends.of_succ same stays

/-- The token at the cursor is taken, and another parser goes on. -/
theorem of_advanced (agrees : Agrees tokens least (walk.advanced tokens) other otherReader)
    (inside : (next (walk.rest tokens)).kind ≠ .finish)
    (goesOn : ∀ fuel, stepper fuel walk = other fuel (walk.advanced tokens))
    (readsOn : reader (walk.rest tokens) = otherReader (walk.rest tokens).tail) :
    Agrees tokens 1 walk stepper reader := by
  rw [← Walk.rest_advanced] at readsOn
  have passed := Walk.position_advanced inside
  cases agrees with
  | reads value after ends same progress balanced stays =>
    refine .reads value after (.of_goesOn goesOn ends) (readsOn.trans same) ?_
      (balanced.trans Walk.depth_advanced) (Walk.staysWithin_advanced.trans stays)
    omega
  | refuses error after ends same stays =>
    exact .refuses error after (.of_goesOn goesOn ends) (readsOn.trans same)
      (Walk.staysWithin_advanced.trans stays)

/-- Two parsers one behind the other. -/
theorem bind {later : Nat → α → Stepper β} (first : Agrees tokens least walk stepper reader)
    (readLater : α → Reader β)
    (goesOn : ∀ value after, after.cursor.depth = walk.cursor.depth →
      walk.cursor.position + least ≤ after.cursor.position →
      Agrees tokens 0 after (fun fuel => later fuel value) (readLater value)) :
    Agrees tokens least walk (fun fuel => stepper fuel >>= later fuel)
      fun tokens => reader tokens >>= fun step => readLater step.1 step.2 := by
  cases first with
  | refuses error after ends same stays =>
    refine .refuses error after ends.bind_error ?_ stays
    simp only [same]
    rfl
  | reads value after ends same progress balanced stays =>
    have readsOn : (reader (walk.rest tokens) >>= fun step => readLater step.1 step.2) =
        readLater value (after.rest tokens) := by
      rw [same]
      rfl
    cases goesOn value after balanced progress with
    | reads result final endsLater sameLater progressLater balancedLater staysLater =>
      refine .reads result final (ends.bind_ok endsLater) (readsOn.trans sameLater) ?_
        (balancedLater.trans balanced) (stays.trans staysLater)
      omega
    | refuses error final endsLater sameLater staysLater =>
      exact .refuses error final (ends.bind_ok endsLater) (readsOn.trans sameLater)
        (stays.trans staysLater)

theorem map (agrees : Agrees tokens least walk stepper reader) (f : α → β) :
    Agrees tokens least walk (fun fuel => stepper fuel >>= fun value => Pure.pure (f value))
      fun tokens => reader tokens >>= fun step => .ok (f step.1, step.2) :=
  agrees.bind (fun value tokens => .ok (f value, tokens))
    fun value _ _ _ => .pure (f value) (fun _ => rfl) rfl

end Agrees

/-! ## The parts of a test -/

/-- A token of a kind is expected by both. -/
theorem agrees_expect {kind : TokenKind} (more : kind ≠ .finish) (expected : Expected)
    (walk : Walk) :
    Agrees tokens 1 walk (fun _ => expect tokens kind expected) (Reading.expect kind expected) := by
  by_cases same : (next (walk.rest tokens)).kind = kind
  · have inside : (next (walk.rest tokens)).kind ≠ .finish := by rwa [same]
    refine .reads (next (walk.rest tokens)) (walk.advanced tokens) (.of_eq fun _ => ?_) ?_
      (Nat.le_of_eq (Walk.position_advanced inside).symm) Walk.depth_advanced
      Walk.staysWithin_advanced
    · rw [expect, peek_bind, if_pos same, advance_eq]
    · rw [Walk.rest_advanced]
      exact if_pos same
  · refine .refused (.unexpected (.mismatch expected) (next (walk.rest tokens))) (fun _ => ?_)
      (if_neg same)
    rw [expect, peek_bind, if_neg same]
    rfl

theorem agrees_constant (walk : Walk) :
    Agrees tokens 1 walk (fun _ => constant tokens) Reading.readConstant := by
  cases read : Reading.constant (next (walk.rest tokens)) with
  | error error =>
    refine .refused error (fun _ => ?_) ?_
    · rw [constant, peek_bind, read]
      rfl
    · rw [Reading.readConstant, read]
      rfl
  | ok value =>
    have behind : Agrees tokens 0 (walk.advanced tokens) (fun _ => Pure.pure value)
        fun rest => .ok (value, rest) := .pure value (fun _ => rfl) rfl
    refine behind.of_advanced (Reading.isRecognized_of_constant read).2 (fun _ => ?_) ?_
    · rw [constant, peek_bind, read]
      exact advance_bind _
    · rw [Reading.readConstant, read]
      rfl

/-- The items of a list are read alike, by induction on the tokens ahead. -/
theorem agrees_items (walk : Walk) : Agrees tokens 1 walk (items tokens) Reading.readItems := by
  apply Agrees.of_succ
  simp only [items, funext Reading.readItems_eq]
  refine (agrees_constant walk).bind Reading.readMoreItems fun value after _ progress => ?_
  by_cases comma : (next (after.rest tokens)).kind = .comma
  · -- The comma is one of the tokens, so behind it the measure is smaller.
    have more : (next (after.rest tokens)).kind ≠ .finish := by simp [comma]
    have inside := Walk.position_lt more
    have passed := Walk.position_advanced more
    refine (((agrees_items (after.advanced tokens)).map (value :: ·)).of_advanced more
      (fun _ => ?_) (if_pos comma)).relax
    rw [peek_bind, if_pos comma, advance_bind]
  · refine .pure [value] (fun _ => ?_) (if_neg comma)
    rw [peek_bind, if_neg comma]
    rfl
termination_by tokens.length - walk.cursor.position

theorem agrees_inside (walk : Walk) : Agrees tokens 0 walk (inside tokens) Reading.readInside := by
  by_cases closes : (next (walk.rest tokens)).kind = .closeBracket
  · refine .pure [] (fun _ => ?_) (if_pos closes)
    rw [inside, peek_bind, if_pos closes]
    rfl
  · refine ((agrees_items walk).congr (fun _ => ?_) (if_neg closes)).relax
    rw [inside, peek_bind, if_neg closes]

theorem agrees_list (walk : Walk) : Agrees tokens 1 walk (list tokens) Reading.readList := by
  unfold list
  rw [funext Reading.readList_eq]
  refine (agrees_expect (by decide) .openBracket walk).bind (fun _ => Reading.readClosed)
    fun _ opened _ _ => ?_
  refine (agrees_inside opened).bind (Reading.readEnd .closeBracket .listEnd)
    fun values closing _ _ => ?_
  exact ((agrees_expect (by decide) .listEnd closing).map fun _ => values).relax

/-- The names of a path are read alike, by induction on the tokens ahead. -/
theorem agrees_path (name : String) (walk : Walk) :
    Agrees tokens 0 walk (path tokens name) (Reading.readPath name) := by
  apply Agrees.of_succ
  simp only [path]
  by_cases dot : (next (walk.rest tokens)).kind = .dot
  · have more : (next (walk.rest tokens)).kind ≠ .finish := by simp [dot]
    have inside := Walk.position_lt more
    have passed := Walk.position_advanced more
    have named : Agrees tokens 1 (walk.advanced tokens) (fun _ => expect tokens .name .name)
        (Reading.expect .name .name) := agrees_expect (by decide) _ _
    refine ((named.bind (fun part => Reading.readPath (name ++ "." ++ part.text))
      fun part after _ progress => agrees_path (name ++ "." ++ part.text) after).of_advanced more
      (fun _ => ?_) ?_).relax
    · rw [peek_bind, if_pos dot, advance_bind]
    · rw [Reading.readPath_eq, if_pos dot]
  · refine .pure ⟨name⟩ (fun _ => ?_) (Reading.readPath_of_next_ne_dot dot)
    rw [peek_bind, if_neg dot]
    rfl
termination_by tokens.length - walk.cursor.position

theorem agrees_comparison (comparison : Comparison) (key : Key) (walk : Walk) :
    Agrees tokens 1 walk (fun _ => Stepper.comparison tokens comparison key)
      (Reading.readComparison comparison key) := by
  rw [funext (Reading.readComparison_eq comparison key)]
  exact (agrees_constant walk).map fun value => Expr.compare comparison key (.scalar value)

theorem agrees_membership (negated : Bool) (key : Key) (walk : Walk) :
    Agrees tokens 1 walk (membership tokens negated key) (Reading.readMembership negated key) :=
  (agrees_list walk).map fun values => Expr.member negated key (.ofScalars values)

theorem agrees_absence (key : Key) (walk : Walk) :
    Agrees tokens 1 walk (fun _ => absence tokens key) (Reading.readAbsence key) := by
  have null (walk : Walk) : Agrees tokens 1 walk (fun _ => expect tokens .null .null)
      (Reading.expect .null .null) := agrees_expect (by decide) _ walk
  by_cases negates : (next (walk.rest tokens)).kind = .not
  · refine ((null (walk.advanced tokens)).map fun _ => Expr.absent true key).of_advanced
      (by simp [negates]) (fun _ => ?_) ?_
    · rw [absence, peek_bind, if_pos negates, advance_bind]
    · simp only [Reading.readAbsence, negates, decide_true]
      rfl
  · refine ((null walk).map fun _ => Expr.absent false key).congr (fun _ => ?_)
      (Reading.readAbsence_of_next_ne_not negates)
    rw [absence, peek_bind, if_neg negates]

/-- What is said about a key is read alike, once the token that says it has been taken. -/
theorem agrees_said {key : Key} {token : Token} {reader : Reader Expr}
    (isReader : Reading.predicateReader? key token.kind = some reader) (walk : Walk) :
    Agrees tokens 1 walk (said tokens key token) reader := by
  unfold said
  cases kind : token.kind <;> rw [kind] at isReader <;> cases isReader
  case eq | ne | gt | gte | lt | lte => exact agrees_comparison _ key walk
  case inWord | ninWord => exact agrees_membership _ key walk
  case not =>
    exact (agrees_expect (by decide) .inWord walk).bind (fun _ => Reading.readMembership true key)
      fun _ after _ _ => (agrees_membership true key after).relax
  case isWord => exact agrees_absence key walk

/-- What is said about a key is stepped through as it is read. -/
theorem agrees_predicate (key : Key) (walk : Walk) :
    Agrees tokens 1 walk (predicate tokens key) (Reading.readPredicate key) := by
  have goesOn (fuel : Nat) : predicate tokens key fuel walk =
      said tokens key (next (walk.rest tokens)) fuel (walk.advanced tokens) := advance_bind _
  cases isReader : Reading.predicateReader? key (next (walk.rest tokens)).kind with
  | some reader =>
    refine (agrees_said isReader _).of_advanced ?_ goesOn (Reading.readPredicate_of_reader isReader)
    intro finish
    rw [finish] at isReader
    cases isReader
  | none =>
    refine .refuses (.unexpected (.mismatch .operator) (next (walk.rest tokens)))
      (walk.advanced tokens) (.of_eq fun fuel => (goesOn fuel).trans ?_)
      (Reading.readPredicate_of_no_reader isReader) Walk.staysWithin_advanced
    unfold said
    cases kind : (next (walk.rest tokens)).kind <;> rw [kind] at isReader <;> cases isReader <;> rfl

end Stepper

end PortableFilter
