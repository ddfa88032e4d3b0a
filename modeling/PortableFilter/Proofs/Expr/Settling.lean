import PortableFilter.Proofs.Expr.Recognition
import PortableFilter.Proofs.Token.Continuation

/-! # Reading one token ahead

Readers look at one token at a time, so what a reader does is settled by the tokens it uses up and
the next one. `Reading.Settles` says this of a reader on a list of tokens, and that the tokens in
front of one that it refuses can be completed to something it reads. Two steps one behind the other
settle if each of them does (`Reading.Settles.bind`), and so do the readers of the parts of a test,
up to `Reading.settles_readPredicate`. -/

namespace PortableFilter

namespace Reading

variable {α β : Type}

/-- Tokens of given kinds are read whole, whatever they are, if what is behind them `follows`. -/
def Completes (follows : TokenKind → Prop) (kinds : List TokenKind) (reader : Reader α) : Prop :=
  ∀ more tail : List Token, more.map Token.kind = kinds → follows (next tail).kind →
    ∃ value, reader (more ++ tail) = .ok (value, tail)

/-- What a reader does on a list of tokens is settled by the tokens it uses up and the next one.
If it refuses that one, other tokens in its place would complete what has been used up. If it does
not, it reads the same from the tokens that are used up and what `follows`. -/
inductive Settles (follows : TokenKind → Prop) (reader : Reader α) (tokens : List Token) : Prop
  | reads (used rest : List Token) (value : α) (split : tokens = used ++ rest)
      (recognized : ∀ token ∈ used, token.kind.IsRecognized)
      (same : ∀ other, next other = next rest ∨ follows (next other).kind →
        reader (used ++ other) = .ok (value, other))
  | refuses (used rest : List Token) (error : ParseError) (split : tokens = used ++ rest)
      (recognized : ∀ token ∈ used, token.kind.IsRecognized)
      (located : error.token = next rest)
      (same : ∀ other, next other = next rest → reader (used ++ other) = .error error)
      (kinds : List TokenKind) (spellable : ∀ kind ∈ kinds, kind.IsRecognized)
      (completes : Completes follows kinds fun later => reader (used ++ later))

/-- Two steps are completed one behind the other. -/
theorem Completes.bind [Nonempty α] {follows follows' : TokenKind → Prop} {first : Reader α}
    {kinds others : List TokenKind} (start : Completes follows kinds first) (later : α → Reader β)
    (goesOn : ∀ value, Completes follows' others (later value))
    (leads : ∀ {value tokens result tail}, later value tokens = .ok (result, tail) →
      follows' (next tail).kind → follows (next tokens).kind) :
    Completes follows' (kinds ++ others)
      fun tokens => first tokens >>= fun step => later step.1 step.2 := by
  intro more tail ofKinds following
  obtain ⟨used, behind, rfl, ofFirst, ofLater⟩ := List.map_eq_append_iff.mp ofKinds
  have leadsOn : follows (next (behind ++ tail)).kind := by
    obtain ⟨value⟩ := ‹Nonempty α›
    obtain ⟨result, read⟩ := goesOn value behind tail ofLater following
    exact leads read following
  obtain ⟨value, readFirst⟩ := start used (behind ++ tail) ofFirst leadsOn
  obtain ⟨result, readLater⟩ := goesOn value behind tail ofLater following
  rw [List.append_assoc]
  exact ⟨result, bind_eq_ok_iff.mpr ⟨_, readFirst, readLater⟩⟩

/-- What is completed stays so if it is turned into something else. -/
theorem Completes.map {follows : TokenKind → Prop} {reader : Reader α} {kinds : List TokenKind}
    (completes : Completes follows kinds reader) (f : α → β) :
    Completes follows kinds fun tokens => reader tokens >>= fun step => .ok (f step.1, step.2) := by
  intro more tail ofKinds following
  obtain ⟨value, read⟩ := completes more tail ofKinds following
  exact ⟨f value, bind_eq_ok_iff.mpr ⟨_, read, rfl⟩⟩

/-- Behind the same tokens, the next token is the same if it was the same before. -/
theorem next_append_of_eq {used first second : List Token} (same : next first = next second) :
    next (used ++ first) = next (used ++ second) := by
  cases used with
  | nil => exact same
  | cons token used => rfl

namespace Settles

variable {follows follows' : TokenKind → Prop} {tokens : List Token}

/-- Nothing is read in front of a token that `stops` the reader, as all that follows does. -/
theorem pure {reader : Reader α} (stops : TokenKind → Prop) (value : α)
    (here : stops (next tokens).kind) (implied : ∀ kind, follows kind → stops kind)
    (same : ∀ other, stops (next other).kind → reader other = .ok (value, other)) :
    Settles follows reader tokens := by
  refine .reads [] tokens value rfl (by simp) fun other following => same other ?_
  rcases following with sameNext | following
  · rwa [sameNext]
  · exact implied _ following

/-- The first token is refused. -/
theorem refused {reader : Reader α} (error : ParseError) (kinds : List TokenKind)
    (located : error.token = next tokens)
    (same : ∀ other, next other = next tokens → reader other = .error error)
    (spellable : ∀ kind ∈ kinds, kind.IsRecognized)
    (completes : Completes follows kinds reader) : Settles follows reader tokens :=
  .refuses [] tokens error rfl (by simp) located same kinds spellable completes

/-- Some tokens are used up, and another reader goes on. Where the next token is another one, that
is needed only if the other reader comes to its end. -/
theorem of_append {reader inner : Reader α} {used : List Token}
    (recognized : ∀ token ∈ used, token.kind.IsRecognized)
    (settles : Settles follows inner tokens)
    (goesOn : ∀ other, (next other = next tokens ∨
        ∃ value tail, inner other = .ok (value, tail) ∧ follows (next tail).kind) →
      reader (used ++ other) = inner other) :
    Settles follows reader (used ++ tokens) := by
  cases settles with
  | reads later rest value split laterRecognized same =>
    refine .reads (used ++ later) rest value ?_
      (List.forall_mem_append.mpr ⟨recognized, laterRecognized⟩) fun other following => ?_
    · rw [split, List.append_assoc]
    · have read := same other following
      rw [List.append_assoc, goesOn, read]
      rcases following with sameNext | following
      · exact .inl (split ▸ next_append_of_eq sameNext)
      · exact .inr ⟨value, other, read, following⟩
  | refuses later rest error split laterRecognized located same kinds spellable completes =>
    refine .refuses (used ++ later) rest error ?_
      (List.forall_mem_append.mpr ⟨recognized, laterRecognized⟩) located
      (fun other sameNext => ?_) kinds spellable fun more tail ofKinds following => ?_
    · rw [split, List.append_assoc]
    · rw [List.append_assoc, goesOn, same other sameNext]
      exact .inl (split ▸ next_append_of_eq sameNext)
    · obtain ⟨value, read⟩ : ∃ value, inner (later ++ (more ++ tail)) = .ok (value, tail) :=
        completes more tail ofKinds following
      have same := goesOn _ (.inr ⟨value, tail, read, following⟩)
      rw [← List.append_assoc] at same
      exact ⟨value, same.trans read⟩

/-- A token is used up, and another reader goes on. -/
theorem of_cons {reader inner : Reader α} {token : Token} (recognized : token.kind.IsRecognized)
    (settles : Settles follows inner tokens)
    (goesOn : ∀ other, reader (token :: other) = inner other) :
    Settles follows reader (token :: tokens) :=
  @of_append _ _ _ reader inner [token] (by simpa using recognized) settles
    fun other _ => goesOn other

/-- Another reader does the same. -/
theorem congr {reader inner : Reader α} (settles : Settles follows inner tokens)
    (same : ∀ other, (next other = next tokens ∨ ∃ result, inner other = .ok result) →
      reader other = inner other) : Settles follows reader tokens := by
  refine @of_append _ _ _ reader inner [] (by simp) settles fun other following => same other ?_
  rcases following with sameNext | ⟨value, tail, read, -⟩
  · exact .inl sameNext
  · exact .inr ⟨(value, tail), read⟩

/-- Two steps one behind the other. What the second step reads has to be what follows the first,
and it can be completed in the same way whatever the first step gave. -/
theorem bind [Nonempty α] {first : Reader α} (start : Settles follows first tokens)
    (later : α → Reader β) (kinds : List TokenKind)
    (goesOn : ∀ value rest, first tokens = .ok (value, rest) → Settles follows' (later value) rest)
    (leads : ∀ {value tokens result tail}, later value tokens = .ok (result, tail) →
      follows' (next tail).kind → follows (next tokens).kind)
    (spellable : ∀ kind ∈ kinds, kind.IsRecognized)
    (completes : ∀ value, Completes follows' kinds (later value)) :
    Settles follows' (fun tokens => first tokens >>= fun step => later step.1 step.2) tokens := by
  cases start with
  | refuses used rest error split recognized located same others spellableFirst completesFirst =>
    refine .refuses used rest error split recognized located (fun other sameNext => ?_)
      (others ++ kinds) (List.forall_mem_append.mpr ⟨spellableFirst, spellable⟩)
      (completesFirst.bind later completes leads)
    exact bind_eq_error_iff.mpr (.inl (same other sameNext))
  | reads used rest value split recognized same =>
    subst split
    refine of_append recognized (goesOn value rest (same rest (.inl rfl))) fun other following => ?_
    have read : first (used ++ other) = .ok (value, other) := by
      refine same other (following.imp_right ?_)
      rintro ⟨result, tail, readLater, followingLater⟩
      exact leads readLater followingLater
    rw [read]
    rfl

/-- What is read is turned into something else. -/
theorem map [Nonempty α] {reader : Reader α} (settles : Settles follows reader tokens)
    (f : α → β) : Settles follows
      (fun tokens => reader tokens >>= fun step => .ok (f step.1, step.2)) tokens := by
  refine settles.bind (fun value tokens => .ok (f value, tokens)) []
    (fun value _ _ => .pure (fun _ => True) (f value) trivial (fun _ _ => trivial) fun _ _ => rfl)
    ?_ (by simp) ?_
  · intro value tokens result tail read following
    cases read
    exact following
  · intro value more tail ofKinds following
    rw [List.map_eq_nil_iff.mp ofKinds]
    exact ⟨f value, rfl⟩

/-- Where less may follow, less has to be settled. -/
theorem mono {reader : Reader α} (settles : Settles follows reader tokens)
    (implied : ∀ kind, follows' kind → follows kind) : Settles follows' reader tokens := by
  cases settles with
  | reads used rest value split recognized same =>
    exact .reads used rest value split recognized fun other following =>
      same other (following.imp_right (implied _))
  | refuses used rest error split recognized located same kinds spellable completes =>
    exact .refuses used rest error split recognized located same kinds spellable
      fun more tail ofKinds following => completes more tail ofKinds (implied _ following)

/-- What is left is part of what was there. -/
theorem length_le {reader : Reader α} {rest : List Token} {value : α}
    (settles : Settles follows reader tokens) (read : reader tokens = .ok (value, rest)) :
    rest.length ≤ tokens.length := by
  cases settles with
  | reads used left result split recognized same =>
    have again := same left (.inl rfl)
    rw [← split, read] at again
    cases again
    rw [split, List.length_append]
    exact Nat.le_add_left _ _
  | refuses used left error split recognized located same kinds spellable completes =>
    have again := same left rfl
    rw [← split, read] at again
    cases again

end Settles

/-! ## The parts of a test -/

instance : Nonempty Token := ⟨.finish .start⟩

instance : Nonempty Scalar := ⟨.null⟩

instance : Nonempty Key := ⟨⟨""⟩⟩

instance : Nonempty Expr := ⟨.absent false ⟨""⟩⟩

instance : Nonempty Parsed := ⟨⟨.absent false ⟨""⟩, false⟩⟩

variable {follows : TokenKind → Prop}

/-- A token of the expected kind is all that is missing. -/
theorem completes_expect (kind : TokenKind) (expected : Expected) :
    Completes follows [kind] (expect kind expected) := by
  intro more tail ofKinds following
  obtain ⟨token, rfl, same⟩ := List.map_eq_singleton_iff.mp ofKinds
  exact ⟨token, expect_cons same tail⟩

/-- Whether the expected token is there is settled by the next token. -/
theorem settles_expect {kind : TokenKind} (recognized : kind.IsRecognized) (expected : Expected)
    (tokens : List Token) : Settles follows (expect kind expected) tokens := by
  by_cases same : (next tokens).kind = kind
  · cases tokens with
    | nil => exact absurd same.symm recognized.2
    | cons token later =>
      rw [next_cons] at same
      refine .reads [token] later token rfl ?_ fun other _ => expect_cons same other
      rw [List.forall_mem_singleton, same]
      exact recognized
  · refine .refused (.unexpected (.mismatch expected) (next tokens)) [kind] rfl
      (fun other sameNext => ?_) (by simpa using recognized) (completes_expect kind expected)
    unfold expect
    rw [sameNext]
    exact if_neg same

/-- Reads a token of a kind, behind which a value is complete. -/
def readEnd (kind : TokenKind) (expected : Expected) (value : α) : Reader α := fun tokens =>
  expect kind expected tokens >>= fun step => .ok (value, step.2)

/-- A last token that is expected is settled by the next token. -/
theorem settles_readEnd {kind : TokenKind} (recognized : kind.IsRecognized) (expected : Expected)
    (value : α) (tokens : List Token) : Settles follows (readEnd kind expected value) tokens :=
  (settles_expect recognized expected tokens).map fun _ => value

/-- A last token of the expected kind is all that is missing. -/
theorem completes_readEnd (kind : TokenKind) (expected : Expected) (value : α) :
    Completes follows [kind] (readEnd kind expected value) :=
  (completes_expect kind expected).map fun _ => value

/-- What was read ends with a token of the expected kind. -/
theorem kind_of_readEnd {kind : TokenKind} {expected : Expected} {value result : α}
    {tokens tail : List Token} (read : readEnd kind expected value tokens = .ok (result, tail)) :
    (next tokens).kind = kind := by
  obtain ⟨step, taken, -⟩ := bind_eq_ok_iff.mp read
  unfold expect at taken
  simp only at taken
  split at taken
  · assumption
  · cases taken

/-- A token that is read as a constant is recognized. -/
theorem isRecognized_of_constant {token : Token} {value : Scalar}
    (read : constant token = .ok value) : token.kind.IsRecognized :=
  (constant_eq_ok_iff.mp read).isRecognized

/-- A token that is no constant is refused as such. -/
theorem token_of_constant {token : Token} {error : ParseError}
    (failed : constant token = .error error) : error.token = token := by
  unfold constant at failed
  split at failed
  · split at failed <;> cases failed
    rfl
  · split at failed
    · split at failed <;> cases failed
      rfl
    · cases failed
      rfl
  · cases failed
  · cases failed
  · cases failed
  · cases failed
    rfl

theorem constant_of_kind_null {token : Token} (kind : token.kind = .null) :
    constant token = .ok .null :=
  constant_eq_ok_iff.mpr (.null kind)

/-- Reads a constant. -/
def readConstant : Reader Scalar := fun tokens =>
  constant (next tokens) >>= fun value => .ok (value, tokens.tail)

/-- A constant is settled by the next token. -/
theorem settles_readConstant (tokens : List Token) : Settles follows readConstant tokens := by
  cases read : constant (next tokens) with
  | error error =>
    refine .refused error [.null] (token_of_constant read) (fun other same => ?_)
      (by simp) fun more tail ofKinds _ => ?_
    · rw [readConstant, same, read]
      rfl
    · obtain ⟨token, rfl, kind⟩ := List.map_eq_singleton_iff.mp ofKinds
      exact ⟨.null, bind_eq_ok_iff.mpr ⟨.null, constant_of_kind_null kind, rfl⟩⟩
  | ok value =>
    cases tokens with
    | nil => exact absurd read (constant_finish_ne_ok value)
    | cons token later =>
      refine .reads [token] later value rfl ?_
        fun other _ => bind_eq_ok_iff.mpr ⟨value, read, rfl⟩
      rw [List.forall_mem_singleton]
      exact isRecognized_of_constant read

/-- A comparison is a constant behind its sign. -/
theorem readComparison_eq (comparison : Comparison) (key : Key) (tokens : List Token) :
    readComparison comparison key tokens = readConstant tokens >>= fun step =>
      .ok (.compare comparison key (.scalar step.1), step.2) := by
  unfold readComparison readConstant
  cases constant (next tokens) <;> rfl

/-- A comparison is settled by the constant behind its sign. -/
theorem settles_readComparison (comparison : Comparison) (key : Key) (tokens : List Token) :
    Settles follows (readComparison comparison key) tokens := by
  rw [funext (readComparison_eq comparison key)]
  exact (settles_readConstant tokens).map fun value => Expr.compare comparison key (.scalar value)

/-- Reads further items behind a constant. -/
def readMoreItems (value : Scalar) : Reader (List Scalar) := fun tokens =>
  if (next tokens).kind = .comma then
    readItems tokens.tail >>= fun step => .ok (value :: step.1, step.2)
  else .ok ([value], tokens)

/-- Items are a constant, and perhaps a comma with more of them. -/
theorem readItems_eq (tokens : List Token) :
    readItems tokens = readConstant tokens >>= fun step => readMoreItems step.1 step.2 := by
  unfold readConstant
  cases tokens with
  | nil => rfl
  | cons token later =>
    rw [readItems, next_cons]
    cases constant token with
    | error error => rfl
    | ok value => cases later <;> rfl

/-- The items of a list are settled by the first token that is no comma. -/
theorem settles_readItems (tokens : List Token) : Settles (· ≠ .comma) readItems tokens := by
  have constant : Settles (fun _ => True) readConstant tokens := settles_readConstant tokens
  rw [funext readItems_eq]
  refine constant.bind readMoreItems [] (fun value rest read => ?_) (fun _ _ => trivial) (by simp)
    ?_
  · by_cases comma : (next rest).kind = .comma
    · cases rest with
      | nil => cases comma
      | cons sign later =>
        have shorter := constant.length_le read
        refine .of_cons ?_ ((settles_readItems later).map (value :: ·)) fun other => if_pos comma
        rw [next_cons] at comma
        simp [comma]
    · exact .pure (· ≠ .comma) [value] comma (fun _ ends => ends) fun _ ends => if_neg ends
  · intro value more tail ofKinds ends
    rw [List.map_eq_nil_iff.mp ofKinds]
    exact ⟨[value], if_neg ends⟩
termination_by tokens.length
decreasing_by exact shorter

/-- Reads the items of a list, if there are any. -/
def readInside : Reader (List Scalar) := fun tokens =>
  if (next tokens).kind = .closeBracket then .ok ([], tokens) else readItems tokens

/-- What a list contains is settled by the bracket that closes it. -/
theorem settles_readInside (tokens : List Token) :
    Settles (· = .closeBracket) readInside tokens := by
  by_cases closes : (next tokens).kind = .closeBracket
  · exact .pure (· = .closeBracket) [] closes (fun _ here => here) fun _ here => if_pos here
  · have items : Settles (· = .closeBracket) readItems tokens :=
      (settles_readItems tokens).mono fun kind bracket => by simp [bracket]
    refine items.congr fun other following => if_neg ?_
    rcases following with same | ⟨⟨values, rest⟩, read⟩
    · rwa [same]
    · obtain ⟨used, rfl, spelled⟩ := items_of_readItems read
      exact next_items_ne_closeBracket spelled

/-- Reads the items of a list and the bracket that closes it. -/
def readClosed : Reader (List Scalar) := fun tokens =>
  readInside tokens >>= fun step => readEnd .closeBracket .listEnd step.1 step.2

/-- The items of a list with the bracket that closes it are settled. -/
theorem settles_readClosed (tokens : List Token) : Settles follows readClosed tokens := by
  have closing : TokenKind.closeBracket.IsRecognized := by simp
  exact (settles_readInside tokens).bind (readEnd .closeBracket .listEnd) [.closeBracket]
    (fun items rest _ => settles_readEnd closing _ items rest) (fun read _ => kind_of_readEnd read)
    (by simp) (completes_readEnd _ _)

/-- A bracket completes a list behind its opening bracket. -/
theorem completes_readClosed : Completes follows [.closeBracket] readClosed := by
  intro more tail ofKinds following
  obtain ⟨closing, rfl, closes⟩ := List.map_eq_singleton_iff.mp ofKinds
  refine ⟨[], bind_eq_ok_iff.mpr ⟨([], closing :: tail), if_pos closes, ?_⟩⟩
  exact bind_eq_ok_iff.mpr ⟨(closing, tail), expect_cons closes tail, rfl⟩

/-- A list is settled when its bracket is closed. -/
theorem settles_readList (tokens : List Token) : Settles follows readList tokens := by
  have opening : Settles (fun _ => True) (expect .openBracket .openBracket) tokens :=
    settles_expect (by simp) _ tokens
  rw [funext readList_eq]
  exact opening.bind (fun _ => readClosed) [.closeBracket] (fun _ rest _ => settles_readClosed rest)
    (fun _ _ => trivial) (by simp) fun _ => completes_readClosed

/-- Two brackets complete whatever expects a list. -/
theorem completes_readList : Completes follows [.openBracket, .closeBracket] readList := by
  have opening : Completes (fun _ => True) [.openBracket] (expect .openBracket .openBracket) :=
    completes_expect _ _
  rw [funext readList_eq]
  exact opening.bind (fun _ => readClosed) (fun _ => completes_readClosed) fun _ _ => trivial

/-- A path is settled by the first token that is no dot. -/
theorem settles_readPath (path : String) (tokens : List Token) :
    Settles (· ≠ .dot) (readPath path) tokens := by
  by_cases dots : (next tokens).kind = .dot
  · match tokens with
    | [] => cases dots
    | dot :: later =>
      have isDot : dot.kind = .dot := dots
      have afterDot : Settles (· ≠ .dot) (fun other => readPath path (dot :: other)) later := by
        by_cases named : (next later).kind = .name
        · match later with
          | [] => cases named
          | part :: rest =>
            have isName : part.kind = .name := named
            refine .of_cons (by simp [isName])
              (settles_readPath (path ++ "." ++ part.text) rest) fun other => ?_
            rw [readPath, if_pos isDot, if_pos isName]
        · refine .refused (.unexpected (.mismatch .name) (next later)) [.name] rfl
            (fun other same => ?_) (by simp)
            fun more tail ofKinds ends => ?_
          · rw [← same] at named ⊢
            rw [readPath.eq_def]
            refine (if_pos isDot).trans ?_
            cases other with
            | nil => rfl
            | cons part rest => exact if_neg named
          · obtain ⟨part, rfl, isName⟩ := List.map_eq_singleton_iff.mp ofKinds
            refine ⟨⟨path ++ "." ++ part.text⟩, ?_⟩
            rw [List.singleton_append, readPath, if_pos isDot, if_pos isName]
            exact readPath_of_next_ne_dot ends
      exact .of_cons (by simp [isDot]) afterDot fun other => rfl
  · exact .pure (· ≠ .dot) ⟨path⟩ dots (fun _ ends => ends)
      fun _ ends => readPath_of_next_ne_dot ends

/-- A membership test is settled with its list. -/
theorem settles_readMembership (negated : Bool) (key : Key) (tokens : List Token) :
    Settles follows (readMembership negated key) tokens :=
  (settles_readList tokens).map fun items => Expr.member negated key (.ofScalars items)

/-- Two brackets complete a membership test. -/
theorem completes_readMembership (negated : Bool) (key : Key) :
    Completes follows [.openBracket, .closeBracket] (readMembership negated key) :=
  completes_readList.map fun items => Expr.member negated key (.ofScalars items)

/-- Without a negation, a test for absence is the word for null. -/
theorem readAbsence_of_next_ne_not {key : Key} {tokens : List Token}
    (plain : (next tokens).kind ≠ .not) :
    readAbsence key tokens = readEnd .null .null (.absent false key) tokens := by
  unfold readAbsence
  simp only [plain, decide_false]
  rfl

/-- A test for absence is settled by the word for null. -/
theorem settles_readAbsence (key : Key) (tokens : List Token) :
    Settles follows (readAbsence key) tokens := by
  have isRecognized : TokenKind.null.IsRecognized := by simp
  by_cases negates : (next tokens).kind = .not
  · cases tokens with
    | nil => cases negates
    | cons negation later =>
      have isNot : negation.kind = .not := negates
      refine .of_cons (by simp [isNot])
        (settles_readEnd isRecognized .null (.absent true key) later) fun other => ?_
      unfold readAbsence
      simp only [next_cons, isNot, decide_true]
      rfl
  · have null : Settles follows (readEnd .null .null (Expr.absent false key)) tokens :=
      settles_readEnd isRecognized _ _ tokens
    refine null.congr fun other following => readAbsence_of_next_ne_not ?_
    rcases following with same | ⟨⟨content, rest⟩, read⟩
    · rwa [same]
    · rw [kind_of_readEnd read]
      decide

/-- Reads the rest of a negated membership test. -/
def readNonmembership (key : Key) : Reader Expr := fun tokens =>
  expect .inWord .inWord tokens >>= fun step => readMembership true key step.2

/-- A negated membership test is settled with its list. -/
theorem settles_readNonmembership (key : Key) (tokens : List Token) :
    Settles follows (readNonmembership key) tokens := by
  have word : Settles (fun _ => True) (expect .inWord .inWord) tokens :=
    settles_expect (by simp) _ tokens
  exact word.bind (fun _ => readMembership true key) [.openBracket, .closeBracket]
    (fun _ rest _ => settles_readMembership true key rest) (fun _ _ => trivial)
    (by simp) fun _ => completes_readMembership true key

/-- What reads on behind a token with which something is said about a key. -/
def predicateReader? (key : Key) : TokenKind → Option (Reader Expr)
  | .eq => some (readComparison .eq key)
  | .ne => some (readComparison .ne key)
  | .gt => some (readComparison .gt key)
  | .gte => some (readComparison .gte key)
  | .lt => some (readComparison .lt key)
  | .lte => some (readComparison .lte key)
  | .inWord => some (readMembership false key)
  | .ninWord => some (readMembership true key)
  | .not => some (readNonmembership key)
  | .isWord => some (readAbsence key)
  | _ => none

/-- A token that says something about a key is read on by what it says. -/
theorem readPredicate_of_reader {key : Key} {tokens : List Token} {reader : Reader Expr}
    (isReader : predicateReader? key (next tokens).kind = some reader) :
    readPredicate key tokens = reader tokens.tail := by
  unfold readPredicate
  generalize (next tokens).kind = kind at isReader ⊢
  cases kind <;> cases isReader <;> rfl

/-- Any other token is refused where an operator is expected. -/
theorem readPredicate_of_no_reader {key : Key} {tokens : List Token}
    (noReader : predicateReader? key (next tokens).kind = none) :
    readPredicate key tokens = .error (.unexpected (.mismatch .operator) (next tokens)) := by
  unfold readPredicate
  generalize (next tokens).kind = kind at noReader ⊢
  cases kind <;> cases noReader <;> rfl

/-- What says something about a key is recognized, and settled behind its token. -/
theorem settles_predicateReader {key : Key} {kind : TokenKind} {reader : Reader Expr}
    (isReader : predicateReader? key kind = some reader) (tokens : List Token) :
    kind.IsRecognized ∧ Settles follows reader tokens := by
  cases kind <;> cases isReader <;> refine ⟨by simp, ?_⟩
  case eq | ne | gt | gte | lt | lte => exact settles_readComparison _ key tokens
  case inWord | ninWord => exact settles_readMembership _ key tokens
  case not => exact settles_readNonmembership key tokens
  case isWord => exact settles_readAbsence key tokens

/-- Two words complete whatever is to be said about a key. -/
theorem completes_readPredicate (key : Key) :
    Completes follows [.isWord, .null] (readPredicate key) := by
  intro more tail ofKinds following
  obtain ⟨word, others, rfl, isWord, ofOthers⟩ := List.map_eq_cons_iff.mp ofKinds
  obtain ⟨null, rfl, isNull⟩ := List.map_eq_singleton_iff.mp ofOthers
  exact ⟨_, readPredicate_append (.absent isWord isNull) tail⟩

/-- What is said about a key is settled by its tokens. -/
theorem settles_readPredicate (key : Key) (tokens : List Token) :
    Settles follows (readPredicate key) tokens := by
  cases isReader : predicateReader? key (next tokens).kind with
  | none =>
    refine .refused (.unexpected (.mismatch .operator) (next tokens)) [.isWord, .null] rfl
      (fun other same => ?_) (by simp) (completes_readPredicate key)
    rw [← same] at isReader ⊢
    exact readPredicate_of_no_reader isReader
  | some reader =>
    cases tokens with
    | nil => cases isReader
    | cons token later =>
      obtain ⟨recognized, settles⟩ := settles_predicateReader isReader later
      refine .of_cons recognized settles fun other => ?_
      have behind : predicateReader? key (next (token :: other)).kind = some reader := isReader
      exact readPredicate_of_reader behind

end Reading

end PortableFilter
