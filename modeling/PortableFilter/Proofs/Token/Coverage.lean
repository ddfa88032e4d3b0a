import PortableFilter.Proofs.Token.Continuation

/-! # Tokens and the text they are cut from

Nothing of a text is lost when it is cut into tokens, and nothing is added. A position counts what
stands before it (`Position.Follows`), and a scan never leaves its line (`Token.staysOnLine_scan`).
Between stretches of blanks a text consists of the texts of its tokens, one behind the other
(`Token.Covers`). From this follow the laws for the tokens of a text that do not mention how it is
cut (`Token.lex_covers_text`). -/

namespace PortableFilter

namespace Position

/-- A position counts what stands before it in a text: the bytes, the line feeds, and the characters
behind the last line feed. -/
structure Follows (position : Position) (before : String) : Prop where
  offset : position.offset = before.utf8ByteSize
  line : position.line = 1 + before.toList.count '\n'
  column : position.column = 1 + (before.toList.reverse.takeWhile (· ≠ '\n')).length

theorem follows_start : start.Follows "" := ⟨rfl, rfl, rfl⟩

/-- One character further, a position counts that character too. -/
theorem Follows.next {position : Position} {before : String} (follows : position.Follows before)
    (c : Char) : (position.next c).Follows (before.push c) := by
  obtain ⟨offset, line, column⟩ := follows
  by_cases feed : c = '\n'
  · subst feed
    constructor
    · rw [String.utf8ByteSize_push, ← offset]
      rfl
    · rw [String.toList_push, List.count_append, List.count_singleton_self, ← Nat.add_assoc, ← line]
      rfl
    · rw [String.toList_push, List.reverse_append]
      rfl
  · rw [Position.next, if_neg feed]
    constructor
    · rw [String.utf8ByteSize_push, ← offset]
    · rw [String.toList_push, List.count_append, List.count_singleton, beq_eq_false_iff_ne.mpr feed]
      exact line
    · rw [String.toList_push, List.reverse_append, List.reverse_singleton, List.singleton_append,
        List.takeWhile_cons, if_pos (decide_eq_true feed), List.length_cons, ← Nat.add_assoc,
        ← column]

/-- Behind a stretch of text, a position counts that stretch too. -/
theorem Follows.after {position : Position} {before : String} (follows : position.Follows before)
    (stretch : List Char) :
    (position.after stretch).Follows (before ++ String.ofList stretch) := by
  induction stretch generalizing position before with
  | nil => rwa [String.ofList_nil, String.append_empty]
  | cons c stretch ih =>
    rw [String.ofList_cons, ← String.append_assoc, String.append_singleton]
    exact ih (follows.next c)

end Position

namespace Token

open Text

/-! ## Tokens stay on their line -/

/-- What a length measures at the front of a text holds no end of a line. -/
def StaysOnLine (length : List Char → Nat) : Prop :=
  ∀ text : List Char, ∀ c ∈ text.take (length text), endsLine c = false

/-- Every end of a line is a blank. -/
theorem endsLine_eq_false_of_solid {c : Char} (solid : isBlank c = false) :
    endsLine c = false := by
  cases ends : endsLine c with
  | false => rfl
  | true =>
    simp only [endsLine, Bool.or_eq_true, beq_iff_eq] at ends
    rcases ends with rfl | rfl <;> cases solid

/-- Characters that are no blanks stay on their line. -/
theorem staysOnLine_takeWhile {p : Char → Bool} (solid : ∀ {c}, p c → isBlank c = false) :
    StaysOnLine fun text => (text.takeWhile p).length := by
  intro text c member
  rw [← List.prefix_iff_eq_take.mp (List.takeWhile_prefix p)] at member
  exact endsLine_eq_false_of_solid (solid (List.mem_takeWhile_imp member))

theorem staysOnLine_digitCount : StaysOnLine digitCount :=
  staysOnLine_takeWhile isBlank_eq_false_of_isDigit

theorem staysOnLine_zero : StaysOnLine fun _ => 0 := by
  intro text c member
  rw [List.take_zero] at member
  cases member

/-- A length of one thing and of another one directly behind it. -/
theorem StaysOnLine.append {first second : List Char → Nat} (onLine : StaysOnLine first)
    (behind : StaysOnLine second) :
    StaysOnLine fun text => first text + second (text.drop (first text)) := by
  intro text c member
  rw [List.take_add] at member
  rcases List.mem_append.mp member with inFirst | inSecond
  · exact onLine text c inFirst
  · exact behind _ c inSecond

theorem staysOnLine_fractionLength : StaysOnLine fractionLength := by
  intro text c member
  cases text with
  | nil => cases member
  | cons mark text =>
    by_cases point : mark = '.'
    · subst point
      rw [fractionLength, Nat.add_comm, List.take_succ_cons] at member
      rcases List.mem_cons.mp member with rfl | digit
      · rfl
      · exact staysOnLine_digitCount text c digit
    · rw [fractionLength_of_ne point] at member
      cases member

/-- What has a mark stays on its line if the mark and the rest do. -/
theorem staysOnLine_markedLength {isMark : Char → Bool} {length : List Char → Nat}
    (onLine : ∀ c, isMark c → endsLine c = false) (behind : StaysOnLine length) :
    StaysOnLine (markedLength isMark length) := by
  intro text c member
  cases text with
  | nil => cases member
  | cons mark text =>
    rw [markedLength] at member
    split at member
    · rename_i marked
      rw [Nat.add_comm, List.take_succ_cons] at member
      rcases List.mem_cons.mp member with rfl | inside
      · exact onLine c marked.1
      · exact behind text c inside
    · cases member

/-- One of two stretches stays on its line if both do. -/
theorem StaysOnLine.orElse {first second : List Char → Nat} (isFirst : StaysOnLine first)
    (isSecond : StaysOnLine second) :
    StaysOnLine fun text => if 0 < first text then first text else second text := by
  intro text c member
  dsimp only at member
  split at member
  · exact isFirst text c member
  · exact isSecond text c member

theorem staysOnLine_exponentLength : StaysOnLine exponentLength := by
  have onLine : ∀ {first second : Char}, endsLine first = false → endsLine second = false →
      ∀ c, decide (c = first ∨ c = second) → endsLine c = false := by
    intro first second noFirst noSecond c mark
    rcases of_decide_eq_true mark with rfl | rfl
    · exact noFirst
    · exact noSecond
  have signed : StaysOnLine (markedLength (fun c => c = '+' ∨ c = '-') digitCount) :=
    staysOnLine_markedLength (onLine rfl rfl) staysOnLine_digitCount
  rw [funext exponentLength_eq_markedLength]
  exact staysOnLine_markedLength (onLine rfl rfl) (staysOnLine_digitCount.orElse signed)

theorem staysOnLine_suffixLength : StaysOnLine suffixLength := by
  intro text c member
  cases text with
  | nil => cases member
  | cons mark text =>
    rw [suffixLength] at member
    split at member
    · rename_i marks
      rw [List.mem_singleton.mp member]
      rcases marks with rfl | rfl <;> rfl
    · cases member

/-- A number stays on its line. -/
theorem staysOnLine_scanNumber : StaysOnLine fun text => (scanNumber text).2 := by
  have decimal := (staysOnLine_digitCount.append staysOnLine_fractionLength).append
    staysOnLine_exponentLength
  have integer := staysOnLine_digitCount.append staysOnLine_suffixLength
  intro text c member
  simp only [scanNumber] at member
  split_ifs at member
  · exact decimal text c member
  · exact integer text c member
  · cases member

/-- A quoted text, closed or not, stays on its line. -/
theorem endsLine_of_mem_scanQuoted (quote : Char) (text : List Char) :
    ∀ c ∈ text.take (scanQuoted quote text).2, endsLine c = false := by
  fun_induction scanQuoted quote text with
  | case1 => simp
  | case2 => simp [endsLine]
  | case3 => simp [endsLine]
  | case4 escaped rest continues closed length scanned ih =>
    rw [scanned] at ih
    intro c member
    rw [List.take_succ_cons, List.take_succ_cons] at member
    rcases List.mem_cons.mp member with rfl | later
    · rfl
    rcases List.mem_cons.mp later with rfl | inside
    · exact Bool.eq_false_iff.mpr continues
    · exact ih c inside
  | case5 => simp
  | case6 rest _ _ continues => simpa using continues
  | case7 c rest _ _ continues differs closed length scanned ih =>
    rw [scanned] at ih
    intro other member
    rw [List.take_succ_cons] at member
    rcases List.mem_cons.mp member with rfl | inside
    · exact Bool.eq_false_iff.mpr continues
    · exact ih other inside

/-- Whatever a token starts with, the characters that it takes stand on one line. -/
theorem staysOnLine_scan (first : Char) : StaysOnLine fun text => (scan first text).2 := by
  apply scan_cases (p := fun scan => StaysOnLine fun text => (scan text).2)
  case constant => exact fun _ => staysOnLine_zero
  case second =>
    intro sign solid long short text c member
    dsimp only at member
    split at member
    · rename_i starts
      obtain ⟨rest, rfl⟩ := List.head?_eq_some_iff.mp starts
      rw [List.mem_singleton.mp member]
      exact endsLine_eq_false_of_solid (Bool.or_eq_false_iff.mp solid).1
    · cases member
  case point =>
    intro text c member
    dsimp only at member
    split at member
    · exact staysOnLine_digitCount text c member
    · cases member
  case quote =>
    intro quote quotes
    rw [funext (scan_quote quotes)]
    exact endsLine_of_mem_scanQuoted quote
  case signed =>
    intro text c member
    dsimp only at member
    split at member
    · exact staysOnLine_scanNumber text c member
    · cases member
  case number => exact staysOnLine_scanNumber
  case word => exact fun _ => staysOnLine_takeWhile isBlank_eq_false_of_continuesName

/-! ## Tokens cover their text -/

/-- A token stands directly behind `before` in a text: it says rightly where it starts and where it
stops, is not empty, and stays on its line. -/
structure StandsBehind (token : Token) (before : String) : Prop where
  isContent : token.kind ≠ .finish
  start : token.start.Follows before
  stop : token.stop = (before ++ token.text).utf8ByteSize
  nonempty : token.start.offset < token.stop
  oneLine : '\n' ∉ token.text.toList ∧ '\r' ∉ token.text.toList

/-- A token stands for the end of a text. -/
structure IsEndOf (token : Token) (text : String) : Prop where
  isFinish : token.kind = .finish
  start : token.start.Follows text
  stop : token.stop = text.utf8ByteSize

/-- Behind `before`, a text consists of tokens and of stretches of blanks before, between and behind
them. -/
inductive Covers : (before text : String) → List Token → Prop where
  | blank {before gap : String} (blank : ∀ c ∈ gap.toList, isBlank c) : Covers before gap []
  | token {before gap rest : String} {token : Token} {tokens : List Token}
      (blank : ∀ c ∈ gap.toList, isBlank c) (stands : token.StandsBehind (before ++ gap))
      (covers : Covers (before ++ gap ++ token.text) rest tokens) :
      Covers before (gap ++ token.text ++ rest) (token :: tokens)

/-- A token at a position stands directly behind what the position counts. -/
theorem tokenAt_standsBehind {position : Position} {before : String} {first : Char}
    (follows : position.Follows before) (solid : isBlank first = false) (rest : List Char) :
    (tokenAt position first rest).StandsBehind before := by
  have onLine : ∀ c ∈ first :: rest.take (scan first rest).2, endsLine c = false :=
    List.forall_mem_cons.mpr ⟨endsLine_eq_false_of_solid solid, staysOnLine_scan first rest⟩
  have absent : ∀ c, endsLine c → c ∉ first :: rest.take (scan first rest).2 := by
    intro c ends member
    rw [onLine c member] at ends
    cases ends
  have stop : (tokenAt position first rest).stop =
      (before ++ (tokenAt position first rest).text).utf8ByteSize := (follows.after _).offset
  constructor
  · exact scan_kind_ne_finish first rest
  · exact follows
  · exact stop
  · rw [stop, String.utf8ByteSize_append, tokenAt, String.ofList_cons, String.utf8ByteSize_append,
      String.utf8ByteSize_singleton, follows.offset]
    have positive := first.utf8Size_pos
    omega
  · rw [tokenAt, String.toList_ofList]
    exact ⟨absent _ rfl, absent _ rfl⟩

/-- From a position on, a text is cut into tokens that cover it and one that stands for its end. -/
theorem lexFrom_covers (position : Position) (text : List Char) :
    ∀ before : String, position.Follows before → ∃ body final,
      lexFrom position text = body ++ [final] ∧ Covers before (String.ofList text) body ∧
      final.IsEndOf (before ++ String.ofList text) := by
  have blank : ∀ text : List Char, ∀ c ∈ (String.ofList (text.takeWhile isBlank)).toList,
      isBlank c := by
    intro text c member
    rw [String.toList_ofList] at member
    exact List.mem_takeWhile_imp member
  fun_induction lexFrom position text with
  | case1 position text start front =>
    intro before follows
    have whole : String.ofList text = String.ofList (text.takeWhile isBlank) := by
      rw [← List.append_nil (text.takeWhile isBlank), ← front, List.takeWhile_append_dropWhile]
    have ends := follows.after (text.takeWhile isBlank)
    rw [whole]
    exact ⟨[], .finish start, rfl, .blank (blank text), rfl, ends, ends.offset⟩
  | case2 position text start first rest front kind more scanned lexeme stop shorter ih =>
    intro before follows
    have starts := follows.after (text.takeWhile isBlank)
    obtain ⟨body, final, cut, covers, ends⟩ := ih _ (starts.after lexeme)
    have whole : String.ofList text = String.ofList (text.takeWhile isBlank) ++
        String.ofList lexeme ++ String.ofList (rest.drop more) := by
      rw [← String.ofList_append, ← String.ofList_append, List.append_assoc, List.cons_append,
        List.take_append_drop, ← front, List.takeWhile_append_dropWhile]
    have solid : isBlank first = false := by
      have stops := List.head?_dropWhile_not isBlank text
      rwa [front] at stops
    have stands := tokenAt_standsBehind starts solid rest
    rw [tokenAt, scanned] at stands
    refine ⟨⟨kind, String.ofList lexeme, start, stop.offset⟩ :: body, final, ?_, ?_, ?_⟩
    · rw [cut, List.cons_append]
    · rw [whole]
      exact @Covers.token before (String.ofList (text.takeWhile isBlank)) _
        ⟨kind, String.ofList lexeme, start, stop.offset⟩ body (blank text) stands covers
    · rwa [whole, ← String.append_assoc, ← String.append_assoc]

/-! ## What covering a text means for its tokens -/

namespace Covers

variable {before text : String} {body : List Token}

/-- Each token is a stretch of the text. -/
theorem exists_stands {token : Token} (covers : Covers before text body) (member : token ∈ body) :
    ∃ front behind, text = front ++ token.text ++ behind ∧
      token.StandsBehind (before ++ front) := by
  induction covers with
  | blank => cases member
  | @token before gap rest first tokens _ stands _ ih =>
    rcases List.mem_cons.mp member with rfl | later
    · exact ⟨gap, rest, rfl, stands⟩
    · obtain ⟨front, behind, rfl, standsLater⟩ := ih later
      refine ⟨gap ++ first.text ++ front, behind, ?_, ?_⟩
      · simp only [String.append_assoc]
      · simpa only [String.append_assoc] using standsLater

/-- Each token stops before the next ones start. -/
theorem pairwise_stop_le_start (covers : Covers before text body) :
    body.Pairwise fun token later => token.stop ≤ later.start.offset := by
  induction covers with
  | blank => exact .nil
  | token _ stands covers ih =>
    refine .cons (fun later member => ?_) ih
    obtain ⟨front, behind, -, standsLater⟩ := covers.exists_stands member
    rw [stands.stop, standsLater.start.offset, @String.utf8ByteSize_append _ front]
    exact Nat.le_add_right _ _

end Covers

/-- A character of two texts one behind the other belongs to the first or to the second one. -/
theorem exists_of_append_eq_split {left right front behind : String} {c : Char}
    (split : left ++ right = front ++ String.singleton c ++ behind) :
    (∃ more, left = front ++ String.singleton c ++ more) ∨
      ∃ more, front = left ++ more ∧ right = more ++ String.singleton c ++ behind := by
  have chars : left.toList ++ right.toList = front.toList ++ c :: behind.toList := by
    simpa using congrArg String.toList split
  rcases List.append_eq_append_iff.mp chars with ⟨more, isFront, isRight⟩ | ⟨more, isLeft, isBehind⟩
  · right
    refine ⟨String.ofList more, ?_, ?_⟩ <;> apply String.toList_inj.mp
    · simpa using isFront
    · simpa using isRight
  · cases more with
    | nil =>
      right
      refine ⟨"", ?_, ?_⟩ <;> apply String.toList_inj.mp
      · simpa using isLeft.symm
      · simpa using isBehind.symm
    | cons d more =>
      left
      obtain ⟨rfl, -⟩ := List.cons.inj isBehind
      refine ⟨String.ofList more, ?_⟩
      apply String.toList_inj.mp
      simpa using isLeft

/-- A character that belongs to no token is blank. -/
theorem Covers.isBlank_or_exists_mem {before text : String} {body : List Token}
    (covers : Covers before text body) {front behind : String} {c : Char}
    (split : text = front ++ String.singleton c ++ behind) :
    isBlank c ∨ ∃ token ∈ body, token.start.offset ≤ (before ++ front).utf8ByteSize ∧
      (before ++ front).utf8ByteSize < token.stop := by
  induction covers generalizing front with
  | blank blank =>
    left
    apply blank
    simp [split]
  | @token before gap rest token tokens blank stands _ ih =>
    rw [String.append_assoc] at split
    rcases exists_of_append_eq_split split with ⟨more, rfl⟩ | ⟨later, rfl, splitLater⟩
    · left
      apply blank
      simp
    rcases exists_of_append_eq_split splitLater with ⟨more, inside⟩ | ⟨last, rfl, splitLast⟩
    · right
      refine ⟨token, List.mem_cons_self, ?_, ?_⟩
      · rw [stands.start.offset, ← String.append_assoc, @String.utf8ByteSize_append _ later]
        exact Nat.le_add_right _ _
      · have positive := c.utf8Size_pos
        rw [stands.stop, inside]
        simp only [String.utf8ByteSize_append, String.utf8ByteSize_singleton]
        omega
    · rcases ih splitLast with isBlank | ⟨other, member, within⟩
      · exact .inl isBlank
      · right
        refine ⟨other, List.mem_cons_of_mem _ member, ?_⟩
        simpa only [String.append_assoc] using within

/-- A text is accounted for by its tokens. The last one and only that one stands for the end of the
text and is empty. Each other one is a stretch of whole characters of the text, not empty and on one
line, and says where it stands; they follow each other without overlap, and a character that is in
none of them is blank. -/
theorem lex_covers_text (text : String) :
    ∃ body final, lex text = body ++ [final] ∧ final.IsEndOf text ∧
      (∀ token ∈ body, ∃ before behind, text = before ++ token.text ++ behind ∧
        token.StandsBehind before) ∧
      (body.Pairwise fun token later => token.stop ≤ later.start.offset) ∧
      ∀ before c behind, text = before ++ String.singleton c ++ behind →
        isBlank c ∨ ∃ token ∈ body, token.start.offset ≤ before.utf8ByteSize ∧
          before.utf8ByteSize < token.stop := by
  obtain ⟨body, final, cut, covers, ends⟩ := lexFrom_covers .start text.toList ""
    Position.follows_start
  rw [String.ofList_toList] at covers ends
  refine ⟨body, final, cut, ?_, ?_, covers.pairwise_stop_le_start, ?_⟩
  · rwa [String.empty_append] at ends
  · intro token member
    obtain ⟨before, behind, split, stands⟩ := covers.exists_stands member
    rw [String.empty_append] at stands
    exact ⟨before, behind, split, stands⟩
  · intro before c behind split
    have inside := covers.isBlank_or_exists_mem split
    rwa [String.empty_append] at inside

end Token

end PortableFilter
