import PortableFilter.Proofs.Expr.Refusal
import PortableFilter.Proofs.Token.Coverage

/-! # Reports of refusals

The report of a refusal quotes a line of the text and marks the refused token below it. The line is
found by its number (`Text.getD_lines_of_isLine`), while the place of the token was counted when the
text was cut into tokens. Both counts agree: the carets stand below the characters of the token, or
behind the last line if the text ends too early (`Expr.report_of_refused`). -/

namespace PortableFilter

/-! ## Lines of a text -/

namespace Text

/-- A line ends here: with the text, with a line feed, or with a carriage return and a line feed. -/
inductive LineEnds (line : List Char) : List Char → Prop
  | text : LineEnds line []
  | feed (bare : line.getLast? ≠ some '\r') (behind : List Char) : LineEnds line ('\n' :: behind)
  | returnFeed (behind : List Char) : LineEnds line ('\r' :: '\n' :: behind)

/-- What stands before a line: nothing, or something that a line feed ends. -/
def LineStarts (before : List Char) : Prop := before = [] ∨ before.getLast? = some '\n'

/-- The line of a text with a number, which is one more than the number of line feeds before it. The
line behind the last line feed is empty if the text ends there. -/
def IsLine (text : List Char) (number : Nat) (line : List Char) : Prop :=
  ∃ before rest, text = before ++ (line ++ rest) ∧ number = 1 + before.count '\n' ∧
    LineStarts before ∧ '\n' ∉ line ∧ LineEnds line rest

theorem lines_cons {c : Char} {rest : List Char} (plain : c ≠ '\n')
    (apart : ¬ (c = '\r' ∧ rest.head? = some '\n')) :
    lines (c :: rest) = (c :: (lines rest).headD []) :: (lines rest).tail := by
  rw [lines, if_neg plain, if_neg apart]
  cases lines rest <;> rfl

/-- What ends a line is not part of it. -/
theorem headD_lines_append {line rest : List Char} (plain : '\n' ∉ line)
    (ends : LineEnds line rest) : (lines (line ++ rest)).headD [] = line := by
  induction line with
  | nil => cases ends <;> rfl
  | cons c line ih =>
    have solid : c ≠ '\n' := fun feeds => plain (feeds ▸ List.mem_cons_self)
    have solidLater : '\n' ∉ line := fun member => plain (List.mem_cons_of_mem c member)
    have apart : ¬ (c = '\r' ∧ (line ++ rest).head? = some '\n') := by
      rintro ⟨rfl, feeds⟩
      cases line with
      | nil =>
        cases ends with
        | text | returnFeed => cases feeds
        | feed bare => exact bare rfl
      | cons d line =>
        cases feeds
        exact solidLater List.mem_cons_self
    have endsLater : LineEnds line rest := by
      cases ends with
      | text => exact .text
      | returnFeed behind => exact .returnFeed behind
      | feed bare behind =>
        refine .feed (fun isReturn => bare ?_) behind
        rw [List.getLast?_cons, isReturn]
        rfl
    rw [List.cons_append, lines_cons solid apart, List.headD_cons, ih solidLater endsLater]

theorem LineStarts.of_cons {c : Char} {before : List Char} (starts : LineStarts (c :: before)) :
    LineStarts before ∧ (c ≠ '\n' → '\n' ∈ before) := by
  have last := starts.resolve_left (List.cons_ne_nil c before)
  rw [List.getLast?_cons, Option.some.injEq] at last
  cases isLast : before.getLast? with
  | none =>
    rw [isLast] at last
    exact ⟨.inl (List.getLast?_eq_none_iff.mp isLast), fun plain => absurd last plain⟩
  | some d =>
    rw [isLast] at last
    cases last
    exact ⟨.inr isLast, fun _ => List.mem_of_getLast? isLast⟩

/-- Each line feed ends a line. -/
theorem drop_lines_append {before : List Char} (starts : LineStarts before) (rest : List Char) :
    (lines (before ++ rest)).drop (before.count '\n') = lines rest := by
  induction before with
  | nil => rfl
  | cons c before ih =>
    obtain ⟨startsLater, feedsLater⟩ := starts.of_cons
    by_cases feeds : c = '\n'
    · rw [feeds, List.cons_append, lines, if_pos rfl, List.count_cons_self, List.drop_succ_cons,
        ih startsLater]
    · rw [List.count_cons_of_ne feeds, List.cons_append]
      by_cases apart : c = '\r' ∧ (before ++ rest).head? = some '\n'
      · rw [lines, if_neg feeds, if_pos apart, ih startsLater]
      · obtain ⟨count, isCount⟩ :=
          Nat.exists_eq_add_one.mpr (List.count_pos_iff.mpr (feedsLater feeds))
        rw [← ih startsLater, lines_cons feeds apart, isCount, List.drop_succ_cons, List.drop_tail]

/-- The lines of a text are found by their numbers. -/
theorem getD_lines_of_isLine {text line : List Char} {number : Nat}
    (isLine : IsLine text number line) : (lines text).getD (number - 1) [] = line := by
  obtain ⟨before, rest, rfl, rfl, starts, plain, ends⟩ := isLine
  rw [Nat.add_sub_cancel_left, List.getD_eq_getElem?_getD, ← List.head?_drop,
    drop_lines_append starts, ← List.headD_eq_head?_getD, headD_lines_append plain ends]

/-- A text is split before its first line feed. -/
theorem exists_split_feed (text : List Char) :
    ∃ rest, text = text.takeWhile (· ≠ '\n') ++ rest ∧ '\n' ∉ text.takeWhile (· ≠ '\n') ∧
      (rest = [] ∨ ∃ later, rest = '\n' :: later) := by
  refine ⟨_, List.takeWhile_append_dropWhile.symm, fun member => ?_, ?_⟩
  · have plain := List.mem_takeWhile_imp member
    simp at plain
  · have stops := List.head?_dropWhile_not (· ≠ '\n') text
    cases rest : text.dropWhile (· ≠ '\n') with
    | nil => exact .inl rfl
    | cons c later =>
      rw [rest] at stops
      obtain rfl : c = '\n' := by simpa using stops
      exact .inr ⟨later, rfl⟩

/-- What goes on a line that does not end with a carriage return. -/
theorem exists_lineEnds (behind : List Char) :
    ∃ more rest, behind = more ++ rest ∧ '\n' ∉ more ∧
      ∀ line : List Char, line.getLast? ≠ some '\r' → LineEnds (line ++ more) rest := by
  obtain ⟨rest, whole, plain, ends⟩ := exists_split_feed behind
  generalize behind.takeWhile (· ≠ '\n') = more at whole plain
  rcases ends with rfl | ⟨later, rfl⟩
  · exact ⟨more, [], whole, plain, fun _ _ => .text⟩
  by_cases returns : more.getLast? = some '\r'
  · obtain ⟨shorter, rfl⟩ := List.getLast?_eq_some_iff.mp returns
    refine ⟨shorter, '\r' :: '\n' :: later, ?_, ?_, fun _ _ => .returnFeed later⟩
    · rw [whole, List.append_assoc, List.singleton_append]
    · exact fun member => plain (List.mem_append_left _ member)
  · refine ⟨more, '\n' :: later, whole, plain, fun line bare => .feed ?_ later⟩
    rw [List.getLast?_append]
    intro isReturn
    rcases Option.or_eq_some_iff.mp isReturn with inMore | ⟨-, inLine⟩
    · exact returns inMore
    · exact bare inLine

end Text

open Text

/-! ## The lines that tokens stand in -/

/-- A position stands behind the characters of its line that precede it. -/
theorem Position.Follows.exists_indent {position : Position} {before : String}
    (follows : position.Follows before) :
    ∃ earlier indent, before.toList = earlier ++ indent ∧ LineStarts earlier ∧ '\n' ∉ indent ∧
      position.line = 1 + earlier.count '\n' ∧ position.column = 1 + indent.length := by
  obtain ⟨earlier, whole, plain, starts⟩ := exists_split_feed before.toList.reverse
  have column := follows.column
  generalize before.toList.reverse.takeWhile (· ≠ '\n') = indent at whole plain column
  have split : before.toList = earlier.reverse ++ indent.reverse := by
    rw [← List.reverse_append, ← whole, List.reverse_reverse]
  refine ⟨earlier.reverse, indent.reverse, split, ?_, ?_, ?_, ?_⟩
  · rcases starts with rfl | ⟨later, rfl⟩
    · exact .inl rfl
    · exact .inr List.getLast?_reverse
  · rwa [List.mem_reverse]
  · rw [follows.line, split, List.count_append, List.count_reverse, List.count_reverse,
      List.count_eq_zero.mpr plain, Nat.add_zero]
  · rw [column, List.length_reverse]

namespace Token

theorem StandsBehind.text_ne_nil {token : Token} {before : String}
    (stands : token.StandsBehind before) : token.text.toList ≠ [] := by
  intro empty
  have nonempty := stands.nonempty
  rw [stands.start.offset, stands.stop, String.toList_eq_nil_iff.mp empty, String.append_empty]
    at nonempty
  exact Nat.lt_irrefl _ nonempty

/-- A token stands in the line that its position names, behind as many characters as its column
says. -/
theorem StandsBehind.exists_isLine {token : Token} {before : String}
    (stands : token.StandsBehind before) (behind : String) :
    ∃ indent more, IsLine (before ++ token.text ++ behind).toList token.start.line
        (indent ++ (token.text.toList ++ more)) ∧ token.start.column = 1 + indent.length := by
  obtain ⟨earlier, indent, split, starts, plain, line, column⟩ := stands.start.exists_indent
  obtain ⟨more, rest, splitBehind, plainMore, ends⟩ := exists_lineEnds behind.toList
  have bare : (indent ++ token.text.toList).getLast? ≠ some '\r' := by
    rw [List.getLast?_append_of_ne_nil _ stands.text_ne_nil]
    exact fun isReturn => stands.oneLine.2 (List.mem_of_getLast? isReturn)
  refine ⟨indent, more, ⟨earlier, rest, ?_, line, starts, ?_, ?_⟩, column⟩
  · simp only [String.toList_append, split, splitBehind, List.append_assoc]
  · simp only [List.mem_append, not_or]
    exact ⟨plain, stands.oneLine.1, plainMore⟩
  · rw [← List.append_assoc]
    exact ends _ bare

theorem IsEndOf.exists_isLine {token : Token} {text : String} (ends : token.IsEndOf text) :
    ∃ line, IsLine text.toList token.start.line line ∧ token.start.column = 1 + line.length := by
  obtain ⟨earlier, line, split, starts, plain, number, column⟩ := ends.start.exists_indent
  refine ⟨line, ⟨earlier, [], ?_, number, starts, plain, .text⟩, column⟩
  rw [List.append_nil, split]

/-- Each token of a text is a stretch of it or stands for its end. -/
theorem stands_or_isEndOf_of_mem_lex {text : String} {token : Token} (member : token ∈ lex text) :
    (∃ before behind, text = before ++ token.text ++ behind ∧ token.StandsBehind before) ∨
      token.IsEndOf text ∧ token.text = TokenKind.finish.describe := by
  obtain ⟨body, final, cut, covers, ends⟩ := lexFrom_covers .start text.toList ""
    Position.follows_start
  obtain ⟨others, stop, cutAgain, -⟩ := lexFrom_eq_append_finish .start text.toList
  rw [String.ofList_toList] at covers ends
  rw [lex, cut] at member
  rcases List.mem_append.mp member with inBody | isFinal
  · obtain ⟨before, behind, split, stands⟩ := covers.exists_stands inBody
    rw [String.empty_append] at stands
    exact .inl ⟨before, behind, split, stands⟩
  · obtain rfl := List.mem_singleton.mp isFinal
    obtain rfl : token = .finish stop := by
      simpa using congrArg List.getLast? (cut.symm.trans cutAgain)
    rw [String.empty_append] at ends
    exact .inr ⟨ends, rfl⟩

end Token

/-! ## Reports -/

/-- If its token has one line, then a refusal is described in one line. -/
theorem ParseError.feed_notMem_describe {error : ParseError}
    (oneLine : '\n' ∉ error.token.text.toList) : '\n' ∉ error.describe.toList := by
  have digits (n : Nat) : '\n' ∉ Nat.toDigits 10 n := by
    intro member
    exact absurd (Nat.isDigit_of_mem_toDigits (by decide) (by decide) member) (by decide)
  have message : '\n' ∉ error.message.toList := by
    obtain ⟨fault, token⟩ := error
    cases fault with
    | tooDeep => simp [ParseError.message]
    | mismatch expected =>
      cases expected <;> simpa [ParseError.message, Expected.describe] using oneLine
    | unrecognized | noAlternative | extraneous | integerOutOfRange | malformedNumber =>
      simpa [ParseError.message, TokenKind.describe] using oneLine
  simp [describe, digits, message]

/-- A report consists of the description, the line that the token stands in, and the marks. -/
theorem ParseError.splitOn_report {error : ParseError} {text : String} {line : List Char}
    (isLine : IsLine text.toList error.token.start.line line)
    (oneLine : '\n' ∉ error.token.text.toList) :
    (error.report text).toList.splitOn '\n' =
      [error.describe.toList, line,
        List.replicate (error.token.start.column - 1) ' ' ++
          List.replicate error.caretCount '^'] := by
  have spelled : (error.report text).toList = ['\n'].intercalate [error.describe.toList, line,
      List.replicate (error.token.start.column - 1) ' ' ++
        List.replicate error.caretCount '^'] := by
    rw [report, getD_lines_of_isLine isLine]
    simp [List.intercalate]
  obtain ⟨-, -, -, -, -, plain, -⟩ := isLine
  have noFeed : ∀ part ∈ [error.describe.toList, line,
      List.replicate (error.token.start.column - 1) ' ' ++
        List.replicate error.caretCount '^'], '\n' ∉ part := by
    simp [feed_notMem_describe oneLine, plain]
  rw [spelled, List.splitOn_intercalate _ noFeed (List.cons_ne_nil _ _)]

namespace Expr

open Reading

/-- A text is refused at one of its tokens. -/
theorem token_mem_lex_of_refused {text : String} {error : ParseError}
    (refused : parse text = .error error) : error.token ∈ Token.lex text := by
  rw [parse, ofTokens_eq_readFilter, map_eq_error_iff] at refused
  cases settles_readFilter (Token.lex text) with
  | reads used rest content split recognized same =>
    have read := same rest (.inl rfl)
    rw [← split, refused] at read
    cases read
  | refuses used rest fault split recognized located same =>
    have again := same rest rfl
    rw [← split, refused] at again
    cases again
    obtain ⟨token, after, rfl⟩ := List.exists_cons_of_ne_nil (rest_ne_nil_of_lex split recognized)
    rw [located, split]
    exact List.mem_append_right used List.mem_cons_self

/-- The report of a refusal has three lines: the description of the refusal, the line of the text
that its position names, and carets behind blanks. If the text is refused at its end, one caret
stands right behind that line. Else the carets stand below the characters of the refused token, one
for each. -/
theorem report_of_refused {text : String} {error : ParseError}
    (refused : parse text = .error error) :
    ∃ line carets, (error.report text).toList.splitOn '\n' =
        [error.describe.toList, line,
          List.replicate (error.token.start.column - 1) ' ' ++ List.replicate carets '^'] ∧
      IsLine text.toList error.token.start.line line ∧ 0 < carets ∧
      if error.token.start.offset = text.utf8ByteSize then
        carets = 1 ∧ line.length = error.token.start.column - 1
      else
        carets = error.token.text.length ∧
          (line.drop (error.token.start.column - 1)).take carets = error.token.text.toList := by
  rcases Token.stands_or_isEndOf_of_mem_lex (token_mem_lex_of_refused refused) with
    ⟨before, behind, rfl, stands⟩ | ⟨ends, isMark⟩
  · obtain ⟨indent, more, isLine, column⟩ := stands.exists_isLine behind
    have carets : error.caretCount = error.token.text.length := by
      have wide := List.length_pos_iff.mpr stands.text_ne_nil
      rw [ParseError.caretCount, if_neg (Nat.ne_of_lt stands.nonempty), ← String.length_toList]
      exact Nat.max_eq_left wide
    have inside : error.token.start.offset ≠
        (before ++ error.token.text ++ behind).utf8ByteSize := by
      have stops := stands.nonempty
      rw [stands.stop] at stops
      rw [String.utf8ByteSize_append]
      omega
    refine ⟨_, _, ParseError.splitOn_report isLine stands.oneLine.1, isLine, ?_, ?_⟩
    · rw [carets, ← String.length_toList]
      exact List.length_pos_iff.mpr stands.text_ne_nil
    rw [if_neg inside, column, Nat.add_sub_cancel_left, List.drop_left, carets,
      ← String.length_toList, List.take_left]
    exact ⟨rfl, rfl⟩
  · obtain ⟨line, isLine, column⟩ := ends.exists_isLine
    have oneLine : '\n' ∉ error.token.text.toList := by
      rw [isMark]
      decide
    have single : error.caretCount = 1 := by
      rw [ParseError.caretCount, if_pos (ends.start.offset.trans ends.stop.symm)]
    refine ⟨line, _, ParseError.splitOn_report isLine oneLine, isLine, single ▸ Nat.one_pos, ?_⟩
    rw [if_pos ends.start.offset, column, Nat.add_sub_cancel_left]
    exact ⟨single, rfl⟩

/-- A quoted text that is not closed, on the second line, behind a letter of two bytes. -/
theorem report_of_refused_unclosed : ∃ error : ParseError,
    parse "a == 1 &&\r\n  'ß' == \"öx\r\n" = .error error ∧
      error.report "a == 1 &&\r\n  'ß' == \"öx\r\n" =
        "line 2:10 token recognition error at: '\"öx'\n  'ß' == \"öx\n         ^^^" ∧
      ∃ line carets,
        (error.report "a == 1 &&\r\n  'ß' == \"öx\r\n").toList.splitOn '\n' =
          [error.describe.toList, line, List.replicate 9 ' ' ++ List.replicate carets '^'] ∧
        IsLine "a == 1 &&\r\n  'ß' == \"öx\r\n".toList 2 line ∧ carets = 3 ∧
        (line.drop 9).take carets = ['"', 'ö', 'x'] := by
  let error : ParseError := ⟨.unrecognized, ⟨.unrecognized, "\"öx", ⟨21, 2, 10⟩, 25⟩⟩
  have refused : parse "a == 1 &&\r\n  'ß' == \"öx\r\n" = .error error := by cbv
  have width : error.token.text.length = 3 := by decide
  have chars : error.token.text.toList = ['"', 'ö', 'x'] := by decide
  obtain ⟨line, carets, split, isLine, -, marks⟩ := report_of_refused refused
  rw [if_neg (by decide), width, chars] at marks
  exact ⟨error, refused, by decide, line, carets, split, isLine, marks⟩

end Expr

end PortableFilter
