import PortableFilter.Proofs.Expr.Reading
import PortableFilter.Proofs.Token.Coverage
import PortableFilter.Proofs.Token.Number

/-! # What literals denote

The tokens that a text is cut into are read as constants later, and each side has rules of its own.
An integer is cut off as a sign, digits and a mark, and denotes its exact value or is refused for
its size (`Reading.constant_of_mem_lex_integer`). A quoted text is cut off at a quote that is not
escaped, and the escapes are taken away afterwards; writing a text, cutting it off and taking the
escapes away gives the text back (`Token.lex_quoted_append`). -/

namespace PortableFilter

/-! ## The value of digits -/

namespace Decimal

/-- The value of a decimal digit. -/
def digitValue (digit : Char) : Nat := digit.toNat - '0'.toNat

/-- Digits are weighted by the powers of ten, from the last one on. -/
theorem ofDigits_eq_positional (digits : List Char) :
    ofDigits digits = Nat.ofDigits 10 (digits.reverse.map digitValue) := by
  rw [Nat.ofDigits_eq_foldr, List.map_reverse, List.foldr_reverse, List.foldl_map]
  unfold ofDigits Nat.ofDigitChars
  congr
  funext value digit
  exact Nat.add_comm _ _

end Decimal

/-! ## Integers among tokens -/

namespace Token

open Text

/-- A text is an integer of certain digits: perhaps a sign before them, and perhaps a mark behind
them. -/
structure IsInteger (text : List Char) (negative : Bool) (digits : List Char) : Prop where
  spelled : ∃ sign mark, text = sign ++ digits ++ mark ∧ Decimal.Sign sign negative ∧
    Grammar.LongMark mark
  numeric : IsDigits digits

theorem longMark_take_suffixLength (text : List Char) :
    Grammar.LongMark (text.take (suffixLength text)) := by
  cases text with
  | nil => exact .absent
  | cons mark rest =>
    rw [suffixLength]
    split
    · rename_i marks
      rcases marks with rfl | rfl
      · exact .lower
      · exact .upper
    · exact .absent

/-- Where no fraction and no exponent follows, the scan of a number takes the digits and a mark. -/
theorem exists_digits_of_scanNumber {text : List Char}
    (integer : (scanNumber text).1 = .integer) :
    ∃ digits mark, text.take (scanNumber text).2 = digits ++ mark ∧ (∀ c ∈ digits, c.isDigit) ∧
      Grammar.LongMark mark ∧ (digits = [] → digitCount text = 0 ∧ mark = []) := by
  obtain ⟨digits, behind, rfl, numeric, stops⟩ := exists_digits_append text
  have count := digitCount_append numeric stops
  rw [scanNumber_append numeric stops] at integer ⊢
  split at integer
  · cases integer
  · rename_i unscaled
    rw [if_neg unscaled]
    by_cases nonempty : 0 < digits.length
    · rw [if_pos nonempty, List.take_length_add_append]
      refine ⟨digits, _, rfl, numeric, longMark_take_suffixLength behind, fun empty => ?_⟩
      rw [empty] at nonempty
      cases nonempty
    · rw [if_neg nonempty]
      refine ⟨[], [], rfl, by simp, .absent, fun _ => ⟨?_, rfl⟩⟩
      rw [count]
      omega

/-- A number with a point and no digit before it is no integer. -/
theorem digitCount_pos_of_scanNumber {text : List Char} (integer : (scanNumber text).1 = .integer)
    (starts : 0 < digitCount text ∨ text.head? = some '.') : 0 < digitCount text := by
  apply starts.resolve_right
  intro point
  obtain ⟨rest, rfl⟩ := List.head?_eq_some_iff.mp point
  have scaled : 0 < scaleLength ('.' :: rest) := by
    rw [scaleLength, fractionLength]
    omega
  have cut := @scanNumber_append [] ('.' :: rest) (by simp) (forall_mem_head?_cons (by decide) rest)
  rw [List.nil_append, if_pos scaled] at cut
  rw [cut] at integer
  cases integer

theorem scan_of_sign {sign : Char} (signs : sign = '-' ∨ sign = '+') (rest : List Char) :
    scan sign rest =
      if 0 < digitCount rest ∨ rest.head? = some '.' then scanNumber rest
      else (.unrecognized, 0) := by
  rcases signs with rfl | rfl <;> rfl

/-- Only a sign or a digit starts an integer. -/
theorem scan_kind_ne_integer {first : Char} (rest : List Char)
    (noSign : ¬ (first = '-' ∨ first = '+')) (noDigit : first.isDigit = false) :
    (scan first rest).1 ≠ .integer := by
  have word : ∀ word, wordKind word ≠ .integer := by
    intro word
    unfold wordKind
    split <;> simp
  have quotedKind : ∀ closed : Bool,
      (if closed then TokenKind.quoted else .unrecognized) ≠ .integer := by
    intro closed
    cases closed <;> simp
  unfold scan
  split
  case h_13 | h_14 => exact quotedKind _
  case h_15 =>
    rw [if_neg noSign, noDigit, if_neg Bool.false_ne_true]
    split
    · exact word _
    · simp
  all_goals
    try split
    all_goals simp

/-- A scan takes an integer whole. -/
theorem isInteger_of_scan {first : Char} {rest : List Char}
    (integer : (scan first rest).1 = .integer) :
    ∃ negative digits, IsInteger (first :: rest.take (scan first rest).2) negative digits := by
  by_cases signs : first = '-' ∨ first = '+'
  · rw [scan_of_sign signs] at integer ⊢
    split at integer
    · rename_i starts
      have positive := digitCount_pos_of_scanNumber integer starts
      obtain ⟨digits, mark, taken, numeric, marks, only⟩ := exists_digits_of_scanNumber integer
      have nonempty : digits ≠ [] := fun empty => Nat.ne_of_gt positive (only empty).1
      rw [if_pos starts, taken]
      rcases signs with rfl | rfl
      · exact ⟨true, digits, ⟨['-'], mark, rfl, .minus, marks⟩, nonempty, numeric⟩
      · exact ⟨false, digits, ⟨['+'], mark, rfl, .plus, marks⟩, nonempty, numeric⟩
    · cases integer
  · cases isDigit : first.isDigit with
    | false => exact absurd integer (scan_kind_ne_integer rest signs isDigit)
    | true =>
      rw [scan_of_isDigit isDigit] at integer ⊢
      obtain ⟨digits, mark, taken, numeric, marks, -⟩ := exists_digits_of_scanNumber integer
      rw [taken]
      exact ⟨false, first :: digits, ⟨[], mark, rfl, .absent, marks⟩, List.cons_ne_nil _ _,
        List.forall_mem_cons.mpr ⟨isDigit, numeric⟩⟩

theorem isInteger_of_mem_lexFrom {position : Position} {text : List Char} {token : Token}
    (member : token ∈ lexFrom position text) (kind : token.kind = .integer) :
    ∃ negative digits, IsInteger token.text.toList negative digits := by
  fun_induction lexFrom position text with
  | case1 position text start front =>
    rw [List.mem_singleton.mp member] at kind
    cases kind
  | case2 position text start first rest front scannedKind more scanned lexeme stop shorter ih =>
    rcases List.mem_cons.mp member with here | later
    · have integer := @isInteger_of_scan first rest
      rw [scanned] at integer
      rw [here] at kind ⊢
      rw [String.toList_ofList]
      exact integer kind
    · exact ih later

end Token

namespace Reading

/-- The value of digits behind a sign. -/
def integerValue (negative : Bool) (digits : List Char) : Int :=
  Grammar.signed negative (Nat.ofDigits 10 (digits.reverse.map Decimal.digitValue))

/-- An integer of a text has digits, perhaps behind a sign and before a mark. As a constant it is
its exact value if that fits into 64 bits, and else it is refused as too large, whatever the number
of its digits. -/
theorem constant_of_mem_lex_integer {text : String} {token : Token}
    (member : token ∈ Token.lex text) (kind : token.kind = .integer) :
    (∃ negative digits, Token.IsInteger token.text.toList negative digits) ∧
      ∀ negative digits, Token.IsInteger token.text.toList negative digits →
        if -2 ^ 63 ≤ integerValue negative digits ∧ integerValue negative digits ≤ 2 ^ 63 - 1 then
          constant token = .ok (.int (integerValue negative digits))
        else ∃ error, constant token = .error error ∧ error.token = token ∧
          error.message = "integer out of range: '" ++ token.text ++ "'" := by
  refine ⟨Token.isInteger_of_mem_lexFrom member kind, ?_⟩
  intro negative digits integer
  obtain ⟨⟨sign, mark, spelled, signs, marks⟩, nonempty, numeric⟩ := integer
  have read := readInteger?_append (.single signs) nonempty (List.all_eq_true.mpr numeric) marks
  rw [← spelled, Decimal.ofDigits_eq_positional, ← integerValue] at read
  split
  · rename_i fits
    rw [if_pos ⟨by omega, by omega⟩] at read
    simp only [constant, kind, read]
  · rename_i large
    rw [if_neg (by omega)] at read
    exact ⟨⟨.integerOutOfRange, token⟩, by simp only [constant, kind, read], rfl, rfl⟩

/-- The least integer of 64 bits is read, with its mark, and the one below it is refused, also
behind a zero. -/
theorem constant_of_mem_lex_integer_least :
    ∃ least ∈ Token.lex "-9223372036854775808L,-09223372036854775809",
      ∃ below ∈ Token.lex "-9223372036854775808L,-09223372036854775809",
        least.kind = .integer ∧ least.text = "-9223372036854775808L" ∧
        below.kind = .integer ∧ below.text = "-09223372036854775809" ∧
        constant least = .ok (.int (-2 ^ 63)) ∧
        ∃ error, constant below = .error error ∧ error.token = below ∧
          error.message = "integer out of range: '-09223372036854775809'" := by
  let least : Token := ⟨.integer, "-9223372036854775808L", .start, 21⟩
  let below : Token := ⟨.integer, "-09223372036854775809", ⟨22, 1, 23⟩, 43⟩
  have isLeast : least ∈ Token.lex "-9223372036854775808L,-09223372036854775809" := by
    have first : (Token.lex "-9223372036854775808L,-09223372036854775809")[0]? = some least := by
      cbv
    exact List.mem_of_getElem? first
  have isBelow : below ∈ Token.lex "-9223372036854775808L,-09223372036854775809" := by
    have third : (Token.lex "-9223372036854775808L,-09223372036854775809")[2]? = some below := by
      cbv
    exact List.mem_of_getElem? third
  have spelledLeast : Token.IsInteger least.text.toList true "9223372036854775808".toList :=
    ⟨⟨['-'], ['L'], by decide, .minus, .upper⟩, by decide, List.all_eq_true.mp (by decide)⟩
  have spelledBelow : Token.IsInteger below.text.toList true "09223372036854775809".toList :=
    ⟨⟨['-'], [], by decide, .minus, .absent⟩, by decide, List.all_eq_true.mp (by decide)⟩
  have valueLeast : integerValue true "9223372036854775808".toList = -2 ^ 63 := by decide
  have valueBelow : integerValue true "09223372036854775809".toList = -2 ^ 63 - 1 := by decide
  have read := (constant_of_mem_lex_integer isLeast rfl).2 _ _ spelledLeast
  have refused := (constant_of_mem_lex_integer isBelow rfl).2 _ _ spelledBelow
  rw [valueLeast, if_pos (by decide)] at read
  rw [valueBelow, if_neg (by decide)] at refused
  exact ⟨least, isLeast, below, isBelow, rfl, rfl, rfl, rfl, read, refused⟩

end Reading

/-! ## Quoted texts -/

namespace Token

open Text

/-- The literal of a text on one line is cut off whole from every text that starts with it, as the
one token that it is, and denotes the text it was written for. Every quoted token of a text, with
whichever quotes it is written, denotes a text on one line. -/
theorem lex_quoted_append :
    (∀ value rest : String, '\n' ∉ value.toList → '\r' ∉ value.toList →
      lex (quoted value ++ rest) =
          ⟨.quoted, quoted value, .start, (quoted value).utf8ByteSize⟩ ::
            lexFrom (Position.start.after (quoted value).toList) rest.toList ∧
        unquoted (quoted value) = value) ∧
    ∀ (text : String) (token : Token), token ∈ lex text → token.kind = .quoted →
      '\n' ∉ (unquoted token.text).toList ∧ '\r' ∉ (unquoted token.text).toList := by
  constructor
  · intro value rest noFeed noReturn
    have oneLine : ∀ c ∈ value.toList, endsLine c = false := by
      intro c member
      rw [endsLine, Bool.or_eq_false_iff, beq_eq_false_iff_ne, beq_eq_false_iff_ne]
      exact ⟨ne_of_mem_of_not_mem member noFeed, ne_of_mem_of_not_mem member noReturn⟩
    have cut := lexFrom_of_fronts (fronts_literal (isLiteral_quoted oneLine) rest.toList) .start
    have stop := (Position.follows_start.after (quoted value).toList).offset
    rw [String.ofList_toList, String.empty_append] at stop
    rw [String.ofList_toList, stop, ← String.toList_append] at cut
    exact ⟨cut, unquoted_quoted value⟩
  · intro text token member kind
    have oneLine := oneLine_unquoted ((isCut_of_mem_lexFrom member).literal kind)
    exact ⟨fun feed => absurd (oneLine _ feed) (by decide),
      fun carriage => absurd (oneLine _ carriage) (by decide)⟩

/-- A quote inside and a backslash at the end keep the literal from being cut off too early or too
late, also before another quote. Between double quotes the same characters are escaped otherwise. -/
theorem lex_quoted_append_backslash :
    lex ("'it\\'s\\\\'" ++ "'\\") =
        ⟨.quoted, "'it\\'s\\\\'", .start, 9⟩ ::
          lexFrom (Position.start.after "'it\\'s\\\\'".toList) "'\\".toList ∧
      unquoted "'it\\'s\\\\'" = "it's\\" ∧
      ∃ token ∈ lex "\"it's\\\\\"'\\", token.kind = .quoted ∧ unquoted token.text = "it's\\" ∧
        '\n' ∉ (unquoted token.text).toList ∧ '\r' ∉ (unquoted token.text).toList := by
  have written : quoted "it's\\" = "'it\\'s\\\\'" := by decide
  obtain ⟨cut, denotes⟩ := lex_quoted_append.1 "it's\\" "'\\" (by decide) (by decide)
  rw [written] at cut denotes
  let token : Token := ⟨.quoted, "\"it's\\\\\"", .start, 8⟩
  have member : token ∈ lex "\"it's\\\\\"'\\" := by
    have first : (lex "\"it's\\\\\"'\\").head? = some token := by cbv
    exact List.mem_of_mem_head? first
  exact ⟨cut, denotes, token, member, rfl, by decide, lex_quoted_append.2 _ token member rfl⟩

end Token

end PortableFilter
