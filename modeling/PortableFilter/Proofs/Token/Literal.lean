import Mathlib.Data.List.TakeWhile
import PortableFilter.Text.Quoted
import PortableFilter.Proofs.Token.Spelling

/-! # Quoted texts and names among tokens

A quoted text that stays on its line is one token, and denotes the text it was written for
(`Text.unquoted_quoted`). Conversely every token of a text that counts as a name or as a quoted
text can be written again and is then cut off as it was (`Token.IsCut`). -/

namespace PortableFilter

namespace Text

/-- A character that is no backslash stands for itself. -/
theorem unescape_plain {quote c : Char} {rest : List Char} (plain : c ≠ '\\') :
    unescape quote (c :: rest) = c :: unescape quote rest := by
  cases rest with
  | nil => rfl
  | cons next rest => rw [unescape, if_neg fun both => plain both.1]

/-- A text is read back from its escaped characters. -/
theorem unescape_quotedChars (text : List Char) :
    unescape '\'' (text.flatMap quotedChar) = text := by
  induction text with
  | nil => rfl
  | cons c text ih =>
    rw [List.flatMap_cons]
    by_cases special : c = '\\' ∨ c = '\''
    · rw [quotedChar, if_pos special, List.cons_append, List.singleton_append, unescape,
        if_pos ⟨rfl, special⟩, ih]
    · rw [quotedChar, if_neg special, List.singleton_append,
        unescape_plain fun same => special (.inl same), ih]

/-- The text of a literal is what stands between its quotes, without escapes. -/
theorem unquoted_of_toList {literal : String} {quote : Char} {inside : List Char}
    (spelled : literal.toList = quote :: (inside ++ [quote])) :
    unquoted literal = String.ofList (unescape quote inside) := by
  rw [unquoted, spelled]
  simp only [List.getLast?_concat, if_true, List.dropLast_concat]

/-- A literal denotes the text that it was written for. -/
theorem unquoted_quoted (text : String) : unquoted (quoted text) = text := by
  have spelled : (quoted text).toList = '\'' :: (text.toList.flatMap quotedChar ++ ['\'']) := by
    rw [quoted, String.toList_ofList, List.cons_append]
  rw [unquoted_of_toList spelled, unescape_quotedChars, String.ofList_toList]

/-- Taking away escapes adds no characters. -/
theorem mem_of_mem_unescape {quote c : Char} {text : List Char}
    (member : c ∈ unescape quote text) : c ∈ text := by
  fun_induction unescape quote text with
  | case1 => exact member
  | case2 only => exact member
  | case3 first next rest escapes ih =>
    rcases List.mem_cons.mp member with rfl | later
    · exact List.mem_cons_of_mem _ List.mem_cons_self
    · exact List.mem_cons_of_mem _ (List.mem_cons_of_mem _ (ih later))
  | case4 first next rest plain ih =>
    rcases List.mem_cons.mp member with rfl | later
    · exact List.mem_cons_self
    · exact List.mem_cons_of_mem _ (ih later)

end Text

namespace Token

open Text

/-- A backslash and the character behind it are taken together, unless the line ends there. -/
theorem scanQuoted_escape (quote escaped : Char) (rest : List Char) :
    scanQuoted quote ('\\' :: escaped :: rest) =
      if endsLine escaped then (false, 1)
      else ((scanQuoted quote rest).1, (scanQuoted quote rest).2 + 2) := by
  rw [scanQuoted]

/-- Any other character is taken alone. The quote closes the text, and the end of the line leaves it
open. -/
theorem scanQuoted_plain {quote c : Char} {rest : List Char} (plain : c ≠ '\\') :
    scanQuoted quote (c :: rest) =
      if endsLine c then (false, 0) else if c = quote then (true, 1)
      else ((scanQuoted quote rest).1, (scanQuoted quote rest).2 + 1) := by
  rw [scanQuoted]
  · exact fun same _ => plain same
  · exact fun _ _ same _ => plain same

/-- A quoted text is scanned to its closing quote. -/
theorem scanQuoted_quotedChars {text : List Char} (oneLine : ∀ c ∈ text, endsLine c = false)
    (rest : List Char) :
    scanQuoted '\'' (text.flatMap Text.quotedChar ++ '\'' :: rest) =
      (true, (text.flatMap Text.quotedChar).length + 1) := by
  induction text with
  | nil =>
    rw [List.flatMap_nil, List.nil_append, scanQuoted_plain (by decide)]
    rfl
  | cons c text ih =>
    obtain ⟨here, later⟩ := List.forall_mem_cons.mp oneLine
    rw [List.flatMap_cons, List.append_assoc, List.length_append]
    by_cases special : c = '\\' ∨ c = '\''
    · rw [Text.quotedChar, if_pos special, List.cons_append, List.singleton_append,
        scanQuoted_escape, ih later, here]
      simp only [Bool.false_eq_true, if_false, List.length_cons, List.length_nil]
      exact congrArg (Prod.mk true) (by omega)
    · rw [Text.quotedChar, if_neg special, List.singleton_append,
        scanQuoted_plain (fun same => special (.inl same)), ih later, here,
        if_neg Bool.false_ne_true, if_neg (fun same => special (.inr same)), List.length_singleton]
      exact congrArg (Prod.mk true) (by omega)

/-- A scan that finds the closing quote sees the quote and no end of a line, and looks no
further. -/
theorem scanQuoted_take {quote : Char} {text : List Char} {length : Nat} (plain : quote ≠ '\\')
    (scanned : scanQuoted quote text = (true, length)) :
    ∃ inside, text.take length = inside ++ [quote] ∧ length = inside.length + 1 ∧
      (∀ c ∈ inside, endsLine c = false) ∧
      ∀ rest, scanQuoted quote (inside ++ quote :: rest) = (true, length) := by
  fun_induction scanQuoted quote text generalizing length with
  | case1 => cases scanned
  | case2 => cases scanned
  | case3 escaped later ends => cases scanned
  | case4 escaped later continues closed count recursion ih =>
    simp only [Prod.mk.injEq] at scanned
    obtain ⟨rfl, rfl⟩ := scanned
    obtain ⟨inside, taken, rfl, oneLine, again⟩ := ih recursion
    refine ⟨'\\' :: escaped :: inside, ?_, rfl, ?_, fun rest => ?_⟩
    · rw [List.take_succ_cons, List.take_succ_cons, taken, List.cons_append, List.cons_append]
    · simp only [List.forall_mem_cons]
      exact ⟨rfl, Bool.eq_false_iff.mpr continues, oneLine⟩
    · rw [List.cons_append, List.cons_append, scanQuoted_escape, again, if_neg continues]
  | case5 c later _ _ ends => cases scanned
  | case6 later _ _ continues =>
    cases scanned
    refine ⟨[], rfl, rfl, by simp, fun rest => ?_⟩
    rw [List.nil_append, scanQuoted_plain plain, if_neg continues, if_pos rfl]
  | case7 c later single escapes continues differs closed count recursion ih =>
    simp only [Prod.mk.injEq] at scanned
    obtain ⟨rfl, rfl⟩ := scanned
    obtain ⟨inside, taken, rfl, oneLine, again⟩ := ih recursion
    have ordinary : c ≠ '\\' := by
      intro same
      cases later with
      | nil => exact single same rfl
      | cons escaped more => exact escapes escaped more same rfl
    refine ⟨c :: inside, ?_, rfl, ?_, fun rest => ?_⟩
    · rw [List.take_succ_cons, taken, List.cons_append]
    · exact List.forall_mem_cons.mpr ⟨Bool.eq_false_iff.mpr continues, oneLine⟩
    · rw [List.cons_append, scanQuoted_plain ordinary, again, if_neg continues, if_neg differs]

/-- A text between two equal quotes, as it is written on one line. -/
def IsLiteral (literal : List Char) : Prop :=
  ∃ quote inside, literal = quote :: (inside ++ [quote]) ∧ (quote = '"' ∨ quote = '\'') ∧
    (∀ c ∈ inside, endsLine c = false) ∧
    ∀ rest, scanQuoted quote (inside ++ quote :: rest) = (true, inside.length + 1)

/-- A quoted text on one line is a literal. -/
theorem isLiteral_quoted {text : String} (oneLine : ∀ c ∈ text.toList, endsLine c = false) :
    IsLiteral (quoted text).toList := by
  refine ⟨'\'', text.toList.flatMap quotedChar, ?_, .inr rfl, ?_, scanQuoted_quotedChars oneLine⟩
  · rw [quoted, String.toList_ofList, List.cons_append]
  · intro c member
    obtain ⟨original, inText, written⟩ := List.mem_flatMap.mp member
    unfold quotedChar at written
    split at written
    · simp only [List.mem_cons, List.not_mem_nil, or_false] at written
      rcases written with rfl | rfl
      · rfl
      · exact oneLine c inText
    · rw [List.mem_singleton.mp written]
      exact oneLine original inText

/-- A quote starts a quoted text, which is recognized if it is closed. -/
theorem scan_quote {quote : Char} (quotes : quote = '"' ∨ quote = '\'') (rest : List Char) :
    scan quote rest =
      (if (scanQuoted quote rest).1 then .quoted else .unrecognized,
        (scanQuoted quote rest).2) := by
  rcases quotes with rfl | rfl <;> rfl

/-- A literal is cut off as one token, whatever comes behind it. -/
theorem fronts_literal {literal : List Char} (closed : IsLiteral literal) (rest : List Char) :
    Fronts .quoted literal rest := by
  obtain ⟨quote, inside, rfl, quotes, -, scanned⟩ := closed
  refine ⟨quote, inside ++ [quote], rfl, ?_, ?_⟩
  · rcases quotes with rfl | rfl <;> decide
  · rw [List.append_assoc, List.singleton_append, scan_quote quotes, scanned, if_pos rfl,
      List.length_append, List.length_singleton]

/-- What a literal denotes stays on one line. -/
theorem oneLine_unquoted {literal : String} (closed : IsLiteral literal.toList) :
    ∀ c ∈ (unquoted literal).toList, endsLine c = false := by
  obtain ⟨quote, inside, spelled, -, oneLine, -⟩ := closed
  intro c member
  rw [unquoted_of_toList spelled, String.toList_ofList] at member
  exact oneLine c (mem_of_mem_unescape member)

/-! ## Tokens as they are cut -/

/-- A word that is no keyword. -/
def IsName (word : List Char) : Prop := isWord word ∧ wordKind word = .name

/-- A name is cut off as one token where the word ends. -/
theorem fronts_name {word rest : List Char} (name : IsName word) (ends : EndsWord rest) :
    Fronts .name word rest := by
  rw [← name.2]
  exact fronts_word name.1 ends

theorem scanNumber_kind (text : List Char) :
    (scanNumber text).1 = .integer ∨ (scanNumber text).1 = .decimal := by
  unfold scanNumber
  simp only
  split
  · exact .inr rfl
  · split <;> exact .inl rfl

/-- Only a quote starts a quoted text, and only a word is a name. -/
theorem scan_kind_of_neither {first : Char} (rest : List Char)
    (noQuote : ¬ (first = '"' ∨ first = '\'')) (noWord : startsName first = false) :
    (scan first rest).1 ≠ .quoted ∧ (scan first rest).1 ≠ .name := by
  have number : (scanNumber rest).1 ≠ .quoted ∧ (scanNumber rest).1 ≠ .name := by
    rcases scanNumber_kind rest with kind | kind <;> simp [kind]
  unfold scan
  split
  case h_13 => exact absurd (.inl rfl) noQuote
  case h_14 => exact absurd (.inr rfl) noQuote
  case h_15 =>
    split
    · split
      · exact number
      · simp
    · split
      · exact number
      · simp [noWord]
  all_goals
    try split
    all_goals simp

theorem wordKind_ne_quoted (word : List Char) : wordKind word ≠ .quoted := by
  unfold wordKind
  split <;> simp

/-- What is scanned as a quoted text is a literal. -/
theorem isLiteral_of_scan {first : Char} {rest : List Char} (kind : (scan first rest).1 = .quoted) :
    IsLiteral (first :: rest.take (scan first rest).2) := by
  by_cases quotes : first = '"' ∨ first = '\''
  · have plain : first ≠ '\\' := by
      rcases quotes with rfl | rfl <;> decide
    rw [scan_quote quotes] at kind ⊢
    obtain ⟨closed, length, scanned⟩ : ∃ closed length, scanQuoted first rest = (closed, length) :=
      ⟨_, _, rfl⟩
    rw [scanned] at kind ⊢
    cases closed with
    | false => cases kind
    | true =>
      obtain ⟨inside, taken, rfl, oneLine, again⟩ := scanQuoted_take plain scanned
      exact ⟨first, inside, congrArg (first :: ·) taken, quotes, oneLine, again⟩
  · cases starts : startsName first with
    | false => exact absurd kind (scan_kind_of_neither rest quotes starts).1
    | true =>
      rw [scan_of_startsName starts] at kind
      exact absurd kind (wordKind_ne_quoted _)

theorem isName_of_scan {first : Char} {rest : List Char} (kind : (scan first rest).1 = .name) :
    IsName (first :: rest.take (scan first rest).2) := by
  cases starts : startsName first with
  | false =>
    by_cases quotes : first = '"' ∨ first = '\''
    · rw [scan_quote quotes] at kind
      split at kind <;> cases kind
    · exact absurd kind (scan_kind_of_neither rest quotes starts).2
  | true =>
    rw [scan_of_startsName starts, scanWord] at kind ⊢
    have taken : rest.take (rest.takeWhile continuesName).length = rest.takeWhile continuesName :=
      (List.prefix_iff_eq_take.mp (List.takeWhile_prefix _)).symm
    simp only [taken]
    refine ⟨?_, kind⟩
    rw [isWord, starts, Bool.true_and, List.all_eq_true]
    exact fun c member => List.mem_takeWhile_imp member

/-- Names and quoted texts among the tokens of a text are spelled as such. -/
structure IsCut (token : Token) : Prop where
  name : token.kind = .name → IsName token.text.toList
  literal : token.kind = .quoted → IsLiteral token.text.toList

/-- Every token has the text of its kind. -/
theorem isCut_of_mem_lexFrom {position : Position} {text : List Char} {token : Token}
    (member : token ∈ lexFrom position text) : token.IsCut := by
  fun_induction lexFrom position text with
  | case1 position text start front =>
    rw [List.mem_singleton.mp member]
    constructor <;> intro kind <;> cases kind
  | case2 position text start first rest front kind more scanned lexeme stop shorter ih =>
    rcases List.mem_cons.mp member with rfl | later
    · have named := @isName_of_scan first rest
      have quoted := @isLiteral_of_scan first rest
      rw [scanned] at named quoted
      constructor
      · intro isName
        rw [String.toList_ofList]
        exact named isName
      · intro isQuoted
        rw [String.toList_ofList]
        exact quoted isQuoted
    · exact ih later

end Token

end PortableFilter
