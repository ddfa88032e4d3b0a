import PortableFilter.Proofs.Token.Relocation

/-! # Texts that differ in their blanks

A recognized token is cut off as the same token wherever its characters stand in front of a blank
(`Token.fronts_of_mem_lexFrom`). So the tokens of a text can be written with other blanks before,
between and behind them, and are found again (`Token.map_lexeme_lex_of_laysOut`). -/

namespace PortableFilter.Token

open Text

/-- Words one behind the other with blanks behind each of them, and at least one between two. -/
inductive Spaced : List String → String → Prop where
  | nil : Spaced [] ""
  | cons {word gap text : String} {words : List String} (blank : gap.toList.all isBlank)
      (apart : words ≠ [] → gap ≠ "") (later : Spaced words text) :
      Spaced (word :: words) (word ++ gap ++ text)

/-- A text consists of words in their order, with blanks before, between and behind them. -/
def LaysOut (words : List String) (text : String) : Prop :=
  ∃ gap body, text = gap ++ body ∧ gap.toList.all isBlank ∧ Spaced words body

theorem delimits_blanks {gap : String} (blank : gap.toList.all isBlank) {rest : List Char}
    (ends : gap = "" → rest = []) : Delimits (gap.toList ++ rest) := by
  cases chars : gap.toList with
  | nil =>
    rw [ends (String.toList_eq_nil_iff.mp chars)]
    intro c first
    cases first
  | cons c more =>
    rw [chars, List.all_cons, Bool.and_eq_true] at blank
    apply delimits_cons
    rw [isDelimiter, blank.1, Bool.true_or]

/-- A recognized token of a text is cut off as it is in front of any delimiter. -/
theorem fronts_of_mem_lexFrom {position : Position} {text : List Char} {token : Token}
    (member : token ∈ lexFrom position text) (recognized : token.kind.IsRecognized)
    {rest : List Char} (delimits : Delimits rest) :
    Fronts token.kind token.text.toList rest := by
  fun_induction lexFrom position text with
  | case1 position text start front =>
    rw [List.mem_singleton.mp member] at recognized
    exact absurd rfl recognized.2
  | case2 position text start first later front kind more scanned lexeme stop shorter ih =>
    rcases List.mem_cons.mp member with rfl | inLater
    · have solid := List.head?_dropWhile_not isBlank text
      rw [front] at solid
      have fronts := @fronts_of_scan first later [] (later.drop more) rest solid
      rw [scanned] at fronts
      rw [String.toList_ofList]
      exact fronts recognized.1 rfl delimits
    · exact ih inLater

/-- Tokens that are laid out are cut off one after the other. -/
theorem map_lexeme_lexFrom_of_spaced {tokens : List Token} {body : String}
    (spaced : Spaced (tokens.map Token.text) body)
    (fronts : ∀ token ∈ tokens, ∀ rest, Delimits rest →
      Fronts token.kind token.text.toList rest) (position : Position) :
    (lexFrom position body.toList).map lexeme =
      tokens.map lexeme ++ [lexeme (.finish .start)] := by
  induction tokens generalizing body position with
  | nil =>
    cases spaced
    rw [String.toList_empty, lexFrom_nil]
    rfl
  | cons token tokens ih =>
    obtain ⟨frontsHere, frontsLater⟩ := List.forall_mem_cons.mp fronts
    cases spaced with
    | @cons _ gap text _ blank apart later =>
      have ends : gap = "" → text.toList = [] := by
        intro empty
        cases tokens with
        | nil =>
          cases later
          rfl
        | cons next tokens => exact absurd empty (apart (by simp))
      have delimits := delimits_blanks blank ends
      rw [String.append_assoc, String.toList_append, String.toList_append,
        lexFrom_of_fronts (frontsHere _ delimits), lexFrom_blanks (List.all_eq_true.mp blank),
        List.map_cons, ih later frontsLater, String.ofList_toList, List.map_cons, List.cons_append]
      rfl

/-- However the tokens of a text are laid out, they are cut into the same tokens again. -/
theorem map_lexeme_lex_of_laysOut {text other : String}
    (recognized : ∀ token ∈ lex text, token.kind ≠ .unrecognized)
    (laid : LaysOut ((lex text).dropLast.map Token.text) other) :
    (lex other).map lexeme = (lex text).map lexeme := by
  obtain ⟨body, stop, cut, others⟩ := lexFrom_eq_append_finish .start text.toList
  rw [← lex] at cut
  rw [cut, List.dropLast_concat] at laid
  obtain ⟨gap, rest, rfl, blank, spaced⟩ := laid
  have fronts : ∀ token ∈ body, ∀ rest, Delimits rest →
      Fronts token.kind token.text.toList rest := by
    intro token member rest delimits
    have inText : token ∈ lex text := by
      rw [cut]
      exact List.mem_append_left _ member
    exact fronts_of_mem_lexFrom inText ⟨recognized token inText, others token member⟩ delimits
  rw [lex, String.toList_append, lexFrom_blanks (List.all_eq_true.mp blank),
    map_lexeme_lexFrom_of_spaced spaced fronts, cut, List.map_append]
  rfl

end PortableFilter.Token
