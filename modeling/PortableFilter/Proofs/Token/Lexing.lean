import PortableFilter.Token.Lexer

/-! # Cutting a text step by step

A text is cut from its front: a blank is dropped, and what is not blank starts a token that takes
as many characters as its scan says. Every text ends with exactly one token that stands for its
end. -/

namespace PortableFilter

/-- Whether tokens of a kind stand for characters of the text that can be part of a filter. -/
@[simp] def TokenKind.IsRecognized (kind : TokenKind) : Prop :=
  kind ≠ .unrecognized ∧ kind ≠ .finish

namespace Token

open Text

/-- The token that starts with a character, where it starts at a position. -/
def tokenAt (position : Position) (first : Char) (rest : List Char) : Token :=
  ⟨(scan first rest).1, String.ofList (first :: rest.take (scan first rest).2), position,
    (position.after (first :: rest.take (scan first rest).2)).offset⟩

theorem lexFrom_eq (position : Position) (text : List Char) :
    lexFrom position text =
      match text.dropWhile isBlank with
      | [] => [.finish (position.after (text.takeWhile isBlank))]
      | first :: rest =>
        tokenAt (position.after (text.takeWhile isBlank)) first rest ::
          lexFrom ((position.after (text.takeWhile isBlank)).after
            (first :: rest.take (scan first rest).2)) (rest.drop (scan first rest).2) := by
  rw [lexFrom]
  split
  · rename_i front
    rw [front]
  · rename_i first rest front
    simp only [front]
    rfl

theorem lexFrom_nil (position : Position) : lexFrom position [] = [.finish position] :=
  lexFrom_eq position []

/-- A blank before a token only moves its position. -/
theorem lexFrom_blank {c : Char} (blank : isBlank c) (position : Position) (rest : List Char) :
    lexFrom position (c :: rest) = lexFrom (position.next c) rest := by
  rw [lexFrom_eq, lexFrom_eq (position.next c)]
  simp only [List.takeWhile_cons, blank, if_true, List.dropWhile_cons, Position.after_cons]

/-- A token takes as many characters as its scan says. -/
theorem lexFrom_token {first : Char} (solid : isBlank first = false) (position : Position)
    (rest : List Char) :
    lexFrom position (first :: rest) = tokenAt position first rest ::
      lexFrom (position.after (first :: rest.take (scan first rest).2))
        (rest.drop (scan first rest).2) := by
  rw [lexFrom_eq]
  simp only [List.takeWhile_cons, solid, List.dropWhile_cons, Bool.false_eq_true, if_false,
    Position.after_nil]

theorem wordKind_ne_finish (word : List Char) : wordKind word ≠ .finish := by
  unfold wordKind
  split <;> simp

theorem scanNumber_kind_ne_finish (text : List Char) : (scanNumber text).1 ≠ .finish := by
  unfold scanNumber
  simp only
  split
  · simp
  · split <;> simp

/-- No scanned token is the end of the text. -/
theorem scan_kind_ne_finish (first : Char) (rest : List Char) : (scan first rest).1 ≠ .finish := by
  have quotedKind : ∀ closed : Bool,
      (if closed then TokenKind.quoted else .unrecognized) ≠ .finish := by decide
  unfold scan
  split
  case h_13 | h_14 => exact quotedKind _
  case h_15 =>
    split
    · split
      · exact scanNumber_kind_ne_finish rest
      · simp
    · split
      · exact scanNumber_kind_ne_finish rest
      · split
        · exact wordKind_ne_finish _
        · simp
  all_goals
    try split
    all_goals simp

/-- A text ends with the only token that stands for its end. -/
theorem lexFrom_eq_append_finish (position : Position) (text : List Char) :
    ∃ body stop, lexFrom position text = body ++ [.finish stop] ∧
      ∀ token ∈ body, token.kind ≠ .finish := by
  fun_induction lexFrom position text with
  | case1 position text start front => exact ⟨[], start, rfl, by simp⟩
  | case2 position text start first rest front kind more scanned lexeme stop shorter ih =>
    obtain ⟨body, final, later, others⟩ := ih
    refine ⟨⟨kind, String.ofList lexeme, start, stop.offset⟩ :: body, final, ?_, ?_⟩
    · rw [later, List.cons_append]
    · have notFinish := scan_kind_ne_finish first rest
      rw [scanned] at notFinish
      exact List.forall_mem_cons.mpr ⟨notFinish, others⟩

end Token

end PortableFilter
