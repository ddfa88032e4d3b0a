import PortableFilter.Proofs.Token.Continuation

/-! # Cutting a text that stands inside another one

Where a text starts changes the positions of its tokens and nothing else
(`Token.map_lexeme_lexFrom`). What a delimiter follows is cut as if the text ended there, blanks
before the delimiter included (`Token.lexFrom_append`). -/

namespace PortableFilter.Token

open Text

/-- What a token is, apart from where it stands. -/
def lexeme (token : Token) : TokenKind × String := (token.kind, token.text)

theorem kind_eq_of_lexeme {token other : Token} {kind : TokenKind}
    (same : other.lexeme = token.lexeme) (isKind : token.kind = kind) : other.kind = kind :=
  (congrArg Prod.fst same).trans isKind

/-- Wherever a text starts, its tokens are the same but for their positions. -/
theorem map_lexeme_lexFrom (first second : Position) (text : List Char) :
    (lexFrom first text).map lexeme = (lexFrom second text).map lexeme := by
  fun_induction lexFrom first text generalizing second with
  | case1 position text start front =>
    rw [lexFrom_eq second, front]
    rfl
  | case2 position text start c rest front kind more scanned spelled stop shorter ih =>
    rw [lexFrom_eq second, front]
    simp only [List.map_cons, tokenAt, scanned, lexeme]
    exact congrArg _ (ih _)

/-- In front of a delimiter, a text of recognized tokens is cut as it is where it ends. -/
theorem lexFrom_append {position stop : Position} {text rest : List Char} {body : List Token}
    (cut : lexFrom position text = body ++ [.finish stop])
    (recognized : ∀ token ∈ body, token.kind.IsRecognized) (delimits : Delimits rest) :
    lexFrom position (text ++ rest) = body ++ lexFrom (position.after text) rest := by
  induction body generalizing position text with
  | nil =>
    rcases blank_or_exists_solid text with blank | ⟨blanks, first, later, rfl, areBlank, solid⟩
    · exact lexFrom_blanks blank position rest
    · rw [lexFrom_blanks areBlank, lexFrom_token solid] at cut
      obtain ⟨isFinish, -⟩ := List.cons.inj cut
      exact absurd (congrArg Token.kind isFinish) (scan_kind_ne_finish first later)
  | cons token body ih =>
    obtain ⟨isRecognized, othersRecognized⟩ := List.forall_mem_cons.mp recognized
    rcases blank_or_exists_solid text with blank | ⟨blanks, first, later, rfl, areBlank, solid⟩
    · rw [lexFrom_of_blank blank] at cut
      obtain ⟨rfl, -⟩ := List.cons.inj cut
      exact absurd rfl isRecognized.2
    · rw [lexFrom_blanks areBlank, lexFrom_token solid] at cut
      obtain ⟨rfl, cutLater⟩ := List.cons.inj cut
      have fronts := fronts_of_scan solid isRecognized.1 (List.append_nil _).symm delimits
      have whole : blanks ++ first :: later ++ rest = blanks ++
          (first :: later.take (scan first later).2 ++
            (later.drop (scan first later).2 ++ rest)) := by
        rw [List.cons_append, ← List.append_assoc, List.take_append_drop, List.append_assoc,
          List.cons_append]
      have behind : position.after (blanks ++ first :: later) =
          ((position.after blanks).after (first :: later.take (scan first later).2)).after
            (later.drop (scan first later).2) := by
        rw [← Position.after_append, List.cons_append, List.take_append_drop,
          ← Position.after_append]
      rw [whole, lexFrom_blanks areBlank, lexFrom_of_fronts fronts, ih cutLater othersRecognized,
        behind]
      rfl

end PortableFilter.Token
