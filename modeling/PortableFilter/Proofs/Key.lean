import PortableFilter.Proofs.Expr.Rekeying
import PortableFilter.Proofs.Expr.RoundTrip

/-! # The fields that quoted keys name

A quoted text of a filter can name a field or be a constant. As a constant it denotes what stands
between its quotes without the escapes. As a key it names the field between its quotes, and
escapes are part of that name. `Key.unquoted_eq_iff_of_mem_lex` says when the two agree, and that
two keys with one text between their quotes are the same field in every dialect. -/

namespace PortableFilter

/-! ## Escapes -/

namespace Text

/-- A text between quotes holds a backslash before another one or before the quote. -/
def Escapes (quote : Char) (text : List Char) : Prop :=
  ∃ c, (c = '\\' ∨ c = quote) ∧ ['\\', c] <:+: text

theorem length_unescape_le (quote : Char) (text : List Char) :
    (unescape quote text).length ≤ text.length := by
  fun_induction unescape quote text with
  | case1 | case2 => exact Nat.le_refl _
  | case3 first next rest escapes ih => exact Nat.succ_le_succ (ih.trans (Nat.le_succ _))
  | case4 first next rest plain ih => exact Nat.succ_le_succ ih

theorem not_escapes_of_length {quote : Char} {text : List Char} (short : text.length < 2) :
    ¬ Escapes quote text := by
  rintro ⟨c, -, inside⟩
  exact Nat.not_lt.mpr inside.length_le short

theorem escapes_cons_iff {quote first next : Char} {rest : List Char}
    (plain : ¬ (first = '\\' ∧ (next = '\\' ∨ next = quote))) :
    Escapes quote (first :: next :: rest) ↔ Escapes quote (next :: rest) := by
  constructor
  · rintro ⟨c, special, inside⟩
    rcases List.infix_cons_iff.mp inside with atStart | later
    · obtain ⟨isBackslash, atNext⟩ := List.cons_prefix_cons.mp atStart
      obtain ⟨rfl, -⟩ := List.cons_prefix_cons.mp atNext
      exact absurd ⟨isBackslash.symm, special⟩ plain
    · exact ⟨c, special, later⟩
  · rintro ⟨c, special, inside⟩
    exact ⟨c, special, List.infix_cons inside⟩

/-- A text between quotes denotes itself exactly if it holds no escape. -/
theorem unescape_eq_self_iff {quote : Char} {text : List Char} :
    unescape quote text = text ↔ ¬ Escapes quote text := by
  fun_induction unescape quote text with
  | case1 => exact iff_of_true rfl (not_escapes_of_length Nat.zero_lt_two)
  | case2 only => exact iff_of_true rfl (not_escapes_of_length Nat.one_lt_two)
  | case3 first next rest escapes ih =>
    obtain ⟨rfl, special⟩ := escapes
    have shorter := length_unescape_le quote rest
    refine iff_of_false (fun same => ?_) fun none => none ⟨next, special, [], rest, rfl⟩
    have lengths := congrArg List.length same
    simp only [List.length_cons] at lengths
    omega
  | case4 first next rest plain ih => rw [List.cons_inj_right, ih, escapes_cons_iff plain]

end Text

/-! ## Quoted texts on both sides of a comparison -/

open Token Grammar

theorem Expr.parse_equality_of_isLiteral {name literal : String} (named : IsLiteral name.toList)
    (closed : IsLiteral literal.toList) :
    parse (name ++ " == " ++ literal) =
      .ok (.equalTo ⟨name⟩ (.text (Text.unquoted literal))) := by
  have writable : (Key.mk name).IsWritable := .inr named
  have constant : Spells Delimits literal.toList fun tokens =>
      ∃ token, tokens = [token] ∧ Constant token (.text (Text.unquoted literal)) := by
    refine (Spells.word fun rest _ => fronts_literal closed rest).imp ?_
    rintro _ ⟨token, rfl, kind, text⟩
    have denotes := Constant.quoted kind
    rw [text, String.ofList_toList] at denotes
    exact ⟨token, rfl, denotes⟩
  have said : Spells Delimits ((Kind.compare .eq).symbol.toList ++ literal.toList) fun tokens =>
      Predicate ⟨name⟩ tokens (.equalTo ⟨name⟩ (.text (Text.unquoted literal))) := by
    refine ((spells_comparison .eq).append constant fun _ _ => trivial).imp ?_
    rintro _ ⟨_, _, rfl, ⟨sign, rfl, kind⟩, token, rfl, constant⟩
    exact .compare kind constant
  have spelled := spells_said writable rfl said
  rw [← String.toList_append, ← String.toList_append, ← String.append_assoc] at spelled
  exact parse_of_spells (spelled.imp fun _ derived => .single (.single (.plain derived)))
    (Nat.zero_le _)

/-- A quoted text in a filter can be read as a key and as a constant. The key is kept as written,
and its field is named by all that stands between the quotes. This is the text of the constant
exactly if nothing is escaped in it. Any key with the same text between its quotes, or without
quotes, can stand in its place: no dialect tells the trees apart. -/
theorem Key.unquoted_eq_iff_of_mem_lex {text : String} {token : Token} (member : token ∈ lex text)
    (kind : token.kind = .quoted) :
    ∃ quote inside, token.text.toList = quote :: (inside ++ [quote]) ∧
      (quote = '"' ∨ quote = '\'') ∧
      ∃ key value, Expr.parse (token.text ++ " == " ++ token.text) =
          .ok (.equalTo key (.text value)) ∧
        key.raw = token.text ∧ key.unquoted = String.ofList inside ∧
        (key.unquoted = value ↔ ¬ Text.Escapes quote inside) ∧
        ∀ other : Key, other.unquoted = key.unquoted →
          ∀ (settings : Settings) (dialect : Dialect) (expr : Expr),
            settings.render dialect (expr.rekeyed fun own => if own = key then other else own) =
              settings.render dialect expr := by
  have literal := (isCut_of_mem_lexFrom member).literal kind
  have parsed := Expr.parse_equality_of_isLiteral literal literal
  obtain ⟨quote, inside, spelled, quotes, -, -⟩ := literal
  have named : (Key.mk token.text).unquoted = String.ofList inside :=
    unquoted_of_toList spelled quotes
  refine ⟨quote, inside, spelled, quotes, _, _, parsed, rfl, named, ?_, ?_⟩
  · rw [named, Text.unquoted_of_toList spelled, String.ofList_inj, eq_comm,
      Text.unescape_eq_self_iff]
  · intro other sameField settings dialect expr
    refine Expr.render_rekeyed (fun own => ?_) settings dialect expr
    split
    · rename_i isKey
      rw [isKey, sameField]
    · rfl

/-- Between double quotes, a backslash before a single quote is no escape, and the same text between
single quotes names the same field. -/
theorem Key.unquoted_eq_iff_of_mem_lex_backslash :
    ∃ token ∈ lex "\"it\\'s\" in []", token.kind = .quoted ∧ token.text = "\"it\\'s\"" ∧
      ∃ key value, Expr.parse "\"it\\'s\" == \"it\\'s\"" = .ok (.equalTo key (.text value)) ∧
        key.raw = token.text ∧ key.unquoted = value ∧
        ∀ (settings : Settings) (dialect : Dialect),
          settings.render dialect (.equalTo ⟨"'it\\'s'"⟩ (.int 1)) =
            settings.render dialect (.equalTo key (.int 1)) := by
  let token : Token := ⟨.quoted, "\"it\\'s\"", .start, 7⟩
  have member : token ∈ lex "\"it\\'s\" in []" := by
    have first : (lex "\"it\\'s\" in []").head? = some token := by cbv
    exact List.mem_of_mem_head? first
  obtain ⟨quote, inside, spelled, -, key, value, parsed, kept, named, agrees, alike⟩ :=
    unquoted_eq_iff_of_mem_lex member rfl
  have characters : token.text.toList = '"' :: (['i', 't', '\\', '\'', 's'] ++ ['"']) := by decide
  obtain ⟨rfl, closing⟩ := List.cons.inj (characters.symm.trans spelled)
  obtain rfl := List.append_cancel_right closing
  have plain : ¬ Text.Escapes '"' ['i', 't', '\\', '\'', 's'] :=
    Text.unescape_eq_self_iff.mp (by decide)
  have sameField : (Key.mk "'it\\'s'").unquoted = key.unquoted := by
    rw [named]
    decide
  refine ⟨token, member, rfl, rfl, key, value, parsed, kept, agrees.mpr plain, ?_⟩
  intro settings dialect
  rw [← alike _ sameField settings dialect (.equalTo key (.int 1))]
  simp [Expr.rekeyed, Operand.rekeyed, Expr.equalTo, Expr.compare]

/-- An escaped quote is a quote in the constant, while the field that the key names has the
backslash in its name. -/
theorem Key.unquoted_ne_of_escaped_quote :
    ∃ token ∈ lex "'it\\'s'", token.kind = .quoted ∧
      ∃ key value, Expr.parse (token.text ++ " == " ++ token.text) =
          .ok (.equalTo key (.text value)) ∧
        key.raw = token.text ∧ key.unquoted = "it\\'s" ∧ value = "it's" ∧ key.unquoted ≠ value := by
  let token : Token := ⟨.quoted, "'it\\'s'", .start, 7⟩
  have member : token ∈ lex "'it\\'s'" := by
    have first : (lex "'it\\'s'").head? = some token := by cbv
    exact List.mem_of_mem_head? first
  have literal := (isCut_of_mem_lexFrom member).literal rfl
  exact ⟨token, member, rfl, _, _, Expr.parse_equality_of_isLiteral literal literal, rfl,
    by decide, by decide, by decide⟩

end PortableFilter
