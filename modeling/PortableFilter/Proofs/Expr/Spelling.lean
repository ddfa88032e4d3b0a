import PortableFilter.Expr.Printer
import PortableFilter.Proofs.Binary64.RoundTrip
import PortableFilter.Proofs.Expr.Grammar
import PortableFilter.Proofs.Token.Literal

/-! # Tests are spelled as they are written

A test whose key and constants can be spelled at all is written so that its text is cut into
tokens that spell the test again (`Expr.spells_test`). What tokens of a text spell can be written
(`Expr.isWritableTest_of_predicate`). -/

namespace PortableFilter

open Token Grammar

namespace Scalar

/-- A scalar that a filter can spell: an integer of 64 bits, a finite number, a text on one line,
or a constant of its own. A date is spelled as a text. -/
def IsWritable : Scalar → Prop
  | null | bool _ => True
  | int value => -0x8000000000000000 ≤ value ∧ value < 0x8000000000000000
  | number value => value.isFinite
  | text value => ∀ c ∈ value.toList, endsLine c = false
  | date _ => False

/-- A constant spells a scalar that can be written. -/
theorem isWritable_of_constant {token : Token} {scalar : Scalar} (cut : token.IsCut)
    (constant : Constant token scalar) : scalar.IsWritable := by
  cases constant with
  | integer _ _ _ _ _ _ above below => exact ⟨above, below⟩
  | decimal _ _ finite => exact finite
  | quoted kind => exact oneLine_unquoted (cut.literal kind)
  | boolean _ => trivial
  | null _ => trivial

/-- A scalar is written as one constant that denotes it. -/
theorem spells_print {scalar : Scalar} (writable : scalar.IsWritable) :
    Spells Delimits scalar.print.toList fun tokens =>
      ∃ token, tokens = [token] ∧ Constant token scalar := by
  cases scalar with
  | null =>
    have word : isWord null.print.toList ∧ wordKind null.print.toList = .null := by decide
    refine (Spells.keyword word.1 word.2).imp ?_
    rintro _ ⟨token, rfl, kind⟩
    exact ⟨token, rfl, .null kind⟩
  | bool value =>
    have word : isWord (boolText value).toList ∧
        wordKind (boolText value).toList = .boolean value := by
      cases value <;> decide
    refine (Spells.keyword word.1 word.2).imp ?_
    rintro _ ⟨token, rfl, kind⟩
    exact ⟨token, rfl, .boolean kind⟩
  | int value =>
    obtain ⟨sign, digits, negative, spelled, signs, form, nonempty, numeric, -, denotes⟩ :=
      Decimal.toString_eq_signed value
    change signed negative (Decimal.ofDigits digits) = value at denotes
    rw [print, spelled]
    refine (Spells.word fun rest delimits => fronts_integer form nonempty numeric delimits).imp ?_
    rintro _ ⟨token, rfl, kind, text⟩
    refine ⟨token, rfl, ?_⟩
    rw [← denotes]
    refine .integer kind ?_ (.single signs) nonempty (List.all_eq_true.mpr numeric) .absent ?_ ?_
    · rw [text, String.toList_ofList, List.append_nil]
    · rw [denotes]
      exact writable.1
    · rw [denotes]
      exact writable.2
  | number value =>
    obtain ⟨sign, whole, fraction, magnitude, spelled, form, pointed, denotes⟩ :=
      Binary64.read?_toPointedText writable
    rw [print, spelled, pointed.spelled]
    refine (Spells.word fun rest delimits => fronts_decimal form pointed.whole_ne_nil
      pointed.whole_digits pointed.fraction_digits delimits).imp ?_
    rintro _ ⟨token, rfl, kind, text⟩
    refine ⟨token, rfl, .decimal kind ?_ writable⟩
    rw [text, String.toList_ofList, ← pointed.spelled, ← spelled, denotes]
  | text value =>
    refine (Spells.word fun rest _ => fronts_literal (isLiteral_quoted writable) rest).imp ?_
    rintro _ ⟨token, rfl, kind, text⟩
    have constant := Constant.quoted kind
    rw [text, String.ofList_toList, Text.unquoted_quoted] at constant
    exact ⟨token, rfl, constant⟩
  | date _ => exact writable.elim

end Scalar

namespace Value

/-- The items of a flat list are printed one by one. -/
theorem printItems_map_scalar (values : List Scalar) :
    printItems (values.map .scalar) = values.map Scalar.print := by
  induction values with
  | nil => rfl
  | cons value values ih => rw [List.map_cons, printItems, ih, print, List.map_cons]

/-- A flat list is printed with commas in brackets. -/
theorem print_ofScalars (values : List Scalar) :
    (ofScalars values).print.toList =
      ['['] ++ ([',', ' '].intercalate (values.map fun value => value.print.toList) ++ [']']) := by
  rw [ofScalars, print, printItems_map_scalar, String.toList_append, String.toList_append,
    String.toList_intercalate, List.map_map]
  rfl

/-- The items of a list are cut into items of the grammar. -/
theorem spells_items {values : List Scalar} (nonempty : values ≠ [])
    (writable : ∀ value ∈ values, value.IsWritable) :
    Spells Delimits ([',', ' '].intercalate (values.map fun value => value.print.toList))
      fun tokens => Items tokens values := by
  induction values with
  | nil => exact absurd rfl nonempty
  | cons value values ih =>
    obtain ⟨here, later⟩ := List.forall_mem_cons.mp writable
    have spelled := Scalar.spells_print here
    cases values with
    | nil =>
      rw [List.map_cons, List.map_nil, List.intercalate_singleton]
      refine spelled.imp ?_
      rintro _ ⟨token, rfl, constant⟩
      exact .single constant
    | cons next values =>
      have mark : Spells (fun _ => True) [','] (One .comma) :=
        .sign fun rest _ => ⟨',', [], rfl, by decide, rfl⟩
      have comma : Spells (fun _ => True) [',', ' '] (One .comma) :=
        mark.then_blank (by decide) fun _ => trivial
      rw [List.map_cons, List.map_cons, List.intercalate_cons_cons, List.append_assoc]
      refine (spelled.append (comma.append (ih (by simp) later) fun _ _ => trivial)
        fun rest _ => delimits_cons (by decide) _).imp ?_
      rintro _ ⟨_, _, rfl, ⟨token, rfl, constant⟩, _, _, rfl, ⟨sign, rfl, kind⟩, items⟩
      exact .more constant kind items

/-- A list is written in brackets. -/
theorem spells_ofScalars {values : List Scalar} (writable : ∀ value ∈ values, value.IsWritable) :
    Spells (fun _ => True) (ofScalars values).print.toList fun tokens =>
      Bracketed tokens values := by
  have opening : Spells (fun _ => True) ['['] (One .openBracket) :=
    .sign fun rest _ => ⟨'[', [], rfl, by decide, rfl⟩
  have closing : Spells (fun _ => True) [']'] (One .closeBracket) :=
    .sign fun rest _ => ⟨']', [], rfl, by decide, rfl⟩
  rw [print_ofScalars]
  by_cases empty : values = []
  · subst empty
    refine (opening.append closing fun _ _ => trivial).imp ?_
    rintro _ ⟨_, _, rfl, ⟨token, rfl, opens⟩, last, rfl, closes⟩
    exact .empty opens closes
  · refine (opening.append ((spells_items empty writable).append closing
      fun rest _ => delimits_cons (by decide) _) fun _ _ => trivial).imp ?_
    rintro _ ⟨_, _, rfl, ⟨token, rfl, opens⟩, items, _, rfl, spelled, last, rfl, closes⟩
    exact .items opens spelled closes

end Value

/-- Names with dots between them. -/
inductive Token.IsPath : List Char → Prop where
  | name {word : List Char} (named : IsName word) : IsPath word
  | dotted {path word : List Char} (start : IsPath path) (named : IsName word) :
      IsPath (path ++ '.' :: word)

theorem digitCount_name {word rest : List Char} (named : IsName word) :
    Text.digitCount (word ++ rest) = 0 := by
  obtain ⟨isWord, -⟩ := named
  cases word with
  | nil => cases isWord
  | cons first more =>
    rw [Token.isWord, Bool.and_eq_true] at isWord
    rw [Text.digitCount, List.cons_append, List.takeWhile_cons,
      Text.isDigit_eq_false_of_startsName isWord.1, if_neg Bool.false_ne_true, List.length_nil]

/-- A path is cut into the names and dots of a path. -/
theorem spells_path {path : List Char} (isPath : IsPath path) :
    Spells EndsWord path fun tokens => Path tokens (String.ofList path) := by
  induction isPath with
  | name named =>
    refine (Spells.word fun rest => fronts_name named).imp ?_
    rintro _ ⟨token, rfl, kind, text⟩
    rw [← text]
    exact .name kind
  | @dotted path word start named ih =>
    have dot : Spells (fun rest => Text.digitCount rest = 0) ['.'] (One .dot) := by
      refine .sign fun rest noDigit => ⟨'.', [], rfl, by decide, ?_⟩
      change (if 0 < Text.digitCount rest then _ else _) = _
      rw [noDigit, if_neg (Nat.lt_irrefl 0), List.length_nil]
    have part := Spells.word fun rest => @fronts_name word rest named
    have endsName : ∀ rest, EndsWord (['.'] ++ word ++ rest) := by
      rintro rest _ ⟨⟩
      decide
    refine (ih.append (dot.append part fun rest _ => digitCount_name named)
      fun rest _ => endsName rest).imp ?_
    rintro _ ⟨first, _, rfl, path, _, _, rfl, ⟨dot, rfl, dots⟩, part, rfl, kind, text⟩
    have spelled := Path.dotted path dots kind
    rw [text, ← String.ofList_append, ← String.ofList_append, List.append_assoc] at spelled
    exact spelled

namespace Key

/-- A key that a filter can spell: a path of names, or a literal on one line. -/
def IsWritable (key : Key) : Prop := IsPath key.raw.toList ∨ IsLiteral key.raw.toList

/-- A quoted key stands for what is between its quotes. -/
theorem unquoted_of_toList {key : Key} {quote : Char} {inside : List Char}
    (spelled : key.raw.toList = quote :: (inside ++ [quote]))
    (quotes : quote = '"' ∨ quote = '\'') : key.unquoted = String.ofList inside := by
  rw [unquoted, spelled, betweenQuotes?, if_pos ⟨quotes, List.getLast?_concat⟩,
    List.dropLast_concat]

/-- What the grammar takes as a path is spelled as one. -/
theorem isPath_of_path {tokens : List Token} {path : String} (cut : ∀ token ∈ tokens, token.IsCut)
    (named : Path tokens path) : IsPath path.toList := by
  induction named with
  | name kind => exact .name ((cut _ List.mem_cons_self).name kind)
  | @dotted tokens path dot part start dots kind ih =>
    have named := (cut part (by simp)).name kind
    rw [String.toList_append, String.toList_append, List.append_assoc]
    exact .dotted (ih fun token member => cut token (by simp [member])) named

/-- Tokens name a key that can be written. -/
theorem isWritable_of_identifier {tokens : List Token} {key : Key}
    (cut : ∀ token ∈ tokens, token.IsCut) (named : Identifier tokens key) : key.IsWritable := by
  cases named with
  | path named => exact .inl (isPath_of_path cut named)
  | quoted kind => exact .inr ((cut _ List.mem_cons_self).literal kind)

/-- A key is written with the tokens that name it. -/
theorem spells_raw {key : Key} (writable : key.IsWritable) :
    Spells Delimits key.raw.toList fun tokens => Identifier tokens key := by
  rcases writable with isPath | literal
  · refine ((spells_path isPath).before fun rest => endsWord_of_delimits).imp ?_
    intro tokens named
    rw [String.ofList_toList] at named
    exact .path named
  · refine (Spells.word fun rest _ => fronts_literal literal rest).imp ?_
    rintro _ ⟨token, rfl, kind, text⟩
    have named := Identifier.quoted kind
    rw [text, String.ofList_toList] at named
    exact named

end Key

/-- The symbol of a comparison is cut off as its token. -/
theorem spells_comparison (comparison : Comparison) :
    Spells (fun _ => True) (Kind.compare comparison).symbol.toList
      (One (comparisonToken comparison)) := by
  cases comparison with
  | eq => exact @Spells.spaced ['=', '='] _ fun rest => ⟨'=', ['='], rfl, by decide, rfl⟩
  | ne => exact @Spells.spaced ['!', '='] _ fun rest => ⟨'!', ['='], rfl, by decide, rfl⟩
  | gt => exact @Spells.spaced ['>'] _ fun rest => ⟨'>', [], rfl, by decide, rfl⟩
  | gte => exact @Spells.spaced ['>', '='] _ fun rest => ⟨'>', ['='], rfl, by decide, rfl⟩
  | lt => exact @Spells.spaced ['<'] _ fun rest => ⟨'<', [], rfl, by decide, rfl⟩
  | lte => exact @Spells.spaced ['<', '='] _ fun rest => ⟨'<', ['='], rfl, by decide, rfl⟩

/-- The word of a connective is cut off as its token. -/
theorem spells_connective (connective : Connective) :
    Spells (fun _ => True) (Kind.join connective).symbol.toList
      (One (Reading.connectiveToken connective)) := by
  cases connective with
  | and => exact @Spells.spaced ['&', '&'] _ fun rest => ⟨'&', ['&'], rfl, by decide, rfl⟩
  | or => exact @Spells.spaced ['|', '|'] _ fun rest => ⟨'|', ['|'], rfl, by decide, rfl⟩

namespace Expr

/-- A test that a filter can spell. -/
inductive IsWritableTest : Expr → Prop where
  | compare {comparison : Comparison} {key : Key} {value : Scalar} (named : key.IsWritable)
      (writable : value.IsWritable) : IsWritableTest (.compare comparison key (.scalar value))
  | member {negated : Bool} {key : Key} {values : List Scalar} (named : key.IsWritable)
      (writable : ∀ value ∈ values, value.IsWritable) :
      IsWritableTest (.member negated key (.ofScalars values))
  | absent {negated : Bool} {key : Key} (named : key.IsWritable) :
      IsWritableTest (.absent negated key)

/-- A text that starts with a blank delimits. -/
theorem delimits_append {text : List Char} (starts : text.head? = some ' ') (rest : List Char) :
    Delimits (text ++ rest) := by
  obtain ⟨more, rfl⟩ := List.head?_eq_some_iff.mp starts
  exact delimits_cons (by decide) _

/-- A key and what is said about it spell a test. -/
theorem spells_said {key : Key} {content : Expr} {text : List Char} (named : key.IsWritable)
    (starts : text.head? = some ' ')
    (said : Spells Delimits text fun tokens => Predicate key tokens content) :
    Spells Delimits (key.raw.toList ++ text) fun tokens =>
      Derives .primary tokens (.test content) := by
  refine ((Key.spells_raw named).append said fun rest _ => delimits_append starts rest).imp ?_
  rintro _ ⟨tokens, later, rfl, identifier, predicate⟩
  exact .test identifier predicate

/-- A comparison is written with its sign and its constant behind the key. -/
theorem spells_compare (comparison : Comparison) {key : Key} {value : Scalar}
    (named : key.IsWritable) (writable : value.IsWritable) :
    Spells Delimits (compare comparison key (.scalar value)).print.toList fun tokens =>
      Derives .primary tokens (.test (compare comparison key (.scalar value))) := by
  have spelled : (compare comparison key (.scalar value)).print.toList =
      key.raw.toList ++ ((Kind.compare comparison).symbol.toList ++ value.print.toList) := by
    rw [← String.toList_append, ← String.toList_append, ← String.append_assoc]
    rfl
  rw [spelled]
  refine spells_said named (by cases comparison <;> rfl) ?_
  refine ((spells_comparison comparison).append (Scalar.spells_print writable)
    fun _ _ => trivial).imp ?_
  rintro _ ⟨_, _, rfl, ⟨sign, rfl, kind⟩, token, rfl, constant⟩
  exact .compare kind constant

/-- A membership test is written with its word and its list behind the key. -/
theorem spells_member (negated : Bool) {key : Key} {values : List Scalar}
    (named : key.IsWritable) (writable : ∀ value ∈ values, value.IsWritable) :
    Spells Delimits (member negated key (.ofScalars values)).print.toList fun tokens =>
      Derives .primary tokens (.test (member negated key (.ofScalars values))) := by
  have list := (Value.spells_ofScalars writable).before fun rest (_ : Delimits rest) => trivial
  have spelled : (member negated key (.ofScalars values)).print.toList =
      key.raw.toList ++ ((Kind.member negated).symbol.toList ++
        (Value.ofScalars values).print.toList) := by
    rw [← String.toList_append, ← String.toList_append, ← String.append_assoc]
    rfl
  have word : Spells (fun _ => True) (' ' :: (['i', 'n'] ++ [' '])) (One .inWord) :=
    .spaced fun rest => fronts_word (by decide) (endsWord_of_delimits (delimits_cons (by decide) _))
  rw [spelled]
  cases negated with
  | false =>
    refine spells_said named rfl ((word.append list fun _ _ => trivial).imp ?_)
    rintro _ ⟨_, _, rfl, ⟨sign, rfl, kind⟩, bracketed⟩
    exact .member kind bracketed
  | true =>
    have negation : Spells Delimits (' ' :: ['n', 'o', 't']) (One .not) :=
      (Spells.keyword (by decide) (by decide)).blank (by decide)
    refine spells_said named rfl ?_
    refine ((negation.append (word.append list fun _ _ => trivial)
      fun rest _ => delimits_append rfl rest).imp ?_)
    rintro _ ⟨_, _, rfl, ⟨sign, rfl, negates⟩, _, _, rfl, ⟨word, rfl, kind⟩, bracketed⟩
    exact .notMember negates kind bracketed

/-- A test for absence is written with words behind the key. -/
theorem spells_absent (negated : Bool) {key : Key} (named : key.IsWritable) :
    Spells Delimits (absent negated key).print.toList fun tokens =>
      Derives .primary tokens (.test (absent negated key)) := by
  have spaced {word : List Char} {kind : TokenKind} (isWord : isWord word)
      (isKind : wordKind word = kind) : Spells Delimits (' ' :: word) (One kind) :=
    (Spells.keyword isWord isKind).blank (by decide)
  have isWord : Spells Delimits [' ', 'i', 's'] (One .isWord) := spaced (by decide) (by decide)
  have notWord : Spells Delimits [' ', 'n', 'o', 't'] (One .not) := spaced (by decide) (by decide)
  have nullWord : Spells Delimits [' ', 'n', 'u', 'l', 'l'] (One .null) :=
    spaced (by decide) (by decide)
  cases negated with
  | false =>
    have spelled : (absent false key).print.toList = key.raw.toList ++ " is null".toList :=
      String.toList_append
    rw [spelled]
    refine spells_said named rfl
      ((isWord.append nullWord fun rest _ => delimits_append rfl rest).imp ?_)
    rintro _ ⟨_, _, rfl, ⟨word, rfl, kind⟩, null, rfl, ends⟩
    exact .absent kind ends
  | true =>
    have spelled : (absent true key).print.toList = key.raw.toList ++ " is not null".toList :=
      String.toList_append
    rw [spelled]
    refine spells_said named rfl
      ((isWord.append (notWord.append nullWord fun rest _ => delimits_append rfl rest)
        fun rest _ => delimits_append rfl rest).imp ?_)
    rintro _ ⟨_, _, rfl, ⟨word, rfl, kind⟩, _, _, rfl, ⟨negation, rfl, negates⟩, null, rfl, ends⟩
    exact .present kind negates ends

/-- Items of cut tokens can be written. -/
theorem isWritable_of_items {tokens : List Token} {values : List Scalar}
    (cut : ∀ token ∈ tokens, token.IsCut) (items : Items tokens values) :
    ∀ value ∈ values, value.IsWritable := by
  induction items with
  | @single token value constant =>
    intro value member
    rw [List.mem_singleton.mp member]
    exact Scalar.isWritable_of_constant (cut token List.mem_cons_self) constant
  | @more token comma value tokens values constant kind items ih =>
    refine List.forall_mem_cons.mpr ⟨?_, ih fun later member => cut later (by simp [member])⟩
    exact Scalar.isWritable_of_constant (cut token List.mem_cons_self) constant

theorem isWritable_of_bracketed {tokens : List Token} {values : List Scalar}
    (cut : ∀ token ∈ tokens, token.IsCut) (bracketed : Bracketed tokens values) :
    ∀ value ∈ values, value.IsWritable := by
  cases bracketed with
  | empty => exact fun value member => absurd member List.not_mem_nil
  | items _ items _ =>
    exact isWritable_of_items (fun token member => cut token (by simp [member])) items

/-- What tokens say about a key that can be written can be written. -/
theorem isWritableTest_of_predicate {tokens : List Token} {key : Key} {content : Expr}
    (cut : ∀ token ∈ tokens, token.IsCut) (named : key.IsWritable)
    (predicate : Predicate key tokens content) : content.IsWritableTest := by
  cases predicate with
  | @compare comparison sign token value _ constant =>
    exact .compare named (Scalar.isWritable_of_constant (cut token (by simp)) constant)
  | member _ bracketed | nonmember _ bracketed | notMember _ _ bracketed =>
    exact .member named
      (isWritable_of_bracketed (fun token member => cut token (by simp [member])) bracketed)
  | absent | present => exact .absent named

/-- A test is written with the tokens that spell it. -/
theorem spells_test {content : Expr} (writable : content.IsWritableTest) :
    Spells Delimits content.print.toList fun tokens => Derives .primary tokens (.test content) := by
  cases writable with
  | compare named writable => exact spells_compare _ named writable
  | member named writable => exact spells_member _ named writable
  | absent named => exact spells_absent _ named

end Expr

end PortableFilter
