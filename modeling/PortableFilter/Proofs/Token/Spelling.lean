import PortableFilter.Proofs.Text
import PortableFilter.Proofs.Token.Lexing

/-! # How words and numerals are cut off

A text that is written token by token is cut back into the same tokens, as long as what stands
behind each of them does not continue it. `Token.Fronts` says so of one token, and `Token.Spells`
of a text and what is known of its tokens; texts are put together with `Token.Spells.append`.
Words end where no name goes on, and numerals before a blank, a comma or a closing bracket. -/

namespace PortableFilter

namespace Token

open Text

/-- A word in front of the rest of a text is cut off as one token of a kind. -/
def Fronts (kind : TokenKind) (word rest : List Char) : Prop :=
  ∃ first more, word = first :: more ∧ isBlank first = false ∧
    scan first (more ++ rest) = (kind, more.length)

/-- A word that is cut off at the front is the first token. -/
theorem lexFrom_of_fronts {kind : TokenKind} {word rest : List Char}
    (fronts : Fronts kind word rest) (position : Position) :
    lexFrom position (word ++ rest) =
      ⟨kind, String.ofList word, position, (position.after word).offset⟩ ::
        lexFrom (position.after word) rest := by
  obtain ⟨first, more, rfl, solid, scanned⟩ := fronts
  rw [List.cons_append, lexFrom_token solid, tokenAt, scanned]
  simp only [List.take_left, List.drop_left]

/-- A text is cut into tokens with a property, whatever comes behind it, as long as it `follows`. -/
def Spells (follows : List Char → Prop) (text : List Char) (accepts : List Token → Prop) : Prop :=
  ∀ position rest, follows rest → ∃ tokens,
    lexFrom position (text ++ rest) = tokens ++ lexFrom (position.after text) rest ∧ accepts tokens

/-- A list of one token of a kind. -/
def One (kind : TokenKind) (tokens : List Token) : Prop :=
  ∃ token, tokens = [token] ∧ token.kind = kind

namespace Spells

variable {follows follows' : List Char → Prop} {text later : List Char}
  {accepts accepts' : List Token → Prop}

/-- What is spelled before some texts is spelled before fewer of them. -/
theorem before (spelled : Spells follows text accepts)
    (weaker : ∀ rest, follows' rest → follows rest) : Spells follows' text accepts :=
  fun position rest behind => spelled position rest (weaker rest behind)

/-- What is spelled with a property is spelled with every weaker one. -/
theorem imp (spelled : Spells follows text accepts)
    (implied : ∀ tokens, accepts tokens → accepts' tokens) : Spells follows text accepts' := by
  intro position rest behind
  obtain ⟨tokens, cut, accepted⟩ := spelled position rest behind
  exact ⟨tokens, cut, implied tokens accepted⟩

/-- Texts one behind the other are cut into their tokens one behind the other. -/
theorem append (start : Spells follows text accepts) (more : Spells follows' later accepts')
    (behind : ∀ rest, follows' rest → follows (later ++ rest)) :
    Spells follows' (text ++ later) fun tokens =>
      ∃ first second, tokens = first ++ second ∧ accepts first ∧ accepts' second := by
  intro position rest following
  obtain ⟨first, firstCut, firstAccepted⟩ := start position (later ++ rest) (behind rest following)
  obtain ⟨second, secondCut, secondAccepted⟩ := more (position.after text) rest following
  refine ⟨first ++ second, ?_, first, second, rfl, firstAccepted, secondAccepted⟩
  rw [List.append_assoc, firstCut, secondCut, Position.after_append, List.append_assoc]

/-- A word that is one token. -/
theorem word {kind : TokenKind} (fronts : ∀ rest, follows rest → Fronts kind text rest) :
    Spells follows text fun tokens =>
      ∃ token, tokens = [token] ∧ token.kind = kind ∧ token.text = String.ofList text := by
  intro position rest following
  exact ⟨[_], lexFrom_of_fronts (fronts rest following) position, _, rfl, rfl, rfl⟩

/-- A sign that is one token whatever comes behind it. -/
theorem sign {kind : TokenKind} (fronts : ∀ rest, follows rest → Fronts kind text rest) :
    Spells follows text (One kind) := by
  refine (word fronts).imp ?_
  rintro _ ⟨token, rfl, ofKind, -⟩
  exact ⟨token, rfl, ofKind⟩

/-- Blanks before a text are no part of its tokens. -/
theorem blank {c : Char} (isBlank : isBlank c) (spelled : Spells follows text accepts) :
    Spells follows (c :: text) accepts := by
  intro position rest following
  obtain ⟨tokens, cut, accepted⟩ := spelled (position.next c) rest following
  exact ⟨tokens, (lexFrom_blank isBlank position (text ++ rest)).trans cut, accepted⟩

/-- Blanks behind a text are no part of its tokens, and what follows them does not matter. -/
theorem then_blank {c : Char} (isBlank : isBlank c) (spelled : Spells follows text accepts)
    (behind : ∀ rest, follows (c :: rest)) : Spells (fun _ => True) (text ++ [c]) accepts := by
  intro position rest _
  obtain ⟨tokens, cut, accepted⟩ := spelled position (c :: rest) (behind rest)
  refine ⟨tokens, ?_, accepted⟩
  rw [List.append_assoc, List.singleton_append, cut, lexFrom_blank isBlank, Position.after_append]
  rfl

/-- A sign between two blanks. -/
theorem spaced {kind : TokenKind} (fronts : ∀ rest, Fronts kind text (' ' :: rest)) :
    Spells (fun _ => True) (' ' :: (text ++ [' '])) (One kind) := by
  have blank : isBlank ' ' := by decide
  have spelled : Spells (fun rest => ∃ more, rest = ' ' :: more) text (One kind) := by
    refine .sign ?_
    rintro _ ⟨more, rfl⟩
    exact fronts more
  exact (spelled.then_blank blank fun rest => ⟨rest, rfl⟩).blank blank

end Spells

/-- The rest of a text does not continue a word. -/
def EndsWord (rest : List Char) : Prop := ∀ c ∈ rest.head?, continuesName c = false

/-- Whether a character continues no word and no number: a blank, or one of the signs that may be
written directly behind a constant or a key. -/
def isDelimiter (c : Char) : Bool := isBlank c || [')', ']', ','].contains c

/-- The rest of a text is empty or starts with a delimiter. -/
def Delimits (rest : List Char) : Prop := ∀ c ∈ rest.head?, isDelimiter c

theorem delimits_cons {c : Char} (delimiter : isDelimiter c) (rest : List Char) :
    Delimits (c :: rest) := by
  rintro _ ⟨⟩
  exact delimiter

/-- What holds of no blank and of no closing sign holds of no delimiter. -/
theorem eq_false_of_isDelimiter {p : Char → Bool} (solid : ∀ {c}, p c → isBlank c = false)
    (noSign : [')', ']', ','].all fun c => !p c) {c : Char} (delimiter : isDelimiter c) :
    p c = false := by
  rcases Bool.or_eq_true_iff.mp delimiter with blank | sign
  · cases holds : p c with
    | false => rfl
    | true =>
      rw [solid holds] at blank
      cases blank
  · exact (Bool.not_eq_true' _).mp (List.all_eq_true.mp noSign c (List.contains_iff_mem.mp sign))

/-- What delimits ends a word. -/
theorem endsWord_of_delimits {rest : List Char} (delimits : Delimits rest) : EndsWord rest :=
  fun c first =>
    eq_false_of_isDelimiter isBlank_eq_false_of_continuesName (by decide) (delimits c first)

/-! ## Words -/

theorem scan_of_startsName {first : Char} (starts : startsName first) (rest : List Char) :
    scan first rest = scanWord first rest := by
  unfold scan
  split
  case h_15 =>
    have noSign : ¬ (first = '-' ∨ first = '+') := by
      rintro (rfl | rfl) <;> exact absurd starts (by decide)
    rw [if_neg noSign, isDigit_eq_false_of_startsName starts, if_neg Bool.false_ne_true,
      if_pos starts]
  all_goals exact absurd starts (by decide)

/-- Whether a text is a word. -/
def isWord : List Char → Bool
  | [] => false
  | first :: more => startsName first && more.all continuesName

/-- A word is cut off where it ends. -/
theorem fronts_word {word rest : List Char} (isWord : isWord word) (ends : EndsWord rest) :
    Fronts (wordKind word) word rest := by
  cases word with
  | nil => cases isWord
  | cons first more =>
    simp only [Token.isWord, Bool.and_eq_true, List.all_eq_true] at isWord
    obtain ⟨starts, continues⟩ := isWord
    refine ⟨first, more, rfl, isBlank_eq_false_of_startsName starts, ?_⟩
    rw [scan_of_startsName starts, scanWord, takeWhile_append_of_head continues ends]

/-- A keyword is cut off as the token of its kind. -/
theorem Spells.keyword {word : List Char} {kind : TokenKind} (isWord : isWord word)
    (isKind : wordKind word = kind) : Spells Delimits word (One kind) := by
  rw [← isKind]
  exact .sign fun rest delimits => fronts_word isWord (endsWord_of_delimits delimits)

/-! ## Numerals -/

/-- What delimits does not start with a digit. -/
theorem isDigit_eq_false_of_delimits {rest : List Char} (delimits : Delimits rest) :
    ∀ c ∈ rest.head?, c.isDigit = false :=
  fun c first => eq_false_of_isDelimiter isBlank_eq_false_of_isDigit (by decide) (delimits c first)

theorem fractionLength_of_ne {c : Char} (noPoint : c ≠ '.') (rest : List Char) :
    fractionLength (c :: rest) = 0 := by
  rw [fractionLength]
  rintro _ ⟨⟩
  exact noPoint rfl

/-- Behind a delimiter a number has no more parts. -/
theorem no_part_of_delimits {rest : List Char} (delimits : Delimits rest) :
    fractionLength rest = 0 ∧ exponentLength rest = 0 ∧ suffixLength rest = 0 := by
  cases rest with
  | nil => exact ⟨rfl, rfl, rfl⟩
  | cons c rest =>
    have differs : ∀ {other : Char}, isDelimiter other = false → c ≠ other := by
      intro other refused same
      exact absurd (delimits c rfl) (same ▸ Bool.eq_false_iff.mp refused)
    have noMark : ¬ (c = 'e' ∨ c = 'E') := not_or.mpr ⟨differs (by decide), differs (by decide)⟩
    have noSuffix : ¬ (c = 'l' ∨ c = 'L') := not_or.mpr ⟨differs (by decide), differs (by decide)⟩
    exact ⟨fractionLength_of_ne (differs (by decide)) rest, if_neg noMark, if_neg noSuffix⟩

/-- Digits are scanned as an integer. -/
theorem scanNumber_digits {digits rest : List Char} (numeric : ∀ c ∈ digits, c.isDigit)
    (delimits : Delimits rest) : scanNumber (digits ++ rest) = (.integer, digits.length) := by
  obtain ⟨noFraction, noExponent, noSuffix⟩ := no_part_of_delimits delimits
  simp only [scanNumber, digitCount_append numeric (isDigit_eq_false_of_delimits delimits),
    List.drop_left, noFraction, noExponent, noSuffix, Nat.add_zero, Nat.lt_irrefl, if_false]
  split
  · rfl
  · rename_i noDigit
    rw [Nat.eq_zero_of_not_pos noDigit]

/-- Digits around a point are scanned as a decimal. -/
theorem scanNumber_pointed {whole fraction rest : List Char} (numeric : ∀ c ∈ whole, c.isDigit)
    (numericFraction : ∀ c ∈ fraction, c.isDigit) (delimits : Delimits rest) :
    scanNumber (whole ++ '.' :: (fraction ++ rest)) =
      (.decimal, whole.length + (1 + fraction.length)) := by
  obtain ⟨-, noExponent, -⟩ := no_part_of_delimits delimits
  have pointStops : ∀ c ∈ ('.' :: (fraction ++ rest)).head?, c.isDigit = false := by
    rintro _ ⟨⟩
    decide
  have behind : (whole ++ '.' :: (fraction ++ rest)).drop (whole.length + (1 + fraction.length)) =
      rest := by
    rw [List.drop_length_add_append, Nat.add_comm 1, List.drop_succ_cons, List.drop_left]
  simp only [scanNumber, digitCount_append numeric pointStops, List.drop_left, fractionLength,
    digitCount_append numericFraction (isDigit_eq_false_of_delimits delimits), behind, noExponent,
    Nat.add_zero]
  rw [if_pos (by omega)]

theorem scan_of_isDigit {first : Char} (digit : first.isDigit) (rest : List Char) :
    scan first rest = scanNumber rest := by
  unfold scan
  split
  case h_15 =>
    have noSign : ¬ (first = '-' ∨ first = '+') := by
      rintro (rfl | rfl) <;> exact absurd digit (by decide)
    rw [if_neg noSign, if_pos digit]
  all_goals exact absurd digit (by decide)

/-- Digits, perhaps behind a minus sign, are cut off where a number of the same form without its
first digit or its sign is scanned. -/
theorem fronts_signed {sign text rest : List Char} {kind : TokenKind} {first : Char}
    {more : List Char} (signs : sign = [] ∨ sign = ['-']) (starts : text = first :: more)
    (digit : first.isDigit) (scanned : scanNumber (text ++ rest) = (kind, text.length))
    (scannedMore : scanNumber (more ++ rest) = (kind, more.length)) :
    Fronts kind (sign ++ text) rest := by
  subst starts
  rcases signs with rfl | rfl
  · refine ⟨first, more, rfl, isBlank_eq_false_of_isDigit digit, ?_⟩
    rw [scan_of_isDigit digit, scannedMore]
  · refine ⟨'-', first :: more, rfl, by decide, ?_⟩
    have counted : 0 < digitCount (first :: more ++ rest) := by
      rw [digitCount, List.cons_append, List.takeWhile_cons, if_pos digit]
      exact Nat.succ_pos _
    have signScanned : scan '-' (first :: more ++ rest) =
        if 0 < digitCount (first :: more ++ rest) ∨ (first :: more ++ rest).head? = some '.' then
          scanNumber (first :: more ++ rest) else (.unrecognized, 0) := rfl
    rw [signScanned, if_pos (.inl counted), scanned]

/-- An integer is cut off as one token. -/
theorem fronts_integer {sign digits rest : List Char} (signs : sign = [] ∨ sign = ['-'])
    (nonempty : digits ≠ []) (numeric : ∀ c ∈ digits, c.isDigit) (delimits : Delimits rest) :
    Fronts .integer (sign ++ digits) rest := by
  obtain ⟨first, more, rfl⟩ := List.exists_cons_of_ne_nil nonempty
  exact fronts_signed signs rfl (numeric first List.mem_cons_self)
    (scanNumber_digits numeric delimits)
    (scanNumber_digits (fun c later => numeric c (List.mem_cons_of_mem _ later)) delimits)

theorem fronts_decimal {sign whole fraction rest : List Char} (signs : sign = [] ∨ sign = ['-'])
    (nonempty : whole ≠ []) (numeric : ∀ c ∈ whole, c.isDigit)
    (numericFraction : ∀ c ∈ fraction, c.isDigit) (delimits : Delimits rest) :
    Fronts .decimal (sign ++ (whole ++ '.' :: fraction)) rest := by
  obtain ⟨first, more, rfl⟩ := List.exists_cons_of_ne_nil nonempty
  have numericMore : ∀ c ∈ more, c.isDigit := fun c later =>
    numeric c (List.mem_cons_of_mem _ later)
  have scanned : ∀ {digits : List Char}, (∀ c ∈ digits, c.isDigit) →
      scanNumber (digits ++ '.' :: fraction ++ rest) =
        (.decimal, (digits ++ '.' :: fraction).length) := by
    intro digits allDigits
    rw [List.append_assoc, List.cons_append, scanNumber_pointed allDigits numericFraction delimits,
      List.length_append, List.length_cons, Nat.add_comm 1]
  exact fronts_signed signs rfl (numeric first List.mem_cons_self) (scanned numeric)
    (scanned numericMore)

end Token

end PortableFilter
