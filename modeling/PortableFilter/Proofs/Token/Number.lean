import PortableFilter.Proofs.Token.Continuation

/-! # Numbers with and without a sign

A number behind a sign is one token however it is spelled (`Token.scanNumber_eq_iff`). Without a
sign its first character is read before the rest of it is scanned. A digit that is read so does not
count for the mark of an integer, and behind a point only digits are taken. So a digit with a mark,
and a point with digits and an exponent, are torn into two tokens. All other numbers are one token
with and without a sign (`Token.isOneToken_sign_iff`). -/

namespace PortableFilter.Token

open Text

/-! ## How numbers are spelled -/

/-- One digit or more. -/
def IsDigits (text : List Char) : Prop := text ≠ [] ∧ ∀ c ∈ text, c.isDigit

/-- A mark of an exponent, perhaps a sign, and digits. -/
inductive IsExponent : List Char → Prop where
  | bare {mark : Char} {digits : List Char} (marks : mark = 'e' ∨ mark = 'E')
      (numeric : IsDigits digits) : IsExponent (mark :: digits)
  | signed {mark sign : Char} {digits : List Char} (marks : mark = 'e' ∨ mark = 'E')
      (signs : sign = '+' ∨ sign = '-') (numeric : IsDigits digits) :
      IsExponent (mark :: sign :: digits)

/-- A number without a sign. An integer may have a mark at its end, and a decimal has a point, an
exponent, or both. -/
inductive IsNumeral : TokenKind → List Char → Prop where
  | integer {digits suffix : List Char} (numeric : IsDigits digits)
      (marks : suffix ∈ [[], ['l'], ['L']]) : IsNumeral .integer (digits ++ suffix)
  | pointed {whole places exponent : List Char} (numericWhole : ∀ c ∈ whole, c.isDigit)
      (numericPlaces : ∀ c ∈ places, c.isDigit) (nonempty : whole ≠ [] ∨ places ≠ [])
      (scales : exponent = [] ∨ IsExponent exponent) :
      IsNumeral .decimal (whole ++ '.' :: (places ++ exponent))
  | scaled {whole exponent : List Char} (numeric : IsDigits whole) (scales : IsExponent exponent) :
      IsNumeral .decimal (whole ++ exponent)

/-- A number that is cut into two tokens where it has no sign: a single digit and its mark, or
digits behind a point and their exponent. -/
inductive IsTorn : TokenKind → List Char → Prop where
  | marked {digit mark : Char} (numeric : digit.isDigit) (marks : mark = 'l' ∨ mark = 'L') :
      IsTorn .integer [digit, mark]
  | scaled {places exponent : List Char} (numeric : IsDigits places)
      (scales : IsExponent exponent) : IsTorn .decimal ('.' :: (places ++ exponent))

/-- A text starts with a digit, or with a point and a digit. -/
def StartsNumber (text : List Char) : Prop :=
  ∃ digit rest, digit.isDigit ∧ (text = digit :: rest ∨ text = '.' :: digit :: rest)

/-- A text is one token of a kind from its first character to its last. -/
def IsOneToken (kind : TokenKind) (text : String) : Prop :=
  ∃ token stop, lex text = [token, .finish stop] ∧ token.kind = kind ∧ token.text = text

/-! ## Parts that take all of a text -/

/-- A length of something at the front of a text is that of the whole text, which is not empty. -/
def Fills (length : List Char → Nat) (text : List Char) : Prop :=
  0 < length text ∧ length text = text.length

/-- All characters are counted as digits exactly if all of them are digits. -/
theorem digitCount_eq_length_iff {text : List Char} :
    digitCount text = text.length ↔ ∀ c ∈ text, c.isDigit := by
  rw [← List.takeWhile_eq_self_iff]
  exact ⟨(List.takeWhile_prefix _).eq_of_length, congrArg List.length⟩

/-- Digits are what the count of digits takes whole. -/
theorem isDigits_iff_fills {text : List Char} : IsDigits text ↔ Fills digitCount text := by
  unfold IsDigits Fills
  rw [digitCount_eq_length_iff, ← List.length_pos_iff]
  refine and_congr_left fun numeric => ?_
  rw [digitCount_eq_length_iff.mpr numeric]

/-- What is taken whole with a mark is a mark and what is taken whole behind it. -/
theorem fills_markedLength_iff {isMark : Char → Bool} {length : List Char → Nat}
    {text : List Char} :
    Fills (markedLength isMark length) text ↔
      ∃ mark rest, text = mark :: rest ∧ isMark mark ∧ Fills length rest := by
  unfold Fills
  cases text with
  | nil => simp [markedLength]
  | cons mark rest =>
    rw [markedLength]
    split
    · rename_i marked
      rw [List.length_cons]
      constructor
      · rintro ⟨-, filled⟩
        exact ⟨mark, rest, rfl, marked.1, marked.2, by omega⟩
      · rintro ⟨_, _, ⟨⟩, -, -, filled⟩
        exact ⟨by omega, by omega⟩
    · rename_i unmarked
      refine iff_of_false (fun filled => Nat.lt_irrefl 0 filled.1) ?_
      rintro ⟨_, _, ⟨⟩, isMark, positive, -⟩
      exact unmarked ⟨isMark, positive⟩

/-- The second of two lengths counts only where the first finds nothing. -/
theorem fills_orElse_iff {first second : List Char → Nat} {text : List Char} :
    Fills (fun text => if 0 < first text then first text else second text) text ↔
      Fills first text ∨ first text = 0 ∧ Fills second text := by
  unfold Fills
  by_cases positive : 0 < first text
  · simp [positive, Nat.ne_of_gt positive]
  · simp [Nat.eq_zero_of_not_pos positive]

/-- An exponent is what its length takes whole. -/
theorem isExponent_iff_fills {text : List Char} : IsExponent text ↔ Fills exponentLength text := by
  rw [funext exponentLength_eq_markedLength, fills_markedLength_iff]
  simp only [fills_orElse_iff, fills_markedLength_iff, decide_eq_true_eq, ← isDigits_iff_fills]
  constructor
  · intro exponent
    cases exponent with
    | bare marks numeric => exact ⟨_, _, rfl, marks, .inl numeric⟩
    | @signed mark sign digits marks signs numeric =>
      have noDigit : digitCount (sign :: digits) = 0 := by
        rcases signs with rfl | rfl <;> rfl
      exact ⟨_, _, rfl, marks, .inr ⟨noDigit, _, _, rfl, signs, numeric⟩⟩
  · rintro ⟨mark, _, rfl, marks, numeric | ⟨-, sign, digits, rfl, signs, numeric⟩⟩
    · exact .bare marks numeric
    · exact .signed marks signs numeric

/-- An exponent starts with a mark that belongs to no digits or places. -/
theorem IsExponent.exists_mark {exponent : List Char} (isExponent : IsExponent exponent) :
    ∃ mark rest, exponent = mark :: rest ∧ mark.isDigit = false ∧ mark ≠ '.' := by
  cases isExponent with
  | bare marks | signed marks =>
    refine ⟨_, _, rfl, ?_⟩
    rcases marks with rfl | rfl <;> decide

theorem IsExponent.head?_isDigit {exponent : List Char} (isExponent : IsExponent exponent) :
    ∀ c ∈ exponent.head?, c.isDigit = false := by
  obtain ⟨mark, rest, rfl, noDigit, -⟩ := isExponent.exists_mark
  exact forall_mem_head?_cons noDigit rest

theorem not_isExponent_point (rest : List Char) : ¬ IsExponent ('.' :: rest) := by
  intro isExponent
  obtain ⟨_, _, ⟨⟩, -, noPoint⟩ := isExponent.exists_mark
  exact noPoint rfl

/-- A text starts with as many digits as it does. -/
theorem exists_digits_append (text : List Char) :
    ∃ digits behind, text = digits ++ behind ∧ (∀ c ∈ digits, c.isDigit) ∧
      ∀ c ∈ behind.head?, c.isDigit = false := by
  refine ⟨text.takeWhile Char.isDigit, text.dropWhile Char.isDigit,
    List.takeWhile_append_dropWhile.symm, fun c => List.mem_takeWhile_imp, fun c isHead => ?_⟩
  have stops := List.head?_dropWhile_not Char.isDigit text
  rw [isHead] at stops
  exact stops

/-! ## Numbers that take all of a text -/

/-- The length of a fraction and an exponent at the front of a text. -/
def scaleLength (text : List Char) : Nat :=
  fractionLength text + exponentLength (text.drop (fractionLength text))

/-- What is scanned behind the digits of a number decides what the number is. -/
theorem scanNumber_append {digits behind : List Char} (numeric : ∀ c ∈ digits, c.isDigit)
    (stops : ∀ c ∈ behind.head?, c.isDigit = false) :
    scanNumber (digits ++ behind) =
      if 0 < scaleLength behind then (.decimal, digits.length + scaleLength behind)
      else if 0 < digits.length then (.integer, digits.length + suffixLength behind)
      else (.integer, 0) := by
  simp only [scanNumber, digitCount_append numeric stops, List.drop_left, scaleLength,
    List.drop_length_add_append, Nat.add_assoc]
  rfl

/-- Without a point, only an exponent makes a number a decimal. -/
theorem scaleLength_of_ne {c : Char} (noPoint : c ≠ '.') (rest : List Char) :
    scaleLength (c :: rest) = exponentLength (c :: rest) := by
  rw [scaleLength, fractionLength_of_ne noPoint, Nat.zero_add, List.drop_zero]

/-- Behind a point there are places and perhaps an exponent. -/
theorem scaleLength_point {places exponent : List Char} (numeric : ∀ c ∈ places, c.isDigit)
    (stops : ∀ c ∈ exponent.head?, c.isDigit = false) :
    scaleLength ('.' :: (places ++ exponent)) = 1 + places.length + exponentLength exponent := by
  rw [scaleLength, fractionLength, digitCount_append numeric stops, Nat.add_comm 1,
    List.drop_succ_cons, List.drop_left]

/-- A fraction and an exponent take all of a text exactly if it is an exponent, or a point with
digits and perhaps an exponent. -/
theorem fills_scaleLength_iff {text : List Char} :
    Fills scaleLength text ↔ IsExponent text ∨ ∃ places exponent,
      text = '.' :: (places ++ exponent) ∧ (∀ c ∈ places, c.isDigit) ∧
        (exponent = [] ∨ IsExponent exponent) := by
  cases text with
  | nil =>
    refine iff_of_false (fun filled => Nat.lt_irrefl 0 filled.1) ?_
    rintro (⟨⟨⟩⟩ | ⟨_, _, ⟨⟩, -⟩)
  | cons c rest =>
    by_cases point : c = '.'
    · subst point
      rw [or_iff_right (not_isExponent_point rest)]
      constructor
      · rintro ⟨-, filled⟩
        obtain ⟨places, exponent, rfl, numeric, stops⟩ := exists_digits_append rest
        rw [scaleLength_point numeric stops, List.length_cons, List.length_append] at filled
        refine ⟨places, exponent, rfl, numeric, ?_⟩
        rw [isExponent_iff_fills, Fills, ← List.length_eq_zero_iff]
        omega
      · rintro ⟨places, exponent, same, numeric, scales⟩
        cases same
        have stops : ∀ c ∈ exponent.head?, c.isDigit = false := by
          rcases scales with rfl | isExponent
          · simp
          · exact isExponent.head?_isDigit
        have filled : exponentLength exponent = exponent.length := by
          rcases scales with rfl | isExponent
          · rfl
          · exact (isExponent_iff_fills.mp isExponent).2
        rw [Fills, scaleLength_point numeric stops, List.length_cons, List.length_append, filled]
        omega
    · have noPoint : ¬ ∃ places exponent, c :: rest = '.' :: (places ++ exponent) ∧
          (∀ c ∈ places, c.isDigit) ∧ (exponent = [] ∨ IsExponent exponent) := by
        rintro ⟨_, _, same, -⟩
        exact point (List.cons.inj same).1
      rw [or_iff_left noPoint, isExponent_iff_fills, Fills, scaleLength_of_ne point, Fills]

/-- Behind the digits of an integer there is at most its mark. -/
theorem integer_behind_iff {text : List Char} :
    scaleLength text = 0 ∧ suffixLength text = text.length ↔ text ∈ [[], ['l'], ['L']] := by
  constructor
  · rintro ⟨-, filled⟩
    cases text with
    | nil => exact List.mem_cons_self
    | cons mark rest =>
      rw [suffixLength, List.length_cons] at filled
      split at filled
      · rename_i marks
        cases List.length_eq_zero_iff.mp (show rest.length = 0 by omega)
        rcases marks with rfl | rfl <;> decide
      · omega
  · intro marks
    simp only [List.mem_cons, List.not_mem_nil, or_false] at marks
    rcases marks with rfl | rfl | rfl <;> exact ⟨rfl, rfl⟩

/-- Where a number takes all of a text, a fraction or an exponent takes all that is behind the
digits, or a mark does or nothing. -/
theorem scanNumber_append_eq_iff {digits behind : List Char} {kind : TokenKind}
    (numeric : ∀ c ∈ digits, c.isDigit) (stops : ∀ c ∈ behind.head?, c.isDigit = false) :
    scanNumber (digits ++ behind) = (kind, (digits ++ behind).length) ↔
      kind = .decimal ∧ Fills scaleLength behind ∨
        kind = .integer ∧ behind ∈ [[], ['l'], ['L']] ∧ (digits = [] → behind = []) := by
  rw [scanNumber_append numeric stops, List.length_append]
  by_cases scaled : 0 < scaleLength behind
  · rw [if_pos scaled, Prod.mk.injEq]
    constructor
    · rintro ⟨rfl, filled⟩
      exact .inl ⟨rfl, scaled, by omega⟩
    · rintro (⟨rfl, -, filled⟩ | ⟨-, marks, -⟩)
      · exact ⟨rfl, by omega⟩
      · have unscaled := (integer_behind_iff.mpr marks).1
        omega
  rw [if_neg scaled]
  by_cases nonempty : 0 < digits.length
  · rw [if_pos nonempty, Prod.mk.injEq]
    constructor
    · rintro ⟨rfl, filled⟩
      refine .inr ⟨rfl, integer_behind_iff.mp ⟨by omega, by omega⟩, fun empty => ?_⟩
      rw [empty] at nonempty
      cases nonempty
    · rintro (⟨-, positive, -⟩ | ⟨rfl, marks, -⟩)
      · exact absurd positive scaled
      · have filled := (integer_behind_iff.mpr marks).2
        exact ⟨rfl, by omega⟩
  · rw [if_neg nonempty, Prod.mk.injEq]
    have empty : digits = [] := List.length_eq_zero_iff.mp (by omega)
    constructor
    · rintro ⟨rfl, filled⟩
      have nothing : behind = [] := List.length_eq_zero_iff.mp (by omega)
      exact .inr ⟨rfl, nothing ▸ List.mem_cons_self, fun _ => nothing⟩
    · rintro (⟨-, positive, -⟩ | ⟨rfl, -, only⟩)
      · exact absurd positive scaled
      · rw [empty, only empty]
        exact ⟨rfl, rfl⟩

/-- A digit in front of an exponent is no part of the exponent. -/
theorem ne_nil_of_isDigit {places exponent rest : List Char} {digit : Char}
    (isDigit : digit.isDigit) (same : places ++ exponent = digit :: rest)
    (scales : exponent = [] ∨ IsExponent exponent) : places ≠ [] := by
  rintro rfl
  rw [List.nil_append] at same
  subst same
  rcases scales with empty | isExponent
  · cases empty
  · exact absurd isDigit (Bool.eq_false_iff.mp (isExponent.head?_isDigit digit rfl))

/-- A number takes all of what can be a number exactly if it is spelled as one. -/
theorem scanNumber_eq_iff {text : List Char} {kind : TokenKind} (starts : StartsNumber text) :
    scanNumber text = (kind, text.length) ↔ IsNumeral kind text := by
  constructor
  · intro scanned
    obtain ⟨digits, behind, rfl, numeric, stops⟩ := exists_digits_append text
    -- Without a digit in front, the text starts with a point.
    have point : digits = [] → ∃ digit rest, digit.isDigit ∧ behind = '.' :: digit :: rest := by
      rintro rfl
      obtain ⟨digit, rest, isDigit, rfl | rfl⟩ := starts
      · exact absurd isDigit (Bool.eq_false_iff.mp (stops digit rfl))
      · exact ⟨digit, rest, isDigit, rfl⟩
    rcases (scanNumber_append_eq_iff numeric stops).mp scanned with
      ⟨rfl, filled⟩ | ⟨rfl, marks, only⟩
    · rcases fills_scaleLength_iff.mp filled with
        scales | ⟨places, exponent, rfl, numericPlaces, scales⟩
      · refine .scaled ⟨fun empty => ?_, numeric⟩ scales
        obtain ⟨_, _, -, rfl⟩ := point empty
        exact not_isExponent_point _ scales
      · refine .pointed numeric numericPlaces ?_ scales
        by_cases empty : digits = []
        · obtain ⟨digit, rest, isDigit, same⟩ := point empty
          exact .inr (ne_nil_of_isDigit isDigit (List.cons.inj same).2 scales)
        · exact .inl empty
    · refine .integer ⟨fun empty => ?_, numeric⟩ marks
      obtain ⟨_, _, -, isPoint⟩ := point empty
      rw [only empty] at isPoint
      cases isPoint
  · intro numeral
    cases numeral with
    | @integer digits suffix numeric marks =>
      have stops : ∀ c ∈ suffix.head?, c.isDigit = false := by
        simp only [List.mem_cons, List.not_mem_nil, or_false] at marks
        rcases marks with rfl | rfl | rfl <;> simp
      exact (scanNumber_append_eq_iff numeric.2 stops).mpr
        (.inr ⟨rfl, marks, fun empty => absurd empty numeric.1⟩)
    | @pointed whole places exponent numericWhole numericPlaces _ scales =>
      have stops : ∀ c ∈ ('.' :: (places ++ exponent)).head?, c.isDigit = false :=
        forall_mem_head?_cons (by decide) _
      have filled : Fills scaleLength ('.' :: (places ++ exponent)) :=
        fills_scaleLength_iff.mpr (.inr ⟨places, exponent, rfl, numericPlaces, scales⟩)
      exact (scanNumber_append_eq_iff numericWhole stops).mpr (.inl ⟨rfl, filled⟩)
    | scaled numeric scales =>
      exact (scanNumber_append_eq_iff numeric.2 scales.head?_isDigit).mpr
        (.inl ⟨rfl, fills_scaleLength_iff.mpr (.inl scales)⟩)

/-! ## Numbers without a sign -/

section

variable {kind : TokenKind} {digit : Char} (isDigit : digit.isDigit)

include isDigit

/-- What is torn behind a digit is a digit with a mark. -/
theorem isTorn_digit_iff {more : List Char} :
    IsTorn kind (digit :: more) ↔ kind = .integer ∧ (more = ['l'] ∨ more = ['L']) := by
  constructor
  · intro torn
    generalize spelled : digit :: more = text at torn
    cases torn with
    | marked numeric marks =>
      cases spelled
      rcases marks with rfl | rfl
      · exact ⟨rfl, .inl rfl⟩
      · exact ⟨rfl, .inr rfl⟩
    | scaled =>
      rw [(List.cons.inj spelled).1] at isDigit
      cases isDigit
  · rintro ⟨rfl, rfl | rfl⟩
    · exact .marked isDigit (.inl rfl)
    · exact .marked isDigit (.inr rfl)

/-- What is torn behind a point is digits with an exponent. -/
theorem isTorn_point_iff {rest : List Char} :
    IsTorn kind ('.' :: digit :: rest) ↔ kind = .decimal ∧ ∃ places exponent,
      digit :: rest = places ++ exponent ∧ (∀ c ∈ places, c.isDigit) ∧ IsExponent exponent := by
  constructor
  · intro torn
    generalize spelled : '.' :: digit :: rest = text at torn
    cases torn with
    | marked numeric =>
      cases spelled
      cases numeric
    | @scaled places exponent numeric scales =>
      exact ⟨rfl, places, exponent, (List.cons.inj spelled).2, numeric.2, scales⟩
  · rintro ⟨rfl, places, exponent, same, numeric, scales⟩
    rw [same]
    exact .scaled ⟨ne_nil_of_isDigit isDigit same.symm (.inr scales), numeric⟩ scales

/-- A number behind a digit takes all that is left exactly if both are spelled as a number, and it
is not a single digit with its mark. -/
theorem scanNumber_eq_iff_of_digit {more : List Char} :
    scanNumber more = (kind, more.length) ↔
      IsNumeral kind (digit :: more) ∧ ¬ IsTorn kind (digit :: more) := by
  rw [isTorn_digit_iff isDigit, ← scanNumber_eq_iff ⟨digit, more, isDigit, .inl rfl⟩]
  obtain ⟨digits, behind, rfl, numeric, stops⟩ := exists_digits_append more
  rw [← List.cons_append, scanNumber_append_eq_iff numeric stops,
    scanNumber_append_eq_iff (List.forall_mem_cons.mpr ⟨isDigit, numeric⟩) stops]
  constructor
  · rintro (⟨rfl, filled⟩ | ⟨rfl, marks, only⟩)
    · exact ⟨.inl ⟨rfl, filled⟩, fun torn => by cases torn.1⟩
    · refine ⟨.inr ⟨rfl, marks, fun none => by cases none⟩, ?_⟩
      rintro ⟨-, same⟩
      cases digits with
      | nil =>
        rw [only rfl] at same
        rcases same with same | same <;> cases same
      | cons first digits =>
        have isFirst := numeric first List.mem_cons_self
        rcases same with same | same <;> rw [(List.cons.inj same).1] at isFirst <;> cases isFirst
  · rintro ⟨⟨rfl, filled⟩ | ⟨rfl, marks, -⟩, whole⟩
    · exact .inl ⟨rfl, filled⟩
    · refine .inr ⟨rfl, marks, ?_⟩
      rintro rfl
      simp only [List.mem_cons, List.not_mem_nil, or_false] at marks
      rcases marks with rfl | rfl | rfl
      · rfl
      · exact absurd ⟨rfl, .inl rfl⟩ whole
      · exact absurd ⟨rfl, .inr rfl⟩ whole

/-- A point takes all that is left exactly if both are spelled as a number without an exponent. -/
theorem scan_point_eq_iff {rest : List Char} :
    scan '.' (digit :: rest) = (kind, (digit :: rest).length) ↔
      IsNumeral kind ('.' :: digit :: rest) ∧ ¬ IsTorn kind ('.' :: digit :: rest) := by
  have positive : 0 < digitCount (digit :: rest) := by
    rw [digitCount, List.takeWhile_cons, if_pos isDigit]
    exact Nat.succ_pos _
  have scanned : scan '.' (digit :: rest) = (.decimal, digitCount (digit :: rest)) :=
    if_pos positive
  rw [isTorn_point_iff isDigit, ← scanNumber_eq_iff ⟨digit, rest, isDigit, .inr rfl⟩, scanned,
    Prod.mk.injEq, digitCount_eq_length_iff]
  have covers := @scanNumber_append_eq_iff [] ('.' :: digit :: rest) kind (by simp)
    (forall_mem_head?_cons (by decide) _)
  rw [List.nil_append] at covers
  rw [covers, fills_scaleLength_iff]
  constructor
  · rintro ⟨rfl, numeric⟩
    refine ⟨.inl ⟨rfl, .inr ⟨digit :: rest, [], ?_, numeric, .inl rfl⟩⟩, ?_⟩
    · rw [List.append_nil]
    · rintro ⟨-, places, exponent, same, -, scales⟩
      obtain ⟨mark, later, rfl, noDigit, -⟩ := scales.exists_mark
      have isMember : mark ∈ digit :: rest := by
        rw [same]
        exact List.mem_append_right _ List.mem_cons_self
      exact absurd (numeric mark isMember) (Bool.eq_false_iff.mp noDigit)
  · rintro ⟨⟨rfl, scales | ⟨places, exponent, same, numeric, scales⟩⟩ | ⟨-, marks, -⟩, whole⟩
    · exact absurd scales (not_isExponent_point _)
    · rcases scales with rfl | isExponent
      · rw [(List.cons.inj same).2, List.append_nil]
        exact ⟨rfl, numeric⟩
      · exact absurd ⟨rfl, places, exponent, (List.cons.inj same).2, numeric, isExponent⟩ whole
    · simp at marks

end

/-! ## One token -/

/-- A text is one token exactly if a scan from its first character takes all of it. -/
theorem isOneToken_iff {kind : TokenKind} {text : String} {first : Char} {rest : List Char}
    (spelled : text.toList = first :: rest) (solid : isBlank first = false) :
    IsOneToken kind text ↔ scan first rest = (kind, rest.length) := by
  unfold IsOneToken
  rw [lex, spelled, lexFrom_token solid]
  constructor
  · rintro ⟨token, stop, cut, isKind, isWhole⟩
    obtain ⟨rfl, -⟩ := List.cons.inj cut
    have whole : first :: rest.take (scan first rest).2 = first :: rest := by
      rw [← spelled, ← isWhole]
      exact String.toList_ofList.symm
    have many : rest.length ≤ (scan first rest).2 := by
      have taken := congrArg List.length (List.cons.inj whole).2
      rw [List.length_take] at taken
      omega
    exact Prod.ext isKind (Nat.le_antisymm ((localScan_scan first).le_length rest) many)
  · intro scanned
    rw [tokenAt, scanned, List.take_length, List.drop_length, lexFrom_nil]
    refine ⟨_, _, rfl, rfl, ?_⟩
    rw [← spelled, String.ofList_toList]

/-- Behind a sign a number is scanned as a whole. -/
theorem scan_sign {sign : Char} (signs : sign = '-' ∨ sign = '+') {text : List Char}
    (starts : StartsNumber text) : scan sign text = scanNumber text := by
  have number : 0 < digitCount text ∨ text.head? = some '.' := by
    obtain ⟨digit, rest, isDigit, rfl | rfl⟩ := starts
    · rw [digitCount, List.takeWhile_cons, if_pos isDigit]
      exact .inl (Nat.succ_pos _)
    · exact .inr rfl
  rcases signs with rfl | rfl <;> exact if_pos number

/-- What is torn is a number all the same. -/
theorem IsTorn.isNumeral {kind : TokenKind} {text : List Char} (torn : IsTorn kind text) :
    IsNumeral kind text := by
  cases torn with
  | @marked digit mark numeric marks =>
    have single : IsDigits [digit] := ⟨List.cons_ne_nil _ _, by simpa using numeric⟩
    refine @IsNumeral.integer [digit] [mark] single ?_
    rcases marks with rfl | rfl <;> decide
  | scaled numeric scales =>
    exact @IsNumeral.pointed [] _ _ (by simp) numeric.2 (.inr numeric.1) (.inr scales)

/-- Behind a sign every number is one token. Without a sign a number is one token unless it is torn,
so the sign makes a difference to these numbers and to no others. -/
theorem isOneToken_sign_iff {sign numeral : String} {kind : TokenKind}
    (signs : sign = "-" ∨ sign = "+") (starts : StartsNumber numeral.toList) :
    (IsOneToken kind (sign ++ numeral) ↔ IsNumeral kind numeral.toList) ∧
    (IsOneToken kind numeral ↔ IsNumeral kind numeral.toList ∧ ¬ IsTorn kind numeral.toList) ∧
    ((IsOneToken kind (sign ++ numeral) ↔ IsOneToken kind numeral) ↔
      ¬ IsTorn kind numeral.toList) := by
  have signed : IsOneToken kind (sign ++ numeral) ↔ IsNumeral kind numeral.toList := by
    obtain ⟨c, isSign, isChar, solid⟩ :
        ∃ c, (c = '-' ∨ c = '+') ∧ sign.toList = [c] ∧ isBlank c = false := by
      rcases signs with rfl | rfl
      · exact ⟨'-', .inl rfl, rfl, by decide⟩
      · exact ⟨'+', .inr rfl, rfl, by decide⟩
    have spelled : (sign ++ numeral).toList = c :: numeral.toList := by
      rw [String.toList_append, isChar, List.singleton_append]
    rw [isOneToken_iff spelled solid, scan_sign isSign starts, scanNumber_eq_iff starts]
  have unsigned : IsOneToken kind numeral ↔
      IsNumeral kind numeral.toList ∧ ¬ IsTorn kind numeral.toList := by
    obtain ⟨digit, rest, isDigit, spelled | spelled⟩ := starts
    · rw [isOneToken_iff spelled (isBlank_eq_false_of_isDigit isDigit), scan_of_isDigit isDigit,
        spelled, scanNumber_eq_iff_of_digit isDigit]
    · rw [isOneToken_iff spelled (by decide), spelled, scan_point_eq_iff isDigit]
  refine ⟨signed, unsigned, ?_⟩
  rw [signed, unsigned]
  exact ⟨fun same torn => (same.mp torn.isNumeral).2 torn,
    fun whole => ⟨fun isNumeral => ⟨isNumeral, whole⟩, And.left⟩⟩

/-- Two digits with a mark are one token with and without a sign. -/
theorem isOneToken_sign_iff_marked :
    ("-" = "-" ∨ "-" = "+") ∧ StartsNumber "12L".toList ∧
      IsOneToken .integer ("-" ++ "12L") ∧ IsOneToken .integer "12L" := by
  have starts : StartsNumber "12L".toList := ⟨'1', ['2', 'L'], by decide, .inl rfl⟩
  obtain ⟨signed, unsigned, -⟩ := @isOneToken_sign_iff "-" "12L" .integer (.inl rfl) starts
  have isNumeral : IsNumeral .integer "12L".toList :=
    @IsNumeral.integer ['1', '2'] ['L'] ⟨by decide, List.all_eq_true.mp (by decide)⟩ (by decide)
  have whole : ¬ IsTorn .integer "12L".toList := by
    rintro ⟨⟩
  exact ⟨.inl rfl, starts, signed.mpr isNumeral, unsigned.mpr ⟨isNumeral, whole⟩⟩

/-- A single digit with a mark, and an exponent behind a point, are one token only with a sign. -/
theorem not_isOneToken_torn :
    (IsOneToken .integer "-1L" ∧ ¬ IsOneToken .integer "1L") ∧
      IsOneToken .decimal "+.5e3" ∧ ¬ IsOneToken .decimal ".5e3" := by
  refine ⟨⟨?_, ?_⟩, ?_, ?_⟩
  · exact (isOneToken_iff rfl (by decide)).mpr (by decide)
  · exact (isOneToken_iff rfl (by decide)).not.mpr (by decide)
  · exact (isOneToken_iff rfl (by decide)).mpr (by decide)
  · exact (isOneToken_iff rfl (by decide)).not.mpr (by decide)

end PortableFilter.Token
