import PortableFilter.Proofs.Token.Literal

/-! # Cutting a text off and continuing it

Which token starts at a character is settled by the token's own characters and by few behind it,
and a delimiter behind it never makes it longer. So a text can be cut off behind any of its tokens
that are recognized, and what stands before stays as it is (`Token.exists_front_of_lexFrom`). Every
kind of recognized token has a spelling, and so every list of such kinds
(`Token.exists_lexFrom_samples`). -/

namespace PortableFilter

namespace Token

open Text

/-! ## Lengths that a delimiter does not change -/

/-- A length of something at the front of a text that does not depend on what is behind it, if
that starts with a delimiter. -/
structure LocalLength (length : List Char → Nat) : Prop where
  le_length : ∀ text, length text ≤ text.length
  congr : ∀ {front back rest : List Char}, length (front ++ back) ≤ front.length →
    Delimits rest → length (front ++ rest) = length (front ++ back)

/-- Where a run of characters ends within a text, it does not matter what comes behind. -/
theorem takeWhile_append_congr {p : Char → Bool} {front back rest : List Char}
    (within : ((front ++ back).takeWhile p).length ≤ front.length)
    (ends : ∀ c ∈ rest.head?, p c = false) :
    (front ++ rest).takeWhile p = (front ++ back).takeWhile p := by
  induction front with
  | nil =>
    have stops : ([] ++ rest).takeWhile p = [] := takeWhile_append_of_head (by simp) ends
    rw [stops]
    exact (List.length_eq_zero_iff.mp (Nat.le_zero.mp within)).symm
  | cons c front ih =>
    by_cases continues : p c
    · simp only [List.cons_append, List.takeWhile_cons, continues, if_true, List.length_cons]
        at within ⊢
      rw [ih (Nat.le_of_succ_le_succ within)]
    · simp only [List.cons_append, List.takeWhile_cons, continues, Bool.false_eq_true, if_false]

/-- How many digits stand at the front is decided by the text up to a delimiter. -/
theorem localLength_digitCount : LocalLength digitCount := by
  refine ⟨fun text => (List.takeWhile_prefix _).length_le, fun within delimits => ?_⟩
  exact congrArg List.length
    (takeWhile_append_congr within (isDigit_eq_false_of_delimits delimits))

theorem localLength_fractionLength : LocalLength fractionLength := by
  constructor
  · intro text
    cases text with
    | nil => exact Nat.le_refl _
    | cons c text =>
      by_cases point : c = '.'
      · subst point
        have digits := localLength_digitCount.le_length text
        rw [fractionLength, List.length_cons]
        omega
      · rw [fractionLength_of_ne point]
        exact Nat.zero_le _
  · intro front back rest within delimits
    cases front with
    | nil => exact (no_part_of_delimits delimits).1.trans (Nat.le_zero.mp within).symm
    | cons c front =>
      by_cases point : c = '.'
      · subst point
        rw [List.cons_append, fractionLength, List.length_cons] at within
        have few : digitCount (front ++ back) ≤ front.length := by omega
        rw [List.cons_append, fractionLength, List.cons_append, fractionLength,
          localLength_digitCount.congr few delimits]
      · rw [List.cons_append, List.cons_append, fractionLength_of_ne point,
          fractionLength_of_ne point]

/-- The length of something behind a mark, and of the mark; there is no mark without something
behind it. -/
def markedLength (isMark : Char → Bool) (length : List Char → Nat) : List Char → Nat
  | [] => 0
  | mark :: text => if isMark mark ∧ 0 < length text then 1 + length text else 0

/-- A length behind a mark is decided by the text up to a delimiter if the length itself is, and no
delimiter is such a mark. -/
theorem localLength_markedLength {isMark : Char → Bool} {length : List Char → Nat}
    (noMark : ∀ c, isDelimiter c → isMark c = false) (behind : LocalLength length) :
    LocalLength (markedLength isMark length) := by
  constructor
  · intro text
    cases text with
    | nil => exact Nat.le_refl _
    | cons mark text =>
      have later := behind.le_length text
      rw [markedLength, List.length_cons]
      split <;> omega
  · intro front back rest within delimits
    cases front with
    | nil =>
      refine Eq.trans ?_ (Nat.le_zero.mp within).symm
      cases rest with
      | nil => rfl
      | cons c rest =>
        have plain := noMark c (delimits c rfl)
        simp only [List.nil_append, markedLength, plain, Bool.false_eq_true, false_and, if_false]
    | cons mark front =>
      simp only [List.cons_append, markedLength, List.length_cons] at within ⊢
      by_cases marks : isMark mark
      · have fewer : length (front ++ back) ≤ front.length := by
          simp only [marks, true_and] at within
          split_ifs at within <;> omega
        simp only [behind.congr fewer delimits]
      · rw [if_neg fun marked => marks marked.1, if_neg fun marked => marks marked.1]

/-- The first of two lengths that is not zero. -/
theorem LocalLength.orElse {first second : List Char → Nat} (isFirst : LocalLength first)
    (isSecond : LocalLength second) :
    LocalLength fun text => if 0 < first text then first text else second text := by
  constructor
  · intro text
    have firstLength := isFirst.le_length text
    have secondLength := isSecond.le_length text
    split <;> assumption
  · intro front back rest within delimits
    have fewFirst : first (front ++ back) ≤ front.length := by
      split_ifs at within <;> omega
    simp only [isFirst.congr fewFirst delimits]
    split
    · rfl
    · rename_i none
      rw [if_neg none] at within
      exact isSecond.congr within delimits

/-- The digits of an exponent stand directly behind its mark or behind a sign. -/
theorem exponentLength_eq_markedLength (text : List Char) :
    exponentLength text = markedLength (fun c => c = 'e' ∨ c = 'E')
      (fun text => if 0 < digitCount text then digitCount text
        else markedLength (fun c => c = '+' ∨ c = '-') digitCount text) text := by
  cases text with
  | nil => rfl
  | cons mark text =>
    rw [exponentLength.eq_def]
    by_cases isMark : mark = 'e' ∨ mark = 'E'
    · refine (if_pos isMark).trans ?_
      cases text with
      | nil => simp [markedLength, digitCount]
      | cons sign digits =>
        by_cases digit : sign.isDigit
        · simp [markedLength, digitCount, isMark, digit]
        · have none : digitCount (sign :: digits) = 0 := by
            rw [digitCount, List.takeWhile_cons, if_neg digit, List.length_nil]
          by_cases signed : (sign = '+' ∨ sign = '-') ∧ 0 < digitCount digits
          · simp [markedLength, isMark, digit, none, signed, ← Nat.add_assoc]
          · simp [markedLength, isMark, digit, none, signed]
    · refine (if_neg isMark).trans ?_
      simp [markedLength, isMark]

theorem localLength_exponentLength : LocalLength exponentLength := by
  have noMark : ∀ {first second : Char}, isDelimiter first = false → isDelimiter second = false →
      ∀ c, isDelimiter c → decide (c = first ∨ c = second) = false := by
    intro first second noFirst noSecond c delimiter
    apply decide_eq_false
    intro mark
    rcases mark with rfl | rfl
    · exact absurd delimiter (Bool.eq_false_iff.mp noFirst)
    · exact absurd delimiter (Bool.eq_false_iff.mp noSecond)
  have signed : LocalLength (markedLength (fun c => c = '+' ∨ c = '-') digitCount) :=
    localLength_markedLength (noMark (by decide) (by decide)) localLength_digitCount
  have marked : LocalLength (markedLength (fun c => c = 'e' ∨ c = 'E') _) :=
    localLength_markedLength (noMark (by decide) (by decide)) (localLength_digitCount.orElse signed)
  rwa [← funext exponentLength_eq_markedLength] at marked

theorem localLength_suffixLength : LocalLength suffixLength := by
  constructor
  · intro text
    cases text with
    | nil => exact Nat.le_refl _
    | cons mark text =>
      rw [suffixLength, List.length_cons]
      split <;> omega
  · intro front back rest within delimits
    cases front with
    | nil => exact (no_part_of_delimits delimits).2.2.trans (Nat.le_zero.mp within).symm
    | cons mark front => rfl

/-! ## Tokens that a delimiter does not change -/

/-- A scan takes no more characters than there are, and finds the same token in front of another
text that starts with a delimiter. -/
structure LocalScan (scan : List Char → TokenKind × Nat) : Prop where
  le_length : ∀ text, (scan text).2 ≤ text.length
  congr : ∀ {front back rest : List Char}, (scan (front ++ back)).1 ≠ .unrecognized →
    (scan (front ++ back)).2 ≤ front.length → Delimits rest →
    scan (front ++ rest) = scan (front ++ back)

theorem localScan_constant (kind : TokenKind) : LocalScan fun _ => (kind, 0) :=
  ⟨fun _ => Nat.zero_le _, fun _ _ _ => rfl⟩

/-- A number contains the digits at its front. -/
theorem digitCount_le_scanNumber (text : List Char) : digitCount text ≤ (scanNumber text).2 := by
  simp only [scanNumber]
  split_ifs <;> dsimp only <;> omega

theorem fractionLength_le_scanNumber (text : List Char) :
    fractionLength (text.drop (digitCount text)) ≤ (scanNumber text).2 := by
  simp only [scanNumber]
  split_ifs <;> dsimp only <;> omega

/-- Where a number ends is decided by the text up to a delimiter. -/
theorem localScan_scanNumber : LocalScan scanNumber := by
  constructor
  · intro text
    have whole := localLength_digitCount.le_length text
    have fraction := localLength_fractionLength.le_length (text.drop (digitCount text))
    have exponent := localLength_exponentLength.le_length
      (text.drop (digitCount text + fractionLength (text.drop (digitCount text))))
    have suffix := localLength_suffixLength.le_length (text.drop (digitCount text))
    simp only [List.length_drop] at fraction exponent suffix
    simp only [scanNumber]
    split_ifs
    · omega
    · omega
    · exact Nat.zero_le _
  · intro front back rest _ within delimits
    have whole := (digitCount_le_scanNumber (front ++ back)).trans within
    simp only [scanNumber] at within ⊢
    rw [localLength_digitCount.congr whole delimits]
    generalize digitCount (front ++ back) = count at whole within ⊢
    rw [List.drop_append_of_le_length whole] at within ⊢
    rw [List.drop_append_of_le_length whole]
    have fraction : fractionLength (front.drop count ++ back) ≤ (front.drop count).length := by
      rw [List.length_drop]
      split_ifs at within <;> dsimp only at within <;> omega
    rw [localLength_fractionLength.congr fraction delimits]
    rw [List.length_drop] at fraction
    have both : count + fractionLength (front.drop count ++ back) ≤ front.length := by omega
    generalize fractionLength (front.drop count ++ back) = places at both within ⊢
    rw [List.drop_append_of_le_length both] at within ⊢
    rw [List.drop_append_of_le_length both]
    have exponent : exponentLength (front.drop (count + places) ++ back) ≤
        (front.drop (count + places)).length := by
      rw [List.length_drop]
      split_ifs at within <;> dsimp only at within <;> omega
    rw [localLength_exponentLength.congr exponent delimits]
    split_ifs at within ⊢
    · rfl
    · have suffix : suffixLength (front.drop count ++ back) ≤ (front.drop count).length := by
        rw [List.length_drop]
        omega
      rw [localLength_suffixLength.congr suffix delimits]
    · rfl

/-- Behind a sign, a digit or a point starts a number. -/
theorem localScan_signed :
    LocalScan fun text =>
      if 0 < digitCount text ∨ text.head? = some '.' then scanNumber text
      else (.unrecognized, 0) := by
  constructor
  · intro text
    split
    · exact localScan_scanNumber.le_length text
    · exact Nat.zero_le _
  · intro front back rest recognized within delimits
    have starts : 0 < digitCount (front ++ back) ∨ (front ++ back).head? = some '.' := by
      by_contra nothing
      rw [if_neg nothing] at recognized
      exact recognized rfl
    rw [if_pos starts] at recognized within ⊢
    have few := (digitCount_le_scanNumber (front ++ back)).trans within
    have again : 0 < digitCount (front ++ rest) ∨ (front ++ rest).head? = some '.' := by
      rw [localLength_digitCount.congr few delimits]
      refine starts.imp_right fun point => ?_
      cases front with
      | nil =>
        -- The point would be part of the number.
        obtain ⟨places, rfl⟩ := List.head?_eq_some_iff.mp point
        have pointed : 0 < fractionLength ('.' :: places) := by
          rw [fractionLength]
          omega
        have counted := fractionLength_le_scanNumber ('.' :: places)
        exact absurd (pointed.trans_le (counted.trans within)) (Nat.lt_irrefl 0)
      | cons c front => exact point
    rw [if_pos again]
    exact localScan_scanNumber.congr recognized within delimits

/-- A sign of one or two characters, as the second one is there or not. -/
theorem localScan_second {second : Char} (solid : isDelimiter second = false)
    (long short : TokenKind) :
    LocalScan fun text => if text.head? = some second then (long, 1) else (short, 0) := by
  constructor
  · intro text
    cases text with
    | nil => exact Nat.le_refl _
    | cons c text =>
      rw [List.length_cons]
      split
      · exact Nat.succ_le_succ (Nat.zero_le _)
      · exact Nat.zero_le _
  · intro front back rest recognized within delimits
    cases front with
    | nil =>
      have noSecond : ¬ back.head? = some second := by
        intro here
        simp only [List.nil_append, here, if_true, List.length_nil] at within
        omega
      have noOther : ¬ rest.head? = some second := fun here =>
        absurd (delimits second here) (Bool.eq_false_iff.mp solid)
      simp only [List.nil_append, noSecond, noOther, if_false]
    | cons c front => rfl

/-- Where a word ends is decided by the text up to a delimiter. -/
theorem localScan_scanWord (first : Char) : LocalScan (scanWord first) := by
  refine ⟨fun text => (List.takeWhile_prefix _).length_le, fun _ within delimits => ?_⟩
  rw [scanWord, scanWord, takeWhile_append_congr within (endsWord_of_delimits delimits)]

/-- Whether a point starts a number is decided by the text up to a delimiter. -/
theorem localScan_point :
    LocalScan fun text =>
      if 0 < digitCount text then (.decimal, digitCount text) else (.dot, 0) := by
  constructor
  · intro text
    split
    · exact localLength_digitCount.le_length text
    · exact Nat.zero_le _
  · intro front back rest recognized within delimits
    have few : digitCount (front ++ back) ≤ front.length := by
      split_ifs at within <;> omega
    simp only [localLength_digitCount.congr few delimits]

/-- A quoted text is no longer than what is there. -/
theorem scanQuoted_le_length (quote : Char) (text : List Char) :
    (scanQuoted quote text).2 ≤ text.length := by
  fun_induction scanQuoted quote text with
  | case1 => exact Nat.le_refl _
  | case2 => exact Nat.le_refl _
  | case3 => exact Nat.succ_le_succ (Nat.zero_le _)
  | case4 escaped rest continues closed length scanned ih =>
    rw [scanned] at ih
    exact Nat.succ_le_succ (Nat.succ_le_succ ih)
  | case5 => exact Nat.zero_le _
  | case6 => exact Nat.succ_le_succ (Nat.zero_le _)
  | case7 c rest _ _ continues differs closed length scanned ih =>
    rw [scanned] at ih
    exact Nat.succ_le_succ ih

/-- Where a quoted text ends is decided by the text up to its closing quote. -/
theorem localScan_quote {quote : Char} (quotes : quote = '"' ∨ quote = '\'') :
    LocalScan (scan quote) := by
  have plain : quote ≠ '\\' := by
    rcases quotes with rfl | rfl <;> decide
  constructor
  · intro text
    rw [scan_quote quotes]
    exact scanQuoted_le_length quote text
  · intro front back rest recognized within delimits
    rw [scan_quote quotes] at recognized within ⊢
    rw [scan_quote quotes]
    obtain ⟨closed, length, scanned⟩ :
        ∃ closed length, scanQuoted quote (front ++ back) = (closed, length) := ⟨_, _, rfl⟩
    rw [scanned] at recognized within ⊢
    cases closed with
    | false => exact absurd rfl recognized
    | true =>
      obtain ⟨inside, taken, -, -, again⟩ := scanQuoted_take plain scanned
      rw [List.take_append_of_le_length within] at taken
      have split : front = inside ++ quote :: front.drop length := by
        rw [← List.singleton_append, ← List.append_assoc, ← taken, List.take_append_drop]
      rw [split, List.append_assoc, List.cons_append, again]

/-- What is no bracket, no sign, no point and no quote can start a number or a word. -/
theorem scan_of_ordinary {first : Char} (noBracket : first ∉ ['(', ')', '[', ']', ','])
    (noSign : first ∉ ['=', '!', '<', '>', '&', '|']) (noPoint : first ≠ '.')
    (noQuote : ¬ (first = '"' ∨ first = '\'')) (rest : List Char) :
    scan first rest =
      if first = '-' ∨ first = '+' then
        if 0 < digitCount rest ∨ rest.head? = some '.' then scanNumber rest else (.unrecognized, 0)
      else if first.isDigit then scanNumber rest
      else if startsName first then scanWord first rest
      else (.unrecognized, 0) := by
  unfold scan
  split
  case h_12 => exact absurd rfl noPoint
  case h_13 => exact absurd (.inl rfl) noQuote
  case h_14 => exact absurd (.inr rfl) noQuote
  case h_15 => rfl
  case h_1 | h_2 | h_3 | h_4 | h_5 => exact absurd (by decide) noBracket
  case h_6 | h_7 | h_8 | h_9 | h_10 | h_11 => exact absurd (by decide) noSign

/-- What holds of each way to scan a token holds of the scan that its first character selects. -/
theorem scan_cases {p : (List Char → TokenKind × Nat) → Prop}
    (constant : ∀ kind, p fun _ => (kind, 0))
    (second : ∀ {sign : Char}, isDelimiter sign = false → ∀ long short,
      p fun text => if text.head? = some sign then (long, 1) else (short, 0))
    (point : p fun text =>
      if 0 < digitCount text then (.decimal, digitCount text) else (.dot, 0))
    (quote : ∀ {quote : Char}, quote = '"' ∨ quote = '\'' → p (scan quote))
    (signed : p fun text =>
      if 0 < digitCount text ∨ text.head? = some '.' then scanNumber text
      else (.unrecognized, 0))
    (number : p scanNumber) (word : ∀ first, p (scanWord first)) (first : Char) :
    p (scan first) := by
  by_cases bracket : first ∈ ['(', ')', '[', ']', ',']
  · simp only [List.mem_cons, List.not_mem_nil, or_false] at bracket
    rcases bracket with rfl | rfl | rfl | rfl | rfl <;> exact constant _
  by_cases sign : first ∈ ['=', '!', '<', '>', '&', '|']
  · simp only [List.mem_cons, List.not_mem_nil, or_false] at sign
    rcases sign with rfl | rfl | rfl | rfl | rfl | rfl <;> exact second (by decide) _ _
  by_cases points : first = '.'
  · subst points
    exact point
  by_cases quotes : first = '"' ∨ first = '\''
  · exact quote quotes
  rw [funext (scan_of_ordinary bracket sign points quotes)]
  by_cases signs : first = '-' ∨ first = '+'
  · simp only [signs, if_true]
    exact signed
  by_cases digit : first.isDigit
  · simp only [signs, digit, if_true, if_false]
    exact number
  by_cases starts : startsName first
  · simp only [signs, digit, starts, if_true, if_false, Bool.false_eq_true]
    exact word first
  · simp only [signs, digit, starts, if_false, Bool.false_eq_true]
    exact constant _

/-- Whatever a token starts with, a delimiter behind it does not change it. -/
theorem localScan_scan (first : Char) : LocalScan (scan first) :=
  scan_cases localScan_constant localScan_second localScan_point localScan_quote localScan_signed
    localScan_scanNumber localScan_scanWord first

/-! ## Texts that are cut off and continued -/

/-- Blanks before a text only move its position. -/
theorem lexFrom_blanks {blanks : List Char} (areBlank : ∀ c ∈ blanks, isBlank c)
    (position : Position) (rest : List Char) :
    lexFrom position (blanks ++ rest) = lexFrom (position.after blanks) rest := by
  induction blanks generalizing position with
  | nil => rfl
  | cons c blanks ih =>
    obtain ⟨blank, later⟩ := List.forall_mem_cons.mp areBlank
    rw [List.cons_append, lexFrom_blank blank, ih later, Position.after_cons]

/-- A text of blanks has no token but its end. -/
theorem lexFrom_of_blank {text : List Char} (areBlank : ∀ c ∈ text, isBlank c)
    (position : Position) : lexFrom position text = [.finish (position.after text)] := by
  rw [← List.append_nil text, lexFrom_blanks areBlank, lexFrom_nil, List.append_nil]

/-- Behind its blanks a text ends, or a token starts. -/
theorem blank_or_exists_solid (text : List Char) :
    (∀ c ∈ text, isBlank c) ∨ ∃ blanks first later, text = blanks ++ first :: later ∧
      (∀ c ∈ blanks, isBlank c) ∧ isBlank first = false := by
  have blanks : ∀ c ∈ text.takeWhile isBlank, isBlank c := fun c => List.mem_takeWhile_imp
  have split := List.takeWhile_append_dropWhile (p := isBlank) (l := text)
  cases front : text.dropWhile isBlank with
  | nil =>
    rw [front, List.append_nil] at split
    exact .inl (split ▸ blanks)
  | cons first later =>
    have stops := List.head?_dropWhile_not isBlank text
    rw [front] at split stops
    exact .inr ⟨_, first, later, split.symm, blanks, stops⟩

/-- A recognized token stays the same if the text behind it is cut off anywhere. -/
theorem fronts_of_scan {first : Char} {text middle back rest : List Char}
    (solid : isBlank first = false) (recognized : (scan first text).1 ≠ .unrecognized)
    (split : text.drop (scan first text).2 = middle ++ back) (delimits : Delimits rest) :
    Fronts (scan first text).1 (first :: text.take (scan first text).2) (middle ++ rest) := by
  have whole : text = (text.take (scan first text).2 ++ middle) ++ back := by
    rw [List.append_assoc, ← split, List.take_append_drop]
  have taken : (text.take (scan first text).2).length = (scan first text).2 :=
    List.length_take_of_le ((localScan_scan first).le_length text)
  have same : scan first (text.take (scan first text).2 ++ middle ++ rest) =
      scan first (text.take (scan first text).2 ++ middle ++ back) := by
    apply (localScan_scan first).congr
    · rw [← whole]
      exact recognized
    · rw [← whole, List.length_append, taken]
      exact Nat.le_add_right _ _
    · exact delimits
  rw [← whole] at same
  refine ⟨first, _, rfl, solid, ?_⟩
  rw [← List.append_assoc, same, taken]

/-- A text that is cut off behind some of its tokens and goes on with a delimiter is cut into the
same tokens up to there. -/
theorem exists_front_of_lexFrom {position : Position} {text : List Char}
    {before after : List Token} (cut : lexFrom position text = before ++ after)
    (recognized : ∀ token ∈ before, token.kind.IsRecognized) :
    ∃ front back, text = front ++ back ∧ ∀ rest, Delimits rest →
      lexFrom position (front ++ rest) = before ++ lexFrom (position.after front) rest := by
  induction before generalizing position text with
  | nil => exact ⟨[], text, rfl, fun rest _ => rfl⟩
  | cons token before ih =>
    obtain ⟨isRecognized, othersRecognized⟩ := List.forall_mem_cons.mp recognized
    rcases blank_or_exists_solid text with blank | ⟨blanks, first, later, rfl, areBlank, solid⟩
    · rw [lexFrom_of_blank blank] at cut
      obtain ⟨rfl, -⟩ := List.cons.inj cut
      exact absurd rfl isRecognized.2
    · rw [lexFrom_blanks areBlank, lexFrom_token solid] at cut
      obtain ⟨rfl, cutLater⟩ := List.cons.inj cut
      obtain ⟨middle, back, split, continued⟩ := ih cutLater othersRecognized
      refine ⟨blanks ++ (first :: later.take (scan first later).2) ++ middle, back, ?_, ?_⟩
      · rw [List.append_assoc, ← split, List.append_assoc, List.cons_append, List.take_append_drop]
      · intro rest delimits
        have fronts := fronts_of_scan solid isRecognized.1 split delimits
        rw [List.append_assoc, List.append_assoc, lexFrom_blanks areBlank, lexFrom_of_fronts fronts,
          continued rest delimits, Position.after_append, Position.after_append]
        rfl

/-! ## A spelling for every kind -/

/-- A token of a kind as it could be written. -/
def sample : TokenKind → List Char
  | .whereWord => ['w', 'h', 'e', 'r', 'e']
  | .and => ['a', 'n', 'd']
  | .or => ['o', 'r']
  | .not => ['n', 'o', 't']
  | .inWord => ['i', 'n']
  | .ninWord => ['n', 'i', 'n']
  | .isWord => ['i', 's']
  | .null => ['n', 'u', 'l', 'l']
  | .name => ['a']
  | .quoted => ['\'', '\'']
  | .integer => ['0']
  | .decimal => ['0', '.', '0']
  | .boolean true => ['t', 'r', 'u', 'e']
  | .boolean false => ['f', 'a', 'l', 's', 'e']
  | .openParen => ['(']
  | .closeParen => [')']
  | .openBracket => ['[']
  | .closeBracket => [']']
  | .comma => [',']
  | .dot => ['.']
  | .eq => ['=', '=']
  | .ne => ['!', '=']
  | .gt => ['>']
  | .lt => ['<']
  | .gte => ['>', '=']
  | .lte => ['<', '=']
  | .unrecognized | .finish => []

/-- In front of a delimiter, each kind of token is recognized from its spelling. -/
theorem fronts_sample {kind : TokenKind} {rest : List Char} (recognized : kind.IsRecognized)
    (delimits : Delimits rest) : Fronts kind (sample kind) rest := by
  have ends := endsWord_of_delimits delimits
  have noEquals : ¬ rest.head? = some '=' := fun here => absurd (delimits _ here) (by decide)
  cases kind with
  | whereWord | and | or | not | inWord | ninWord | isWord | null | name =>
    exact fronts_word (by decide) ends
  | boolean value => cases value <;> exact fronts_word (by decide) ends
  | openParen | closeParen | openBracket | closeBracket | comma | eq | ne | gte | lte =>
    exact ⟨_, _, rfl, by decide, rfl⟩
  | gt | lt => exact ⟨_, [], rfl, by decide, if_neg noEquals⟩
  | dot =>
    have noDigit : ¬ 0 < digitCount rest := by
      have none : digitCount ([] ++ rest) = 0 :=
        digitCount_append (by simp) (isDigit_eq_false_of_delimits delimits)
      exact none.not_gt
    exact ⟨_, [], rfl, by decide, if_neg noDigit⟩
  | quoted => exact ⟨_, ['\''], rfl, by decide, rfl⟩
  | integer => exact @fronts_integer [] ['0'] _ (.inl rfl) (by simp) (by simp) delimits
  | decimal =>
    exact @fronts_decimal [] ['0'] ['0'] _ (.inl rfl) (by simp) (by simp) (by simp) delimits
  | unrecognized => exact absurd rfl recognized.1
  | finish => exact absurd rfl recognized.2

/-- Spellings of kinds of tokens, each behind a blank. -/
def samples (kinds : List TokenKind) : List Char := kinds.flatMap fun kind => ' ' :: sample kind

/-- Samples of tokens start with a blank, so they delimit what is before them. -/
theorem delimits_samples (kinds : List TokenKind) : Delimits (samples kinds) := by
  cases kinds with
  | nil =>
    intro c first
    cases first
  | cons kind kinds => exact delimits_cons (by decide) _

/-- Samples of recognized kinds are cut into tokens of these kinds. -/
theorem exists_lexFrom_samples {kinds : List TokenKind}
    (recognized : ∀ kind ∈ kinds, kind.IsRecognized) (position : Position) :
    ∃ tokens stop, lexFrom position (samples kinds) = tokens ++ [.finish stop] ∧
      tokens.map Token.kind = kinds := by
  induction kinds generalizing position with
  | nil => exact ⟨[], position, lexFrom_nil position, rfl⟩
  | cons kind kinds ih =>
    obtain ⟨isRecognized, othersRecognized⟩ := List.forall_mem_cons.mp recognized
    obtain ⟨tokens, stop, cut, same⟩ :=
      ih othersRecognized ((position.next ' ').after (sample kind))
    have fronts := fronts_sample isRecognized (delimits_samples kinds)
    have first := lexFrom_of_fronts fronts (position.next ' ')
    rw [cut] at first
    exact ⟨_ :: tokens, stop, (lexFrom_blank (by decide) position _).trans first,
      congrArg (kind :: ·) same⟩

end Token

end PortableFilter
