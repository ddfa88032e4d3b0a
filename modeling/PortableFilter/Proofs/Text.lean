import PortableFilter.Text.Blank
import PortableFilter.Text.Digit
import PortableFilter.Text.Numeral

/-! # Classes and stretches of characters

Letters, digits and blanks are three different things. A stretch of characters of one kind ends
where the text behind it starts with another. Texts with separators between them are written one
behind the other. -/

namespace PortableFilter

namespace Text

namespace CharSet

/-- Whether no interval of one set meets an interval of the other. -/
def apart (left right : CharSet) : Bool :=
  left.intervals.all fun (first, last) =>
    right.intervals.all fun (first', last') => last < first' || last' < first

/-- Sets whose intervals are apart share no character. -/
theorem contains_eq_false_of_apart {left right : CharSet} {c : Char} (disjoint : left.apart right)
    (member : left.contains c) : right.contains c = false := by
  simp only [apart, List.all_eq_true, Prod.forall, Bool.or_eq_true, decide_eq_true_eq] at disjoint
  simp only [contains, List.any_eq_true, Prod.exists, Bool.and_eq_true, decide_eq_true_eq] at member
  simp only [contains, List.any_eq_false, Prod.forall, Bool.and_eq_true, decide_eq_true_eq]
  obtain ⟨first, last, here, above, below⟩ := member
  intro first' last' there
  have between := disjoint first last here first' last' there
  omega

end CharSet

/-- No name starts with a blank. -/
theorem isBlank_eq_false_of_startsName {c : Char} (starts : startsName c) : isBlank c = false := by
  have lettersApart : lettersBeyondAscii.apart blanks = true := by decide +kernel
  have asciiSolid : ∀ code : Fin 128, (Char.ofNat code).isAlpha →
      isBlank (Char.ofNat code) = false := by
    decide +kernel
  simp only [startsName, isLetter, Bool.or_eq_true, beq_iff_eq] at starts
  rcases starts with letter | rfl
  · by_cases ascii : c.toNat < 128
    · rw [if_pos ascii] at letter
      have solid := asciiSolid ⟨c.toNat, ascii⟩
      rw [Char.ofNat_toNat] at solid
      exact solid letter
    · rw [if_neg ascii] at letter
      exact CharSet.contains_eq_false_of_apart lettersApart letter
  · decide

/-- What starts a name is no digit. -/
theorem isDigit_eq_false_of_startsName {c : Char} (starts : startsName c) : c.isDigit = false := by
  have asciiApart : ∀ code : Fin 128, (Char.ofNat code).isAlpha →
      (Char.ofNat code).isDigit = false := by
    decide +kernel
  simp only [startsName, isLetter, Bool.or_eq_true, beq_iff_eq] at starts
  rcases starts with letter | rfl
  · by_cases ascii : c.toNat < 128
    · rw [if_pos ascii] at letter
      have apart := asciiApart ⟨c.toNat, ascii⟩
      rw [Char.ofNat_toNat] at apart
      exact apart letter
    · have large : ¬ c.val ≤ '9'.val := fun small => ascii (Nat.lt_of_le_of_lt small (by decide))
      rw [Char.isDigit, decide_eq_false large, Bool.and_false]
  · decide

theorem isBlank_eq_false_of_isDigit {c : Char} (digit : c.isDigit) : isBlank c = false := by
  have digitsApart : (CharSet.mk [(48, 57)] rfl).apart blanks = true := by decide
  refine CharSet.contains_eq_false_of_apart digitsApart ?_
  simp only [Char.isDigit, Bool.and_eq_true, decide_eq_true_eq] at digit
  simpa [CharSet.contains] using ⟨digit.1, digit.2⟩

theorem isBlank_eq_false_of_continuesName {c : Char} (continues : continuesName c) :
    isBlank c = false := by
  have numeralsApart : numeralsBeyondAscii.apart blanks = true := by decide +kernel
  simp only [continuesName, Bool.or_eq_true, beq_iff_eq] at continues
  rcases continues with (letter | numeral) | rfl
  · exact isBlank_eq_false_of_startsName (by simp [startsName, letter])
  · rw [isNumeral] at numeral
    by_cases ascii : c.toNat < 128
    · rw [if_pos ascii] at numeral
      exact isBlank_eq_false_of_isDigit numeral
    · rw [if_neg ascii] at numeral
      exact CharSet.contains_eq_false_of_apart numeralsApart numeral
  · decide

theorem forall_mem_head?_cons {p : Char → Prop} {c : Char} (first : p c) (rest : List Char) :
    ∀ d ∈ (c :: rest).head?, p d := by
  intro d isHead
  rwa [← Option.some.inj isHead]

/-- A word is taken whole where what is behind it stops the run. -/
theorem takeWhile_append_of_head {p : Char → Bool} {word rest : List Char}
    (all : ∀ c ∈ word, p c) (stops : ∀ c ∈ rest.head?, p c = false) :
    (word ++ rest).takeWhile p = word := by
  rw [List.takeWhile_append_of_pos all]
  cases rest with
  | nil => rw [List.takeWhile_nil, List.append_nil]
  | cons c rest => rw [List.takeWhile_cons, stops c rfl, if_neg Bool.false_ne_true, List.append_nil]

/-- Digits are counted up to the first character that is none. -/
theorem digitCount_append {digits rest : List Char} (numeric : ∀ c ∈ digits, c.isDigit)
    (stops : ∀ c ∈ rest.head?, c.isDigit = false) :
    digitCount (digits ++ rest) = digits.length := by
  rw [digitCount, takeWhile_append_of_head numeric stops]

theorem intercalate_cons_toList (separator first : String) (more : List String) :
    (separator.intercalate (first :: more)).toList =
      first.toList ++ more.flatMap fun text => separator.toList ++ text.toList := by
  rw [String.toList_intercalate]
  induction more generalizing first with
  | nil => rw [List.map_singleton, List.intercalate_singleton, List.flatMap_nil, List.append_nil]
  | cons next more ih =>
    rw [List.map_cons, List.map_cons, List.intercalate_cons_cons, ← List.map_cons, ih next,
      List.flatMap_cons, List.append_assoc, List.append_assoc]

end Text

end PortableFilter
