import Mathlib
import PortableFilter.Binary64.Nearest

/-! # Decimal numerals

How signs and digits are read, and how integers are written. -/

namespace PortableFilter.Decimal

/-- The signs of a number, and whether they negate it. -/
inductive Sign : List Char → Bool → Prop where
  | absent : Sign [] false
  | plus : Sign ['+'] false
  | minus : Sign ['-'] true

/-- What is read as a sign is a sign. -/
theorem sign_of_readSign {text digits : List Char} {negative : Bool}
    (read : readSign text = (negative, digits)) :
    ∃ sign, Sign sign negative ∧ text = sign ++ digits := by
  unfold readSign at read
  split at read
  · cases read
    exact ⟨_, .minus, rfl⟩
  · cases read
    exact ⟨_, .plus, rfl⟩
  · cases read
    exact ⟨_, .absent, rfl⟩

/-- A sign before a digit is read as that sign. -/
theorem readSign_append {sign digits : List Char} {negative : Bool} {first : Char}
    (signs : Sign sign negative) (starts : digits.head? = some first)
    (digit : first.isDigit) : readSign (sign ++ digits) = (negative, digits) := by
  obtain ⟨rest, rfl⟩ : ∃ rest, digits = first :: rest := by
    cases digits with
    | nil => cases starts
    | cons head rest => exact ⟨rest, by simpa using starts⟩
  cases signs with
  | plus => rfl
  | minus => rfl
  | absent =>
    have notMinus : first ≠ '-' := by
      rintro rfl
      exact absurd digit (by decide)
    have notPlus : first ≠ '+' := by
      rintro rfl
      exact absurd digit (by decide)
    simp only [List.nil_append, readSign]
    split
    · simp_all
    · simp_all
    · rfl

theorem ofDigits_append (left right : List Char) :
    ofDigits (left ++ right) =
      ofDigits left * 10 ^ right.length + ofDigits right := by
  unfold ofDigits
  rw [Nat.ofDigitChars_append, Nat.ofDigitChars_eq_ofDigitChars_zero, Nat.mul_comm]

theorem ofDigits_replicate_zero (count : Nat) :
    ofDigits (List.replicate count '0') = 0 := by
  unfold ofDigits
  rw [Nat.ofDigitChars_replicate_zero, Nat.mul_zero]

/-- The digits of a number other than zero do not start with a zero. -/
theorem head?_toDigits_ne_zero {n : Nat} (nonzero : n ≠ 0) :
    (Nat.toDigits 10 n).head? ≠ some '0' := by
  have digits : ∀ digit : Fin 10, digit ≠ 0 → Nat.digitChar digit ≠ '0' := by decide
  induction n using Nat.strongRecOn with
  | ind n ih =>
    by_cases single : n < 10
    · rw [Nat.toDigits_of_lt_base single, List.head?_cons, ne_eq, Option.some.injEq]
      exact digits ⟨n, single⟩ fun same => nonzero (congrArg Fin.val same)
    · have before := ih (n / 10) (by omega) (by omega)
      obtain ⟨first, more, starts⟩ :=
        List.exists_cons_of_ne_nil (@Nat.toDigits_ne_nil (n / 10) 10)
      rw [Nat.toDigits_of_base_le (by decide) (Nat.not_lt.mp single), starts]
      rw [starts] at before
      exact before

/-- An integer is written with its digits, behind a minus sign if it is negative. -/
theorem toString_eq_signed (value : Int) :
    ∃ sign digits negative, (toString value).toList = sign ++ digits ∧ Sign sign negative ∧
      (sign = [] ∨ sign = ['-']) ∧ digits ≠ [] ∧ (∀ c ∈ digits, c.isDigit) ∧
      (digits.head? = some '0' → digits = ['0']) ∧
      (if negative then -(ofDigits digits : Int) else ofDigits digits) = value := by
  have magnitude (count : Nat) : ofDigits (Nat.toDigits 10 count) = count :=
    Nat.ofDigitChars_ten_toDigits
  have numeric (count : Nat) : ∀ c ∈ Nat.toDigits 10 count, c.isDigit := fun c member =>
    Nat.isDigit_of_mem_toDigits (by decide) (by decide) member
  have plain (count : Nat) (zero : (Nat.toDigits 10 count).head? = some '0') :
      Nat.toDigits 10 count = ['0'] := by
    by_cases none : count = 0
    · rw [none, Nat.toDigits_zero]
    · exact absurd zero (head?_toDigits_ne_zero none)
  cases value with
  | ofNat count =>
    refine ⟨[], Nat.toDigits 10 count, false, Nat.toList_repr, .absent, .inl rfl,
      Nat.toDigits_ne_nil, numeric count, plain count, ?_⟩
    rw [magnitude]
    rfl
  | negSucc count =>
    refine ⟨['-'], Nat.toDigits 10 (count + 1), true, ?_, .minus, .inr rfl, Nat.toDigits_ne_nil,
      numeric (count + 1), plain (count + 1), ?_⟩
    · change ("-" ++ Nat.repr (count + 1)).toList = _
      rw [String.toList_append, Nat.toList_repr]
      rfl
    · rw [magnitude]
      rfl

end PortableFilter.Decimal
