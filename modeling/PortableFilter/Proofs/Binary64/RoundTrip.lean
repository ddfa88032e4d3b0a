import Mathlib
import PortableFilter.Binary64.Text
import PortableFilter.Proofs.Binary64.Nearest
import PortableFilter.Proofs.Decimal

/-! # The text of a number is read as that number

A finite number is written with its shortest digits and always with a point (`Pointed`). Reading
that text gives the number back, its sign included (`read?_toPointedText`). -/

namespace PortableFilter.Binary64

theorem halfUnit_le_of_readsBack {rank point : Nat} (nonzero : rank ≠ 0)
    (reads : readsBack rank point) : halfUnit ≤ point := by
  have positive : 1 ≤ units rank := by
    have first := units_lt_units_succ 0
    exact Nat.le_trans (Nat.lt_of_le_of_lt (Nat.zero_le _) first)
      (units_le_units (Nat.pos_of_ne_zero nonzero))
  have low : halfUnit ≤ lowerEnd rank := by
    unfold lowerEnd
    exact Nat.le_mul_of_pos_left halfUnit (by omega)
  unfold readsBack at reads
  split at reads
  · simp only [Bool.and_eq_true, decide_eq_true_eq] at reads
    exact Nat.le_trans low reads.1
  · simp only [Bool.and_eq_true, decide_eq_true_eq] at reads
    exact Nat.le_trans low (Nat.le_of_lt reads.1)

/-- A decimal that reads back as a number other than zero is not cut off as too small. -/
theorem places_le_of_scaled {point digits places : Nat} (large : halfUnit ≤ point)
    (same : digits * 10 ^ 1075 = point * 10 ^ places) : places ≤ digits.log2 + 331 := by
  have doubled : 10 ^ places ≤ digits * 2 ^ 1075 := by
    apply Nat.le_of_mul_le_mul_right _ halfUnit_pos
    calc 10 ^ places * halfUnit ≤ point * 10 ^ places := by
          rw [Nat.mul_comm]
          exact Nat.mul_le_mul_right _ large
      _ = digits * 2 ^ 1075 * halfUnit := by
          rw [← same, ten_pow 1075, halfUnit_eq, Nat.mul_assoc]
  have small : 2 ^ 1075 < 10 ^ 331 := by decide +kernel
  rcases Nat.lt_or_ge (digits.log2 + 331) places with beyond | within
  · have less : digits * 2 ^ 1075 < 10 ^ places := by
      calc digits * 2 ^ 1075 ≤ 2 ^ (digits.log2 + 1) * 2 ^ 1075 :=
            Nat.mul_le_mul_right _ (Nat.le_of_lt Nat.lt_log2_self)
        _ ≤ 10 ^ (digits.log2 + 1) * 2 ^ 1075 :=
            Nat.mul_le_mul_right _ (Nat.pow_le_pow_left (by decide) _)
        _ < 10 ^ (digits.log2 + 1) * 10 ^ 331 :=
            Nat.mul_lt_mul_of_pos_left small (Nat.pow_pos (by decide))
        _ = 10 ^ (digits.log2 + 1 + 331) := (pow_add 10 (digits.log2 + 1) 331).symm
        _ ≤ 10 ^ places := Nat.pow_le_pow_right (by decide) (by omega)
    exact absurd doubled (Nat.not_le.mpr less)
  · exact within

theorem ofDecimal_of_readsBack {rank point digits places : Nat} (negative : Bool)
    (nonzero : rank ≠ 0) (reads : readsBack rank point) (behind : 0 < places)
    (same : digits * 10 ^ 1075 = point * 10 ^ places) :
    ofDecimal ⟨negative, digits, -(places : Int)⟩ = ofRank negative rank := by
  have large := halfUnit_le_of_readsBack nonzero reads
  have scale : 0 < 10 ^ places := Nat.pow_pos (by decide)
  have positive : 0 < digits * 10 ^ 1075 := by
    rw [same]
    exact Nat.mul_pos (Nat.lt_of_lt_of_le halfUnit_pos large) scale
  have significant : digits ≠ 0 := Nat.ne_of_gt (Nat.pos_of_mul_pos_right positive)
  have bounded := places_le_of_scaled large same
  have nearest := nearestRank_of_rounds scale (rounds_of_readsBack reads scale same)
  have shifted (shift : Nat) : digits <<< shift = digits * 2 ^ shift :=
    Nat.shiftLeft_eq digits shift
  rw [← shifted, ← Nat.pow_eq] at nearest
  unfold ofDecimal
  simp only
  rw [if_neg significant, if_neg (by omega), if_neg (by omega)]
  cases places with
  | zero => exact absurd behind (by decide)
  | succ places => exact congrArg (ofRank negative) nearest

/-- A text is a numeral with a point: digits, a point, and digits. The first of them is no zero,
unless it is the only one before the point. -/
structure Pointed (text whole fraction : List Char) : Prop where
  spelled : text = whole ++ '.' :: fraction
  whole_ne_nil : whole ≠ []
  whole_digits : ∀ c ∈ whole, c.isDigit
  whole_plain : whole.head? = some '0' → whole = ['0']
  fraction_ne_nil : fraction ≠ []
  fraction_digits : ∀ c ∈ fraction, c.isDigit

/-- A text with a point, which is added to a text without one. -/
def withPoint (text : List Char) : List Char :=
  if '.' ∈ text then text else text ++ ['.', '0']

theorem isDigit_of_mem_replicate_zero {count : Nat} {c : Char}
    (member : c ∈ List.replicate count '0') : c.isDigit := by
  rw [List.eq_of_mem_replicate member]
  rfl

/-- Digits written with zeros behind them are a whole number, which gets the point at its end. -/
theorem pointed_append_zeros {digits : List Char} (nonempty : digits ≠ [])
    (numeric : ∀ c ∈ digits, c.isDigit) (plain : digits.head? ≠ some '0') (zeros : Nat) :
    Pointed (withPoint (digits ++ List.replicate zeros '0')) (digits ++ List.replicate zeros '0')
      ['0'] := by
  have allDigits : ∀ c ∈ digits ++ List.replicate zeros '0', c.isDigit := by
    intro c member
    rcases List.mem_append.mp member with inside | inside
    · exact numeric c inside
    · exact isDigit_of_mem_replicate_zero inside
  have absent : '.' ∉ digits ++ List.replicate zeros '0' := fun member =>
    absurd (allDigits _ member) (by decide)
  refine ⟨if_neg absent, by simp [nonempty], allDigits, ?_, by simp, by simp⟩
  intro zero
  obtain ⟨first, more, rfl⟩ := List.exists_cons_of_ne_nil nonempty
  exact absurd zero plain

/-- Digits with a point between them. -/
theorem pointed_split {digits : List Char} (numeric : ∀ c ∈ digits, c.isDigit)
    (plain : digits.head? ≠ some '0') {before : Nat} (nonzero : before ≠ 0)
    (inside : before < digits.length) :
    Pointed (withPoint (digits.take before ++ '.' :: digits.drop before)) (digits.take before)
      (digits.drop before) := by
  have nonempty : digits ≠ [] := List.ne_nil_of_length_pos (Nat.zero_lt_of_lt inside)
  refine ⟨if_pos (by simp), by simp [nonzero, nonempty],
    fun c member => numeric c (List.mem_of_mem_take member), ?_, ?_,
    fun c member => numeric c (List.mem_of_mem_drop member)⟩
  · intro zero
    rw [List.head?_take, if_neg nonzero] at zero
    exact absurd zero plain
  · rw [Ne, List.drop_eq_nil_iff]
    omega

/-- Digits that all stand behind the point, after zeros. -/
theorem pointed_zeros_append {digits : List Char} (nonempty : digits ≠ [])
    (numeric : ∀ c ∈ digits, c.isDigit) (zeros : Nat) :
    Pointed (withPoint ('0' :: '.' :: List.replicate zeros '0' ++ digits)) ['0']
      (List.replicate zeros '0' ++ digits) := by
  refine ⟨if_pos (by simp), by simp, by simp, fun _ => rfl, by simp [nonempty], ?_⟩
  intro c member
  rcases List.mem_append.mp member with zero | digit
  · exact isDigit_of_mem_replicate_zero zero
  · exact numeric c digit

/-- Digits written positionally have a point behind the first and before the last of them, and
stand for the same number. -/
theorem pointed_positional {digits : List Char} {place : Nat} (nonempty : digits ≠ [])
    (numeric : ∀ c ∈ digits, c.isDigit) (plain : digits.head? ≠ some '0') :
    ∃ whole fraction, Pointed (withPoint (positional digits (place - 1075))) whole fraction ∧
      Decimal.ofDigits (whole ++ fraction) * 10 ^ 1075 =
        Decimal.ofDigits digits * 10 ^ place * 10 ^ fraction.length := by
  have zero : Decimal.ofDigits ['0'] = 0 := rfl
  unfold positional
  split
  · rename_i zeros large
    have regroup : ∀ value power unit scale : Nat,
        value * power * unit * scale = value * (power * scale) * unit := by
      intro value power unit scale
      ac_rfl
    rw [Int.ofNat_eq_natCast] at large
    obtain rfl : place = zeros + 1075 := by omega
    refine ⟨_, _, pointed_append_zeros nonempty numeric plain zeros, ?_⟩
    rw [Decimal.ofDigits_append, Decimal.ofDigits_append, Decimal.ofDigits_replicate_zero,
      List.length_replicate, zero, Nat.add_zero, Nat.add_zero, pow_add]
    exact regroup _ _ _ _
  · rename_i fewer small
    rw [Int.negSucc_eq] at small
    have total : 10 ^ 1075 = 10 ^ place * 10 ^ (fewer + 1) := by
      rw [← Nat.pow_add]
      congr 1
      omega
    dsimp only
    split
    · rename_i inside
      refine ⟨_, _, pointed_split numeric plain (by omega) (by omega), ?_⟩
      rw [List.take_append_drop, List.length_drop,
        show digits.length - (digits.length - (fewer + 1)) = fewer + 1 by omega, total,
        Nat.mul_assoc]
    · rename_i outside
      refine ⟨_, _, pointed_zeros_append nonempty numeric _, ?_⟩
      rw [Decimal.ofDigits_append, Decimal.ofDigits_append, Decimal.ofDigits_replicate_zero, zero,
        List.length_append, List.length_replicate,
        show fewer + 1 - digits.length + digits.length = fewer + 1 by omega, total]
      simp only [Nat.zero_mul, Nat.zero_add]
      exact (Nat.mul_assoc _ _ _).symm

/-- A numeral with a point is read as its digits, scaled by those behind the point. -/
theorem decimal_read?_pointed {sign text whole fraction : List Char} {negative : Bool}
    (signs : Decimal.Sign sign negative) (pointed : Pointed text whole fraction) :
    Decimal.read? (sign ++ text) =
      some ⟨negative, Decimal.ofDigits (whole ++ fraction), -(fraction.length : Int)⟩ := by
  obtain ⟨rfl, wholeNonempty, wholeDigits, -, fractionNonempty, fractionDigits⟩ := pointed
  obtain ⟨first, later, rfl⟩ := List.exists_cons_of_ne_nil wholeNonempty
  have signRead : Decimal.readSign (sign ++ (first :: later ++ '.' :: fraction)) =
      (negative, first :: later ++ '.' :: fraction) :=
    Decimal.readSign_append signs rfl (wholeDigits first (by simp))
  have wholeRead : (first :: later ++ '.' :: fraction).takeWhile Char.isDigit = first :: later := by
    rw [List.takeWhile_append_of_pos wholeDigits]
    simp
  have afterWhole : (first :: later ++ '.' :: fraction).dropWhile Char.isDigit =
      '.' :: fraction := by
    rw [List.dropWhile_append_of_pos wholeDigits]
    rfl
  have fractionRead : Decimal.readFraction ('.' :: fraction) = (fraction, []) := by
    rw [Decimal.readFraction, List.takeWhile_eq_self_iff.mpr fractionDigits,
      List.dropWhile_eq_nil_iff.mpr fractionDigits]
  unfold Decimal.read?
  simp only [signRead, wholeRead, afterWhole, fractionRead, fractionNonempty, and_false, if_false,
    Decimal.readExponent?, Option.map_some, Int.zero_sub]

/-- The text of a magnitude is a numeral with a point that is read as that magnitude. -/
theorem pointed_pointedMagnitude (rank : Nat) :
    ∃ whole fraction, Pointed (pointedMagnitude rank) whole fraction ∧
      ∀ negative, ofDecimal ⟨negative, Decimal.ofDigits (whole ++ fraction),
        -(fraction.length : Int)⟩ = ofRank negative rank := by
  by_cases zero : rank = 0
  · subst zero
    refine ⟨['0'], ['0'], ⟨rfl, by simp, by simp, fun _ => rfl, by simp, by simp⟩,
      fun negative => ?_⟩
    rfl
  · have reads := readsBack_shortestFrom rank 1385
    rcases found : shortestFrom rank 1385 with ⟨digits, place⟩
    rw [found] at reads
    have text : pointedMagnitude rank =
        withPoint (positional (Nat.toDigits 10 digits) (place - 1075)) := by
      unfold pointedMagnitude magnitudeText shortest
      simp only [zero, if_false, found]
      rfl
    have numeric : ∀ c ∈ Nat.toDigits 10 digits, c.isDigit := fun c member =>
      Nat.isDigit_of_mem_toDigits (by decide) (by decide) member
    have plain : (Nat.toDigits 10 digits).head? ≠ some '0' := by
      refine Decimal.head?_toDigits_ne_zero ?_
      rintro rfl
      have large := halfUnit_le_of_readsBack zero reads
      rw [Nat.zero_mul] at large
      exact absurd halfUnit_pos (Nat.not_lt.mpr large)
    obtain ⟨whole, fraction, pointed, same⟩ :=
      @pointed_positional (Nat.toDigits 10 digits) place Nat.toDigits_ne_nil numeric plain
    rw [show Decimal.ofDigits (Nat.toDigits 10 digits) = digits from
      Nat.ofDigitChars_ten_toDigits] at same
    refine ⟨whole, fraction, text ▸ pointed, fun negative => ?_⟩
    exact ofDecimal_of_readsBack negative zero reads
      (List.length_pos_iff.mpr pointed.fraction_ne_nil) same

theorem ofRank_rank {x : Binary64} (finite : x.isFinite) : ofRank x.negative x.rank = x := by
  have below : x.rank.val ≤ infinityRank := Nat.le_of_lt (of_decide_eq_true finite)
  unfold ofRank
  simp only [Nat.min_eq_left below]

/-- The text of a finite number is a sign or nothing, digits, a point and digits, and it is read
as that number. -/
theorem read?_toPointedText {x : Binary64} (finite : x.isFinite) :
    ∃ sign whole fraction magnitude, x.toPointedText.toList = sign ++ magnitude ∧
      (sign = [] ∨ sign = ['-']) ∧ Pointed magnitude whole fraction ∧
      read? x.toPointedText.toList = some x := by
  obtain ⟨whole, fraction, pointed, reads⟩ := pointed_pointedMagnitude x.rank
  have spelled : x.toPointedText.toList = x.withSign (pointedMagnitude x.rank) := by
    unfold toPointedText
    rw [if_pos finite, String.toList_ofList]
  obtain ⟨sign, signs, signed, shape⟩ : ∃ sign, Decimal.Sign sign x.negative ∧
      x.withSign (pointedMagnitude x.rank) = sign ++ pointedMagnitude x.rank ∧
      (sign = [] ∨ sign = ['-']) := by
    unfold withSign
    cases x.negative with
    | false => exact ⟨[], .absent, rfl, .inl rfl⟩
    | true => exact ⟨['-'], .minus, rfl, .inr rfl⟩
  refine ⟨sign, whole, fraction, pointedMagnitude x.rank, spelled.trans signed, shape, pointed, ?_⟩
  rw [spelled, signed, read?, decimal_read?_pointed signs pointed, Option.map_some, reads,
    ofRank_rank finite]

end PortableFilter.Binary64
