import PortableFilter.Binary64

/-! # Reading decimal numbers

`Binary64.nearestRank` rounds a non-negative fraction to the nearest magnitude
of the format, a tie going to the even rank. `Decimal.read?` reads a decimal
numeral exactly, and `Binary64.ofDecimal` rounds what was read. -/

namespace PortableFilter

namespace Binary64

/-- The rank of the magnitude nearest to `numerator / denominator`, counted in units of the
smallest positive number. A value halfway between two magnitudes goes to the even rank. The rank
may lie at or beyond infinity. -/
def nearestRank (numerator denominator : Nat) : Nat :=
  let floor := numerator / denominator
  let shift := floor.log2 - 52
  let mantissa := floor >>> shift
  let rank := shift <<< 52 + mantissa
  let middle := (2 * mantissa + 1) <<< shift * denominator
  if 2 * numerator < middle then rank
  else if middle < 2 * numerator then rank + 1
  else rank + rank % 2

end Binary64

/-- A decimal number: `digits * 10 ^ exponent`, with its sign. -/
structure Decimal where
  negative : Bool
  digits : Nat
  exponent : Int
  deriving DecidableEq, Repr

namespace Decimal

/-- The value of a stretch of decimal digits. -/
def ofDigits (digits : List Char) : Nat := Nat.ofDigitChars 10 digits 0

/-- Reads a sign at the front of a text; a text without one is positive. -/
def readSign : List Char → Bool × List Char
  | '-' :: rest => (true, rest)
  | '+' :: rest => (false, rest)
  | text => (false, text)

/-- Reads an exponent that makes up a whole text; the empty text is the exponent zero. -/
def readExponent? : List Char → Option Int
  | [] => some 0
  | mark :: text =>
    if mark = 'e' ∨ mark = 'E' then
      let (negative, digits) := readSign text
      if digits ≠ [] ∧ digits.all Char.isDigit then
        some (if negative then -Int.ofNat (ofDigits digits) else Int.ofNat (ofDigits digits))
      else none
    else none

/-- The digits behind the point of a text that starts with one, and what follows them. -/
def readFraction : List Char → List Char × List Char
  | '.' :: text => (text.takeWhile Char.isDigit, text.dropWhile Char.isDigit)
  | text => ([], text)

/-- Reads a decimal numeral that makes up a whole text: perhaps a sign, digits with at most one
point before, among or after them, and perhaps an exponent. At least one digit stands before the
exponent. -/
def read? (text : List Char) : Option Decimal :=
  let (negative, text) := readSign text
  let whole := text.takeWhile Char.isDigit
  let (fraction, text) := readFraction (text.dropWhile Char.isDigit)
  if whole = [] ∧ fraction = [] then none
  else (readExponent? text).map fun exponent =>
    ⟨negative, ofDigits (whole ++ fraction), exponent - fraction.length⟩

end Decimal

namespace Binary64

/-- The number nearest to a decimal. From `10 ^ 310` on every decimal is beyond the format, and
below `10 ^ (-330)` every decimal is nearest to zero. -/
def ofDecimal (decimal : Decimal) : Binary64 :=
  let digits := decimal.digits
  let rank :=
    if digits = 0 then 0
    else if 310 ≤ decimal.exponent then infinityRank
    else if decimal.exponent + digits.log2 + 1 < -330 then 0
    else match decimal.exponent with
      | .ofNat exponent => nearestRank ((digits * Nat.pow 10 exponent) <<< 1074) 1
      | .negSucc exponent => nearestRank (digits <<< 1074) (Nat.pow 10 (exponent + 1))
  ofRank decimal.negative rank

/-- Reads a decimal numeral as the nearest number. -/
def read? (text : List Char) : Option Binary64 := (Decimal.read? text).map ofDecimal

end Binary64

end PortableFilter
