import PortableFilter.Binary64.Shortest

/-! # How numbers are written

Numbers are written with their shortest digits. Queries write them positionally,
with as many zeros as it takes. The outline of a tree changes to an exponent when
the first digit is far from the point. -/

namespace PortableFilter.Binary64

/-- Digits written positionally: a point is set before the last `-exponent` digits, or `exponent`
zeros are added. -/
def positional (digits : List Char) (exponent : Int) : List Char :=
  match exponent with
  | .ofNat zeros => digits ++ List.replicate zeros '0'
  | .negSucc places =>
    let places := places + 1
    if places < digits.length then
      digits.take (digits.length - places) ++ '.' :: digits.drop (digits.length - places)
    else '0' :: '.' :: List.replicate (places - digits.length) '0' ++ digits

/-- Digits written with an exponent: one digit stands before the point. -/
def scientific (digits : List Char) (exponent : Int) : List Char :=
  let mantissa := match digits with
    | first :: next :: more => first :: '.' :: next :: more
    | short => short
  mantissa ++ 'e' :: (toString (exponent + digits.length - 1)).toList

/-- The text of a magnitude, written positionally. A whole number has no point. -/
def magnitudeText (rank : Nat) : List Char :=
  if rank = 0 then ['0']
  else
    let (digits, exponent) := shortest rank
    positional (Nat.toDigits 10 digits) exponent

/-- A text with the sign of a number in front. -/
def withSign (x : Binary64) (magnitude : List Char) : List Char :=
  if x.negative then '-' :: magnitude else magnitude

/-- The text of a number, written positionally. A whole number has no point. -/
def toText (x : Binary64) : String :=
  if x.isNaN then "NaN"
  else if x.isFinite then String.ofList (x.withSign (magnitudeText x.rank))
  else if x.negative then "-inf" else "inf"

/-- The text of a magnitude with a point: `.0` is added to a whole number. -/
def pointedMagnitude (rank : Nat) : List Char :=
  let text := magnitudeText rank
  if '.' ∈ text then text else text ++ ['.', '0']

/-- The text of a number, written positionally and always with a point. -/
def toPointedText (x : Binary64) : String :=
  if x.isFinite then String.ofList (x.withSign (pointedMagnitude x.rank)) else x.toText

/-- The text of a number in an outline: pointed while its first digit stands between the fourth
place behind the point and the sixteenth before it, with an exponent otherwise. -/
def toOutlineText (x : Binary64) : String :=
  if x.isFinite ∧ x.rank.val ≠ 0 then
    let (digits, exponent) := shortest x.rank
    let digits := Nat.toDigits 10 digits
    let place := exponent + digits.length - 1
    if -4 ≤ place ∧ place < 16 then x.toPointedText
    else String.ofList (x.withSign (scientific digits exponent))
  else x.toPointedText

end PortableFilter.Binary64
