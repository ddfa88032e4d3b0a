import PortableFilter.Binary64

/-! # The shortest digits of a number

A number is written with the fewest decimal digits that read back as the number
itself. The decimals that read back fill an interval around the number, which
reaches halfway to its two neighbours. `Binary64.shortest` looks for the coarsest
decimal grid with a point in that interval, and takes the point nearest to the
number.

All comparisons are made on integers, in units of `10 ^ (-1075)`: every finite
number, and every point halfway between two neighbours, is a whole multiple of
that unit. -/

namespace PortableFilter.Binary64

/-- The factor from half units of the format to units of `10 ^ (-1075)`. -/
def halfUnit : Nat := Nat.pow 5 1075

/-- A magnitude of the format in units of `10 ^ (-1075)`. -/
def exact (rank : Nat) : Nat := 2 * units rank * halfUnit

/-- The point halfway between a magnitude and the next lower one. -/
def lowerEnd (rank : Nat) : Nat := (units (rank - 1) + units rank) * halfUnit

/-- The point halfway between a magnitude and the next higher one. -/
def upperEnd (rank : Nat) : Nat := (units rank + units (rank + 1)) * halfUnit

/-- Whether a decimal reads back as the number of a rank. The ends of the interval are ties,
which go to the even rank. -/
def readsBack (rank point : Nat) : Bool :=
  if rank % 2 = 0 then lowerEnd rank ≤ point && point ≤ upperEnd rank
  else lowerEnd rank < point && point < upperEnd rank

/-- The best decimal on the grid of multiples of `10 ^ place` that reads back, if there is one:
the multiples next to the number are tried, and if both read back the nearer one is taken, the
upper one in a tie. -/
def onGrid? (rank place : Nat) : Option Nat :=
  let step := Nat.pow 10 place
  let lower := exact rank / step
  let upper := lower + 1
  match readsBack rank (lower * step), readsBack rank (upper * step) with
  | true, true =>
    some (if exact rank - lower * step < upper * step - exact rank then lower else upper)
  | true, false => some lower
  | false, true => some upper
  | false, false => none

/-- The decimal on the coarsest grid that reads back, among the grids of at most `place`: its
digits and its place. On the finest grid, of place zero, the number itself is a point. -/
def shortestFrom (rank : Nat) : Nat → Nat × Nat
  | 0 => (exact rank, 0)
  | place + 1 =>
    match onGrid? rank (place + 1) with
    | some digits => (digits, place + 1)
    | none => shortestFrom rank place

/-- The shortest digits of a magnitude, and the exponent of ten they are multiplied with. No
magnitude of the format reaches `10 ^ 310`. -/
def shortest (rank : Nat) : Nat × Int :=
  let (digits, place) := shortestFrom rank 1385
  (digits, place - 1075)

end PortableFilter.Binary64
