/-! # Sets of characters given by code point intervals

The character classes of the filter language are properties of characters that
no formula describes. A `CharSet` lists the closed intervals of code points that
a property covers, in increasing order. The properties are those of version 17.0
of the Unicode standard. -/

namespace PortableFilter.Text

/-- Whether every interval is non-empty, lies strictly above the one before it, and starts at
`floor` or above. -/
def areOrdered (floor : Nat) : List (Nat × Nat) → Bool
  | [] => true
  | (first, last) :: rest => floor ≤ first && first ≤ last && areOrdered (last + 1) rest

/-- A set of characters: the closed intervals of code points it covers. -/
structure CharSet where
  /-- First and last code point of each interval. -/
  intervals : List (Nat × Nat)
  /-- The intervals are in increasing order, and no two of them meet. -/
  ordered : areOrdered 0 intervals

/-- Whether a character lies in one of the intervals. -/
def CharSet.contains (set : CharSet) (c : Char) : Bool :=
  set.intervals.any fun (first, last) => first ≤ c.toNat && c.toNat ≤ last

end PortableFilter.Text
