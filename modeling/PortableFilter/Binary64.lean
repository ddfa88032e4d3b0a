/-! # Double-precision numbers

A `Binary64` is a number of the IEEE 754 binary64 format, held as its sign and
the rank of its magnitude. Ranks count the magnitudes of the format from zero
upward, so neighbouring numbers have neighbouring ranks, and a rank is also the
lower 63 bits of the number's encoding. `Binary64.units` gives the magnitude of a
finite rank exactly, as a multiple of the smallest positive number. -/

namespace PortableFilter

/-- A number of the binary64 format. -/
structure Binary64 where
  negative : Bool
  /-- The place of the magnitude among the magnitudes of the format, counted from zero. -/
  rank : Fin (1 <<< 63)
  deriving DecidableEq, Repr

namespace Binary64

/-- The rank of infinity. Greater ranks are not numbers. -/
def infinityRank : Nat := 2047 <<< 52

/-- The number of a rank; ranks beyond infinity are taken as infinity. -/
def ofRank (negative : Bool) (rank : Nat) : Binary64 :=
  ⟨negative, ⟨min rank infinityRank, Nat.lt_of_le_of_lt (Nat.min_le_right _ _) (by decide)⟩⟩

/-- The number with a 64-bit encoding: the sign in the highest bit, the rank in the others. -/
def ofBits (bits : UInt64) : Binary64 :=
  ⟨1 <<< 63 ≤ bits.toNat, ⟨bits.toNat % 1 <<< 63, Nat.mod_lt _ (by decide)⟩⟩

/-- The 64-bit encoding of a number. -/
def toBits (x : Binary64) : UInt64 :=
  UInt64.ofNat ((if x.negative then 1 <<< 63 else 0) + x.rank)

/-- Whether a number is neither infinite nor undefined. -/
def isFinite (x : Binary64) : Bool := x.rank < infinityRank

/-- Whether an encoding stands for no number. -/
def isNaN (x : Binary64) : Bool := infinityRank < x.rank

/-- The magnitude of a rank in units of the smallest positive number, `2 ^ (-1074)`. Ranks below
`2 ^ 53` are their own magnitudes; above, the magnitudes thin out by half at every `2 ^ 52`
ranks. -/
def units (rank : Nat) : Nat :=
  if rank < 1 <<< 52 then rank
  else (1 <<< 52 + rank % 1 <<< 52) <<< (rank / 1 <<< 52 - 1)

/-- Numeric equality: the two zeros are equal, and what is not a number equals nothing. -/
def sameNumber (x y : Binary64) : Bool :=
  !x.isNaN && !y.isNaN && (x == y || (x.rank.val == 0 && y.rank.val == 0))

end Binary64

end PortableFilter
