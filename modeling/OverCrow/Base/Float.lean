import Mathlib.Algebra.Order.Ring.Int
import Mathlib.Tactic.Common

/-!
# Binary floating-point values by their bit pattern

An IEEE 754 interchange value with `e` exponent bits and `m` stored mantissa bits.
Only classification and comparison are given: they need no arithmetic, because for
values other than NaN the sign-magnitude integer of the pattern orders as the value does.
-/

namespace OverCrow.Base

/-- The bit pattern of a binary interchange value: sign, `e` exponent bits, `m` mantissa bits. -/
structure BinaryFloat (e m : Nat) where
  bits : BitVec (1 + e + m)
  deriving DecidableEq, Inhabited

/-- Binary32. -/
abbrev F32 := BinaryFloat 8 23

/-- Binary64. -/
abbrev F64 := BinaryFloat 11 52

namespace BinaryFloat

variable {e m : Nat}

/-- Value given by its pattern as a number. -/
def ofBits (n : Nat) : BinaryFloat e m := ⟨BitVec.ofNat _ n⟩

/-- The pattern without its sign. -/
def magnitude (x : BinaryFloat e m) : Nat := x.bits.toNat % 2 ^ (e + m)

/-- The sign bit. -/
def negative (x : BinaryFloat e m) : Bool := 2 ^ (e + m) ≤ x.bits.toNat

/-- The magnitude of infinity: every exponent bit is set and no mantissa bit. -/
def infinity (e m : Nat) : Nat := (2 ^ e - 1) * 2 ^ m

/-- Not a number: above the magnitude of infinity. -/
def isNan (x : BinaryFloat e m) : Bool := infinity e m < x.magnitude

/-- Neither infinite nor NaN. -/
def isFinite (x : BinaryFloat e m) : Bool := x.magnitude < infinity e m

/-- Sign-magnitude integer of the pattern; the two zeros agree. -/
def key (x : BinaryFloat e m) : Int := if x.negative then -(x.magnitude : Int) else x.magnitude

/-- Comparison `x <= y`; false when either side is NaN. -/
def le (x y : BinaryFloat e m) : Bool := !x.isNan && !y.isNan && decide (x.key ≤ y.key)

/-- Comparison `x < y`; false when either side is NaN. -/
def lt (x y : BinaryFloat e m) : Bool := !x.isNan && !y.isNan && decide (x.key < y.key)

/-- `==` of floating-point values: NaN differs from itself and the two zeros are equal. -/
instance : BEq (BinaryFloat e m) where
  beq x y := !x.isNan && !y.isNan && decide (x.key = y.key)

end BinaryFloat

end OverCrow.Base
