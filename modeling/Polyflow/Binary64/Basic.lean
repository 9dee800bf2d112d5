/-
# Binary floating point numbers of 64 bits

A number is its bit pattern: a sign, an exponent field of eleven bits and a
fraction of fifty-two. Numbers are kept apart by their bits, so that not-a-number
keeps its payload and the two zeros stay two; `equals` compares them as numbers,
where not-a-number equals nothing and the zeros are one.
-/

namespace Polyflow

/-- A number of the format binary64, given by its bits. -/
structure Binary64 where
  bits : UInt64
deriving DecidableEq, Repr

namespace Binary64

/-- Whether the sign bit is set. -/
def isNegative (x : Binary64) : Bool :=
  Nat.pow 2 63 ≤ x.bits.toNat

/-- All bits but the sign. As an integer it grows with the absolute value. -/
def magnitude (x : Binary64) : Nat :=
  x.bits.toNat % Nat.pow 2 63

/-- The magnitude of the infinities. -/
def infinite : Nat :=
  0x7FF * Nat.pow 2 52

/-- Whether the bits stand for no number. -/
def isNaN (x : Binary64) : Bool :=
  infinite < x.magnitude

/-- Whether the number is one of the two infinities. -/
def isInfinite (x : Binary64) : Bool :=
  x.magnitude = infinite

/-- Whether the number is one of the two zeros. -/
def isZero (x : Binary64) : Bool :=
  x.magnitude = 0

/-- Equality of numbers: not-a-number differs from everything, itself included,
and the two zeros are equal. -/
def equals (x y : Binary64) : Bool :=
  !x.isNaN && !y.isNaN && (x.bits == y.bits || x.isZero && y.isZero)

end Binary64

end Polyflow
