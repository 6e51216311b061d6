import ScalarExpr.Number.Binary64
/-!
Single precision numbers as bit patterns. They are only read: each has an exact double.
-/
namespace ScalarExpr

structure Binary32 where
  bits : UInt32
  deriving DecidableEq, Inhabited

namespace Binary32

def magnitude (x : Binary32) : Nat := x.bits.toNat % Nat.pow 2 31

def isNegative (x : Binary32) : Bool := Nat.pow 2 31 ≤ x.bits.toNat

def infinityMagnitude : Nat := 0x7f800000

def isNaN (x : Binary32) : Bool := infinityMagnitude < x.magnitude

def isInfinite (x : Binary32) : Bool := x.magnitude = infinityMagnitude

/-- A finite number has the absolute value `significand * 2 ^ exponent`. -/
def significand (x : Binary32) : Nat :=
  if x.magnitude / Nat.pow 2 23 = 0 then x.magnitude else Nat.pow 2 23 + x.magnitude % Nat.pow 2 23

def exponent (x : Binary32) : Int :=
  (max (x.magnitude / Nat.pow 2 23) 1 : Nat) - 150

/-- A power of two other than the smallest: the gap below it is half the gap above it. -/
def gapBelowIsHalf (x : Binary32) : Bool :=
  x.magnitude % Nat.pow 2 23 = 0 && Nat.pow 2 23 < x.magnitude

/-- The double of the same value; a NaN keeps its sign and payload and becomes quiet. -/
def widen (x : Binary32) : Binary64 :=
  if x.isNaN then
    (Binary64.ofMagnitude x.isNegative
      (Binary64.infinityMagnitude + x.magnitude % Nat.pow 2 23 * Nat.pow 2 29)).quiet
  else if x.isInfinite then Binary64.infinity x.isNegative
  else
    Binary64.ofMagnitude x.isNegative
      (Binary64.roundRatio (x.significand * Nat.pow 2 x.exponent.toNat)
        (Nat.pow 2 (-x.exponent).toNat))

end Binary32
end ScalarExpr
