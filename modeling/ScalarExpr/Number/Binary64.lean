/-!
Double precision numbers as bit patterns. Classification, order, rounding and conversion are exact
integer arithmetic on the pattern. The four arithmetic operations are the machine's; a NaN operand
is kept, and a NaN born of an invalid operation has its sign bit set.
-/
namespace ScalarExpr

structure Binary64 where
  bits : UInt64
  deriving DecidableEq, Inhabited

namespace Binary64

def magnitude (x : Binary64) : Nat := x.bits.toNat % Nat.pow 2 63

def isNegative (x : Binary64) : Bool := Nat.pow 2 63 ≤ x.bits.toNat

/-- The magnitude of the two infinities; every larger magnitude is a NaN. -/
def infinityMagnitude : Nat := 0x7ff0000000000000

def isNaN (x : Binary64) : Bool := infinityMagnitude < x.magnitude

def isInfinite (x : Binary64) : Bool := x.magnitude = infinityMagnitude

def isFinite (x : Binary64) : Bool := x.magnitude < infinityMagnitude

def isZero (x : Binary64) : Bool := x.magnitude = 0

def ofMagnitude (negative : Bool) (m : Nat) : Binary64 :=
  ⟨UInt64.ofNat (if negative then Nat.pow 2 63 + m else m)⟩

def zero : Binary64 := ⟨0⟩

def infinity (negative : Bool) : Binary64 := ofMagnitude negative infinityMagnitude

def nan : Binary64 := ⟨0x7ff8000000000000⟩

/-- The NaN with the given sign bit. Only the total order and the keys of literals tell the two
apart. -/
def signedNaN (negative : Bool) : Binary64 := ofMagnitude negative 0x7ff8000000000000

/-- What an invalid operation such as `∞ - ∞` gives. -/
def invalid : Binary64 := ⟨0xfff8000000000000⟩

def quiet (x : Binary64) : Binary64 := ⟨x.bits ||| 0x0008000000000000⟩

/-! ### Equality and order -/

/-- Equality of numbers: the two zeros are equal and a NaN equals nothing. -/
def numEq (x y : Binary64) : Bool :=
  !x.isNaN && !y.isNaN && (x.bits == y.bits || x.isZero && y.isZero)

/-- The place of a number in the total order of patterns: negative NaNs, `-∞`, …, `-0`, `0`, …,
`∞`, positive NaNs. -/
def orderKey (x : Binary64) : Int :=
  if x.isNegative then -(x.magnitude : Int) - 1 else x.magnitude

def compareTotal (x y : Binary64) : Ordering := compare x.orderKey y.orderKey

/-! ### Significand and exponent -/

/-- A finite number has the absolute value `significand * 2 ^ exponent`. -/
def significand (x : Binary64) : Nat :=
  if x.magnitude / Nat.pow 2 52 = 0 then x.magnitude else Nat.pow 2 52 + x.magnitude % Nat.pow 2 52

def exponent (x : Binary64) : Int :=
  (max (x.magnitude / Nat.pow 2 52) 1 : Nat) - 1075

/-- A power of two other than the smallest: the gap below it is half the gap above it. -/
def gapBelowIsHalf (x : Binary64) : Bool :=
  x.magnitude % Nat.pow 2 52 = 0 && Nat.pow 2 52 < x.magnitude

/-! ### Rounding -/

/-- The exponent of the greatest power of two that is at most `num / den`. -/
def floorLog2 (num den : Nat) : Int :=
  let guess : Int := (num.log2 : Int) - den.log2
  if den * Nat.pow 2 guess.toNat ≤ num * Nat.pow 2 (-guess).toNat then guess else guess - 1

/-- `num / den` to the nearest whole number, a tie to the even one. -/
def divNearestEven (num den : Nat) : Nat :=
  let floor := num / den
  let twice := 2 * (num % den)
  if den < twice || twice = den && floor % 2 = 1 then floor + 1 else floor

/-- The magnitude of the number nearest to `num / den`, a tie to the even pattern. -/
def roundRatio (num den : Nat) : Nat :=
  if num = 0 then 0
  else
    let unit := max (floorLog2 num den - 52) (-1074)
    let steps := divNearestEven (num * Nat.pow 2 (-unit).toNat) (den * Nat.pow 2 unit.toNat)
    min ((unit + 1074).toNat * Nat.pow 2 52 + steps) infinityMagnitude

def ofInt (n : Int) : Binary64 := ofMagnitude (n < 0) (roundRatio n.natAbs 1)

def ofDecimal (negative : Bool) (digits : Nat) (tens : Int) : Binary64 :=
  let size : Int := (digits.log2 : Int) * 30103 / 100000 + tens
  if digits = 0 || size < -400 then ofMagnitude negative 0
  else if 400 < size then infinity negative
  else ofMagnitude negative (roundRatio (digits * Nat.pow 10 tens.toNat) (Nat.pow 10 (-tens).toNat))

/-! ### Arithmetic -/

def arithmetic (op : Float → Float → Float) (x y : Binary64) : Binary64 :=
  if x.isNaN then x.quiet
  else if y.isNaN then y.quiet
  else
    let r := op (Float.ofBits x.bits) (Float.ofBits y.bits)
    if r.isNaN then invalid else ⟨r.toBits⟩

def add (x y : Binary64) : Binary64 := arithmetic (· + ·) x y
def sub (x y : Binary64) : Binary64 := arithmetic (· - ·) x y
def mul (x y : Binary64) : Binary64 := arithmetic (· * ·) x y
def div (x y : Binary64) : Binary64 := arithmetic (· / ·) x y

instance : Add Binary64 := ⟨add⟩
instance : Sub Binary64 := ⟨sub⟩
instance : Mul Binary64 := ⟨mul⟩
instance : Div Binary64 := ⟨div⟩

/-- Repeated squaring from the low bit of `n` up: `acc * base ^ n`, rounded at each product. -/
def powNat (acc base : Binary64) (n : Nat) : Binary64 :=
  let acc := if n % 2 = 1 then acc * base else acc
  if _h : n / 2 = 0 then acc else powNat acc (base * base) (n / 2)
termination_by n
decreasing_by omega

/-- `base ^ n` by repeated squaring; a negative power is the reciprocal of the positive one. -/
def pow (base : Binary64) (n : Int) : Binary64 :=
  let r := powNat (ofInt 1) base n.natAbs
  if n < 0 then ofInt 1 / r else r

def ofUnscaled (unscaled scale : Int) : Binary64 := ofInt unscaled / pow (ofInt 10) scale

/-! ### Whole parts -/

def absRatio (x : Binary64) : Nat × Nat :=
  (x.significand * Nat.pow 2 x.exponent.toNat, Nat.pow 2 (-x.exponent).toNat)

def truncate? (x : Binary64) : Option Int :=
  if x.isFinite then
    let (num, den) := x.absRatio
    let whole : Int := (num / den : Nat)
    some (if x.isNegative then -whole else whole)
  else none

/-- The nearest whole number, a half going away from zero. -/
def round? (x : Binary64) : Option Int :=
  if x.isFinite then
    let (num, den) := x.absRatio
    let whole : Int := ((2 * num + den) / (2 * den) : Nat)
    some (if x.isNegative then -whole else whole)
  else none

end Binary64
end ScalarExpr
