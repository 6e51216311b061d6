import ScalarExpr.Number.Binary32
/-!
The shortest decimal text of a binary number: the fewest digits that read back as the number, and
of those the digits nearest to it. `Shortest.digits?` finds them on the coarsest decimal grid that
has a point in the interval of values rounding to the number; a `RealLayout` says how they are set.
-/
namespace ScalarExpr

/-- Which of two equally near neighbours on a grid is taken. -/
inductive Tie
  | up
  | even

namespace Shortest

/-- A finite positive number `significand * 2 ^ exponent` as its neighbours see it. -/
structure Point where
  significand : Nat
  exponent : Int
  gapBelowIsHalf : Bool

/-- The multiple of `10 ^ p` nearest to `x` among those that round to `x`, if there is one. The
interval that rounds to `x` has its ends in it exactly if the significand is even. -/
def onGrid? (tie : Tie) (x : Point) (p : Int) : Option Nat :=
  let quarter := x.exponent - 2
  let num := Nat.pow 2 quarter.toNat * Nat.pow 10 (-p).toNat
  let den := Nat.pow 2 (-quarter).toNat * Nat.pow 10 p.toNat
  let value := 4 * x.significand * num
  let low := (4 * x.significand - if x.gapBelowIsHalf then 1 else 2) * num
  let high := (4 * x.significand + 2) * num
  let fits (k : Nat) : Bool :=
    if x.significand % 2 = 0 then low ≤ k * den && k * den ≤ high
    else low < k * den && k * den < high
  let below := value / den
  let above := below + 1
  match fits below, fits above with
  | true, true =>
    let toBelow := value - below * den
    let toAbove := above * den - value
    if toBelow < toAbove then some below
    else if toAbove < toBelow then some above
    else match tie with
      | .up => some above
      | .even => some (if below % 2 = 0 then below else above)
  | true, false => some below
  | false, true => some above
  | false, false => none

/-- The first hit on the grids `10 ^ p`, `10 ^ (p - 1)`, … -/
def search (tie : Tie) (x : Point) : Nat → Int → Option (Nat × Int)
  | 0, _ => none
  | steps + 1, p =>
    match onGrid? tie x p with
    | some k => some (k, p)
    | none => search tie x steps (p - 1)

/-- Digits `k` and exponent `p` of the shortest text `k * 10 ^ p`. The search starts above the
number; seventeen digits are always enough. -/
def digits? (tie : Tie) (x : Point) : Option (Nat × Int) :=
  search tie x 24 (((x.significand.log2 : Int) + 1 + x.exponent) * 30103 / 100000 + 2)

end Shortest

structure RealLayout where
  /-- Numbers from `10 ^ low` to below `10 ^ high` have no exponent; without bounds none has. -/
  plain : Option (Int × Int)
  /-- Whole numbers without an exponent end in `.0`. -/
  wholeHasPoint : Bool
  tie : Tie

namespace RealLayout

/-- Values in expressions and messages never have an exponent. -/
def value : RealLayout := ⟨none, false, .up⟩

/-- Doubles turned into text column by column. -/
def double : RealLayout := ⟨some (-5, 16), true, .even⟩

/-- Singles turned into text column by column. -/
def single : RealLayout := ⟨some (-6, 13), true, .even⟩

def zeros (n : Nat) : String := "".pushn '0' n

def setDigits (layout : RealLayout) (k : Nat) (p : Int) : String :=
  let ds := toString k
  let point : Int := ds.length + p
  let isPlain := match layout.plain with
    | none => true
    | some (low, high) => low < point && point ≤ high
  if isPlain then
    if 0 ≤ p then ds ++ zeros p.toNat ++ (if layout.wholeHasPoint then ".0" else "")
    else if 0 < point then
      let cs := ds.toList
      String.ofList (cs.take point.toNat) ++ "." ++ String.ofList (cs.drop point.toNat)
    else "0." ++ zeros (-point).toNat ++ ds
  else
    let cs := ds.toList
    let rest := cs.drop 1
    String.ofList (cs.take 1) ++ (if rest.isEmpty then "" else "." ++ String.ofList rest)
      ++ "e" ++ toString (point - 1)

/-- The text of the number with the given sign whose absolute value is `x`. -/
def set (layout : RealLayout) (negative isNaN isInfinite : Bool) (x : Shortest.Point) : String :=
  let sign := if negative then "-" else ""
  if isNaN then "NaN"
  else if isInfinite then sign ++ "inf"
  else if x.significand = 0 then sign ++ layout.setDigits 0 0
  else
    let (k, p) := (Shortest.digits? layout.tie x).getD (0, 0)
    sign ++ layout.setDigits k p

end RealLayout

namespace Binary64

def text (x : Binary64) (layout : RealLayout) : String :=
  layout.set x.isNegative x.isNaN x.isInfinite ⟨x.significand, x.exponent, x.gapBelowIsHalf⟩

end Binary64

namespace Binary32

def text (x : Binary32) (layout : RealLayout) : String :=
  layout.set x.isNegative x.isNaN x.isInfinite ⟨x.significand, x.exponent, x.gapBelowIsHalf⟩

end Binary32
end ScalarExpr
