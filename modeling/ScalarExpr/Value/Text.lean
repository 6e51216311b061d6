import ScalarExpr.Value.Basic
import ScalarExpr.Error
import ScalarExpr.Calendar
import ScalarExpr.Number.Shortest
/-!
The text of a value in expressions, messages and text functions. Only a decimal can have none: its
power of ten and the product with it have to fit 128 bits.
-/
namespace ScalarExpr

def fitsInt128 (n : Int) : Bool := -Int.pow 2 127 ≤ n && n < Int.pow 2 127

/-- `10 ^ n`, if it is a whole number of 128 bits. -/
def powerOfTen (n : Nat) : Except Fault Nat :=
  if n ≤ 38 then .ok (Nat.pow 10 n) else .error .integerOverflow

/-- The digits of a decimal, with as many after the point as the scale says; a negative scale
appends zeros. -/
def decimalText (unscaled : Int) (scale : Int) : Except Fault String := do
  let power ← powerOfTen scale.natAbs
  if scale ≤ 0 then
    let whole := unscaled * power
    if fitsInt128 whole then .ok (toString whole) else .error .integerOverflow
  else
    let sign := if unscaled < 0 then "-" else ""
    let size := unscaled.natAbs
    .ok (sign ++ toString (size / power) ++ "." ++ padded scale.toNat (size % power))

/-- Date and time to the microsecond; a moment outside the calendar is left as its count. -/
def datetimeText (micros : Int) : String :=
  let m := Moment.ofUnits 1000000 micros
  if m.date.hasText then m.spacedText else toString micros

/-- Hours, minutes and seconds, and whole microseconds if there are any. -/
def durationText (nanos : Int) : String :=
  let size := nanos.natAbs
  let micros := size % 1000000000 / 1000
  (if nanos < 0 then "-" else "") ++ clockText (size / 1000000000)
    ++ (if micros = 0 then "" else "." ++ padded 6 micros)

namespace Value

def render : Value → Except Fault String
  | null => .ok "NULL"
  | int n => .ok (toString n.toInt)
  | uint n => .ok (toString n.toNat)
  | real x => .ok (x.text .value)
  | text s => .ok s
  | decimal n scale => decimalText n.toInt scale.toInt
  | datetime n => .ok (datetimeText n.toInt)
  | duration n => .ok (durationText n.toInt)

end Value
end ScalarExpr
