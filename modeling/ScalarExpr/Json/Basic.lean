import ScalarExpr.Number.Binary64
import ScalarExpr.Number.Numeral
/-!
JSON documents as trees. Numbers are kept as they are written, since what they stand for depends on
what is read from them.
-/
namespace ScalarExpr

/-- The digits of a number: whole part, digits after the point if there is one, and the exponent if
there is one. -/
structure JsonNumber where
  isNegative : Bool
  whole : List Char
  fraction : Option (List Char)
  exponent : Option Int

namespace JsonNumber

def ofInt (n : Int) : JsonNumber := ⟨n < 0, (toString n.natAbs).toList, none, none⟩

/-- The integer, where neither point nor exponent is written. -/
def signedZeroInt? (n : JsonNumber) : Option Int :=
  match n.fraction, n.exponent with
  | none, none => some (Numeral.signed n.isNegative (Numeral.value n.whole))
  | _, _ => none

/-- The integer of a number that is not `-0`, which is a real. -/
def int? (n : JsonNumber) : Option Int :=
  n.signedZeroInt?.filter fun i => !(n.isNegative && i = 0)

/-- Digits gathered in 64 bits, and the power of ten they are to be multiplied with. -/
structure Gathered where
  digits : Nat
  tens : Int

namespace Gathered

def takes (g : Gathered) (c : Char) : Bool := g.digits * 10 + (c.toNat - '0'.toNat) < Nat.pow 2 64

def push (g : Gathered) (c : Char) : Gathered :=
  { g with digits := g.digits * 10 + (c.toNat - '0'.toNat) }

/-- From the first digit for which there is no room, digits of the whole part are counted only. -/
def whole (g : Gathered) : List Char → Gathered
  | [] => g
  | c :: cs =>
    if g.takes c then whole (g.push c) cs else { g with tens := g.tens + (cs.length + 1 : Nat) }

/-- From the first digit for which there is no room, digits of the fraction are left out. -/
def fraction (g : Gathered) : List Char → Gathered
  | [] => g
  | c :: cs => if g.takes c then fraction { g.push c with tens := g.tens - 1 } cs else g

end Gathered

/-- The greatest power of ten that a real is multiplied with or divided by at once. -/
def greatestTens : Nat := 308

/-- A real times a power of ten, rounded at each step; an infinite product is none. -/
def scale? (x : Binary64) (tens : Int) : Option Binary64 :=
  if tens.natAbs ≤ greatestTens then
    let power := Binary64.ofInt (Int.pow 10 tens.natAbs)
    if 0 ≤ tens then
      let y := x * power
      if y.isInfinite then none else some y
    else some (x / power)
  else if x.isZero then some x
  else if 0 ≤ tens then none
  else scale? (x / .ofInt (Int.pow 10 greatestTens)) (tens + greatestTens)
termination_by tens.natAbs
decreasing_by all_goals (simp only [greatestTens] at *; omega)

/-- The real number. It can differ from the nearest one in its last bits, since the digits are
rounded before they are scaled. -/
def real? (n : JsonNumber) : Option Binary64 :=
  let g := ((Gathered.mk 0 0).whole n.whole).fraction (n.fraction.getD [])
  (scale? (.ofInt g.digits) (g.tens + n.exponent.getD 0)).map fun x =>
    if n.isNegative then .ofMagnitude true x.magnitude else x

def text (n : JsonNumber) : String :=
  (if n.isNegative then "-" else "") ++ String.ofList n.whole
    ++ (n.fraction.map fun f => "." ++ String.ofList f).getD ""
    ++ (n.exponent.map fun e => "e" ++ toString e).getD ""

end JsonNumber

/-- A text is `none` if it has half of a surrogate pair: it may stand where nothing is read. -/
inductive Json
  | null
  | bool (b : Bool)
  | number (n : JsonNumber)
  | text (s : Option String)
  | list (items : List Json)
  | object (fields : List (Option String × Json))

namespace Json

def int (n : Int) : Json := number (.ofInt n)

def string (s : String) : Json := text (some s)

def record (fields : List (String × Json)) : Json := object (fields.map fun (k, v) => (some k, v))

end Json
end ScalarExpr
