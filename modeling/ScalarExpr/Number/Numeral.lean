import ScalarExpr.Number.Binary64
/-!
Numbers read from text: whole numbers, reals in positional or exponent notation, and decimals of a
fixed scale. A text that is not wholly a numeral is refused.
-/
namespace ScalarExpr.Numeral

def value (digits : List Char) : Nat :=
  digits.foldl (fun n c => 10 * n + (c.toNat - '0'.toNat)) 0

/-- The value of a list of ASCII digits with at least one of them. -/
def nat? (cs : List Char) : Option Nat :=
  if !cs.isEmpty && cs.all Char.isDigit then some (value cs) else none

/-- Splits off one sign; the first part says whether it was a minus. -/
def splitSign : List Char → Bool × List Char
  | '-' :: cs => (true, cs)
  | '+' :: cs => (false, cs)
  | cs => (false, cs)

def signed (negative : Bool) (n : Nat) : Int := if negative then -(n : Int) else n

def int? (s : String) : Option Int :=
  let (negative, cs) := splitSign s.toList
  (nat? cs).map (signed negative)

/-- The exponent part of a real: nothing, or `e` with an optional sign and digits. -/
def exponent? : List Char → Option Int
  | [] => some 0
  | c :: cs =>
    if c = 'e' || c = 'E' then
      let (negative, ds) := splitSign cs
      (nat? ds).map (signed negative)
    else none

/-- An optional sign, then `inf`, `infinity` or `nan` in any case, or digits with at most one point
among them and an optional exponent. -/
def real? (s : String) : Option Binary64 :=
  let (negative, cs) := splitSign s.toList
  let word := String.ofList (cs.map Char.toLower)
  if word = "nan" then some (.signedNaN negative)
  else if word = "inf" || word = "infinity" then some (.infinity negative)
  else
    let whole := cs.takeWhile Char.isDigit
    let rest := cs.dropWhile Char.isDigit
    let (fraction, rest) := match rest with
      | '.' :: rest => (rest.takeWhile Char.isDigit, rest.dropWhile Char.isDigit)
      | rest => ([], rest)
    let digits := whole ++ fraction
    if digits.isEmpty then none
    else (exponent? rest).map fun e => .ofDecimal negative (value digits) (e - fraction.length)

/-- White space around a decimal is ignored. -/
def isSpace (c : Char) : Bool :=
  let n := c.toNat
  9 ≤ n && n ≤ 13 || n = 0x20 || n = 0x85 || n = 0xa0 || n = 0x1680 || 0x2000 ≤ n && n ≤ 0x200a
    || n = 0x2028 || n = 0x2029 || n = 0x202f || n = 0x205f || n = 0x3000

def trim (cs : List Char) : List Char :=
  ((cs.dropWhile isSpace).reverse.dropWhile isSpace).reverse

/-- Words of 256 bits hold the digits of a decimal while it is read. -/
def wordBound : Int := Int.pow 2 255

/-- Digits as a word; no digits are zero. -/
def word? (cs : List Char) : Option Int :=
  if cs.isEmpty then some 0
  else (nat? cs).bind fun n => if (n : Int) < wordBound then some n else none

/-- The value of `whole.fraction` in units of `10 ^ -scale`. Fraction digits beyond the scale are
rounded, a half going up. -/
def unscaled? (scale : Nat) (whole fraction : List Char) : Option Int :=
  if fraction.length ≤ scale then
    let padding := List.replicate (scale - fraction.length) '0'
    if whole.all Char.isDigit && fraction.all Char.isDigit then
      word? (whole ++ fraction ++ padding)
    else none
  else do
    let dropped := fraction.length - scale
    let digits ← word? fraction
    let unit := Int.pow 10 dropped
    if wordBound ≤ unit then none
    let rounded := digits / unit + if unit / 2 ≤ digits % unit then 1 else 0
    let integer ← word? whole
    some (((integer * Int.pow 10 scale).bmod (Nat.pow 2 256) + rounded).bmod (Nat.pow 2 256))

/-- A decimal with at most one point and an optional sign before its whole part. Parts that are
missing are zero, so that the empty text, a sign or a point alone is zero. A value that has left the
word and come back below zero is no numeral behind a minus. -/
def decimal? (scale : Nat) (s : String) : Option Int :=
  let cs := trim s.toList
  let whole := cs.takeWhile (· ≠ '.')
  let fraction := (cs.dropWhile (· ≠ '.')).drop 1
  let (negative, whole) := splitSign whole
  if fraction.contains '.' then none
  else (unscaled? scale whole fraction).bind fun n =>
    if !negative then some n else if n < 0 then none else some (-n)

end ScalarExpr.Numeral
