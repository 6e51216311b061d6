import ScalarExpr.Calendar
import ScalarExpr.Number.Numeral
/-!
Timestamps and durations as columns write them and read them: moments with the offset of a time
zone, lengths of time, and the moment that a text names.
-/
namespace ScalarExpr

namespace TimeZone

/-- Hours and minutes in seconds, which have to be less than a day. -/
def seconds? (hours minutes : List Char) : Option Int := do
  let h ← Numeral.nat? hours
  let m ← Numeral.nat? minutes
  let seconds := h * 3600 + m * 60
  if seconds < 86400 then some seconds else none

def magnitude? : List Char → Option Int
  | [h₁, h₀] => seconds? [h₁, h₀] ['0', '0']
  | [h₁, h₀, m₁, m₀] => seconds? [h₁, h₀] [m₁, m₀]
  | [h₁, h₀, ':', m₁, m₀] => seconds? [h₁, h₀] [m₁, m₀]
  | _ => none

/-- Seconds that the clocks of a zone are ahead; zones are offsets such as `+09:30`, `-0930` or
`+09`, and no names are known. -/
def offset? : List Char → Option Int
  | '+' :: cs => magnitude? cs
  | '-' :: cs => (magnitude? cs).map Neg.neg
  | _ => none

/-- An offset to the minute, with `Z` for none. -/
def offsetText (seconds : Int) : String :=
  if seconds = 0 then "Z"
  else (if seconds < 0 then "-" else "+") ++ padded 2 (seconds.natAbs / 3600) ++ ":"
    ++ padded 2 (seconds.natAbs / 60 % 60)

end TimeZone

/-- What clocks that are ahead show. -/
def Moment.shift (m : Moment) (seconds : Int) : Moment := ⟨m.seconds + seconds, m.nanos⟩

/-- Date and time on the clocks of a zone, and its offset. -/
def Moment.zonedText (m : Moment) (offset : Int) : String :=
  (m.shift offset).joinedText ++ TimeZone.offsetText offset

/-- A length of time in seconds between `PT` and `S`, with a fraction up to its last digit that is
not zero. -/
def spanText (nanos : Int) : String :=
  let fraction := (padded 9 (nanos.natAbs % 1000000000)).toList
  let digits := (fraction.reverse.dropWhile (· = '0')).reverse
  (if nanos < 0 then "-P" else "P") ++
    if nanos = 0 then "0D"
    else "T" ++ toString (nanos.natAbs / 1000000000)
      ++ (if digits.isEmpty then "" else "." ++ String.ofList digits) ++ "S"

/-! ### Reading -/

namespace Timestamp

/-- Microseconds from midnight; a minute may have a second too many. -/
def timeOfDay? (hours minutes seconds : List Char) (micros : Nat) : Option Int := do
  let h ← Numeral.nat? hours
  let m ← Numeral.nat? minutes
  let s ← Numeral.nat? seconds
  if h < 24 && m < 60 && s ≤ 60 then some (((h * 60 + m) * 60 + s) * 1000000 + micros) else none

/-- The first six digits after the point, and zeros where there are fewer. -/
def microsOf (fraction : List Char) : Nat :=
  Numeral.value ((fraction ++ List.replicate 6 '0').take 6)

/-- The microseconds of a fraction, and what stands behind it; without a point there is none. -/
def fraction? : List Char → Option (Nat × List Char)
  | '.' :: cs =>
    let digits := cs.takeWhile Char.isDigit
    if digits.isEmpty then none else some (microsOf digits, cs.dropWhile Char.isDigit)
  | cs => some (0, cs)

/-- A time with colons, which may have a fraction, or one of six digits alone; and what stands
behind it. -/
def clock? : List Char → Option (Int × List Char)
  | h₁ :: h₀ :: ':' :: m₁ :: m₀ :: ':' :: s₁ :: s₀ :: cs => do
    let (micros, cs) ← fraction? cs
    return (← timeOfDay? [h₁, h₀] [m₁, m₀] [s₁, s₀] micros, cs)
  | h₁ :: h₀ :: m₁ :: m₀ :: s₁ :: s₀ :: cs =>
    if (cs.take 2).any Char.isDigit then none
    else do return (← timeOfDay? [h₁, h₀] [m₁, m₀] [s₁, s₀] 0, cs)
  | _ => none

/-- The offset behind a time: none or `Z` for Greenwich, or that of a zone, with or without space
before it. -/
def zone? : List Char → Option Int
  | [] | ['z'] | ['Z'] => some 0
  | cs => TimeZone.offset? (cs.dropWhile Numeral.isSpace)

/-- Microseconds from the midnight of a date in Greenwich: a date alone is its midnight, and behind
`T` or a blank there is a time with the offset of its zone. -/
def sinceMidnight? : List Char → Option Int
  | [] => some 0
  | separator :: cs =>
    if separator = 'T' || separator = 't' || separator = ' ' then do
      let (time, cs) ← clock? cs
      return time - (← zone? cs) * 1000000
    else none

/-- The midnight of a date of the calendar, in microseconds from the epoch. -/
def midnight? (year month day : List Char) : Option Int := do
  let y ← Numeral.nat? year
  let m ← Numeral.nat? month
  let d ← Numeral.nat? day
  let date : CivilDate := ⟨y, m, d⟩
  if date.isValid then some (date.days * 86400000000) else none

/-- The moment that a text names, in microseconds from the epoch; its year has four digits. -/
def micros? (s : String) : Option Int :=
  match s.toList with
  | y₃ :: y₂ :: y₁ :: y₀ :: '-' :: m₁ :: m₀ :: '-' :: d₁ :: d₀ :: cs => do
    return (← midnight? [y₃, y₂, y₁, y₀] [m₁, m₀] [d₁, d₀]) + (← sinceMidnight? cs)
  | _ => none

end Timestamp
end ScalarExpr
