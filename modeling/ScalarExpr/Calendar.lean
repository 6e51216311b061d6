/-!
The proleptic Gregorian calendar: civil dates and times of day from counts since the start of 1970
in Greenwich, and their text.
-/
namespace ScalarExpr

/-- A decimal number with at least `width` digits. -/
def padded (width n : Nat) : String :=
  let ds := toString n
  "".pushn '0' (width - ds.length) ++ ds

structure CivilDate where
  year : Int
  month : Nat
  day : Nat
  deriving DecidableEq

namespace CivilDate

/-- The date `days` days after 1 January 1970. Years are counted from March, so that a leap day ends
its year, in cycles of 400 years or 146097 days. -/
def ofDays (days : Int) : CivilDate :=
  let shifted := days + 719468
  let cycle := shifted / 146097
  let dayOfCycle := (shifted % 146097).toNat
  let yearOfCycle :=
    (dayOfCycle - dayOfCycle / 1460 + dayOfCycle / 36524 - dayOfCycle / 146096) / 365
  let dayOfYear := dayOfCycle - (365 * yearOfCycle + yearOfCycle / 4 - yearOfCycle / 100)
  let monthFromMarch := (5 * dayOfYear + 2) / 153
  let day := dayOfYear - (153 * monthFromMarch + 2) / 5 + 1
  let month := if monthFromMarch < 10 then monthFromMarch + 3 else monthFromMarch - 9
  let year := cycle * 400 + yearOfCycle + (if month ≤ 2 then 1 else 0)
  ⟨year, month, day⟩

/-- Days from 1 January 1970 to a date, counted as `ofDays` counts; a day or a month that is out of
bounds runs on into others. -/
def days (d : CivilDate) : Int :=
  let year := if d.month ≤ 2 then d.year - 1 else d.year
  let monthFromMarch : Int := if d.month ≤ 2 then d.month + 9 else d.month - 3
  let yearOfCycle := year % 400
  let dayOfYear := (153 * monthFromMarch + 2) / 5 + d.day - 1
  let dayOfCycle := 365 * yearOfCycle + yearOfCycle / 4 - yearOfCycle / 100 + dayOfYear
  year / 400 * 146097 + dayOfCycle - 719468

/-- The date is one of the calendar: no other date is written for its day. -/
def isValid (d : CivilDate) : Bool := ofDays d.days = d

/-- The years that have a text. -/
def hasText (d : CivilDate) : Bool := -262143 ≤ d.year && d.year ≤ 262142

def yearText (year : Int) : String :=
  if year < 0 then "-" ++ padded 4 year.natAbs
  else if 9999 < year then "+" ++ padded 4 year.natAbs
  else padded 4 year.natAbs

def text (d : CivilDate) : String :=
  yearText d.year ++ "-" ++ padded 2 d.month ++ "-" ++ padded 2 d.day

end CivilDate

/-- Hours, minutes and seconds of a count of seconds; hours are not limited to a day. -/
def clockText (seconds : Nat) : String :=
  padded 2 (seconds / 3600) ++ ":" ++ padded 2 (seconds / 60 % 60) ++ ":" ++ padded 2 (seconds % 60)

/-- A moment: seconds since the epoch and nanoseconds within the second. -/
structure Moment where
  seconds : Int
  nanos : Nat

namespace Moment

/-- The moment `count` units after the epoch, with `perSecond` units to the second. -/
def ofUnits (perSecond : Nat) (count : Int) : Moment :=
  ⟨count / perSecond, (count % perSecond).toNat * (1000000000 / perSecond)⟩

def date (m : Moment) : CivilDate := .ofDays (m.seconds / 86400)

def secondOfDay (m : Moment) : Nat := (m.seconds % 86400).toNat

def spacedText (m : Moment) : String :=
  m.date.text ++ " " ++ clockText m.secondOfDay ++ "." ++ padded 6 (m.nanos / 1000)

/-- The fraction of a second with none, three, six or nine places, as few as are exact. -/
def fractionText (m : Moment) : String :=
  if m.nanos = 0 then ""
  else if m.nanos % 1000000 = 0 then "." ++ padded 3 (m.nanos / 1000000)
  else if m.nanos % 1000 = 0 then "." ++ padded 6 (m.nanos / 1000)
  else "." ++ padded 9 m.nanos

/-- Date and time joined by `T`, with as short a fraction as is exact. -/
def joinedText (m : Moment) : String :=
  m.date.text ++ "T" ++ clockText m.secondOfDay ++ m.fractionText

end Moment
end ScalarExpr
