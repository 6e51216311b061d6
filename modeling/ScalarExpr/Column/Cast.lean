import ScalarExpr.Column.Basic
import ScalarExpr.Timestamp
/-!
Conversion of whole columns to the column type of a category. A slot whose item has no counterpart
becomes NULL; a pair of types without a conversion is refused, whatever the slots hold.
-/
namespace ScalarExpr

def int64? (n : Int) : Option Int64 :=
  if -Int.pow 2 63 ≤ n && n < Int.pow 2 63 then some (Int64.ofInt n) else none

/-- Decimals of the conversion have 38 digits, ten of them after the point. -/
def decimalPlaces : Nat := 10

def decimal? (n : Int) : Option Int128 :=
  if -Int.pow 10 38 < n && n < Int.pow 10 38 then some (BitVec.ofInt 128 n) else none

/-- Decimals as columns write them: no more digits than the precision, at least one before the
point, and zeros for a negative scale. -/
def decimalColumnText (precision : Nat) (scale : Int) (unscaled : Int) : String :=
  let digits := (toString unscaled.natAbs).toList
  let sign := if unscaled < 0 then ['-'] else []
  let shown := sign ++ digits.take precision
  if scale ≤ 0 then String.ofList (shown ++ List.replicate scale.natAbs '0')
  else if scale < digits.length then
    let whole := shown.length - scale.toNat
    String.ofList (shown.take whole ++ '.' :: shown.drop whole)
  else
    String.ofList
      (sign ++ '0' :: '.' :: (List.replicate (scale.toNat - digits.length) '0' ++ digits))

namespace Column

def mapSlots {α β : Type} (xs : List (Option α)) (f : α → Option β) : List (Option β) :=
  xs.map (·.bind f)

/-- Converts each item by a function that may fail as a whole. -/
def mapSlotsM {α β ε : Type} (xs : List (Option α)) (f : α → Except ε β) :
    Except ε (List (Option β)) :=
  xs.mapM fun
    | none => .ok none
    | some a => (f a).map some

def castUnsupported (c : Column) (target : Category) : Failure :=
  .error (.column (.castUnsupported c.type target.columnType))

/-- Whole numbers: fractions are cut off, and dates and times give their count. -/
def toInts (c : Column) (target : Category) : Except Failure (List (Option Int64)) :=
  match c with
  | ⟨.int8, xs⟩ => .ok (mapSlots xs fun n => some n.toInt64)
  | ⟨.int16, xs⟩ => .ok (mapSlots xs fun n => some n.toInt64)
  | ⟨.int32, xs⟩ => .ok (mapSlots xs fun n => some n.toInt64)
  | ⟨.int64, xs⟩ => .ok xs
  | ⟨.uint8, xs⟩ => .ok (mapSlots xs fun n => int64? n.toNat)
  | ⟨.uint16, xs⟩ => .ok (mapSlots xs fun n => int64? n.toNat)
  | ⟨.uint32, xs⟩ => .ok (mapSlots xs fun n => int64? n.toNat)
  | ⟨.uint64, xs⟩ => .ok (mapSlots xs fun n => int64? n.toNat)
  | ⟨.boolean, xs⟩ => .ok (mapSlots xs fun b => some (if b then 1 else 0))
  | ⟨.float32, xs⟩ => .ok (mapSlots xs fun x => x.widen.truncate?.bind int64?)
  | ⟨.float64, xs⟩ => .ok (mapSlots xs fun x => x.truncate?.bind int64?)
  | ⟨.utf8, xs⟩ => .ok (mapSlots xs fun s => (Numeral.int? s).bind int64?)
  | ⟨.largeUtf8, xs⟩ => .ok (mapSlots xs fun s => (Numeral.int? s).bind int64?)
  | ⟨.decimal _ scale, xs⟩ =>
    if 0 ≤ scale && scale ≤ 38 then
      .ok (mapSlots xs fun n => int64? (n.toInt.tdiv (Int.pow 10 scale.toInt.toNat)))
    else .error (.error (.column (.decimalCastScale scale)))
  | ⟨.timestamp _ _, xs⟩ => .ok xs
  | ⟨.duration _, xs⟩ => .ok xs
  | ⟨.date32, xs⟩ => .ok (mapSlots xs fun n => some n.toInt64)
  | ⟨.date64, xs⟩ => .ok xs
  | ⟨.null, xs⟩ => .ok (mapSlots xs nofun)
  | c => .error (c.castUnsupported target)

/-- Real numbers, rounded to the nearest. -/
def toReals (c : Column) : Except Failure (List (Option Binary64)) :=
  match c with
  | ⟨.float32, xs⟩ => .ok (mapSlots xs fun x => some x.widen)
  | ⟨.float64, xs⟩ => .ok xs
  | ⟨.uint64, xs⟩ => .ok (mapSlots xs fun n => some (.ofInt n.toNat))
  | ⟨.utf8, xs⟩ => .ok (mapSlots xs Numeral.real?)
  | ⟨.largeUtf8, xs⟩ => .ok (mapSlots xs Numeral.real?)
  | ⟨.decimal _ scale, xs⟩ => .ok (mapSlots xs fun n => some (.ofUnscaled n.toInt scale.toInt))
  | ⟨.date32, _⟩ => .error (c.castUnsupported .real)
  | ⟨.date64, _⟩ => .error (c.castUnsupported .real)
  | c => do return mapSlots (← c.toInts .real) fun n => some (.ofInt n.toInt)

/-- The unscaled value at ten places of one at `scale` places, a half going away from zero. -/
def rescaled (scale n : Int) : Int :=
  let power := Nat.pow 10 (scale - decimalPlaces).toNat
  let size := (2 * n.natAbs * Nat.pow 10 (decimalPlaces - scale).toNat + power) / (2 * power)
  if n < 0 then -size else size

/-- Decimals with ten places; reals are multiplied out once and rounded, a half away from zero. -/
def toDecimals (c : Column) : Except Failure (List (Option Int128)) :=
  match c with
  | ⟨.float32, xs⟩ => .ok (mapSlots xs fun x => real x.widen)
  | ⟨.float64, xs⟩ => .ok (mapSlots xs real)
  | ⟨.uint64, xs⟩ => .ok (mapSlots xs fun n => decimal? (n.toNat * Int.pow 10 decimalPlaces))
  | ⟨.decimal _ scale, xs⟩ =>
    .ok (mapSlots xs fun n => decimal? (rescaled scale.toInt n.toInt))
  | ⟨.utf8, xs⟩ => .ok (mapSlots xs text)
  | ⟨.largeUtf8, xs⟩ => .ok (mapSlots xs text)
  | ⟨.boolean, _⟩ => .error (c.castUnsupported .decimal)
  | ⟨.date32, _⟩ => .error (c.castUnsupported .decimal)
  | ⟨.date64, _⟩ => .error (c.castUnsupported .decimal)
  | c => do
    return mapSlots (← c.toInts .decimal) fun n => decimal? (n.toInt * Int.pow 10 decimalPlaces)
where
  real (x : Binary64) : Option Int128 :=
    (Binary64.ofInt (Int.pow 10 decimalPlaces) * x).round?.bind decimal?
  text (s : String) : Option Int128 := (Numeral.decimal? decimalPlaces s).bind decimal?

/-- The text of a timestamp, which `shown` gives for a moment of the calendar. -/
def momentText (type : ColumnType) (unit : TimeUnit) (shown : Moment → String) (count : Int) :
    Except Failure String :=
  let m := Moment.ofUnits unit.perSecond count
  if m.date.hasText then .ok (shown m)
  else .error (.error (.column (.unrepresentableMoment count type)))

def dateText (days : Int) : Except Failure String :=
  let d := CivilDate.ofDays days
  if d.hasText then .ok d.text
  else .error (.error (.column (.unrepresentableDate days .date32)))

/-- The text of a date with a time, which is kept in milliseconds. -/
def dateTimeText (millis : Int) : Except Failure String :=
  let m := Moment.ofUnits 1000 millis
  if m.date.hasText then .ok m.joinedText
  else .error (.error (.column (.unrepresentableDate millis .date64)))

/-- The text of a length of time. A count whose milliseconds leave 64 bits, or are the least number
of them, is a fault. -/
def durationColumnText (unit : TimeUnit) (count : Int) : Except Failure String :=
  if 1000 < unit.perSecond || (count * (1000 / unit.perSecond : Nat)).natAbs < Nat.pow 2 63 then
    .ok (spanText (count * (1000000000 / unit.perSecond : Nat)))
  else .error (.fault .integerOverflow)

/-- Text; bytes that are no text become NULL, and moments with a zone are written with its offset. -/
def toTexts (c : Column) : Except Failure (List (Option String)) :=
  match c with
  | ⟨.boolean, xs⟩ => .ok (mapSlots xs fun b => some (if b then "true" else "false"))
  | ⟨.float32, xs⟩ => .ok (mapSlots xs fun x => some (x.text .single))
  | ⟨.float64, xs⟩ => .ok (mapSlots xs fun x => some (x.text .double))
  | ⟨.uint64, xs⟩ => .ok (mapSlots xs fun n => some (toString n.toNat))
  | ⟨.utf8, xs⟩ => .ok xs
  | ⟨.largeUtf8, xs⟩ => .ok xs
  | ⟨.binary, xs⟩ => .ok (mapSlots xs fun bytes => String.fromUTF8? ⟨bytes.toArray⟩)
  | ⟨.decimal precision scale, xs⟩ => .ok (mapSlots xs fun n =>
      some (decimalColumnText precision.toNat scale.toInt n.toInt))
  | ⟨.timestamp unit none, xs⟩ =>
    mapSlotsM xs fun n => momentText c.type unit Moment.joinedText n.toInt
  | ⟨.timestamp unit (some zone), xs⟩ =>
    match TimeZone.offset? zone.toList with
    | some offset => mapSlotsM xs fun n => momentText c.type unit (·.zonedText offset) n.toInt
    | none => .error (.error (.column (.unknownZone zone)))
  | ⟨.duration unit, xs⟩ => mapSlotsM xs fun n => durationColumnText unit n.toInt
  | ⟨.date32, xs⟩ => mapSlotsM xs fun n => dateText n.toInt
  | ⟨.date64, xs⟩ => mapSlotsM xs fun n => dateTimeText n.toInt
  | c => do return mapSlots (← c.toInts .text) fun n => some (toString n.toInt)

/-- Timestamps in microseconds: a coarser unit is multiplied out, NULL where that overflows, and
nanoseconds are cut off; a number is taken for the count. A text that names no moment is NULL. -/
def toDatetimes (c : Column) : Except Failure (List (Option Int64)) :=
  match c with
  | ⟨.timestamp unit _, xs⟩ =>
    .ok (mapSlots xs fun n =>
      if unit.perSecond ≤ 1000000 then int64? (n.toInt * (1000000 / unit.perSecond : Nat))
      else int64? (n.toInt.tdiv (unit.perSecond / 1000000 : Nat)))
  | ⟨.date32, xs⟩ =>
    Failure.ofFault (mapSlotsM xs fun n => checkedInt64 (n.toInt * microsPerDay))
  | ⟨.date64, xs⟩ => Failure.ofFault (mapSlotsM xs fun n => checkedInt64 (n.toInt * 1000))
  | ⟨.boolean, _⟩ => .error (c.castUnsupported .datetime)
  | ⟨.utf8, xs⟩ => .ok (mapSlots xs fun s => (Timestamp.micros? s).bind int64?)
  | ⟨.largeUtf8, xs⟩ => .ok (mapSlots xs fun s => (Timestamp.micros? s).bind int64?)
  | ⟨.duration _, _⟩ => .error (c.castUnsupported .datetime)
  | c => c.toInts .datetime

/-- Durations in nanoseconds: a coarser unit is multiplied out, NULL where that overflows; a number
is taken for the count. -/
def toDurations (c : Column) : Except Failure (List (Option Int64)) :=
  match c with
  | ⟨.duration unit, xs⟩ =>
    .ok (mapSlots xs fun n => int64? (n.toInt * (1000000000 / unit.perSecond : Nat)))
  | ⟨.boolean, _⟩ => .error (c.castUnsupported .duration)
  | ⟨.utf8, _⟩ => .error (c.castUnsupported .duration)
  | ⟨.largeUtf8, _⟩ => .error (c.castUnsupported .duration)
  | ⟨.timestamp _ _, _⟩ => .error (c.castUnsupported .duration)
  | ⟨.date32, _⟩ => .error (c.castUnsupported .duration)
  | ⟨.date64, _⟩ => .error (c.castUnsupported .duration)
  | c => c.toInts .duration

def cast (c : Column) (target : Category) : Except Failure Column :=
  match target with
  | .int => do return ⟨.int64, ← c.toInts .int⟩
  | .real => do return ⟨.float64, ← c.toReals⟩
  | .decimal => do return ⟨.decimal 38 10, ← c.toDecimals⟩
  | .text => do return ⟨.utf8, ← c.toTexts⟩
  | .datetime => do return ⟨.timestamp .microsecond none, ← c.toDatetimes⟩
  | .duration => do return ⟨.duration .nanosecond, ← c.toDurations⟩

/-- Numbers other than integers of 64 bits with a sign. -/
def isConvertedNumber : ColumnType → Bool
  | .int8 | .int16 | .int32 | .uint8 | .uint16 | .uint32 | .uint64 | .float32 | .float64 => true
  | _ => false

/-- The conversion tabulates which slots are NULL even if none is: it goes to a number and computes
each item anew. Other conversions tabulate only what there is. -/
def castTabulates (source : ColumnType) : Category → Bool
  | .int => isConvertedNumber source || source = .date32
  | .real | .decimal =>
    match source with
    | .int64 | .timestamp _ _ | .duration _ => true
    | t => isConvertedNumber t
  | .text | .datetime | .duration => false

end Column
end ScalarExpr
