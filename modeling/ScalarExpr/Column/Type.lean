import ScalarExpr.SqlType
import ScalarExpr.Number.Binary32
import ScalarExpr.Text.Quoted
/-!
Physical column types and what one slot of each holds, and the column types that categories and
declared types stand for.
-/
namespace ScalarExpr

inductive TimeUnit
  | second
  | millisecond
  | microsecond
  | nanosecond
  deriving DecidableEq

namespace TimeUnit

def all : List TimeUnit := [second, millisecond, microsecond, nanosecond]

def name : TimeUnit → String
  | second => "Second"
  | millisecond => "Millisecond"
  | microsecond => "Microsecond"
  | nanosecond => "Nanosecond"

def perSecond : TimeUnit → Nat
  | second => 1
  | millisecond => 1000
  | microsecond => 1000000
  | nanosecond => 1000000000

end TimeUnit

/-- The type of a stored column. A decimal has a precision and a scale, a timestamp a unit and
perhaps a time zone. Chunks have columns of these types only: no lists, maps or unions, no intervals
or times of day, and none with a dictionary or with run lengths. -/
inductive ColumnType
  | null
  | boolean
  | int8
  | int16
  | int32
  | int64
  | uint8
  | uint16
  | uint32
  | uint64
  | float32
  | float64
  | utf8
  | largeUtf8
  | binary
  | date32
  | date64
  | timestamp (unit : TimeUnit) (zone : Option String)
  | duration (unit : TimeUnit)
  | decimal (precision : UInt8) (scale : Int8)
  deriving DecidableEq

/-- Whole numbers of 128 bits, the unscaled values of decimals. -/
abbrev Int128 := BitVec 128

namespace ColumnType

/-- What a slot that is not NULL holds. Dates and timestamps count from the epoch. -/
@[reducible] def Item : ColumnType → Type
  | null => Empty
  | boolean => Bool
  | int8 => Int8
  | int16 => Int16
  | int32 => Int32
  | int64 => Int64
  | uint8 => UInt8
  | uint16 => UInt16
  | uint32 => UInt32
  | uint64 => UInt64
  | float32 => Binary32
  | float64 => Binary64
  | utf8 => String
  | largeUtf8 => String
  | binary => List UInt8
  | date32 => Int32
  | date64 => Int64
  | timestamp _ _ => Int64
  | duration _ => Int64
  | decimal _ _ => Int128

/-- The texts of a `utf8` column have fewer bytes than this, for its offsets are numbers of 32 bits
with a sign. Those of a `largeUtf8` column have 64. -/
def textCapacity : Nat := Nat.pow 2 31

def text : ColumnType → String
  | null => "Null"
  | boolean => "Boolean"
  | int8 => "Int8"
  | int16 => "Int16"
  | int32 => "Int32"
  | int64 => "Int64"
  | uint8 => "UInt8"
  | uint16 => "UInt16"
  | uint32 => "UInt32"
  | uint64 => "UInt64"
  | float32 => "Float32"
  | float64 => "Float64"
  | utf8 => "Utf8"
  | largeUtf8 => "LargeUtf8"
  | binary => "Binary"
  | date32 => "Date32"
  | date64 => "Date64"
  | timestamp unit none => "Timestamp(" ++ unit.name ++ ", None)"
  | timestamp unit (some zone) => "Timestamp(" ++ unit.name ++ ", Some(" ++ Text.quoted zone ++ "))"
  | duration unit => "Duration(" ++ unit.name ++ ")"
  | decimal p s => "Decimal128(" ++ toString p.toNat ++ ", " ++ toString s.toInt ++ ")"

end ColumnType

/-- The column type that buffers of a category convert to. -/
def Category.columnType : Category → ColumnType
  | int => .int64
  | real => .float64
  | decimal => .decimal 38 10
  | text => .utf8
  | datetime => .timestamp .microsecond none
  | duration => .duration .nanosecond

/-- The column types that a buffer of a category holds as they are. -/
def Category.accepts : Category → ColumnType → Bool
  | int, .int64 | int, .uint64 => true
  | real, .float64 => true
  | decimal, .decimal _ _ => true
  | text, .utf8 => true
  | datetime, .timestamp .microsecond _ => true
  | duration, .duration .nanosecond => true
  | _, _ => false

/-- The column type of a declared type. A decimal without a length has the greatest precision, and
its decimals are kept in eight bits. -/
def SqlType.columnType (t : SqlType) : ColumnType :=
  match t.category with
  | .int => if t.isUnsigned then .uint64 else .int64
  | .decimal =>
    .decimal (if 0 < t.length then (min t.length 38).toInt.toNat.toUInt8 else 38)
      (Int8.ofInt (max t.decimals.toInt 0))
  | other => other.columnType

end ScalarExpr
