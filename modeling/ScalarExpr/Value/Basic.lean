import ScalarExpr.Bytes
import ScalarExpr.Column.Type
/-!
Values of expressions. Equality is that of the numbers they hold; the feed to a hasher goes by bits.
-/
namespace ScalarExpr

/-- A datetime counts microseconds from the epoch and a duration nanoseconds; a decimal is its
unscaled integer over `10 ^ scale`. -/
inductive Value
  | null
  | int (n : Int64)
  | uint (n : UInt64)
  | real (x : Binary64)
  | text (s : String)
  | decimal (unscaled : Int128) (scale : Int8)
  | datetime (micros : Int64)
  | duration (nanos : Int64)
  deriving DecidableEq, Inhabited

namespace Value

def isNull : Value → Bool
  | null => true
  | _ => false

def kindName : Value → String
  | null => "NULL"
  | int _ => "INT64"
  | uint _ => "UINT64"
  | real _ => "FLOAT64"
  | text _ => "STRING"
  | decimal _ _ => "DECIMAL"
  | datetime _ => "DATETIME"
  | duration _ => "DURATION"

/-- Values of one kind with equal contents; reals are compared as numbers, so that the zeros are
equal and a NaN differs from itself. -/
def same : Value → Value → Bool
  | real x, real y => x.numEq y
  | a, b => a = b

/-- What a value feeds to a hasher: a byte for the kind, then all bits of the contents. -/
def hashFeed : Value → Bytes
  | null => [0]
  | int n => 1 :: Bytes.bigEndian 8 n.toBitVec.toNat
  | uint n => 2 :: Bytes.bigEndian 8 n.toNat
  | real x => 3 :: Bytes.bigEndian 8 x.bits.toNat
  | text s => 4 :: s.toUTF8.data.toList ++ [0xff]
  | decimal n scale => 5 :: Bytes.bigEndian 16 n.toNat ++ [scale.toUInt8]
  | datetime n => 6 :: Bytes.bigEndian 8 n.toBitVec.toNat
  | duration n => 7 :: Bytes.bigEndian 8 n.toBitVec.toNat

end Value
end ScalarExpr
