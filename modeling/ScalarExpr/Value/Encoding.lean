import ScalarExpr.Value.Basic
import ScalarExpr.Varint
/-!
The encoding of values in structural keys: a byte for the kind, then the contents. Datetimes are
taken back to Greenwich, and the two zeros have one encoding.
-/
namespace ScalarExpr.Value

/-- The microseconds of a local datetime in Greenwich, modulo `2 ^ 64`. -/
def toUtc (micros : Int64) (offsetSeconds : Int32) : Int64 :=
  micros - offsetSeconds.toInt64 * 1000000

def encode (offsetSeconds : Int32) : Value → Bytes
  | null => [0]
  | text s => 2 :: Varint.encodeBytes s.toUTF8.data.toList
  | datetime n => 4 :: Bytes.bigEndian 8 (toUtc n offsetSeconds).toBitVec.toNat
  | real x => 5 :: Bytes.bigEndian 8 (if x.isZero then 0 else x.bits.toNat)
  | decimal n scale => 6 :: scale.toUInt8 :: Bytes.bigEndian 16 n.toNat
  | duration n => 7 :: Bytes.bigEndian 8 n.toBitVec.toNat
  | int n => 8 :: Varint.encodeSigned n
  | uint n => 9 :: Varint.encodeUnsigned n

end ScalarExpr.Value
