/-!
Byte strings: fixed width numbers with the highest byte first.
-/
namespace ScalarExpr

abbrev Bytes := List UInt8

namespace Bytes

/-- The lowest `width` bytes of a number, highest first. -/
def bigEndian : (width : Nat) → Nat → Bytes
  | 0, _ => []
  | width + 1, n => bigEndian width (n / 256) ++ [UInt8.ofNat n]

/-- Two lowercase hexadecimal digits to a byte. -/
def hex (bytes : Bytes) : String :=
  String.ofList (bytes.flatMap fun b =>
    [Nat.digitChar (b.toNat / 16), Nat.digitChar (b.toNat % 16)])

end Bytes
end ScalarExpr
