import ScalarExpr.Bytes
/-!
Integers in groups of seven bits, lowest group first, every byte but the last with its high bit
set; signed integers by zigzag, which sends `0, -1, 1, -2, …` to `0, 1, 2, 3, …`; and byte strings
with their length in front. Each reader also says how many bytes it read, and refuses input that
ends inside what it reads.
-/
namespace ScalarExpr.Varint

def encodeNat (n : Nat) : Bytes :=
  if n < 128 then [UInt8.ofNat n] else UInt8.ofNat (n % 128 + 128) :: encodeNat (n / 128)
termination_by n
decreasing_by omega

def encodeUnsigned (n : UInt64) : Bytes := encodeNat n.toNat

def zigzag (n : Int64) : UInt64 := ((n <<< 1) ^^^ (n >>> 63)).toUInt64

def unzigzag (n : UInt64) : Int64 := (n >>> 1).toInt64 ^^^ -(n &&& 1).toInt64

def encodeSigned (n : Int64) : Bytes := encodeUnsigned (zigzag n)

def encodeBytes (bytes : Bytes) : Bytes := encodeSigned (Int64.ofNat bytes.length) ++ bytes

/-- Reads at most `groups` groups into the bits of `acc` from `shift` on. -/
def decodeGroups (groups shift : Nat) (acc : UInt64) : Bytes → Option (UInt64 × Nat)
  | [] => none
  | b :: bytes =>
    match groups with
    | 0 => none
    | groups + 1 =>
      let acc := acc ||| ((b &&& 0x7f).toUInt64 <<< UInt64.ofNat shift)
      if b &&& 0x80 = 0 then some (acc, 1)
      else (decodeGroups groups (shift + 7) acc bytes).map fun (n, count) => (n, count + 1)

def decodeUnsigned (bytes : Bytes) : Option (UInt64 × Nat) := decodeGroups 10 0 0 bytes

def decodeSigned (bytes : Bytes) : Option (Int64 × Nat) :=
  (decodeUnsigned bytes).map fun (n, count) => (unzigzag n, count)

def decodeBytes (bytes : Bytes) : Option (Bytes × Nat) := do
  let (length, count) ← decodeSigned bytes
  if length < 0 then none
  else
    let length := length.toNatClampNeg
    if count + length ≤ bytes.length then
      some ((bytes.drop count).take length, count + length)
    else none

end ScalarExpr.Varint
