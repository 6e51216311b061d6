import ScalarExpr.Value.Encoding
import ScalarExpr.Proofs.Value.Equality
/-!
The codes of values in structural keys. Whatever follows it, the code of a value gives the value
back, up to the sign of a zero.
-/
namespace ScalarExpr

set_option autoImplicit true

/-- The bytes of the text can be counted in 64 bits. No text in memory is longer. -/
def Text.FitsMemory (s : String) : Prop := s.utf8ByteSize < Nat.pow 2 64

instance (s : String) : Decidable (Text.FitsMemory s) := inferInstanceAs (Decidable (_ < _))

theorem Text.encodeBytes_append_inj {a b : String} (ha : FitsMemory a) (hb : FitsMemory b)
    (h : Varint.encodeBytes a.toUTF8.data.toList ++ s =
      Varint.encodeBytes b.toUTF8.data.toList ++ t) : a = b ∧ s = t := by
  obtain ⟨hab, hst⟩ := Varint.encodeBytes_append_inj ha hb h
  exact ⟨bytes_inj hab, hst⟩

namespace Value

def FitsMemory : Value → Prop
  | text s => Text.FitsMemory s
  | _ => True

instance : (v : Value) → Decidable v.FitsMemory
  | text s => inferInstanceAs (Decidable (Text.FitsMemory s))
  | null | int _ | uint _ | real _ | decimal _ _ | datetime _ | duration _ => .isTrue trivial

theorem FitsMemory.dropZeroSign {v : Value} (h : v.FitsMemory) : v.dropZeroSign.FitsMemory := by
  cases v with
  | text => exact h
  | _ => trivial

theorem encode_real (x : Binary64) (o : Int32) :
    (real x).encode o = 5 :: Bytes.bigEndian 8 (if x.isZero then .zero else x : Binary64).bits.toNat
    := by
  rw [encode]
  split <;> rfl

theorem encode_dropZeroSign (v : Value) (o : Int32) : v.dropZeroSign.encode o = v.encode o := by
  cases v with
  | real x =>
    by_cases hx : x.isZero
    · simp only [dropZeroSign, encode_real, if_pos hx]
      rfl
    · rw [dropZeroSign, if_neg hx]
  | _ => rfl

theorem toUtc_inj (h : toUtc m o = toUtc n o) : m = n := (Int64.sub_left_inj _).1 h

/-- The first byte is the kind, and each kind has a code of its own. -/
theorem encode_append_inj {v w : Value} (hv : v.FitsMemory) (hw : w.FitsMemory)
    (h : v.encode o ++ s = w.encode o ++ t) : v.dropZeroSign = w.dropZeroSign ∧ s = t := by
  cases v with
  | null =>
    cases w with
    | null => exact ⟨rfl, (List.cons.inj h).2⟩
    | _ => exact absurd (List.cons.inj h).1 (by decide)
  | text a =>
    cases w with
    | text b =>
      obtain ⟨rfl, hst⟩ := Text.encodeBytes_append_inj hv hw (List.cons.inj h).2
      exact ⟨rfl, hst⟩
    | _ => exact absurd (List.cons.inj h).1 (by decide)
  | datetime m =>
    cases w with
    | datetime n =>
      obtain ⟨hmn, hst⟩ := Bytes.bigEndian_toNat_append_inj (List.cons.inj h).2
      rw [toUtc_inj (Int64.toBitVec_inj.1 hmn)]
      exact ⟨rfl, hst⟩
    | _ => exact absurd (List.cons.inj h).1 (by decide)
  | real x =>
    cases w with
    | real y =>
      rw [encode_real, encode_real] at h
      obtain ⟨hxy, hst⟩ := Bytes.bigEndian_toNat_append_inj (List.cons.inj h).2
      refine ⟨?_, hst⟩
      have hbits := UInt64.toBitVec_inj.1 hxy
      exact congrArg real (congrArg Binary64.mk hbits)
    | _ => exact absurd (List.cons.inj h).1 (by decide)
  | decimal m scale =>
    cases w with
    | decimal n scale' =>
      obtain ⟨hs, h⟩ := List.cons.inj (List.cons.inj h).2
      obtain ⟨hmn, hst⟩ := Bytes.bigEndian_append_inj m.isLt n.isLt h
      have hscale : scale = scale' := congrArg Int8.ofUInt8 hs
      rw [BitVec.eq_of_toNat_eq hmn, hscale]
      exact ⟨rfl, hst⟩
    | _ => exact absurd (List.cons.inj h).1 (by decide)
  | duration m =>
    cases w with
    | duration n =>
      obtain ⟨hmn, hst⟩ := Bytes.bigEndian_toNat_append_inj (List.cons.inj h).2
      rw [Int64.toBitVec_inj.1 hmn]
      exact ⟨rfl, hst⟩
    | _ => exact absurd (List.cons.inj h).1 (by decide)
  | int m =>
    cases w with
    | int n =>
      obtain ⟨rfl, hst⟩ := Varint.encodeSigned_append_inj (List.cons.inj h).2
      exact ⟨rfl, hst⟩
    | _ => exact absurd (List.cons.inj h).1 (by decide)
  | uint m =>
    cases w with
    | uint n =>
      obtain ⟨rfl, hst⟩ := Varint.encodeUnsigned_append_inj (List.cons.inj h).2
      exact ⟨rfl, hst⟩
    | _ => exact absurd (List.cons.inj h).1 (by decide)

end Value

end ScalarExpr
