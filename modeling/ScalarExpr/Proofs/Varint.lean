import ScalarExpr.Varint
/-!
Numbers and byte strings as bytes inside a longer text: where the codes of two items are followed by
anything to the same bytes, the items are the same and so is what follows.
-/
namespace ScalarExpr

set_option autoImplicit true

namespace Bytes

theorem bigEndian_length (width n : Nat) : (bigEndian width n).length = width := by
  induction width generalizing n with
  | zero => rfl
  | succ width ih => rw [bigEndian, List.length_append, ih, List.length_singleton]

theorem ofNat_eq_iff : UInt8.ofNat m = UInt8.ofNat n ↔ m % 256 = n % 256 := by
  rw [← UInt8.toNat_inj, UInt8.toNat_ofNat', UInt8.toNat_ofNat']

theorem mod_eq_of_bigEndian_eq (h : bigEndian width m = bigEndian width n) :
    m % Nat.pow 256 width = n % Nat.pow 256 width := by
  induction width generalizing m n with
  | zero => rw [Nat.pow_eq, Nat.pow_zero, Nat.mod_one, Nat.mod_one]
  | succ width ih =>
    obtain ⟨hhigh, hlow⟩ := List.append_inj' h rfl
    have hdiv := ih hhigh
    have hmod := ofNat_eq_iff.1 (List.cons.inj hlow).1
    rw [Nat.pow_eq] at hdiv
    rw [Nat.pow_eq, Nat.pow_succ', Nat.mod_mul, Nat.mod_mul, hdiv, hmod]

theorem bigEndian_append_inj (hm : m < Nat.pow 256 width) (hn : n < Nat.pow 256 width)
    (h : bigEndian width m ++ s = bigEndian width n ++ t) : m = n ∧ s = t := by
  obtain ⟨hb, hst⟩ := List.append_inj h (by rw [bigEndian_length, bigEndian_length])
  have hmod := mod_eq_of_bigEndian_eq hb
  rw [Nat.mod_eq_of_lt hm, Nat.mod_eq_of_lt hn] at hmod
  exact ⟨hmod, hst⟩

theorem bigEndian_toNat_append_inj {x y : BitVec 64}
    (h : bigEndian 8 x.toNat ++ s = bigEndian 8 y.toNat ++ t) : x = y ∧ s = t := by
  obtain ⟨hn, hst⟩ := bigEndian_append_inj x.isLt y.isLt h
  exact ⟨BitVec.eq_of_toNat_eq hn, hst⟩

theorem bigEndian_toNat_inj {x y : BitVec 64} (h : bigEndian 8 x.toNat = bigEndian 8 y.toNat) :
    x = y :=
  (bigEndian_toNat_append_inj (congrArg (· ++ []) h)).1

end Bytes

namespace Varint

/-- The first byte tells whether more groups follow. -/
theorem encodeNat_append_inj (h : encodeNat m ++ s = encodeNat n ++ t) : m = n ∧ s = t := by
  induction m using Nat.strongRecOn generalizing n with
  | ind m ih =>
    rw [encodeNat, encodeNat.eq_def n] at h
    by_cases hm : m < 128
    · by_cases hn : n < 128
      · rw [if_pos hm, if_pos hn] at h
        have hmn := Bytes.ofNat_eq_iff.1 (List.cons.inj h).1
        exact ⟨by omega, (List.cons.inj h).2⟩
      · rw [if_pos hm, if_neg hn] at h
        have hmn := Bytes.ofNat_eq_iff.1 (List.cons.inj h).1
        omega
    · by_cases hn : n < 128
      · rw [if_neg hm, if_pos hn] at h
        have hmn := Bytes.ofNat_eq_iff.1 (List.cons.inj h).1
        omega
      · rw [if_neg hm, if_neg hn] at h
        have hmn := Bytes.ofNat_eq_iff.1 (List.cons.inj h).1
        obtain ⟨hdiv, hst⟩ := ih (m / 128) (by omega) (List.cons.inj h).2
        exact ⟨by omega, hst⟩

theorem encodeUnsigned_append_inj (h : encodeUnsigned m ++ s = encodeUnsigned n ++ t) :
    m = n ∧ s = t := by
  obtain ⟨hn, hst⟩ := encodeNat_append_inj h
  exact ⟨UInt64.toNat_inj.1 hn, hst⟩

theorem zigzag_toBitVec (n : Int64) :
    (zigzag n).toBitVec = (n.toBitVec <<< 1) ^^^ (n.toBitVec.sshiftRight 63) := rfl

/-- The lowest bit is the sign; every other bit is the one below it, turned over if the sign
is set. -/
theorem zigzag_getLsbD (n : Int64) (hi : i < 64) :
    (zigzag n).toBitVec.getLsbD i =
      if i = 0 then n.toBitVec.msb else n.toBitVec.getLsbD (i - 1) ^^ n.toBitVec.msb := by
  rw [zigzag_toBitVec, BitVec.getLsbD_xor, BitVec.getLsbD_shiftLeft, BitVec.getLsbD_sshiftRight]
  by_cases h0 : i = 0
  · subst i
    simp [BitVec.msb_eq_getLsbD_last]
  · rw [if_neg (by omega : ¬63 + i < 64), if_neg h0]
    simp [hi, h0]

theorem zigzag_inj (h : zigzag m = zigzag n) : m = n := by
  have hbit (i : Nat) (hi : i < 64) := zigzag_getLsbD m hi
  rw [h] at hbit
  have hsign : m.toBitVec.msb = n.toBitVec.msb := by
    have h0 := (hbit 0 (by omega)).symm.trans (zigzag_getLsbD n (by omega))
    rwa [if_pos rfl, if_pos rfl] at h0
  apply Int64.toBitVec_inj.1
  apply BitVec.eq_of_getLsbD_eq
  intro i hi
  by_cases hl : i = 63
  · subst i
    rw [BitVec.msb_eq_getLsbD_last, BitVec.msb_eq_getLsbD_last] at hsign
    exact hsign
  · have hs := (hbit (i + 1) (by omega)).symm.trans (zigzag_getLsbD n (by omega))
    rw [if_neg (by omega), if_neg (by omega), hsign] at hs
    exact Bool.xor_left_inj.1 hs

theorem encodeSigned_append_inj (h : encodeSigned m ++ s = encodeSigned n ++ t) :
    m = n ∧ s = t := by
  obtain ⟨hz, hst⟩ := encodeUnsigned_append_inj h
  exact ⟨zigzag_inj hz, hst⟩

theorem ofNat_inj (hm : m < Nat.pow 2 64) (hn : n < Nat.pow 2 64)
    (h : Int64.ofNat m = Int64.ofNat n) : m = n := by
  have hmod : m % Nat.pow 2 64 = n % Nat.pow 2 64 := congrArg (·.toBitVec.toNat) h
  rwa [Nat.mod_eq_of_lt hm, Nat.mod_eq_of_lt hn] at hmod

/-- The length in front counts in 64 bits. -/
theorem encodeBytes_append_inj (ha : a.length < Nat.pow 2 64) (hb : b.length < Nat.pow 2 64)
    (h : encodeBytes a ++ s = encodeBytes b ++ t) : a = b ∧ s = t := by
  rw [encodeBytes, encodeBytes, List.append_assoc, List.append_assoc] at h
  obtain ⟨hl, hab⟩ := encodeSigned_append_inj h
  exact List.append_inj hab (ofNat_inj ha hb hl)

end Varint

end ScalarExpr
