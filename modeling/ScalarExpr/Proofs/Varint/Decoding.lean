import ScalarExpr.Proofs.Varint
/-!
Reading numbers and byte strings back. The reader of a code takes it off the front of any text, byte
for byte, and gives nothing where the text ends inside the code.
-/
namespace ScalarExpr.Varint

set_option autoImplicit true

/-- The reader takes the code off the front of any bytes and counts the bytes of the code, and it
refuses what ends inside the code. -/
structure Reads (decode : Bytes → Option (α × Nat)) (code : Bytes) (a : α) : Prop where
  whole : ∀ s, decode (code ++ s) = some (a, code.length)
  cut : ∀ p, p <+: code → p ≠ code → decode p = none

theorem group_toNat (b : UInt8) : (b &&& 0x7f).toUInt64.toNat = b.toNat % 128 := by
  rw [UInt8.toNat_toUInt64, UInt8.toNat_and]
  exact Nat.and_two_pow_sub_one_eq_mod b.toNat 7

/-- The high bit of a byte says that more groups follow. -/
theorem isLast_iff (b : UInt8) : b &&& 0x80 = 0 ↔ b.toNat < 128 := by
  have hall : ∀ n : Fin 256, n.val &&& 128 = 0 ↔ n.val < 128 := by decide +kernel
  rw [← UInt8.toNat_inj, UInt8.toNat_and]
  exact hall ⟨b.toNat, b.toNat_lt⟩

/-- A group goes above the bits that are there. -/
theorem toNat_or_group {acc : UInt64} {b : UInt8} (ha : acc.toNat < Nat.pow 2 shift)
    (hs : shift < 64) (hb : b.toNat % 128 * Nat.pow 2 shift < Nat.pow 2 64) :
    (acc ||| ((b &&& 0x7f).toUInt64 <<< UInt64.ofNat shift)).toNat =
      acc.toNat + b.toNat % 128 * Nat.pow 2 shift := by
  have hshift : (UInt64.ofNat shift).toNat % 64 = shift := by
    rw [UInt64.toNat_ofNat']
    omega
  rw [Nat.pow_eq] at ha hb ⊢
  rw [UInt64.toNat_or, UInt64.toNat_shiftLeft, group_toNat, hshift, Nat.shiftLeft_eq,
    Nat.mod_eq_of_lt hb, Nat.or_comm, Nat.mul_comm, ← Nat.two_pow_add_eq_or_of_lt ha, Nat.add_comm]

theorem length_encodeNat_pos (n : Nat) : 0 < (encodeNat n).length := by
  rw [encodeNat]
  split <;> exact Nat.succ_pos _

theorem length_encodeNat_le (hn : n < Nat.pow 128 (groups + 1)) :
    (encodeNat n).length ≤ groups + 1 := by
  induction groups generalizing n with
  | zero =>
    rw [encodeNat, if_pos hn]
    exact Nat.le_refl 1
  | succ groups ih =>
    rw [encodeNat]
    split
    · exact Nat.succ_le_succ (Nat.zero_le _)
    · exact Nat.succ_le_succ (ih (Nat.div_lt_of_lt_mul (Nat.mul_comm .. ▸ hn)))

/-- A byte with its high bit set is read as a group in front of others. -/
theorem decodeGroups_more (n groups shift : Nat) (acc : UInt64) (bytes : Bytes) :
    decodeGroups (groups + 1) shift acc (.ofNat (n % 128 + 128) :: bytes) =
      (decodeGroups groups (shift + 7)
        (acc ||| ((.ofNat (n % 128 + 128) &&& 0x7f : UInt8).toUInt64 <<< .ofNat shift)) bytes).map
          fun (n, count) => (n, count + 1) := by
  have hmore : ¬ UInt8.ofNat (n % 128 + 128) &&& 0x80 = 0 := by
    rw [isLast_iff, UInt8.toNat_ofNat']
    omega
  rw [decodeGroups]
  dsimp only
  rw [if_neg hmore]

theorem decodeGroups_cut (hp : p <+: encodeNat n) (hne : p ≠ encodeNat n) :
    decodeGroups groups shift acc p = none := by
  induction n using encodeNat.induct generalizing groups shift acc p with
  | case1 n h =>
    rw [encodeNat, if_pos h] at hp hne
    obtain rfl | ⟨q, rfl, hq⟩ := List.prefix_cons_iff.1 hp
    · rw [decodeGroups]
    · exact absurd (congrArg _ (List.prefix_nil.1 hq)) hne
  | case2 n h ih =>
    rw [encodeNat, if_neg h] at hp hne
    obtain rfl | ⟨q, rfl, hq⟩ := List.prefix_cons_iff.1 hp
    · rw [decodeGroups]
    · cases groups with
      | zero => rw [decodeGroups]
      | succ groups => rw [decodeGroups_more, ih hq fun h => hne (by rw [h]), Option.map_none]

/-- The groups of a number are put together above the bits that are there. -/
theorem decodeGroups_append (hn : n * Nat.pow 2 shift < Nat.pow 2 64) (hs : shift < 64)
    (ha : acc.toNat < Nat.pow 2 shift) (hg : 64 ≤ shift + 7 * groups) :
    ∃ m, decodeGroups groups shift acc (encodeNat n ++ s) = some (m, (encodeNat n).length) ∧
      m.toNat = acc.toNat + n * Nat.pow 2 shift := by
  induction n using encodeNat.induct generalizing groups shift acc with
  | case1 n h =>
    obtain ⟨groups, rfl⟩ := Nat.exists_eq_add_one.2 (by omega : 0 < groups)
    have hb : (UInt8.ofNat n).toNat = n := by
      rw [UInt8.toNat_ofNat']
      omega
    rw [encodeNat, if_pos h, List.singleton_append, decodeGroups]
    dsimp only
    rw [if_pos ((isLast_iff _).2 (by omega))]
    refine ⟨_, rfl, ?_⟩
    rw [toNat_or_group ha hs] <;> rw [hb, Nat.mod_eq_of_lt h]
    exact hn
  | case2 n h ih =>
    have hroom : shift + 7 < 64 := by
      rw [Nat.pow_eq, Nat.pow_eq] at hn
      have hp : 2 ^ (shift + 7) < 2 ^ 64 := by
        rw [Nat.pow_add, Nat.mul_comm]
        exact Nat.lt_of_le_of_lt (Nat.mul_le_mul_right _ (by omega : 2 ^ 7 ≤ n)) hn
      exact (Nat.pow_lt_pow_iff_right (by omega)).1 hp
    obtain ⟨groups, rfl⟩ := Nat.exists_eq_add_one.2 (by omega : 0 < groups)
    have hb : (UInt8.ofNat (n % 128 + 128)).toNat % 128 = n % 128 := by
      rw [UInt8.toNat_ofNat']
      omega
    have hpow : Nat.pow 2 (shift + 7) = 128 * Nat.pow 2 shift := by
      rw [Nat.pow_eq, Nat.pow_add, Nat.mul_comm]
      rfl
    have hsplit : n * Nat.pow 2 shift =
        n % 128 * Nat.pow 2 shift + n / 128 * Nat.pow 2 (shift + 7) := by
      rw [hpow, ← Nat.mul_assoc, ← Nat.add_mul, Nat.mul_comm _ 128, Nat.mod_add_div]
    have hsum := toNat_or_group (b := .ofNat (n % 128 + 128)) ha hs (by rw [hb]; omega)
    rw [encodeNat, if_neg h, List.cons_append, decodeGroups_more]
    generalize acc ||| _ = acc' at hsum ⊢
    rw [hb] at hsum
    have hbelow : acc'.toNat < Nat.pow 2 (shift + 7) := by
      have hlow : n % 128 * Nat.pow 2 shift ≤ 127 * Nat.pow 2 shift :=
        Nat.mul_le_mul_right _ (by omega)
      omega
    have hgroups : 64 ≤ shift + 7 + 7 * groups := by omega
    obtain ⟨m, hm, hrest⟩ := ih (by omega) hroom hbelow hgroups
    refine ⟨m, ?_, by omega⟩
    rw [hm, Option.map_some, List.length_cons]

/-! ### Zigzag -/

theorem unzigzag_toBitVec (n : UInt64) :
    (unzigzag n).toBitVec = (n.toBitVec >>> 1) ^^^ -(n.toBitVec &&& 1) := rfl

/-- The lowest bit says whether all bits above it are turned over. -/
theorem unzigzag_getLsbD (n : UInt64) (hi : i < 64) :
    (unzigzag n).toBitVec.getLsbD i = (n.toBitVec.getLsbD (i + 1) ^^ n.toBitVec.getLsbD 0) := by
  have hand : n.toBitVec &&& 1 = .setWidth 64 (.ofBool (n.toBitVec.getLsbD 0)) :=
    BitVec.and_one_eq_setWidth_ofBool_getLsbD
  have hneg (b : Bool) : -(BitVec.ofBool b).setWidth 64 = bif b then .allOnes 64 else 0#64 := by
    cases b <;> rfl
  rw [unzigzag_toBitVec, hand, hneg, BitVec.getLsbD_xor, BitVec.getLsbD_ushiftRight, Nat.add_comm]
  cases n.toBitVec.getLsbD 0 with
  | true => rw [cond_true, BitVec.getLsbD_allOnes, decide_eq_true hi]
  | false => rw [cond_false, BitVec.getLsbD_zero]

theorem unzigzag_zigzag (n : Int64) : unzigzag (zigzag n) = n := by
  apply Int64.toBitVec_inj.1
  apply BitVec.eq_of_getLsbD_eq
  intro i hi
  rw [unzigzag_getLsbD _ hi, zigzag_getLsbD n (by omega : 0 < 64), if_pos rfl]
  by_cases hl : i = 63
  · subst i
    rw [BitVec.getLsbD_of_ge _ _ (Nat.le_refl 64), BitVec.msb_eq_getLsbD_last, Bool.false_xor]
  · rw [zigzag_getLsbD n (by omega), if_neg (by omega), Nat.add_sub_cancel, Bool.xor_assoc,
      Bool.xor_self, Bool.xor_false]

/-! ### Codes inside a text -/

theorem length_encodeUnsigned (n : UInt64) :
    0 < (encodeUnsigned n).length ∧ (encodeUnsigned n).length ≤ 10 := by
  refine ⟨length_encodeNat_pos n.toNat, length_encodeNat_le (Nat.lt_trans n.toNat_lt ?_)⟩
  decide

theorem decodeUnsigned_reads (n : UInt64) : Reads decodeUnsigned (encodeUnsigned n) n where
  whole s := by
    have hbound : n.toNat * Nat.pow 2 0 < Nat.pow 2 64 := by
      rw [Nat.pow_eq, Nat.pow_zero, Nat.mul_one]
      exact n.toNat_lt
    have hzero : (0 : UInt64).toNat < Nat.pow 2 0 := by decide
    have hgroups : 64 ≤ 0 + 7 * 10 := by decide
    obtain ⟨m, hm, hn⟩ := decodeGroups_append (s := s) hbound (by decide) hzero hgroups
    rw [Nat.pow_eq, Nat.pow_zero, Nat.mul_one, UInt64.toNat_zero, Nat.zero_add] at hn
    rw [decodeUnsigned, encodeUnsigned, hm, UInt64.toNat_inj.1 hn]
  cut _ hp hne := decodeGroups_cut hp hne

theorem decodeSigned_reads (n : Int64) : Reads decodeSigned (encodeSigned n) n where
  whole s := by
    rw [decodeSigned, encodeSigned, (decodeUnsigned_reads _).whole, Option.map_some]
    dsimp only
    rw [unzigzag_zigzag]
  cut p hp hne := by
    rw [decodeSigned, (decodeUnsigned_reads _).cut p hp hne, Option.map_none]

/-- What follows the length in front is read as far as it goes. -/
theorem decodeBytes_append (hn : n < Nat.pow 2 63) (rest : Bytes) :
    decodeBytes (encodeSigned (.ofNat n) ++ rest) =
      if n ≤ rest.length then some (rest.take n, (encodeSigned (.ofNat n)).length + n)
      else none := by
  have hint : (Int64.ofNat n).toInt = n := Int64.toInt_ofNat_of_lt hn
  have hsize : (Int64.ofNat n).toNatClampNeg = n := by
    rw [Int64.toNatClampNeg, hint, Int.toNat_natCast]
  have hpos : ¬ Int64.ofNat n < 0 := by
    rw [Int64.lt_iff_toInt_lt, hint]
    exact Int.not_lt.2 (Int.natCast_nonneg n)
  rw [decodeBytes, (decodeSigned_reads _).whole]
  simp only [bind, Option.bind, if_neg hpos, hsize, List.length_append, Nat.add_le_add_iff_left,
    List.drop_left]

theorem decodeBytes_reads (hn : bytes.length < Nat.pow 2 63) :
    Reads decodeBytes (encodeBytes bytes) bytes where
  whole s := by
    rw [encodeBytes, List.append_assoc, decodeBytes_append hn, if_pos, List.take_left,
      List.length_append]
    rw [List.length_append]
    omega
  cut p hp hne := by
    rw [encodeBytes] at hp hne
    by_cases hlength : encodeSigned (.ofNat bytes.length) <+: p
    · obtain ⟨rest, rfl⟩ := hlength
      rw [List.prefix_append_right_inj] at hp
      rw [decodeBytes_append hn, if_neg]
      intro h
      exact hne (congrArg _ (hp.eq_of_length_le h))
    · have hshort : p <+: encodeSigned (.ofNat bytes.length) :=
        (List.prefix_or_prefix_of_prefix hp (List.prefix_append _ bytes)).resolve_right hlength
      have hnone := (decodeSigned_reads _).cut p hshort fun h => hlength (h ▸ List.prefix_rfl)
      rw [decodeBytes, hnone]
      rfl

/-- Numbers have codes of one to ten bytes. Whatever follows it, the code of a number is read as that
number with the length of the code, and so are the codes of signed numbers and of all byte strings
whose length is a signed number. Bytes that end inside a code are not read. -/
theorem reads_codes :
    (∀ n, (0 < (encodeUnsigned n).length ∧ (encodeUnsigned n).length ≤ 10) ∧
      Reads decodeUnsigned (encodeUnsigned n) n) ∧
    (∀ n, Reads decodeSigned (encodeSigned n) n) ∧
    ∀ bytes : Bytes, bytes.length < Nat.pow 2 63 → Reads decodeBytes (encodeBytes bytes) bytes :=
  ⟨fun n => ⟨length_encodeUnsigned n, decodeUnsigned_reads n⟩, decodeSigned_reads,
    fun _ => decodeBytes_reads⟩

/-- The longest code, that of the least signed number, and a name whose code is cut off. -/
theorem reads_codes_limits :
    let name : Bytes := [0x70, 0x6c, 0x75, 0x73]
    decodeUnsigned (encodeUnsigned 0xffffffffffffffff ++ name) = some (0xffffffffffffffff, 10) ∧
      decodeSigned (encodeSigned (-0x8000000000000000) ++ name) = some (-0x8000000000000000, 10) ∧
      decodeBytes (encodeBytes name ++ name) = some (name, 5) ∧ decodeBytes [8, 0x70] = none := by
  intro name
  obtain ⟨hunsigned, hsigned, hbytes⟩ := reads_codes
  have hmost : (encodeUnsigned 0xffffffffffffffff).length = 10 := by
    simp [encodeUnsigned, encodeNat]
  have hleast : (encodeSigned (-0x8000000000000000)).length = 10 := hmost
  have hname : encodeBytes name = 8 :: name := by
    have hfour : zigzag (.ofNat name.length) = 8 := by decide
    rw [encodeBytes, encodeSigned, hfour]
    simp [encodeUnsigned, encodeNat]
  have hread := hbytes name (by decide)
  refine ⟨hmost ▸ (hunsigned _).2.whole name, hleast ▸ (hsigned _).whole name, ?_, ?_⟩
  · have h := hread.whole name
    rw [hname] at h ⊢
    exact h
  · apply hread.cut
    · rw [hname]
      exact ⟨[0x6c, 0x75, 0x73], rfl⟩
    · rw [hname]
      decide

end ScalarExpr.Varint
