import ScalarExpr.Value.Basic
import ScalarExpr.Proofs.Varint
/-!
Equality of values as keys of a hash map. It is symmetric and transitive, but a NaN is not equal to
itself; and since the zeros are equal, while a hasher is fed every bit, equal values can be hashed
apart.
-/
namespace ScalarExpr

set_option autoImplicit true

/-! ### Equal values -/

namespace Binary64

theorem not_isNaN_of_isZero {x : Binary64} (h : x.isZero) : ¬ x.isNaN := by
  have hx : x.magnitude = 0 := of_decide_eq_true h
  simp [isNaN, hx]

theorem numEq_iff {x y : Binary64} :
    x.numEq y ↔ ¬ x.isNaN ∧ ¬ y.isNaN ∧ (x = y ∨ x.isZero ∧ y.isZero) := by
  have hbits : x.bits = y.bits ↔ x = y := ⟨congrArg mk, congrArg bits⟩
  simp [numEq, hbits, and_assoc]

end Binary64

namespace Value

/-- The value with the sign of a zero dropped. -/
def dropZeroSign : Value → Value
  | real x => real (if x.isZero then .zero else x)
  | v => v

@[simp] theorem dropZeroSign_dropZeroSign (v : Value) :
    v.dropZeroSign.dropZeroSign = v.dropZeroSign := by
  cases v with
  | real x =>
    by_cases hx : x.isZero
    · simp [dropZeroSign, hx]
    · simp [dropZeroSign, hx]
  | _ => rfl

/-- The two zeros of the reals, in either order. -/
def AreOppositeZeros (v w : Value) : Prop :=
  ∃ x y, v = real x ∧ w = real y ∧ x.isZero ∧ y.isZero ∧ x ≠ y

/-- Values that are equal but not the same are the two zeros. -/
theorem areOppositeZeros_of_same {v w : Value} (h : v.same w) (hne : v ≠ w) :
    v.AreOppositeZeros w := by
  cases v with
  | real x =>
    cases w with
    | real y =>
      have hxy : x ≠ y := fun h => hne (congrArg real h)
      obtain ⟨-, -, he | ⟨hx, hy⟩⟩ := Binary64.numEq_iff.1 h
      · exact absurd he hxy
      · exact ⟨x, y, rfl, rfl, hx, hy, hxy⟩
    | _ => cases h
  | _ => exact absurd (of_decide_eq_true h) hne

theorem AreOppositeZeros.dropZeroSign_eq {v w : Value} (h : v.AreOppositeZeros w) :
    v.dropZeroSign = w.dropZeroSign := by
  obtain ⟨x, y, rfl, rfl, hx, hy, -⟩ := h
  rw [dropZeroSign, dropZeroSign, if_pos hx, if_pos hy]

/-- Values without the sign of a zero are the same for the two zeros and for no other two. -/
theorem dropZeroSign_eq_iff {v w : Value} :
    v.dropZeroSign = w.dropZeroSign ↔ v = w ∨ v.AreOppositeZeros w := by
  constructor
  · intro h
    cases v with
    | real x =>
      cases w with
      | real y =>
        have h : (if x.isZero then .zero else x) = if y.isZero then Binary64.zero else y :=
          real.inj h
        by_cases hx : x.isZero <;> by_cases hy : y.isZero
        · by_cases hxy : x = y
          · exact .inl (congrArg real hxy)
          · exact .inr ⟨x, y, rfl, rfl, hx, hy, hxy⟩
        · rw [if_pos hx, if_neg hy] at h
          exact (hy (h ▸ rfl)).elim
        · rw [if_neg hx, if_pos hy] at h
          exact (hx (h ▸ rfl)).elim
        · rw [if_neg hx, if_neg hy] at h
          exact .inl (congrArg real h)
      | _ => cases h
    | _ =>
      cases w with
      | real => cases h
      | _ => exact .inl h
  · intro h
    obtain rfl | h := h
    · rfl
    · exact h.dropZeroSign_eq

/-- Equality of values overlooks the sign of a zero and nothing else. -/
theorem dropZeroSign_eq_of_same {v w : Value} (h : v.same w) : v.dropZeroSign = w.dropZeroSign := by
  by_cases hvw : v = w
  · rw [hvw]
  · exact (areOppositeZeros_of_same h hvw).dropZeroSign_eq

def isNaN : Value → Bool
  | real x => x.isNaN
  | _ => false

theorem isNaN_dropZeroSign (v : Value) : v.dropZeroSign.isNaN = v.isNaN := by
  cases v with
  | real x =>
    by_cases hx : x.isZero
    · have hn : x.isNaN = false := Bool.eq_false_iff.2 (Binary64.not_isNaN_of_isZero hx)
      rw [dropZeroSign, if_pos hx, isNaN, isNaN, hn]
      rfl
    · rw [dropZeroSign, if_neg hx]
  | _ => rfl

theorem isNaN_eq_of_dropZeroSign_eq {v w : Value} (h : v.dropZeroSign = w.dropZeroSign) :
    v.isNaN = w.isNaN := by
  rw [← isNaN_dropZeroSign, h, isNaN_dropZeroSign]

theorem numEq_of_dropZeroSign {x y : Binary64} (hx : ¬ x.isNaN) (hy : ¬ y.isNaN)
    (h : (real x).dropZeroSign = (real y).dropZeroSign) : x.numEq y := by
  refine Binary64.numEq_iff.2 ⟨hx, hy, ?_⟩
  obtain h | ⟨_, _, h, h', hx, hy, -⟩ := dropZeroSign_eq_iff.1 h
  · exact .inl (real.inj h)
  · cases h
    cases h'
    exact .inr ⟨hx, hy⟩

/-- Only a NaN keeps values apart that differ in no more than the sign of a zero. -/
theorem same_iff (v w : Value) :
    v.same w ↔ ¬ v.isNaN ∧ v.dropZeroSign = w.dropZeroSign := by
  constructor
  · intro h
    refine ⟨?_, dropZeroSign_eq_of_same h⟩
    cases v with
    | real x =>
      cases w with
      | real y => exact (Binary64.numEq_iff.1 h).1
      | _ => cases h
    | _ => exact Bool.false_ne_true
  · intro h
    obtain ⟨hv, h⟩ := h
    have hw : ¬ w.isNaN := isNaN_eq_of_dropZeroSign_eq h ▸ hv
    cases v with
    | real x =>
      cases w with
      | real y => exact numEq_of_dropZeroSign hv hw h
      | _ => cases h
    | _ =>
      cases w with
      | real y => cases h
      | _ => exact decide_eq_true h

theorem same_self (v : Value) : v.same v ↔ ¬ v.isNaN := by
  rw [same_iff, and_iff_left rfl]

theorem same_symm {v w : Value} (h : v.same w) : w.same v := by
  rw [same_iff] at h ⊢
  exact ⟨isNaN_eq_of_dropZeroSign_eq h.2 ▸ h.1, h.2.symm⟩

theorem same_trans {u v w : Value} (huv : u.same v) (hvw : v.same w) : u.same w := by
  rw [same_iff] at huv hvw ⊢
  exact ⟨huv.1, huv.2.trans hvw.2⟩

theorem AreOppositeZeros.same {v w : Value} (h : v.AreOppositeZeros w) : v.same w := by
  refine (same_iff v w).2 ⟨?_, h.dropZeroSign_eq⟩
  obtain ⟨x, y, rfl, -, hx, -⟩ := h
  exact Binary64.not_isNaN_of_isZero hx

end Value

/-! ### What is hashed -/

theorem Text.bytes_inj {a b : String} (h : a.toUTF8.data.toList = b.toUTF8.data.toList) : a = b :=
  String.toByteArray_inj.1 (ByteArray.ext (Array.toList_inj.1 h))

namespace Value

/-- No two values feed a hasher the same bytes. -/
theorem hashFeed_inj {v w : Value} (h : v.hashFeed = w.hashFeed) : v = w := by
  cases v with
  | null =>
    cases w with
    | null => rfl
    | _ => exact absurd (List.cons.inj h).1 (by decide)
  | int m =>
    cases w with
    | int n =>
      have hbits := Bytes.bigEndian_toNat_inj (List.cons.inj h).2
      exact congrArg int (Int64.toBitVec_inj.1 hbits)
    | _ => exact absurd (List.cons.inj h).1 (by decide)
  | uint m =>
    cases w with
    | uint n =>
      have hbits := Bytes.bigEndian_toNat_inj (List.cons.inj h).2
      exact congrArg uint (UInt64.toBitVec_inj.1 hbits)
    | _ => exact absurd (List.cons.inj h).1 (by decide)
  | real x =>
    cases w with
    | real y =>
      have hbits := Bytes.bigEndian_toNat_inj (List.cons.inj h).2
      exact congrArg (real ∘ Binary64.mk) (UInt64.toBitVec_inj.1 hbits)
    | _ => exact absurd (List.cons.inj h).1 (by decide)
  | text a =>
    cases w with
    | text b =>
      obtain ⟨hbytes, -⟩ := List.append_inj' (List.cons.inj h).2 rfl
      exact congrArg text (Text.bytes_inj hbytes)
    | _ => exact absurd (List.cons.inj h).1 (by decide)
  | decimal m scale =>
    cases w with
    | decimal n scale' =>
      obtain ⟨hmn, hs⟩ := Bytes.bigEndian_append_inj m.isLt n.isLt (List.cons.inj h).2
      have hscale : scale = scale' := congrArg Int8.ofUInt8 (List.cons.inj hs).1
      rw [BitVec.eq_of_toNat_eq hmn, hscale]
    | _ => exact absurd (List.cons.inj h).1 (by decide)
  | datetime m =>
    cases w with
    | datetime n =>
      have hbits := Bytes.bigEndian_toNat_inj (List.cons.inj h).2
      exact congrArg datetime (Int64.toBitVec_inj.1 hbits)
    | _ => exact absurd (List.cons.inj h).1 (by decide)
  | duration m =>
    cases w with
    | duration n =>
      have hbits := Bytes.bigEndian_toNat_inj (List.cons.inj h).2
      exact congrArg duration (Int64.toBitVec_inj.1 hbits)
    | _ => exact absurd (List.cons.inj h).1 (by decide)

/-- Equality of values is symmetric and transitive, and reflexive but for NaNs. The equal values
that a hasher is fed differently are the two zeros. -/
theorem same_isKey (u v w : Value) :
    (v.same v ↔ ¬ v.isNaN) ∧ (v.same w → w.same v) ∧ (u.same v → v.same w → u.same w) ∧
      (v.same w ∧ v.hashFeed ≠ w.hashFeed ↔ v.AreOppositeZeros w) := by
  refine ⟨same_self v, same_symm, same_trans, ?_, ?_⟩
  · intro h
    exact areOppositeZeros_of_same h.1 fun hvw => h.2 (congrArg hashFeed hvw)
  · intro h
    refine ⟨h.same, fun hfeed => ?_⟩
    obtain ⟨x, y, rfl, rfl, -, -, hxy⟩ := h
    exact hxy (real.inj (hashFeed_inj hfeed))

/-- The two zeros, and decimals of one number at two scales. -/
theorem same_isKey_zeros :
    let zero := real ⟨0⟩
    let negative := real ⟨0x8000000000000000⟩
    zero.same zero ∧ negative.same zero ∧ negative.same negative ∧
      zero.hashFeed ≠ negative.hashFeed ∧
      ¬((decimal 10 1).same (decimal 1 0) ∧
        (decimal 10 1).hashFeed ≠ (decimal 1 0).hashFeed) := by
  intro zero negative
  have hzeros : zero.AreOppositeZeros negative :=
    ⟨_, _, rfl, rfl, by decide, by decide, by decide⟩
  obtain ⟨hself, hsymm, htrans, happart⟩ := same_isKey negative zero negative
  obtain ⟨hsame, hfeed⟩ := happart.2 hzeros
  refine ⟨hself.2 (by decide), hsymm hsame, htrans (hsymm hsame) hsame, hfeed, fun h => ?_⟩
  obtain ⟨_, _, h, -⟩ := (same_isKey .null (decimal 10 1) (decimal 1 0)).2.2.2.1 h
  cases h

/-- A NaN is no key that is found again, and a zero is found under the hash of its own sign only. -/
theorem not_same_isKey_nan :
    (real .nan).same (real .nan) = false ∧ (real ⟨0⟩).same (real ⟨0x8000000000000000⟩) ∧
      (real ⟨0⟩).hashFeed ≠ (real ⟨0x8000000000000000⟩).hashFeed := by
  decide

end Value

end ScalarExpr
