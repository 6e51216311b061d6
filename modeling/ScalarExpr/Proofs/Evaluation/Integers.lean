import ScalarExpr.Proofs.Evaluation.Rows
/-!
Integers and their bits. The 64 bits of an integer are read as an unsigned or as a signed number,
and arithmetic on bits is exact for operands that are read as the result is.
-/
namespace ScalarExpr

set_option autoImplicit true

/-- The integers that 64 bits stand for, read as unsigned or as signed numbers. -/
def InRange (isUnsigned : Bool) (n : Int) : Prop :=
  if isUnsigned then 0 ≤ n ∧ n < Int.pow 2 64 else -Int.pow 2 63 ≤ n ∧ n < Int.pow 2 63

instance (u : Bool) (n : Int) : Decidable (InRange u n) := by
  unfold InRange
  infer_instance

/-- An integer as a value of the type. -/
def Value.ofInteger (t : SqlType) (n : Int) : Value :=
  if t.isUnsigned then .uint (UInt64.ofNat n.toNat) else .int (Int64.ofInt n)

theorem two_pow_63 : Int.pow 2 63 = 9223372036854775808 := rfl

theorem two_pow_64 : Int.pow 2 64 = 18446744073709551616 := rfl

namespace Evaluation

theorem widen_false (a : Int64) : widen false a = a.toInt := rfl

theorem widen_true (a : Int64) :
    widen true a = if a.toInt < 0 then a.toInt + Int.pow 2 64 else a.toInt := by
  have hn := a.toBitVec.isLt
  have hi : a.toInt = _ := BitVec.toInt_eq_toNat_cond a.toBitVec
  show (a.toBitVec.toNat : Int) = _
  rw [two_pow_64, hi]
  split <;> split <;> omega

theorem toInt_inRange (a : Int64) : InRange false a.toInt :=
  ⟨a.le_toInt, a.toInt_lt⟩

theorem widen_inRange (u : Bool) (a : Int64) : InRange u (widen u a) := by
  cases u with
  | false => exact toInt_inRange a
  | true =>
    have h := toInt_inRange a
    simp only [InRange, two_pow_63, two_pow_64, widen_true, if_true, Bool.false_eq_true,
      if_false] at h ⊢
    split <;> omega

theorem toInt64_ofNat (h : InRange true n) : (UInt64.ofNat n.toNat).toInt64 = Int64.ofInt n := by
  obtain ⟨h₀, -⟩ := h
  apply Int64.toBitVec_inj.1
  show BitVec.ofNat 64 n.toNat = BitVec.ofInt 64 n
  rw [← BitVec.ofInt_natCast, Int.toNat_of_nonneg h₀]

/-- The bits of an integer are read as the integer. -/
theorem widen_ofInt (h : InRange u n) : widen u (Int64.ofInt n) = n := by
  cases u with
  | false => exact Int64.toInt_ofInt_of_le h.1 h.2
  | true =>
    rw [← toInt64_ofNat h]
    obtain ⟨h₀, h₁⟩ := h
    rw [two_pow_64] at h₁
    show ((UInt64.ofNat n.toNat).toInt64.toUInt64.toNat : Int) = n
    rw [UInt64.toUInt64_toInt64, UInt64.toNat_ofNat']
    omega

/-- The complement of the bits. -/
theorem widen_not (u : Bool) (a : Int64) :
    widen true (~~~a) = (-1 - widen u a) % Int.pow 2 64 := by
  have hn : widen true (~~~a) = 18446744073709551615 - widen true a := by
    show ((~~~a).toBitVec.toNat : Int) = _ - (a.toBitVec.toNat : Int)
    rw [Int64.toBitVec_not, BitVec.toNat_not]
    have ha := a.toBitVec.isLt
    omega
  obtain ⟨h₀, h₁⟩ := widen_inRange true a
  rw [hn, two_pow_64] at *
  cases u with
  | true => omega
  | false =>
    have hw := widen_true a
    rw [two_pow_64] at hw
    rw [widen_false]
    split at hw <;> omega

theorem ofInteger_widen (t : SqlType) (a : Int64) :
    Value.ofInteger t (widen t.isUnsigned a) = Kind.int.box t (some a) := by
  rw [Value.ofInteger, Kind.box]
  split
  case isTrue h =>
    rw [h]
    show Value.uint (UInt64.ofNat a.toUInt64.toNat) = _
    rw [UInt64.ofNat_toNat]
  case isFalse h =>
    rw [eq_false_of_ne_true h, widen_false, Int64.ofInt_toInt]

end Evaluation

theorem SqlType.isUnsigned_bigint : bigint.isUnsigned = false := by decide

theorem SqlType.isUnsigned_unsignedBigint : unsignedBigint.isUnsigned = true := by decide

theorem Builtin.isUnsigned_arithmetic (op : ArithOp) (u : Bool) :
    (arithmetic op (.int u)).type.isUnsigned = u := by
  cases u with
  | false => exact SqlType.isUnsigned_bigint
  | true => exact SqlType.isUnsigned_unsignedBigint

/-- Arithmetic on bits is exact for operands that are read as the result is. -/
theorem ArithOp.onBits_eq (op : ArithOp) (u : Bool) (a b : Int64) :
    let n := op.onInts (Evaluation.widen u a) (Evaluation.widen u b)
    op.onBits u a b = if InRange u n then some (Int64.ofInt n) else none := by
  intro n
  cases u with
  | false =>
    show int64? n = _
    simp only [int64?, InRange, Bool.and_eq_true, decide_eq_true_eq, Bool.false_eq_true, if_false]
  | true =>
    show (op.onUnsigned a.toUInt64 b.toUInt64).map UInt64.toInt64 = _
    have ho : op.onUnsigned a.toUInt64 b.toUInt64 =
        if InRange true n then some (UInt64.ofNat n.toNat) else none := by
      show (if 0 ≤ n && n < Int.pow 2 64 then some (UInt64.ofNat n.toNat) else none) = _
      simp only [InRange, Bool.and_eq_true, decide_eq_true_eq, if_true]
    rw [ho]
    split
    case isTrue h => exact congrArg some (Evaluation.toInt64_ofNat h)
    case isFalse => rfl

/-- Integer arithmetic as an operation on bits. -/
@[reducible] def Operation.onBits (op : ArithOp) (u : Bool) : Operation :=
  checked .int (Evaluation.intResult op u) (Evaluation.intResult_relabel op u)
    fun _ _ _ _ _ => Evaluation.intResult_error

theorem Evaluation.intResult_eq (op : ArithOp) (u : Bool) (x y : Meaning) (a b : Int64) :
    let n := op.onInts (widen u a) (widen u b)
    intResult op u x y a b =
      if InRange u n then .ok (some (Int64.ofInt n))
      else .error (Meaning.outOfRange (Builtin.arithmetic op (.int u)).type op.symbol [x, y]) := by
  intro n
  rw [intResult, op.onBits_eq]
  by_cases h : InRange u n
  · rw [if_pos h, if_pos h]
  · rw [if_neg h, if_neg h]

end ScalarExpr
