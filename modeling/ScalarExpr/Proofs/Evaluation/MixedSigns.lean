import ScalarExpr.Proofs.Evaluation.Integers
import ScalarExpr.Proofs.Expr.Texts
import ScalarExpr.Proofs.Function.Call
/-!
Arithmetic of integers of which one may be unsigned. The result is unsigned if an operand is, and
then the bits of both are read as unsigned numbers. For an operand below zero that is another number,
and the outcome is right only where both numbers lead to the same.
-/
namespace ScalarExpr

set_option autoImplicit true

/-- The outcome that the exact result of integer arithmetic asks for: the integer as a value of the
type, or the error that it is out of range. -/
def IsExact (t : SqlType) (n : Int) : Except Failure Value → Prop
  | .ok v => InRange t.isUnsigned n ∧ v = .ofInteger t n
  | .error (.error (.outOfRange _ _)) => ¬InRange t.isUnsigned n
  | .error _ => False

/-- Operands, one below zero and the other unsigned, whose outcome changes where the one below zero
is taken for the unsigned number with its bits. -/
def ArithOp.Misreads : ArithOp → Int → Int → Prop
  | plus, m, n => m < 0 ∨ n < 0
  | minus, m, n => n < 0 ∨ m < 0 ∧ n ≤ m + Int.pow 2 64
  | times, m, n => m < 0 ∧ n = 1 ∨ n < 0 ∧ m = 1

instance (op : ArithOp) (m n : Int) : Decidable (op.Misreads m n) := by
  cases op <;> unfold ArithOp.Misreads <;> infer_instance

namespace Evaluation

theorem ofInteger_inj {t : SqlType} (hm : InRange t.isUnsigned m) (hn : InRange t.isUnsigned n)
    (h : Value.ofInteger t m = .ofInteger t n) : m = n := by
  rw [← widen_ofInt hm, ← widen_ofInt hn, ofInteger_widen, ofInteger_widen] at h
  have ha : Except.ok (some (Int64.ofInt m)) = Except.ok (some (Int64.ofInt n)) :=
    (Kind.as_box t .int _).symm.trans ((congrArg (·.as .int) h).trans (Kind.as_box t .int _))
  rw [← widen_ofInt hm, Option.some.inj (Except.ok.inj ha), widen_ofInt hn]

/-! ### Reading a number below zero as an unsigned one -/

section Reread

variable {m n : Int} (hm : -Int.pow 2 63 ≤ m) (hm₀ : m < 0) (hn₀ : 0 ≤ n) (hn : n < Int.pow 2 64)

include hm hm₀ in
theorem reread_mul (h : 2 ≤ n) : m * n < 0 ∧ Int.pow 2 64 ≤ (m + Int.pow 2 64) * n := by
  rw [two_pow_63] at hm
  rw [two_pow_64]
  constructor
  · exact Int.mul_neg_of_neg_of_pos hm₀ (by omega)
  · have hp : 9223372036854775808 * 2 ≤ (m + 18446744073709551616) * n :=
      Int.mul_le_mul (by omega) h (by omega) (by omega)
    omega

include hm hm₀ hn₀ hn in
theorem reread_left (op : ArithOp) :
    (InRange true (op.onInts m n) ∨ InRange true (op.onInts (m + Int.pow 2 64) n) →
      op.onInts m n = op.onInts (m + Int.pow 2 64) n) ↔ ¬op.Misreads m n := by
  cases op with
  | plus =>
    simp only [InRange, ArithOp.onInts, ArithOp.Misreads, if_true]
    rw [two_pow_63] at hm
    rw [two_pow_64] at hn ⊢
    omega
  | minus =>
    simp only [InRange, ArithOp.onInts, ArithOp.Misreads, if_true]
    rw [two_pow_63] at hm
    rw [two_pow_64] at hn ⊢
    omega
  | times =>
    simp only [InRange, ArithOp.onInts, ArithOp.Misreads, if_true]
    -- From a factor of two on, the product is below zero, and past the range when it is reread.
    obtain rfl | rfl | h : n = 0 ∨ n = 1 ∨ 2 ≤ n := by omega
    · simp
    · rw [two_pow_63] at hm
      rw [two_pow_64]
      omega
    · obtain ⟨hneg, hbig⟩ := reread_mul hm hm₀ h
      omega

include hm hm₀ hn₀ hn in
theorem reread_right (op : ArithOp) :
    (InRange true (op.onInts n m) ∨ InRange true (op.onInts n (m + Int.pow 2 64)) →
      op.onInts n m = op.onInts n (m + Int.pow 2 64)) ↔ ¬op.Misreads n m := by
  cases op with
  | plus =>
    have h := reread_left hm hm₀ hn₀ hn .plus
    simpa only [ArithOp.onInts, ArithOp.Misreads, Int.add_comm n, or_comm] using h
  | minus =>
    simp only [InRange, ArithOp.onInts, ArithOp.Misreads, if_true]
    rw [two_pow_63] at hm
    rw [two_pow_64] at hn ⊢
    omega
  | times =>
    have h := reread_left hm hm₀ hn₀ hn .times
    simpa only [ArithOp.onInts, ArithOp.Misreads, Int.mul_comm n, or_comm] using h

end Reread

theorem not_misreads {m n : Int} (op : ArithOp) (hm : 0 ≤ m) (hn : 0 ≤ n) : ¬op.Misreads m n := by
  cases op <;> simp only [ArithOp.Misreads] <;> omega

/-- Operands read as the result is give the exact outcome unless they are misread. -/
theorem reread_iff_not_misreads (op : ArithOp) (u v : Bool) (a b : Int64) :
    let m := op.onInts (widen u a) (widen v b)
    let n := op.onInts (widen (u || v) a) (widen (u || v) b)
    (InRange (u || v) m ∨ InRange (u || v) n → m = n) ↔
      ¬((u || v) = true ∧ op.Misreads (widen u a) (widen v b)) := by
  intro m n
  have ha := widen_inRange true a
  have hb := widen_inRange true b
  have hsigned {c : Int64} (h : ¬c.toInt < 0) : widen true c = widen false c := by
    rw [widen_true, if_neg h, widen_false]
  have hreread {c : Int64} (h : c.toInt < 0) : widen true c = widen false c + Int.pow 2 64 := by
    rw [widen_true, if_pos h, widen_false]
  -- An operand is reread only if it is signed itself, the other is unsigned, and it is below zero.
  cases u with
  | false =>
    cases v with
    | false => simp [m, n]
    | true =>
      by_cases h : a.toInt < 0
      · simp only [m, n, Bool.false_or, true_and, hreread h]
        exact reread_left (toInt_inRange a).1 h hb.1 hb.2 op
      · simp only [m, n, Bool.false_or, true_and, ← hsigned h, implies_true, true_iff]
        exact not_misreads op ha.1 hb.1
  | true =>
    cases v with
    | true =>
      simp only [m, n, Bool.or_self, true_and, implies_true, true_iff]
      exact not_misreads op ha.1 hb.1
    | false =>
      by_cases h : b.toInt < 0
      · simp only [m, n, Bool.or_false, true_and, hreread h]
        exact reread_right (toInt_inRange b).1 h ha.1 ha.2 op
      · simp only [m, n, Bool.or_false, true_and, ← hsigned h, implies_true, true_iff]
        exact not_misreads op ha.1 hb.1

/-! ### The outcome of a call -/

theorem intRow_run {x y : Meaning} (ha : (x.row r .int).run.run g = (.ok (some a), g₁))
    (hb : (y.row r .int).run.run g₁ = (.ok (some b), g₂)) (op : ArithOp) (u : Bool) :
    (intRow op u x y r).run.run g = (intResult op u x y a b, g₂) := by
  rw [intRow, Eval.run_bind_of_ok ha]
  dsimp only
  rw [Eval.run_bind_of_ok hb]
  rfl

theorem box_intResult (op : ArithOp) {t : SqlType} (x y : Meaning) (a b : Int64)
    (ht : t = (Builtin.arithmetic op (.int u)).type) :
    let n := op.onInts (widen u a) (widen u b)
    Kind.int.box t <$> intResult op u x y a b =
      if InRange u n then .ok (.ofInteger t n)
      else .error (Meaning.outOfRange t op.symbol [x, y]) := by
  intro n
  have hu : t.isUnsigned = u := by subst ht; exact Builtin.isUnsigned_arithmetic op u
  rw [intResult_eq, ← ht]
  by_cases h : InRange u n
  · rw [if_pos h, if_pos h]
    show Except.ok (Kind.int.box t (some (Int64.ofInt n))) = _
    rw [← ofInteger_widen, hu, widen_ofInt h]
  · rw [if_neg h, if_neg h]
    rfl

theorem outOfRange_cases (t : SqlType) (symbol : String) (ms : List Meaning) :
    (∃ name s, Meaning.infixText symbol ms = .ok s ∧
        Meaning.outOfRange t symbol ms = .error (.outOfRange name s)) ∨
      ∃ f, Meaning.infixText symbol ms = .error f ∧ Meaning.outOfRange t symbol ms = .fault f := by
  unfold Meaning.outOfRange
  cases Meaning.infixText symbol ms with
  | ok s => exact .inl ⟨_, s, rfl, rfl⟩
  | error f => exact .inr ⟨f, rfl, rfl⟩

theorem isExact_iff {t : SqlType} (hu : t.isUnsigned = u) (n k : Int) (symbol : String)
    (ms : List Meaning) :
    IsExact t n (if InRange u k then .ok (.ofInteger t k)
        else .error (Meaning.outOfRange t symbol ms)) ↔
      (InRange u n ∨ InRange u k → n = k) ∧
        (InRange u n ∨ ∃ s, Meaning.infixText symbol ms = .ok s) := by
  subst hu
  by_cases hk : InRange t.isUnsigned k
  · rw [if_pos hk]
    constructor
    · intro h
      exact ⟨fun _ => ofInteger_inj h.1 hk h.2.symm, .inl h.1⟩
    · intro h
      obtain rfl := h.1 (.inr hk)
      exact ⟨hk, rfl⟩
  · rw [if_neg hk]
    have hn : (InRange t.isUnsigned n ∨ InRange t.isUnsigned k → n = k) ↔
        ¬InRange t.isUnsigned n := by
      constructor
      · intro h hn
        obtain rfl := h (.inl hn)
        exact hk hn
      · intro hn h
        exact (h.elim hn hk).elim
    rw [hn]
    obtain ⟨name, s, hs, hf⟩ | ⟨f, hs, hf⟩ := outOfRange_cases t symbol ms
    · rw [hf, hs]
      simp [IsExact]
    · rw [hf, hs]
      simp [IsExact]

end Evaluation

namespace Expr

open Evaluation

theorem exists_infixText_iff {x y : Expr} :
    (∃ s, Meaning.infixText symbol [x.meaning env, y.meaning env] = .ok s) ↔
      (∃ s, x.render = .ok s) ∧ ∃ s, y.render = .ok s := by
  have hi := infixText_meanings symbol [x, y] env
  rw [List.mapM_cons, List.mapM_cons] at hi
  rw [show [x.meaning env, y.meaning env] = [x, y].map (meaning env) from rfl, hi]
  cases x.render with
  | error f => simp [bind, Except.bind]
  | ok s => cases y.render <;> simp [bind, Except.bind, pure, Except.pure]

/-- The outcome of a call with an integer signature, from the bits of its operands. -/
theorem arithmetic_run {x y : Expr} {head : CallHead} (hh : head.builtin = .arithmetic op (.int u))
    (ht : head.type = (Builtin.arithmetic op (.int u)).type)
    (ha : (x.evalAs env r .int).run.run g = (.ok (some a), g₁))
    (hb : (y.evalAs env r .int).run.run g₁ = (.ok (some b), g₂)) :
    let n := op.onInts (widen u a) (widen u b)
    ((call head [x, y] memo).eval env r).run.run g =
      (if InRange u n then .ok (.ofInteger head.type n)
        else .error (Meaning.outOfRange head.type op.symbol [x.meaning env, y.meaning env]), g₂) := by
  intro n
  have hk : head.type.category.kind? = some .int := by
    rw [ht]
    cases u <;> rfl
  rw [← box_intResult op _ _ a b ht]
  show (callValue env head [x.meaning env, y.meaning env] r).run.run g = _
  rw [callValue_eq hk]
  apply Eval.run_map_of_run
  show (callInt env head.builtin _ r).run.run g = _
  rw [hh]
  exact intRow_run ha hb op u

/-- Integer arithmetic on operands that are not NULL: the result is unsigned if an operand is, and
the outcome is that of the exact result if and only if the operands are not misread and, where the
error has to name them, have texts. -/
theorem arithmetic_isExact_iff {x y e : Expr} {type : Option SqlType}
    (hx : x.type.category = .int) (hy : y.type.category = .int)
    (hl : FunctionRegistry.builtins.lookup name = some (.arithmetic op))
    (he : (newCall .builtins s name type [x, y]).run.run g₀ = (.ok e, g₀'))
    (ha : (x.evalAs env r .int).run.run g = (.ok (some a), g₁))
    (hb : (y.evalAs env r .int).run.run g₁ = (.ok (some b), g₂)) :
    let m := widen x.type.isUnsigned a
    let n := widen y.type.isUnsigned b
    let exact := op.onInts m n
    (e.type.category = .int ∧ e.type.isUnsigned = (x.type.isUnsigned || y.type.isUnsigned)) ∧
      ∃ outcome, (e.eval env r).run.run g = (outcome, g₂) ∧
        (IsExact e.type exact outcome ↔ ¬(e.type.isUnsigned = true ∧ op.Misreads m n) ∧
          (InRange e.type.isUnsigned exact ∨
            (∃ s, x.render = .ok s) ∧ ∃ s, y.render = .ok s)) := by
  intro m n exact
  obtain ⟨b', hsig, -, -, -, rfl⟩ := newCall_builtin he hl rfl
  obtain rfl : .arithmetic op (FunctionClass.arithSignature [x, y]) = b' := Eval.pure_inj.1 hsig
  rw [FunctionClass.arithSignature_pair hx hy]
  have hsign := Builtin.isUnsigned_arithmetic op (x.type.isUnsigned || y.type.isUnsigned)
  have hcat : (Builtin.arithmetic op
      (.int (x.type.isUnsigned || y.type.isUnsigned))).type.category = .int := by
    cases x.type.isUnsigned || y.type.isUnsigned <;> rfl
  refine ⟨⟨hcat, hsign⟩, _, arithmetic_run rfl rfl ha hb, ?_⟩
  simp only [type_call, hsign]
  rw [isExact_iff hsign, exists_infixText_iff]
  exact and_congr_left' (reread_iff_not_misreads op x.type.isUnsigned y.type.isUnsigned a b)

/-- A number below zero that is misread overflows in a product as it does when it is not. -/
theorem arithmetic_isExact_iff_product :
    let x := literal (.uint 9223372036854775809) .unsignedBigint none
    let y := literal (.int (-2)) .bigint none
    let e := (Builtin.arithmetic .times (.int true)).toCall [x, y]
    (newCall .builtins {} "mul" (some .bigint) [x, y]).run.run {} = (.ok e, {}) ∧
      e.type.isUnsigned = true ∧ ∃ outcome, (e.eval {} .empty).run.run {} = (outcome, {}) ∧
        IsExact e.type (-18446744073709551618) outcome := by
  intro x y e
  have hx : (x.evalAs {} .empty .int).run.run {} =
      (.ok (some (9223372036854775809 : UInt64).toInt64), {}) := rfl
  have hy : (y.evalAs {} .empty .int).run.run {} = (.ok (some (-2)), {}) := rfl
  have he : (newCall .builtins {} "mul" (some .bigint) [x, y]).run.run {} = (.ok e, {}) := by
    simp only [x, y, e]
    rfl
  obtain ⟨⟨-, hu⟩, outcome, hr, hiff⟩ := arithmetic_isExact_iff rfl rfl rfl he hx hy
  have hxu : x.type.isUnsigned = true := SqlType.isUnsigned_unsignedBigint
  have hyu : y.type.isUnsigned = false := SqlType.isUnsigned_bigint
  rw [hxu, hyu] at hiff
  refine ⟨he, by rw [hu, hxu, hyu]; rfl, outcome, hr, hiff.2 ⟨?_, .inr ⟨⟨_, rfl⟩, _, rfl⟩⟩⟩
  intro h
  exact absurd h.2 (by decide)

/-- Five and minus one make four, which is in range, but the sum of an unsigned five and minus one
is out of range. -/
theorem not_isExact_sum :
    let x := literal (.uint 5) .unsignedBigint none
    let y := literal (.int (-1)) .bigint none
    let e := (Builtin.arithmetic .plus (.int true)).toCall [x, y]
    (newCall .builtins {} "plus" (some .bigint) [x, y]).run.run {} = (.ok e, {}) ∧
      (x.evalAs {} .empty .int).run.run {} = (.ok (some 5), {}) ∧
      (y.evalAs {} .empty .int).run.run {} = (.ok (some (-1)), {}) ∧
      InRange e.type.isUnsigned (5 + -1) ∧
      (e.eval {} .empty).run.run {} =
        (.error (.error (.outOfRange "BIGINT UNSIGNED" "(5 + -1)")), {}) := by
  intro x y e
  have he : (newCall .builtins {} "plus" (some .bigint) [x, y]).run.run {} = (.ok e, {}) := by
    simp only [x, y, e]
    rfl
  exact ⟨he, rfl, rfl, by decide, rfl⟩

end Expr

end ScalarExpr
