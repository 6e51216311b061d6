import ScalarExpr.Proofs.Evaluation.Constant
import ScalarExpr.Proofs.Planning.Commutation
/-!
Folded trees. A tree is folded if folding keeps each call that is in it; folding gives such a tree,
and leaves a tree as it is if and only if it is one.
-/
namespace ScalarExpr

set_option autoImplicit true

theorem Category.isFolded_iff {c : Category} : c.isFolded ↔ c ∈ [.int, .real, .text] := by
  cases c <;> decide

namespace Expr

variable {e f x : Expr} {args : List Expr} {head : CallHead} {memo : Memo}

/-- A call that folding keeps: one that is not constant, or of no folded category, or that fails. -/
def IsKept (e : Expr) : Prop :=
  e.isConstant → e.type.category.isFolded → ∃ cause, e.constantValue = .error (.error cause)

/-- All calls of the tree are such that folding keeps them, and have no keys. -/
def IsFolded (e : Expr) : Prop :=
  e.All fun
    | call head args memo => memo = none ∧ (call head args none).IsKept
    | _ => True

theorem settle_eq_self_iff :
    (settle head args).result = .ok (call head args none) ↔ (call head args none).IsKept := by
  rw [settle_result, IsKept, type_call]
  split
  case isTrue hc =>
    obtain ⟨hc, hf⟩ := Bool.and_eq_true_iff.1 hc
    cases (call head args none).constantValue with
    | ok v => simp [hc, hf]
    | error f => cases f <;> simp [hc, hf]
  case isFalse hc =>
    rw [Bool.and_eq_true] at hc
    exact ⟨fun _ h hf => (hc ⟨h, hf⟩).elim, fun _ => rfl⟩

theorem fold_call_ok_iff : (call head args memo).fold.result = .ok f ↔
    ∃ args', List.Forall₂ (fun e e' => e.fold.result = .ok e') args args' ∧
      (settle head args').result = .ok f := by
  rw [fold_call_result, bind_ok_iff]
  simp only [mapM_ok_iff]

/-- What folding gives is folded. -/
theorem isFolded_of_fold (h : e.fold.result = .ok f) : f.IsFolded := by
  induction e generalizing f with
  | column | outer | literal =>
    cases h
    trivial
  | call head args memo ih =>
    obtain ⟨args', ha, hs⟩ := fold_call_ok_iff.1 h
    obtain rfl | ⟨v, -, -, -, rfl⟩ := settle_cases hs
    · refine all_call.2 ⟨⟨rfl, settle_eq_self_iff.1 hs⟩, fun e' he' => ?_⟩
      obtain ⟨e, he, hf⟩ := exists_left_of_forall₂ ha he'
      exact ih e he hf
    · trivial

/-- Folding keeps the trees that are folded and no others. -/
theorem fold_eq_self_iff : e.fold.result = .ok e ↔ e.IsFolded := by
  refine ⟨isFolded_of_fold, fun h => ?_⟩
  induction e with
  | column | outer | literal => rfl
  | call head args memo ih =>
    obtain ⟨⟨rfl, hk⟩, ha⟩ := all_call.1 h
    refine fold_call_ok_iff.2 ⟨args, ?_, settle_eq_self_iff.2 hk⟩
    rw [List.forall₂_same]
    exact fun e he => ih e he (ha e he)

theorem type_fold (h : e.fold.result = .ok f) : f.type = e.type := by
  cases e with
  | column | outer | literal =>
    cases h
    rfl
  | call head args memo =>
    obtain ⟨args', -, rfl | ⟨v, -, -, -, rfl⟩⟩ := fold_cases h <;> rfl

theorem isConstant_fold (h : e.fold.result = .ok f) : f.isConstant = e.isConstant := by
  induction e generalizing f with
  | column | outer | literal =>
    cases h
    rfl
  | call head args memo ih =>
    obtain ⟨args', ha, hf⟩ := fold_cases h
    have hmem := forall₂_and_mem ha
    have hcall : (call head args memo).isConstant = (call head args' none).isConstant :=
      isConstant_call_congr rfl (hmem.imp fun x _ hx => (ih x hx.1 hx.2).symm)
    rw [hcall]
    obtain rfl | ⟨v, hc, -, -, rfl⟩ := hf
    · rfl
    · exact hc.symm

theorem IsDeterministic.eval_of_isConstant (hd : e.IsDeterministic) (hc : e.isConstant) (env : Env)
    (r : Row) : e.eval env r = Eval.lift e.constantValue := by
  have ha := Tolerance.agree_exact_iff.1 (agreeOn_of_isConstant hc {} r .empty).value
  rw [eval, hd.meaning_env hc env {}, ha]
  exact hd.eval_eq {} .empty

/-- A constant call of a folded category that is left in a folded tree fails for every row. -/
theorem IsFolded.exists_fail (hf : e.IsFolded) (hn : e.IsNative) (hx : x ∈ e.calls)
    (hc : x.isConstant) (ht : x.type.category.isFolded) :
    ∃ cause, ∀ env r, x.eval env r = Eval.fail cause := by
  obtain ⟨⟨head, args, memo, rfl⟩, hx'⟩ := hf.exists_of_mem_calls hx
  obtain ⟨⟨rfl, hk⟩, -⟩ := all_call.1 hx'
  obtain ⟨cause, hv⟩ := hk hc ht
  have hd : (call head args none).IsDeterministic :=
    IsNative.isDeterministic (hn.exists_of_mem_calls hx).2 hc
  refine ⟨cause, fun env r => ?_⟩
  rw [hd.eval_of_isConstant hc, hv]
  rfl

/-- Folding gives a normal form: a tree of the same type that is constant where the tree is, in
which every constant call of a kind that rows have fails, and that folding does not change. -/
theorem IsNative.fold_normal (hn : e.IsNative) (hp : e.HasPlainDecimals) :
    ∃ f, e.fold.Gives f ∧ f.type = e.type ∧ f.isConstant = e.isConstant ∧
      (∀ x ∈ f.calls, x.isConstant → x.type.category ∈ [.int, .real, .text] →
        ∃ cause, ∀ env r, x.eval env r = Eval.fail cause) ∧
      f.fold.Gives f := by
  have ht := hp.hasTexts
  obtain ⟨f, -, -, hf, htf⟩ := (hn.fold_yields ht).exists_result
  have hfolded := isFolded_of_fold hf
  have hnf := hn.of_fold hf
  refine ⟨f, hn.fold_gives ht hf, type_fold hf, isConstant_fold hf, fun x hx hc hcat => ?_,
    hnf.fold_gives htf (fold_eq_self_iff.2 hfolded)⟩
  exact hfolded.exists_fail hnf hx hc (Category.isFolded_iff.2 hcat)

/-- A sum of a sum that is folded, a column, and a sum that is kept since it overflows. -/
theorem IsNative.fold_normal_overflow :
    let int (n : Int64) := literal (.int n) .bigint none
    let n := column ⟨1, 0, .bigint, "n", none⟩
    let sum (x y : Expr) := (Builtin.arithmetic .plus (.int false)).toCall [x, y]
    let kept := sum (int 9223372036854775807) (int 1)
    let e := sum (sum (int 1) (int 2)) (sum n kept)
    let f := sum (int 3) (sum n kept)
    e.IsNative ∧ e.HasPlainDecimals ∧ e.fold.Gives f ∧ f.fold.Gives f ∧
      kept ∈ f.calls ∧ ∃ cause, ∀ env r, kept.eval env r = Eval.fail cause := by
  intro int n sum kept e f
  have hsum (x y : Expr) (hx : x.IsNative) (hy : y.IsNative) : (sum x y).IsNative :=
    ⟨⟨by decide, rfl, rfl, rfl⟩, hx, hy, trivial⟩
  have hkept : kept.IsNative := hsum _ _ trivial trivial
  have hn : e.IsNative := hsum _ _ (hsum _ _ trivial trivial) (hsum _ _ trivial hkept)
  have hp : e.HasPlainDecimals :=
    ⟨trivial, ⟨trivial, trivial, trivial, trivial⟩, ⟨trivial, trivial,
      ⟨trivial, trivial, trivial, trivial⟩, trivial⟩, trivial⟩
  have hf : e.fold.result = .ok f := rfl
  obtain ⟨f', hg, -, -, hfail, hagain⟩ := hn.fold_normal hp
  cases hf.symm.trans hg.1
  have hmem : kept ∈ f.calls := by
    simp [f, sum, Builtin.toCall, calls, allCalls, kept]
  exact ⟨hn, hp, hg, hagain, hmem, hfail kept hmem rfl (by decide)⟩

end Expr

end ScalarExpr
