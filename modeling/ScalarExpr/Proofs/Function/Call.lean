import ScalarExpr.Function.Call
import ScalarExpr.Proofs.Evaluation.Deterministic
/-!
Calls that are built by name. Calls of shipped functions other than those of the clock and of random
numbers are deterministic.
-/
namespace ScalarExpr

set_option autoImplicit true

namespace FunctionClass

/-- A shipped class other than those of the clock and of random numbers. -/
def isDeterministic : FunctionClass → Bool
  | rand | now | unixTimestamp | fixed _ _ _ => false
  | _ => true

theorem signature_eq_pure {c : FunctionClass} (hc : c.isDeterministic) (args : List Expr) :
    ∃ b, c.signature args = pure b ∧ b.isDeterministic ∧ b.functionClass = c := by
  cases c with
  | rand | now | unixTimestamp | fixed => cases hc
  | _ => exact ⟨_, rfl, rfl, rfl⟩

section Pair

variable {x y : Expr} (hx : x.type.category = .int) (hy : y.type.category = .int)

include hx hy

theorem arithSignature_pair :
    arithSignature [x, y] = .int (x.type.isUnsigned || y.type.isUnsigned) := by
  simp [arithSignature, allOf, hx, hy]

theorem compareSignature_pair :
    compareSignature [x, y] = .int x.type.isUnsigned y.type.isUnsigned := by
  simp [compareSignature, allOf, hx, hy]

end Pair

end FunctionClass

/-- The builtin is the one that its class has for the arguments. -/
def CallHead.IsChosenFor (head : CallHead) (args : List Expr) : Prop :=
  head.builtin.functionClass.signature args = pure head.builtin

namespace Expr

variable {reg : FunctionRegistry} {s : Settings} {name : String} {type : Option SqlType}
  {args : List Expr} {g g' : Generators} {e : Expr}

/-- A call that is built has the class of its name, and the builtin that the class chose for its
arguments. -/
theorem newCall_ok (h : (newCall reg s name type args).run.run g = (.ok e, g')) :
    ∃ c t b, reg.lookup name = some c ∧ c.arity.allows args.length ∧
      (c.signature args).run.run g = (.ok b, g') ∧
      e = call ⟨.ofString name, callType b.type t, b, s⟩ args none := by
  unfold newCall at h
  cases type with
  | none => cases h
  | some t =>
    dsimp only at h
    cases hl : reg.lookup name with
    | none =>
      rw [hl] at h
      cases h
    | some c =>
      rw [hl] at h
      obtain ⟨b, g₁, hb, h⟩ := Eval.exists_of_run_bind h
      cases h
      obtain ⟨u, g₂, hu, hb⟩ := Eval.exists_of_run_bind hb
      obtain rfl : g = g₂ := congrArg Prod.snd hu
      refine ⟨c, t, b, rfl, ?_, hb, rfl⟩
      rw [Eval.run_lift, Arity.check] at hu
      split at hu
      · assumption
      · cases hu

theorem newCall_eq (h : (newCall reg s name type args).run.run g = (.ok e, g'))
    (hl : reg.lookup name = some c) (hb : c.signature args = pure b) :
    c.arity.allows args.length ∧
      ∃ t, e = call ⟨.ofString name, callType b.type t, b, s⟩ args none := by
  obtain ⟨c', t, b', hl', hn, hb', rfl⟩ := newCall_ok h
  obtain rfl : c = c' := Option.some.inj (hl.symm.trans hl')
  rw [hb] at hb'
  cases hb'
  exact ⟨hn, t, rfl⟩

theorem callType_of_isDeterministic {b : Builtin} (hb : b.isDeterministic) (t : SqlType) :
    callType b.type t = b.type := by
  unfold callType
  cases b with
  | arithmetic op signature =>
    cases signature with
    | int u => cases u <;> rfl
    | real => rfl
  | rand | now | unixTimestamp | fixed => cases hb
  | _ => rfl

/-- A call of a deterministic class has the type of its builtin, whatever type is asked for. -/
theorem newCall_builtin (h : (newCall reg s name type args).run.run g = (.ok e, g'))
    (hl : reg.lookup name = some c) (hc : c.isDeterministic) :
    ∃ b, c.signature args = pure b ∧ b.isDeterministic ∧ b.functionClass = c ∧
      c.arity.allows args.length ∧ e = call ⟨.ofString name, b.type, b, s⟩ args none := by
  obtain ⟨b, hb, hd, hbc⟩ := FunctionClass.signature_eq_pure hc args
  obtain ⟨hn, t, rfl⟩ := newCall_eq h hl hb
  have ht := callType_of_isDeterministic hd t
  exact ⟨b, hb, hd, hbc, hn, by rw [ht]⟩

/-- A call that is built has a builtin and type that its class has for the arguments. -/
theorem newCall_isChosenFor (h : (newCall reg s name type args).run.run g = (.ok e, g'))
    (hl : reg.lookup name = some c) (hc : c.isDeterministic) :
    ∃ head : CallHead, e = call head args none ∧ head.IsDeterministic args.length ∧
      head.IsChosenFor args := by
  obtain ⟨b, hb, hd, rfl, hn, rfl⟩ := newCall_builtin h hl hc
  exact ⟨_, rfl, ⟨hd, hn, rfl⟩, hb⟩

theorem newCall_isDeterministic (h : (newCall reg s name type args).run.run g = (.ok e, g'))
    (hl : reg.lookup name = some c) (hc : c.isDeterministic)
    (ha : ∀ e ∈ args, e.IsDeterministic) : e.IsDeterministic := by
  obtain ⟨head, rfl, hd, -⟩ := newCall_isChosenFor h hl hc
  exact .of_call hd ha

end Expr

end ScalarExpr
