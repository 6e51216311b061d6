import ScalarExpr.Proofs.Function.Call
/-!
Trees of shipped builtins. Building a call by name gives one, whatever builtin the name stands for,
and those that are constant are deterministic: the functions of the clock and of random numbers are
not folded.
-/
namespace ScalarExpr

set_option autoImplicit true

/-- The call has a shipped builtin, the name and the type of the builtin, and as many arguments as
it takes. -/
structure CallHead.IsNative (head : CallHead) (n : Nat) : Prop where
  shipped : head.builtin.functionClass ∈ FunctionClass.builtins
  arity : head.builtin.functionClass.arity.allows n
  type : head.type = head.builtin.type
  name : head.name.lower = head.builtin.name

theorem Builtin.isDeterministic_of_notMem {b : Builtin}
    (hs : b.functionClass ∈ FunctionClass.builtins) (hn : b.name ∉ Expr.unfoldable) :
    b.isDeterministic := by
  cases b with
  | rand | now | unixTimestamp => exact (hn (by simp [name, Expr.unfoldable])).elim
  | fixed name type answer => simp [functionClass, FunctionClass.builtins] at hs
  | _ => rfl

theorem CallHead.IsNative.isDeterministic {head : CallHead} (h : head.IsNative n)
    (hn : head.name.lower ∉ Expr.unfoldable) : head.IsDeterministic n where
  builtin := Builtin.isDeterministic_of_notMem h.shipped (h.name ▸ hn)
  arity := h.arity
  type := h.type

namespace Expr

variable {e : Expr} {head : CallHead} {args : List Expr} {memo : Memo}

/-- All calls of the tree are calls of shipped builtins. -/
def IsNative (e : Expr) : Prop :=
  e.All fun
    | call head args _ => head.IsNative args.length
    | _ => True

theorem isConstant_call :
    (call head args memo).isConstant ↔ head.name.lower ∉ unfoldable ∧ ∀ e ∈ args, e.isConstant := by
  rw [isConstant, Bool.and_eq_true, areConstant_iff, Bool.not_eq_true', List.contains_eq_mem,
    decide_eq_false_iff_not]

namespace IsNative

theorem of_head (h : (call head args memo).IsNative) : head.IsNative args.length :=
  All.root (p := _) h

theorem of_mem (h : (call head args memo).IsNative) : ∀ e ∈ args, e.IsNative :=
  (all_call.1 h).2

theorem of_call (h : head.IsNative args.length) (ha : ∀ e ∈ args, e.IsNative) :
    (call head args memo).IsNative :=
  all_call.2 ⟨h, ha⟩

theorem of_args {args' : List Expr} {memo' : Memo} (h : (call head args memo).IsNative)
    (hl : args.length = args'.length) (ha : ∀ e ∈ args', e.IsNative) :
    (call head args' memo').IsNative :=
  of_call (hl ▸ h.of_head) ha

theorem isDeterministic (h : e.IsNative) (hc : e.isConstant) : e.IsDeterministic := by
  induction e with
  | column | outer | literal => trivial
  | call head args memo ih =>
    obtain ⟨hn, hc⟩ := isConstant_call.1 hc
    exact .of_call (h.of_head.isDeterministic hn) fun e he => ih e he (h.of_mem e he) (hc e he)

end IsNative

end Expr

/-! ### Calls that are built by name -/

theorem FunctionClass.signature_returns (c : FunctionClass) (args : List Expr) :
    Eval.Returns (fun b : Builtin => b.functionClass = c) (c.signature args) := by
  cases c with
  | rand => exact .bind fun _ => .pure rfl
  | _ => exact .pure rfl

theorem FunctionClass.instantiate_returns (c : FunctionClass) (args : List Expr) :
    Eval.Returns (fun b : Builtin => b.functionClass = c ∧ c.arity.allows args.length)
      (c.instantiate args) := by
  rw [instantiate, Arity.check]
  split
  case isTrue ha =>
    apply Eval.Returns.bind
    intro _ g b g' h
    exact ⟨signature_returns c args g b g' h, ha⟩
  case isFalse => exact .error _ _

theorem FunctionRegistry.builtins_lookup (h : builtins.lookup name = some c) :
    c ∈ FunctionClass.builtins ∧ Text.lower name = c.name := by
  have hentries : ∀ p ∈ builtins.entries,
      p.2 ∈ FunctionClass.builtins ∧ p.1 = p.2.name ∧ Text.lower p.1 = p.1 := by
    decide +kernel
  have hfind (n : String) (hn : builtins.find? n = some c) :
      c ∈ FunctionClass.builtins ∧ n = c.name ∧ Text.lower n = n := by
    obtain ⟨p, hp, rfl⟩ := Option.map_eq_some_iff.1 hn
    have he : p.1 = n := by simpa using List.find?_some hp
    subst he
    exact hentries p (List.mem_of_find?_eq_some hp)
  obtain h | ⟨-, h⟩ := Option.or_eq_some_iff.1 h
  · obtain ⟨hc, hn, hl⟩ := hfind _ h
    exact ⟨hc, hl.trans hn⟩
  · obtain ⟨hc, hn, -⟩ := hfind _ h
    exact ⟨hc, hn⟩

theorem Builtin.functionClass_name (b : Builtin) : b.functionClass.name = b.name := by
  cases b <;> rfl

namespace Expr

theorem callType_of_shipped {b : Builtin} (hs : b.functionClass ∈ FunctionClass.builtins)
    (t : SqlType) : callType b.type t = b.type := by
  by_cases hb : b.isDeterministic
  · exact callType_of_isDeterministic hb t
  · cases b with
    | rand | now | unixTimestamp => rfl
    | fixed name type answer => simp [Builtin.functionClass, FunctionClass.builtins] at hs
    | _ => exact (hb rfl).elim

/-- What the registry of the shipped builtins builds over trees of these is one of them. -/
theorem newCall_isNative (ha : ∀ e ∈ args, e.IsNative) (s : Settings) (name : String)
    (type : Option SqlType) :
    Eval.Returns IsNative (newCall FunctionRegistry.builtins s name type args) := by
  unfold newCall
  cases type with
  | none => exact .error _ _
  | some t =>
    dsimp only
    cases hl : FunctionRegistry.builtins.lookup name with
    | none => exact .error _ _
    | some c =>
      refine Eval.Returns.bind_returns (FunctionClass.instantiate_returns c args) fun b hb => ?_
      obtain ⟨rfl, harity⟩ := hb
      obtain ⟨hs, hname⟩ := FunctionRegistry.builtins_lookup hl
      have hn := hname.trans b.functionClass_name
      exact .pure (.of_call ⟨hs, harity, callType_of_shipped hs t, hn⟩ ha)

end Expr

end ScalarExpr
