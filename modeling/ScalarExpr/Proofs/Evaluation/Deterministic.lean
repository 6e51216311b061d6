import ScalarExpr.Proofs.Expr.Induction
import ScalarExpr.Proofs.Evaluation.Rows
/-!
Trees of deterministic builtins. Their evaluation draws from no generator, and the result of a call
for a row is that of its operation on the results of its arguments.
-/
namespace ScalarExpr

set_option autoImplicit true

/-- The call has a deterministic builtin, as many arguments as the builtin takes, and its type. -/
structure CallHead.IsDeterministic (head : CallHead) (n : Nat) : Prop where
  builtin : head.builtin.isDeterministic
  arity : head.builtin.functionClass.arity.allows n
  type : head.type = head.builtin.type

theorem CallHead.IsDeterministic.kind?_eq {head : CallHead} (h : head.IsDeterministic n) :
    head.type.category.kind? = head.builtin.rowKind? := by
  rw [h.type]
  exact Builtin.type_category_kind? h.builtin

/-- A call of the builtin by its own name, in a session without settings. -/
def Builtin.toCall (b : Builtin) (args : List Expr) : Expr :=
  .call ⟨⟨b.name, b.name⟩, b.type, b, {}⟩ args none

namespace Meaning.IsSteady

theorem leaf (text : Unit → Except Fault String) (get : Row → Except Failure Value)
    (spread : Chunk → Except Failure Column) : (Meaning.leaf text get spread).IsSteady where
  value _ := .lift _
  row _ _ := .lift _
  column _ _ := .lift _

theorem buffers₂ (hx : x.IsSteady) (hy : y.IsSteady) (c : Category) (input : Chunk) :
    (Meaning.buffers₂ x y c input).IsSteady :=
  (hx.buffer c input).bind fun _ => (hy.buffer c input).bind fun _ => .pure _

end Meaning.IsSteady

namespace Evaluation

theorem callRow_isSteady {head : CallHead} (hd : head.IsDeterministic args.length)
    (hs : ∀ m ∈ args, m.IsSteady) (r : Row) (k : Kind) :
    (callRow env head args r k).IsSteady := by
  by_cases hk : head.builtin.rowKind? = some k
  · obtain ⟨o, ho, rfl⟩ := Builtin.exists_operation hd.builtin hk head.settings
    exact ⟨_, callRow_eq ho hd.arity hs env r⟩
  · exact ⟨_, callRow_refused hk env args r⟩

theorem callValue_isSteady {head : CallHead} (hd : head.IsDeterministic args.length)
    (hs : ∀ m ∈ args, m.IsSteady) (r : Row) : (callValue env head args r).IsSteady := by
  cases hk : head.type.category.kind? with
  | none =>
    rw [callValue_eq_null hk]
    exact .pure _
  | some k =>
    rw [callValue_eq hk]
    exact (callRow_isSteady hd hs r k).map _

theorem intColumn_isSteady (hx : x.IsSteady) (hy : y.IsSteady) (input : Chunk) :
    (intColumn op u x y input).IsSteady :=
  (hx.buffers₂ hy .int input).bind fun _ => .bind (.lift _) fun _ =>
    .bind (.lift _) fun _ => .bind (.lift _) fun _ => .pure _

theorem realColumn_isSteady (hx : x.IsSteady) (hy : y.IsSteady) (input : Chunk) :
    (realColumn f x y input).IsSteady :=
  (hx.buffers₂ hy .real input).bind fun _ => .bind (.lift _) fun _ =>
    .bind (.lift _) fun _ => .bind (.lift _) fun _ => .pure _

theorem compareRow_isSteady (hx : x.IsSteady) (hy : y.IsSteady) (s : CompareSignature) (r : Row) :
    (compareRow s x y r).IsSteady := by
  cases s with
  | int u v => exact (hx.row r .int).bind fun _ => (hy.row r .int).bind fun _ => .pure _
  | text => exact (hx.row r .text).bind fun _ => (hy.row r .text).bind fun _ => .pure _
  | real => exact (hx.row r .real).bind fun _ => (hy.row r .real).bind fun _ => .pure _

theorem comparisonColumn_isSteady (hx : x.IsSteady) (hy : y.IsSteady) (s : CompareSignature)
    (input : Chunk) : (comparisonColumn op s x y input).IsSteady := by
  unfold comparisonColumn
  split
  · exact (hx.buffers₂ hy .int input).bind fun _ => .bind (.lift _) fun _ =>
      .bind (.lift _) fun _ => .pure _
  · exact (Eval.IsSteady.mapM _ fun r _ => compareRow_isSteady hx hy _ r).bind fun _ => .pure _
  · exact (hx.buffers₂ hy .text input).bind fun _ => .bind (.lift _) fun _ =>
      .bind (.lift _) fun _ => .pure _
  · exact (hx.buffers₂ hy .real input).bind fun _ => .bind (.lift _) fun _ =>
      .bind (.lift _) fun _ => .pure _

theorem callColumn_isSteady {head : CallHead} (hd : head.IsDeterministic args.length)
    (hs : ∀ m ∈ args, m.IsSteady) (c : Category) (input : Chunk) :
    (callColumn env head args c input).IsSteady := by
  have hb := hd.builtin
  unfold callColumn
  split <;> rename_i h <;> try (rw [h] at hb; cases hb)
  · exact intColumn_isSteady (hs _ (by simp)) (hs _ (by simp)) input
  · exact comparisonColumn_isSteady (hs _ (by simp)) (hs _ (by simp)) _ input
  · exact ((hs _ (by simp)).buffer .int input).bind fun _ => .bind (.lift _) fun _ => .pure _
  · exact ((hs _ (by simp)).buffer .text input).bind fun _ => .bind (.lift _) fun _ => .pure _
  · exact realColumn_isSteady (hs _ (by simp)) (hs _ (by simp)) input
  · exact realColumn_isSteady (hs _ (by simp)) (hs _ (by simp)) input
  · exact (Eval.IsSteady.mapM _ fun m hm => (hs m hm).buffer .text input).bind fun _ =>
      .bind (.lift _) fun _ => .bind (.lift _) fun _ => .pure _
  · exact ((hs _ (by simp)).buffer .text input).bind fun _ => .bind (.lift _) fun _ => .pure _
  · exact ((hs _ (by simp)).buffer .text input).bind fun _ => .bind (.lift _) fun _ => .pure _
  · exact ((hs _ (by simp)).buffer .int input).bind fun _ => .bind (.lift _) fun _ =>
      .bind (.lift _) fun _ => .pure _
  · exact .lift _

end Evaluation

namespace Expr

variable {e : Expr} {head : CallHead} {args : List Expr} {memo : Memo} {k : Kind}

/-- All calls of the tree are deterministic. -/
def IsDeterministic (e : Expr) : Prop :=
  e.All fun
    | call head args _ => head.IsDeterministic args.length
    | _ => True

namespace IsDeterministic

theorem of_head (h : (call head args memo).IsDeterministic) : head.IsDeterministic args.length :=
  All.root (p := _) h

theorem of_mem (h : (call head args memo).IsDeterministic) : ∀ e ∈ args, e.IsDeterministic :=
  (all_call.1 h).2

theorem of_call (h : head.IsDeterministic args.length) (ha : ∀ e ∈ args, e.IsDeterministic) :
    (call head args memo).IsDeterministic :=
  all_call.2 ⟨h, ha⟩

theorem of_all {p : Expr → Prop}
    (hp : ∀ head args memo, p (call head args memo) → head.IsDeterministic args.length)
    (h : e.All p) : e.IsDeterministic := by
  apply h.imp
  intro e he
  cases e with
  | call head args memo => exact hp head args memo he
  | column | outer | literal => trivial

theorem of_args {args' : List Expr} {memo' : Memo} (h : (call head args memo).IsDeterministic)
    (hl : args.length = args'.length) (ha : ∀ e ∈ args', e.IsDeterministic) :
    (call head args' memo').IsDeterministic :=
  of_call (hl ▸ h.of_head) ha

theorem meaning (h : e.IsDeterministic) (env : Env) : (e.meaning env).IsSteady := by
  induction e with
  | column c => exact .leaf _ _ _
  | outer c slot memo => exact .leaf _ _ _
  | literal v t memo => exact .leaf _ _ _
  | call head args memo ih =>
    have hs : ∀ m ∈ meanings env args, m.IsSteady := by
      rw [meanings_eq_map]
      intro m hm
      obtain ⟨e, he, rfl⟩ := List.mem_map.1 hm
      exact ih e he (h.of_mem e he)
    have hd : head.IsDeterministic (meanings env args).length := by
      rw [meanings_eq_map, List.length_map]
      exact h.of_head
    exact ⟨Evaluation.callValue_isSteady hd hs, Evaluation.callRow_isSteady hd hs,
      Evaluation.callColumn_isSteady hd hs⟩

end IsDeterministic

/-- The result for a row where there are no generators. -/
def result (e : Expr) (env : Env) (r : Row) (k : Kind) : Except Failure (Option k.Item) :=
  (e.meaning env).result r k

/-- The value for a row where there are no generators. -/
def value (e : Expr) (env : Env) (r : Row) : Except Failure Value := standalone (e.eval env r)

namespace IsDeterministic

theorem evalAs_eq (h : e.IsDeterministic) (env : Env) (r : Row) (k : Kind) :
    e.evalAs env r k = Eval.lift (e.result env r k) :=
  (h.meaning env).row_eq r k

theorem evalAs_eq_pure_iff (h : e.IsDeterministic) {a : Option k.Item} :
    e.evalAs env r k = pure a ↔ e.result env r k = .ok a := by
  have hp : (pure a : Eval (Option k.Item)) = Eval.lift (.ok a) := rfl
  rw [h.evalAs_eq, hp, Eval.lift_inj]

theorem eval_eq (h : e.IsDeterministic) (env : Env) (r : Row) :
    e.eval env r = Eval.lift (e.value env r) :=
  ((h.meaning env).value r).eq_lift.symm

theorem evalAs_run (h : e.IsDeterministic) (env : Env) (r : Row) (k : Kind) (g : Generators) :
    (e.evalAs env r k).run.run g = (e.result env r k, g) := by
  rw [h.evalAs_eq, Eval.run_lift]

theorem eval_run (h : e.IsDeterministic) (env : Env) (r : Row) (g : Generators) :
    (e.eval env r).run.run g = (e.value env r, g) := by
  rw [h.eval_eq, Eval.run_lift]

theorem eval_run_error_iff (h : e.IsDeterministic) :
    (∃ g', (e.eval env r).run.run g = (.error f, g')) ↔ e.value env r = .error f := by
  rw [h.eval_run]
  constructor
  · intro h
    obtain ⟨g', hf⟩ := h
    exact congrArg Prod.fst hf
  · intro hf
    exact ⟨g, by rw [hf]⟩

theorem steady_of_call (h : (call head args memo).IsDeterministic) (env : Env) :
    ∀ m ∈ args.map (·.meaning env), m.IsSteady := by
  intro m hm
  obtain ⟨e, he, rfl⟩ := List.mem_map.1 hm
  exact (h.of_mem e he).meaning env

theorem arity_of_call (h : (call head args memo).IsDeterministic) (env : Env) :
    head.builtin.functionClass.arity.allows (args.map (·.meaning env)).length := by
  rw [List.length_map]
  exact h.of_head.arity

/-- The result of a call is that of its operation. -/
theorem result_call {o : Operation} (h : (call head args memo).IsDeterministic)
    (ho : head.builtin.operation? head.settings = some o) (env : Env) (r : Row) :
    (call head args memo).result env r o.result =
      o.run (args.map (·.meaning env)) (args.map (·.result env r o.operand)) := by
  have hc := Evaluation.callRow_eq ho (h.arity_of_call env) (h.steady_of_call env) env r
  rw [List.map_map] at hc
  rw [← Eval.lift_inj, ← h.evalAs_eq, evalAs, Expr.meaning, meanings_eq_map]
  exact hc

end IsDeterministic

/-- A call refuses all kinds of results but its own. -/
theorem result_refused (hk : head.builtin.rowKind? ≠ some k) (env : Env) (r : Row) :
    (call head args memo).result env r k =
      .error (.error (.noEvaluator head.builtin.name k.name)) :=
  congrArg standalone (Evaluation.callRow_refused hk env _ r)

theorem rowKind?_of_result (hr : (call head args memo).result env r k = .ok a) :
    head.builtin.rowKind? = some k := by
  by_contra hk
  rw [result_refused hk] at hr
  cases hr

theorem IsDeterministic.exists_operation (hd : (call head args memo).IsDeterministic)
    (hr : (call head args memo).result env r k = .ok a) :
    ∃ o, head.builtin.operation? head.settings = some o ∧ o.result = k :=
  Builtin.exists_operation hd.of_head.builtin (rowKind?_of_result hr) head.settings

theorem eval_call (hk : head.type.category.kind? = some k) (env : Env) (r : Row) :
    (call head args memo).eval env r =
      k.box head.type <$> (call head args memo).evalAs env r k := by
  rw [eval, evalAs, Expr.meaning]
  exact Evaluation.callValue_eq hk env _ r

theorem value_call (hk : head.type.category.kind? = some k) (env : Env) (r : Row) :
    (call head args memo).value env r =
      k.box head.type <$> (call head args memo).result env r k :=
  (congrArg standalone (eval_call hk env r)).trans (Eval.standalone_map _ _)

theorem value_call_null (hk : head.type.category.kind? = none) (env : Env) (r : Row) :
    (call head args memo).value env r = .ok .null :=
  congrArg standalone (Evaluation.callValue_eq_null hk env _ r)

end Expr

end ScalarExpr
