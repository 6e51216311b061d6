import ScalarExpr.Evaluation.Expr
/-!
Induction over expression trees with the arguments of a call as a list, and properties of all nodes
of a tree.
-/
namespace ScalarExpr.Expr

set_option autoImplicit true

@[elab_as_elim, induction_eliminator]
theorem induct {motive : Expr → Prop} (column : ∀ c, motive (.column c))
    (outer : ∀ c slot memo, motive (.outer c slot memo))
    (literal : ∀ v t memo, motive (.literal v t memo))
    (call : ∀ head args memo, (∀ e ∈ args, motive e) → motive (.call head args memo))
    (e : Expr) : motive e :=
  @Expr.rec motive (fun es => ∀ e ∈ es, motive e) column outer literal call
    (fun _ h => nomatch h)
    (fun _ _ ih ihs e h => (List.mem_cons.1 h).elim (fun he => he ▸ ih) (ihs e)) e

theorem type_call : (call head args memo).type = head.type := rfl

theorem meanings_eq_map (env : Env) (es : List Expr) :
    meanings env es = es.map (meaning env) := by
  induction es with
  | nil => rfl
  | cons e es ih => simp only [meanings, ih, List.map_cons]

theorem areConstant_iff (es : List Expr) : areConstant es ↔ ∀ e ∈ es, e.isConstant := by
  induction es with
  | nil => simp [areConstant]
  | cons e es ih => simp [areConstant, ih]

theorem areVectorized_iff (es : List Expr) : areVectorized es ↔ ∀ e ∈ es, e.isVectorized := by
  induction es with
  | nil => simp [areVectorized]
  | cons e es ih => simp [areVectorized, ih]

mutual

/-- Every node of the tree has the property. -/
def All (p : Expr → Prop) : Expr → Prop
  | call head args memo => p (call head args memo) ∧ AllIn p args
  | column c => p (column c)
  | outer c slot memo => p (outer c slot memo)
  | literal v t memo => p (literal v t memo)

def AllIn (p : Expr → Prop) : List Expr → Prop
  | [] => True
  | e :: es => e.All p ∧ AllIn p es

end

theorem allIn_iff {p : Expr → Prop} (es : List Expr) : AllIn p es ↔ ∀ e ∈ es, e.All p := by
  induction es with
  | nil => simp [AllIn]
  | cons e es ih => simp [AllIn, ih]

theorem all_call {p : Expr → Prop} :
    (call head args memo).All p ↔ p (call head args memo) ∧ ∀ e ∈ args, e.All p := by
  rw [All, allIn_iff]

theorem All.root {p : Expr → Prop} (h : e.All p) : p e := by
  cases e with
  | call head args memo => exact (all_call.1 h).1
  | column => exact h
  | outer => exact h
  | literal => exact h

theorem All.imp {e : Expr} {p q : Expr → Prop} (hpq : ∀ e, p e → q e) (h : e.All p) : e.All q := by
  induction e with
  | column | outer | literal => exact hpq _ h
  | call head args memo ih =>
    obtain ⟨hp, ha⟩ := all_call.1 h
    exact all_call.2 ⟨hpq _ hp, fun e he => ih e he (ha e he)⟩

end ScalarExpr.Expr
