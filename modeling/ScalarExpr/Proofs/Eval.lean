import ScalarExpr.Evaluation.Expr
/-!
Evaluations that draw from no generator. Such an evaluation is a result, the same whatever
generators are in use.
-/
namespace ScalarExpr

set_option autoImplicit true

namespace Eval

@[simp] theorem standalone_lift (r : Except Failure α) : Expr.standalone (lift r) = r := rfl

theorem standalone_map (f : α → β) (m : Eval α) :
    Expr.standalone (f <$> m) = f <$> Expr.standalone m := by
  rw [Expr.standalone, ExceptT.run_map, StateT.run_map]
  rfl

@[simp] theorem run_lift (r : Except Failure α) (g : Generators) :
    (lift r).run.run g = (r, g) := rfl

theorem run_bind_of_ok {m : Eval α} (h : m.run.run g = (.ok a, g')) (k : α → Eval β) :
    (m >>= k).run.run g = (k a).run.run g' := by
  rw [ExceptT.run_bind, StateT.run_bind, h]
  rfl

theorem exists_of_run_bind {m : Eval α} {k : α → Eval β}
    (h : (m >>= k).run.run g = (.ok b, g'')) :
    ∃ a g', m.run.run g = (.ok a, g') ∧ (k a).run.run g' = (.ok b, g'') := by
  rw [ExceptT.run_bind, StateT.run_bind] at h
  cases hr : m.run.run g with
  | mk r g' =>
    rw [hr] at h
    cases r with
    | error f => cases h
    | ok a => exact ⟨a, g', rfl, h⟩

theorem run_map_of_run {m : Eval α} (h : m.run.run g = (r, g')) (f : α → β) :
    (f <$> m).run.run g = (f <$> r, g') := by
  rw [ExceptT.run_map, StateT.run_map, h]
  rfl

theorem run_mapM_of_run {k : α → Eval β} {f : α → Except Failure β}
    (h : ∀ x, (k x).run.run g = (f x, g)) (xs : List α) :
    (xs.mapM k).run.run g = (xs.mapM f, g) := by
  induction xs with
  | nil => rfl
  | cons x xs ih =>
    rw [List.mapM_cons, List.mapM_cons, ExceptT.run_bind, StateT.run_bind, h]
    cases f x with
    | error e => rfl
    | ok y =>
      show (xs.mapM k >>= fun ys => Pure.pure (y :: ys)).run.run g = _
      rw [ExceptT.run_bind, StateT.run_bind, ih]
      cases xs.mapM f <;> rfl

theorem lift_inj {r r' : Except Failure α} : lift r = lift r' ↔ r = r' :=
  ⟨fun h => congrArg Expr.standalone h, fun h => congrArg lift h⟩

theorem pure_inj {a b : α} : (pure a : Eval α) = pure b ↔ a = b :=
  ⟨fun h => Except.ok.inj (congrArg Expr.standalone h), fun h => congrArg pure h⟩

/-- The evaluation is a result and leaves the generators alone. -/
def IsSteady (m : Eval α) : Prop := ∃ r, m = lift r

namespace IsSteady

theorem pure (a : α) : IsSteady (Pure.pure a) := ⟨.ok a, rfl⟩

theorem lift (r : Except Failure α) : IsSteady (lift r) := ⟨r, rfl⟩

theorem bind {m : Eval α} {k : α → Eval β} (hm : IsSteady m) (hk : ∀ a, IsSteady (k a)) :
    IsSteady (m >>= k) := by
  obtain ⟨r, rfl⟩ := hm
  cases r with
  | error f => exact ⟨.error f, rfl⟩
  | ok a => exact hk a

theorem map {m : Eval α} (f : α → β) (hm : IsSteady m) : IsSteady (f <$> m) := by
  obtain ⟨r, rfl⟩ := hm
  cases r with
  | error e => exact ⟨.error e, rfl⟩
  | ok a => exact ⟨.ok (f a), rfl⟩

theorem mapM {k : α → Eval β} (xs : List α) (hk : ∀ x ∈ xs, IsSteady (k x)) :
    IsSteady (xs.mapM k) := by
  induction xs with
  | nil => exact .pure []
  | cons x xs ih =>
    rw [List.mapM_cons]
    apply IsSteady.bind (hk x (by simp))
    intro y
    apply IsSteady.bind (ih fun z hz => hk z (by simp [hz]))
    intro ys
    exact .pure (y :: ys)

theorem eq_lift {m : Eval α} (hm : IsSteady m) : Eval.lift (Expr.standalone m) = m := by
  obtain ⟨r, rfl⟩ := hm
  rfl

end IsSteady

/-- Whatever the evaluation gives has the property. -/
def Returns (p : α → Prop) (m : Eval α) : Prop := ∀ g a g', m.run.run g = (.ok a, g') → p a

namespace Returns

theorem pure {p : α → Prop} (h : p a) : Returns p (Pure.pure a) := by
  intro g a' g' hr
  cases hr
  exact h

theorem error (p : α → Prop) (f : Failure) : Returns p (Eval.lift (.error f)) := by
  intro g a g' h
  cases h

theorem bind_returns {p : α → Prop} {q : β → Prop} {m : Eval α} {k : α → Eval β}
    (hm : Returns p m) (hk : ∀ a, p a → Returns q (k a)) : Returns q (m >>= k) := by
  intro g b g' h
  obtain ⟨a, g₁, ha, hb⟩ := exists_of_run_bind h
  exact hk a (hm g a g₁ ha) g₁ b g' hb

theorem bind {p : β → Prop} {m : Eval α} {k : α → Eval β} (hk : ∀ a, Returns p (k a)) :
    Returns p (m >>= k) :=
  bind_returns (p := fun _ => True) (fun _ _ _ _ => trivial) fun a _ => hk a

theorem standalone {p : α → Prop} {m : Eval α} (h : Returns p m) (ha : Expr.standalone m = .ok a) :
    p a :=
  h {} a _ (Prod.ext ha rfl)

end Returns

end Eval

end ScalarExpr
