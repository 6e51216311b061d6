import ScalarExpr.Evaluation.Arithmetic
import ScalarExpr.Proofs.Eval
import ScalarExpr.Proofs.Traversal
/-!
Evaluations that agree. They draw the same numbers and give equal results, or both fail, and then a
tolerance says which texts of operands and which failures may stand for each other.
-/
namespace ScalarExpr

set_option autoImplicit true

/-- The failure of an operation that spells its operands out. -/
def Failure.ofOperands (typeName : String) : Except Fault String → Failure
  | .ok operands => .error (.outOfRange typeName operands)
  | .error f => .fault f

/-- The texts of operands and the failures that may stand for each other. Joined texts may if their
parts may, and so may the overflows that spell them out. -/
structure Tolerance where
  texts : Except Fault String → Except Fault String → Prop
  failures : Failure → Failure → Prop
  joined : ∀ {xs ys}, List.Forall₂ texts xs ys → ∀ f : List String → String,
    texts (f <$> xs.mapM id) (f <$> ys.mapM id)
  outOfRange : ∀ {x y}, texts x y → ∀ typeName,
    failures (.ofOperands typeName x) (.ofOperands typeName y)
  refl : ∀ f, failures f f

namespace Tolerance

/-- Nothing differs. -/
def exact : Tolerance where
  texts := Eq
  failures := Eq
  joined h f := by
    rw [List.forall₂_eq_eq_eq] at h
    rw [h]
  outOfRange h typeName := congrArg (Failure.ofOperands typeName) h
  refl _ := rfl

inductive Results (T : Tolerance) : Except Failure α → Except Failure α → Prop
  | ok (a : α) : Results T (.ok a) (.ok a)
  | error (h : T.failures f f') : Results T (.error f) (.error f')

variable {T : Tolerance}

namespace Results

theorem refl (x : Except Failure α) : T.Results x x := by
  cases x with
  | ok a => exact .ok a
  | error f => exact .error (T.refl f)

theorem bind {x y : Except Failure α} {k k' : α → Except Failure β} (h : T.Results x y)
    (hk : ∀ a, T.Results (k a) (k' a)) : T.Results (x >>= k) (y >>= k') := by
  cases h with
  | ok a => exact hk a
  | error h => exact .error h

end Results

/-- From any generators both evaluations leave the same behind. -/
def Agree (T : Tolerance) (m m' : Eval α) : Prop :=
  ∀ g, T.Results (m.run.run g).1 (m'.run.run g).1 ∧ (m.run.run g).2 = (m'.run.run g).2

theorem agree_exact_iff {m m' : Eval α} : exact.Agree m m' ↔ m = m' := by
  constructor
  · intro h
    funext g
    obtain ⟨hr, hg⟩ := h g
    refine Prod.ext ?_ hg
    change (m.run.run g).1 = (m'.run.run g).1
    generalize (m.run.run g).1 = r at hr ⊢
    generalize (m'.run.run g).1 = r' at hr ⊢
    cases hr with
    | ok => rfl
    | error h => exact congrArg Except.error h
  · intro h g
    rw [h]
    exact ⟨.refl _, rfl⟩

namespace Agree

theorem refl (m : Eval α) : T.Agree m m := fun _ => ⟨.refl _, rfl⟩

theorem lift {x y : Except Failure α} (h : T.Results x y) : T.Agree (Eval.lift x) (Eval.lift y) :=
  fun _ => ⟨h, rfl⟩

theorem bind {m m' : Eval α} {k k' : α → Eval β} (h : T.Agree m m')
    (hk : ∀ a, T.Agree (k a) (k' a)) : T.Agree (m >>= k) (m' >>= k') := by
  intro g
  rw [ExceptT.run_bind, StateT.run_bind, ExceptT.run_bind, StateT.run_bind]
  obtain ⟨hr, hg⟩ := h g
  generalize m.run.run g = s at hr hg ⊢
  generalize m'.run.run g = s' at hr hg ⊢
  obtain ⟨r, g₁⟩ := s
  obtain ⟨r', g₁'⟩ := s'
  cases hg
  cases hr with
  | ok a => exact hk a g₁
  | error h => exact ⟨.error h, rfl⟩

theorem map {m m' : Eval α} (f : α → β) (h : T.Agree m m') : T.Agree (f <$> m) (f <$> m') := by
  rw [map_eq_pure_bind, map_eq_pure_bind]
  exact h.bind fun a => .refl (pure (f a))

theorem mapM {k : α → Eval γ} {k' : β → Eval γ} {xs : List α} {ys : List β}
    (h : List.Forall₂ (fun x y => T.Agree (k x) (k' y)) xs ys) :
    T.Agree (xs.mapM k) (ys.mapM k') := by
  induction h with
  | nil => exact .refl _
  | cons hx _ ih =>
    rw [List.mapM_cons, List.mapM_cons]
    exact hx.bind fun _ => ih.bind fun _ => .refl _

end Agree

end Tolerance

/-! ### Operations on operands whose texts differ -/

variable {T : Tolerance}

theorem Meaning.outOfRange_failures {ms ms' : List Meaning}
    (h : List.Forall₂ (fun x y => T.texts (x.label ()) (y.label ())) ms ms') (t : SqlType)
    (symbol : String) : T.failures (outOfRange t symbol ms) (outOfRange t symbol ms') := by
  have hi (ms : List Meaning) : infixText symbol ms =
      (fun texts => "(" ++ (" " ++ symbol ++ " ").intercalate texts ++ ")") <$>
        (ms.map (·.label ())).mapM id := by
    rw [List.mapM_map]
    rfl
  have hl := (List.forall₂_map_right_iff (R := T.texts)).2 (List.forall₂_map_left_iff.2 h)
  unfold outOfRange
  rw [hi, hi]
  exact T.outOfRange (T.joined hl _) _

namespace Evaluation

variable {x x' y y' : Meaning}
  (h : List.Forall₂ (fun x y => T.texts (x.label ()) (y.label ())) [x, y] [x', y'])

include h

theorem intResult_results (op : ArithOp) (u : Bool) (a b : Int64) :
    T.Results (intResult op u x y a b) (intResult op u x' y' a b) := by
  unfold intResult
  cases op.onBits u a b with
  | some n => exact .refl _
  | none => exact .error (Meaning.outOfRange_failures h _ _)

theorem finiteResult_results (symbol : String) (z : Binary64) :
    T.Results (finiteResult symbol x y z) (finiteResult symbol x' y' z) := by
  unfold finiteResult
  split
  · exact .error (Meaning.outOfRange_failures h _ _)
  · exact .refl _

theorem quotient_results (s : Settings) (a b : Binary64) :
    T.Results (quotient s x y a b) (quotient s x' y' a b) := by
  unfold quotient
  split
  · exact .refl _
  · exact finiteResult_results h _ _

end Evaluation

end ScalarExpr
