import ScalarExpr.Function.Class
import ScalarExpr.Proofs.Eval
import ScalarExpr.Proofs.Traversal
/-!
What a builtin does with the results of its arguments. Every builtin that has a result for rows,
those of the clock and of random numbers apart, asks its arguments for results of one kind, in
order, and applies an operation to them unless one of them is NULL.
-/
namespace ScalarExpr

set_option autoImplicit true

/-- The failure says that an evaluator is missing, or that a value is not of the kind asked for. -/
def Failure.isRefusal : Failure → Bool
  | .error (.unsupported _) | .error (.typeMismatch _ _) => true
  | _ => false

namespace CompareSignature

/-- The kind of results that are compared. -/
def kind : CompareSignature → Kind
  | int _ _ => .int
  | text => .text
  | real => .real

/-- The order of two operands. -/
def order : (s : CompareSignature) → s.kind.Item → s.kind.Item → Ordering
  | int u v, a, b => compare (Evaluation.widen u a) (Evaluation.widen v b)
  | text, a, b => Evaluation.compareTexts a b
  | real, a, b => Binary64.compareTotal a b

end CompareSignature

/-- The failure of an operation on operands is no refusal, and is a fault only if one of them has no
text. -/
def FailsAtLabels (ms : List Meaning) (f : Failure) : Prop :=
  f.isRefusal = false ∧ ∀ c, f = .fault c → ∃ m ∈ ms, m.label () = .error c

structure Operation where
  operand : Kind
  result : Kind
  /-- The arguments behind one that is NULL are not evaluated. -/
  stopsAtNull : Bool
  /-- The result for operands none of which is NULL; the meanings are the arguments. -/
  apply : List Meaning → List operand.Item → Except Failure (Option result.Item)
  apply_relabel : ∀ ms ms' as, ms.length = ms'.length →
    (apply ms as).toOption = (apply ms' as).toOption
  apply_error : ∀ ms as f, apply ms as = .error f → FailsAtLabels ms f

namespace Operation

/-- An operation that has a result for all operands. -/
@[reducible] def total (operand result : Kind) (stopsAtNull : Bool)
    (f : List operand.Item → Option result.Item) : Operation where
  operand := operand
  result := result
  stopsAtNull := stopsAtNull
  apply _ as := .ok (f as)
  apply_relabel _ _ _ _ := rfl
  apply_error _ _ _ h := by cases h

/-- An operation on two operands of its own kind, which may have no result. -/
@[reducible] def checked (k : Kind)
    (f : Meaning → Meaning → k.Item → k.Item → Except Failure (Option k.Item))
    (relabel : ∀ x y x' y' a b, (f x y a b).toOption = (f x' y' a b).toOption)
    (error : ∀ x y a b e, f x y a b = .error e → FailsAtLabels [x, y] e) : Operation where
  operand := k
  result := k
  stopsAtNull := true
  apply
    | [x, y], [a, b] => f x y a b
    | _, _ => .ok none
  apply_relabel ms ms' as h := by
    split
    · obtain ⟨x', y', rfl⟩ := List.length_eq_two.1 h.symm
      exact relabel _ _ _ _ _ _
    · rename_i hne
      split
      · obtain ⟨x, y, rfl⟩ := List.length_eq_two.1 h
        exact (hne _ _ _ _ rfl rfl).elim
      · rfl
  apply_error ms as e h := by
    split at h
    · exact error _ _ _ _ _ h
    · cases h

/-- A comparison looks at both operands, NULL or not. -/
@[reducible] def comparison (op : CompareOp) (signature : CompareSignature) : Operation :=
  total signature.kind .int false fun
    | [a, b] => some (Evaluation.truth (op.holds (signature.order a b)))
    | _ => none

/-- The results of the arguments, in order, unless one is NULL. -/
def operands (stopsAtNull : Bool) :
    List (Except Failure (Option α)) → Except Failure (Option (List α))
  | [] => .ok (some [])
  | .error f :: _ => .error f
  | .ok (some a) :: xs => (operands stopsAtNull xs).map (·.map (a :: ·))
  | .ok none :: xs => if stopsAtNull then .ok none else (operands stopsAtNull xs).map fun _ => none

/-- The result of the operation, from those of its arguments. -/
def run (o : Operation) (ms : List Meaning) (xs : List (Except Failure (Option o.operand.Item))) :
    Except Failure (Option o.result.Item) := do
  match ← operands o.stopsAtNull xs with
  | some as => o.apply ms as
  | none => return none

theorem run_total (f : List k.Item → Option k'.Item) (ms : List Meaning)
    (xs : List (Except Failure (Option k.Item))) :
    (total k k' stops f).run ms xs = (operands stops xs).map (·.bind f) := by
  rw [run]
  rcases operands stops xs with _ | _ | as <;> rfl

end Operation

namespace Evaluation

theorem failsAtLabels_outOfRange (type : SqlType) (symbol : String) (ms : List Meaning) :
    FailsAtLabels ms (Meaning.outOfRange type symbol ms) := by
  unfold Meaning.outOfRange
  cases h : Meaning.infixText symbol ms with
  | ok operands => exact ⟨rfl, fun c hc => by cases hc⟩
  | error c =>
    refine ⟨rfl, ?_⟩
    intro c h
    cases h
    unfold Meaning.infixText at h
    obtain h | ⟨_, _, h⟩ := bind_error_iff.1 h
    · obtain ⟨before, m, after, rfl, -, hm⟩ := mapM_error_iff.1 h
      exact ⟨m, by simp, hm⟩
    · cases h

theorem intResult_relabel (op : ArithOp) (u : Bool) (x y x' y' : Meaning) (a b : Int64) :
    (intResult op u x y a b).toOption = (intResult op u x' y' a b).toOption := by
  unfold intResult
  cases op.onBits u a b <;> rfl

theorem intResult_error (h : intResult op u x y a b = .error f) : FailsAtLabels [x, y] f := by
  unfold intResult at h
  cases hn : op.onBits u a b with
  | some n => rw [hn] at h; cases h
  | none =>
    rw [hn] at h
    cases h
    exact failsAtLabels_outOfRange _ _ _

theorem finiteResult_relabel (symbol : String) (x y x' y' : Meaning) (z : Binary64) :
    (finiteResult symbol x y z).toOption = (finiteResult symbol x' y' z).toOption := by
  unfold finiteResult
  split <;> rfl

theorem finiteResult_error (h : finiteResult symbol x y z = .error f) :
    FailsAtLabels [x, y] f := by
  unfold finiteResult at h
  split at h
  · cases h
    exact failsAtLabels_outOfRange _ _ _
  · cases h

theorem quotient_relabel (s : Settings) (x y x' y' : Meaning) (a b : Binary64) :
    (quotient s x y a b).toOption = (quotient s x' y' a b).toOption := by
  unfold quotient
  split
  · rfl
  · exact finiteResult_relabel _ _ _ _ _ _

theorem quotient_error (h : quotient s x y a b = .error f) : FailsAtLabels [x, y] f := by
  unfold quotient at h
  split at h
  · split at h
    · cases h
      exact ⟨rfl, fun c hc => by cases hc⟩
    · cases h
  · exact finiteResult_error h

end Evaluation

namespace Builtin

open Evaluation Operation

/-- The operation of a builtin, if rows are evaluated by one. -/
def operation? (s : Settings) : Builtin → Option Operation
  | arithmetic op (.int u) =>
    some (checked .int (intResult op u) (intResult_relabel op u) fun _ _ _ _ _ => intResult_error)
  | arithmetic op .real =>
    some (checked .real (realResult op)
      (fun _ _ _ _ _ _ => finiteResult_relabel _ _ _ _ _ _) fun _ _ _ _ _ => finiteResult_error)
  | divide =>
    some (checked .real (quotient s) (quotient_relabel s) fun _ _ _ _ _ => quotient_error)
  | compare op signature => some (comparison op signature)
  | bitNeg => some (total .int .int true fun as => as.head?.map (~~~ ·))
  | concat => some (total .text .text true fun as => some (String.join as))
  | lower => some (total .text .text true fun as => as.head?.map Text.lower)
  | upper => some (total .text .text true fun as => as.head?.map Text.upper)
  | length =>
    some (total .text .int true fun as => as.head?.map fun s => Int64.ofNat s.utf8ByteSize)
  | rand _ | now | unixTimestamp | secToTime | fixed _ _ _ => none

/-- A shipped builtin other than those of the clock and of random numbers. -/
def isDeterministic : Builtin → Bool
  | rand _ | now | unixTimestamp | fixed _ _ _ => false
  | _ => true

/-- The class whose calls hold the builtin. -/
def functionClass : Builtin → FunctionClass
  | arithmetic op _ => .arithmetic op
  | divide => .divide
  | compare op _ => .compare op
  | bitNeg => .bitNeg
  | concat => .concat
  | lower => .lower
  | upper => .upper
  | length => .length
  | rand _ => .rand
  | now => .now
  | unixTimestamp => .unixTimestamp
  | secToTime => .secToTime
  | fixed name type answer => .fixed name type answer

end Builtin

end ScalarExpr
