import ScalarExpr.Proofs.Evaluation.Operation
import ScalarExpr.Proofs.Evaluation.Tolerance
/-!
Results up to the texts of operands. An operation has one outcome on results of one outcome, whatever
meanings its arguments have, if these have texts alike.
-/
namespace ScalarExpr

set_option autoImplicit true

/-- Both succeed, or both fail and in the same way. -/
inductive FailsAlike : Except ε α → Except ε β → Prop
  | ok (a : α) (b : β) : FailsAlike (.ok a) (.ok b)
  | error (e : ε) : FailsAlike (.error e) (.error e)

namespace FailsAlike

theorem refl (x : Except ε α) : FailsAlike x x := by
  cases x with
  | ok a => exact .ok a a
  | error e => exact .error e

theorem bind {x : Except ε α} {y : Except ε β} {k : α → Except ε γ} {k' : β → Except ε δ}
    (h : FailsAlike x y) (hk : ∀ a b, FailsAlike (k a) (k' b)) : FailsAlike (x >>= k) (y >>= k') := by
  cases h with
  | ok a b => exact hk a b
  | error e => exact .error e

theorem mapM {f : α → Except ε γ} {f' : β → Except ε δ} {xs : List α} {ys : List β}
    (h : List.Forall₂ (fun x y => FailsAlike (f x) (f' y)) xs ys) :
    FailsAlike (xs.mapM f) (ys.mapM f') := by
  induction h with
  | nil => exact .ok [] []
  | cons hx _ ih =>
    rw [List.mapM_cons, List.mapM_cons]
    exact hx.bind fun _ _ => ih.bind fun _ _ => .ok _ _

end FailsAlike

/-- The failure without the texts of the operands of an overflow. -/
def Failure.withoutOperands : Failure → Failure
  | .error (.outOfRange typeName _) => .error (.outOfRange typeName "")
  | f => f

/-- Equal results, or failures that differ at most in the texts of operands. -/
inductive SameOutcome : Except Failure α → Except Failure α → Prop
  | ok (a : α) : SameOutcome (.ok a) (.ok a)
  | error (h : f.withoutOperands = f'.withoutOperands) : SameOutcome (.error f) (.error f')

namespace SameOutcome

theorem refl (x : Except Failure α) : SameOutcome x x := by
  cases x with
  | ok a => exact .ok a
  | error f => exact .error rfl

theorem of_eq {x y : Except Failure α} (h : x = y) : SameOutcome x y := h ▸ refl x

theorem bind {x y : Except Failure α} {k k' : α → Except Failure β} (h : SameOutcome x y)
    (hk : ∀ a, x = .ok a → SameOutcome (k a) (k' a)) : SameOutcome (x >>= k) (y >>= k') := by
  cases h with
  | ok a => exact hk a rfl
  | error h => exact .error h

theorem map_congr {x y : Except Failure α} {f f' : α → β} (h : SameOutcome x y)
    (hf : ∀ a, x = .ok a → f a = f' a) : SameOutcome (f <$> x) (f' <$> y) :=
  h.bind fun a ha => .of_eq (congrArg Except.ok (hf a ha))

theorem map {x y : Except Failure α} (f : α → β) (h : SameOutcome x y) :
    SameOutcome (f <$> x) (f <$> y) :=
  h.map_congr fun _ _ => rfl

end SameOutcome

/-- Operands may have different texts. -/
def Tolerance.spelling : Tolerance where
  texts := FailsAlike
  failures f f' := f.withoutOperands = f'.withoutOperands
  joined {xs ys} h _ := by
    have hm : FailsAlike (xs.mapM id) (ys.mapM id) := .mapM h
    exact hm.bind fun _ _ => .ok _ _
  outOfRange h _ := by
    cases h with
    | ok => rfl
    | error => rfl
  refl _ := rfl

theorem SameOutcome.of_results {x y : Except Failure α} (h : Tolerance.spelling.Results x y) :
    SameOutcome x y := by
  cases h with
  | ok a => exact .ok a
  | error h => exact .error h

/-- The meanings have texts, or the same fault prevents both. -/
def Meaning.LabelledAlike (x y : Meaning) : Prop := FailsAlike (x.label ()) (y.label ())

namespace Evaluation

variable {x y x' y' : Meaning} (hl : List.Forall₂ Meaning.LabelledAlike [x, y] [x', y'])

include hl

theorem intResult_sameOutcome (op : ArithOp) (u : Bool) (a b : Int64) :
    SameOutcome (intResult op u x y a b) (intResult op u x' y' a b) :=
  .of_results (intResult_results hl op u a b)

theorem finiteResult_sameOutcome (symbol : String) (z : Binary64) :
    SameOutcome (finiteResult symbol x y z) (finiteResult symbol x' y' z) :=
  .of_results (finiteResult_results hl symbol z)

theorem quotient_sameOutcome (s : Settings) (a b : Binary64) :
    SameOutcome (quotient s x y a b) (quotient s x' y' a b) :=
  .of_results (quotient_results hl s a b)

end Evaluation

namespace Operation

theorem checked_sameOutcome {k : Kind}
    {f : Meaning → Meaning → k.Item → k.Item → Except Failure (Option k.Item)}
    {relabel : ∀ x y x' y' a b, (f x y a b).toOption = (f x' y' a b).toOption}
    {error : ∀ x y a b e, f x y a b = .error e → FailsAtLabels [x, y] e}
    (hf : ∀ {x y x' y'}, List.Forall₂ Meaning.LabelledAlike [x, y] [x', y'] →
      ∀ a b, SameOutcome (f x y a b) (f x' y' a b))
    (hl : List.Forall₂ Meaning.LabelledAlike ms ms') (as : List k.Item) :
    SameOutcome ((checked k f relabel error).apply ms as)
      ((checked k f relabel error).apply ms' as) := by
  rcases hl with _ | ⟨hx, _ | ⟨hy, _ | ⟨hz, ht⟩⟩⟩
  · exact .refl _
  · exact .refl _
  · rcases as with _ | ⟨a, _ | ⟨b, _ | ⟨c, as⟩⟩⟩
    · exact .refl _
    · exact .refl _
    · exact hf (.cons hx (.cons hy .nil)) a b
    · exact .refl _
  · exact .refl _

theorem operands_sameOutcome {xs ys : List (Except Failure (Option α))}
    (h : List.Forall₂ SameOutcome xs ys) (stops : Bool) :
    SameOutcome (operands stops xs) (operands stops ys) := by
  induction h with
  | nil => exact .ok _
  | cons hx _ ih =>
    cases hx with
    | error hf => exact .error hf
    | ok a =>
      cases a with
      | some a => exact ih.map _
      | none =>
        rw [operands, operands]
        split
        · exact .ok none
        · exact ih.map _

/-- Where there are operands, no argument is NULL. -/
theorem forall₂_of_operands {xs : List (Except Failure (Option α))}
    (h : operands stops xs = .ok (some as)) :
    List.Forall₂ (fun x a => x = .ok (some a)) xs as := by
  induction xs generalizing as with
  | nil =>
    cases h
    exact .nil
  | cons x xs ih =>
    rcases x with f | _ | a
    · cases h
    · rw [operands] at h
      split at h
      · cases h
      · obtain ⟨_, -, h⟩ := map_ok_iff.1 h
        cases h
    · obtain ⟨bs, hb, h⟩ := map_ok_iff.1 h
      obtain ⟨as, rfl, rfl⟩ := Option.map_eq_some_iff.1 h
      exact .cons rfl (ih hb)

theorem run_eq (o : Operation) (ms : List Meaning)
    (xs : List (Except Failure (Option o.operand.Item))) :
    o.run ms xs = operands o.stopsAtNull xs >>= (·.elim (.ok none) (o.apply ms)) := by
  apply bind_congr
  intro as
  cases as <;> rfl

theorem sameOutcome_of_apply {xs ys : List (Except Failure (Option α))}
    {apply apply' : List α → Except Failure (Option β)} (hx : List.Forall₂ SameOutcome xs ys)
    (ha : ∀ as, operands stops xs = .ok (some as) → SameOutcome (apply as) (apply' as)) :
    SameOutcome (operands stops xs >>= (·.elim (.ok none) apply))
      (operands stops ys >>= (·.elim (.ok none) apply')) := by
  apply (operands_sameOutcome hx stops).bind
  intro as has
  cases as with
  | none => exact .ok none
  | some as => exact ha as has

end Operation

theorem Builtin.apply_sameOutcome {b : Builtin} {o : Operation} (ho : b.operation? s = some o)
    (hl : List.Forall₂ Meaning.LabelledAlike ms ms') (as : List o.operand.Item) :
    SameOutcome (o.apply ms as) (o.apply ms' as) := by
  cases b with
  | arithmetic op signature =>
    cases signature with
    | int u =>
      cases ho
      exact Operation.checked_sameOutcome (fun hl => Evaluation.intResult_sameOutcome hl op u) hl as
    | real =>
      cases ho
      exact Operation.checked_sameOutcome
        (fun hl _ _ => Evaluation.finiteResult_sameOutcome hl _ _) hl as
  | divide =>
    cases ho
    exact Operation.checked_sameOutcome (fun hl => Evaluation.quotient_sameOutcome hl s) hl as
  | rand | now | unixTimestamp | secToTime | fixed => cases ho
  | _ =>
    cases ho
    exact .refl _

end ScalarExpr
