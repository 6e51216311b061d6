import ScalarExpr.Proofs.Traversal
import ScalarExpr.Proofs.Value.Encoding
/-!
Values one after another. Nothing stands between their codes or counts them, and still the values
are told apart: the joined codes of a list give the list back, up to the signs of zeros.
-/
namespace ScalarExpr

set_option autoImplicit true

namespace Value

variable {vs ws : List Value} {o : Int32}

theorem encode_ne_nil (v : Value) (o : Int32) : v.encode o ≠ [] := by
  cases v <;> exact List.cons_ne_nil _ _

theorem flatMap_encode_eq_nil_iff : vs.flatMap (encode o) = [] ↔ vs = [] := by
  constructor
  · intro h
    cases vs with
    | nil => rfl
    | cons v vs => exact absurd (List.append_eq_nil_iff.1 h).1 (encode_ne_nil v o)
  · rintro rfl
    rfl

theorem flatMap_encode_eq (h : List.Forall₂ (fun v w => v = w ∨ v.AreOppositeZeros w) vs ws)
    (o : Int32) : vs.flatMap (encode o) = ws.flatMap (encode o) := by
  induction h with
  | nil => rfl
  | @cons v w _ _ hvw _ ih =>
    have hcode : v.encode o = w.encode o := by
      rw [← encode_dropZeroSign v, dropZeroSign_eq_iff.2 hvw, encode_dropZeroSign]
    rw [List.flatMap_cons, List.flatMap_cons, hcode, ih]

/-- A list whose joined codes stand in front is the front of the list that all codes are of. -/
theorem exists_of_flatMap_encode_append (hv : ∀ v ∈ vs, v.FitsMemory) (hw : ∀ w ∈ ws, w.FitsMemory)
    (h : vs.flatMap (encode o) ++ s = ws.flatMap (encode o)) :
    ∃ front rest, ws = front ++ rest ∧
      List.Forall₂ (fun v w => v = w ∨ v.AreOppositeZeros w) vs front ∧
        s = rest.flatMap (encode o) := by
  induction vs generalizing ws with
  | nil => exact ⟨[], ws, rfl, .nil, h⟩
  | cons v vs ih =>
    obtain ⟨hv, hvs⟩ := List.forall_mem_cons.1 hv
    rw [List.flatMap_cons, List.append_assoc] at h
    cases ws with
    | nil => exact absurd (List.append_eq_nil_iff.1 h).1 (encode_ne_nil v o)
    | cons w ws =>
      obtain ⟨hw, hws⟩ := List.forall_mem_cons.1 hw
      obtain ⟨hvw, h⟩ := encode_append_inj hv hw h
      obtain ⟨front, rest, rfl, hall, hs⟩ := ih hvs hws h
      exact ⟨w :: front, rest, rfl, .cons (dropZeroSign_eq_iff.1 hvw) hall, hs⟩

/-- Two lists of values have the same joined codes exactly if they are of one length and have the
same values place by place, but for zeros of opposite signs. -/
theorem flatMap_encode_eq_iff (hv : ∀ v ∈ vs, v.FitsMemory) (hw : ∀ w ∈ ws, w.FitsMemory) :
    vs.flatMap (encode o) = ws.flatMap (encode o) ↔
      vs.length = ws.length ∧
        List.Forall₂ (fun v w => v = w ∨ v.AreOppositeZeros w) vs ws := by
  constructor
  · intro h
    rw [← List.append_nil (vs.flatMap _)] at h
    obtain ⟨front, rest, rfl, hall, hrest⟩ := exists_of_flatMap_encode_append hv hw h
    rw [flatMap_encode_eq_nil_iff.1 hrest.symm, List.append_nil]
    exact ⟨hall.length_eq, hall⟩
  · intro h
    exact flatMap_encode_eq h.2 o

/-- One value of each kind, with a zero of either sign; and a text that spells out the codes of two
values. -/
theorem flatMap_encode_eq_iff_kinds :
    let kinds x := [null, text "a", datetime 1, real ⟨x⟩, decimal 10 1, duration 1, int 1, uint 1]
    (kinds 0).flatMap (encode 60) = (kinds 0x8000000000000000).flatMap (encode 60) ∧
      [text "\x08\x02"].flatMap (encode 60) ≠ [text "", int 1].flatMap (encode 60) := by
  intro kinds
  have hzeros : (real ⟨0⟩).AreOppositeZeros (real ⟨0x8000000000000000⟩) :=
    ⟨_, _, rfl, rfl, by decide, by decide, by decide⟩
  refine ⟨(flatMap_encode_eq_iff (by decide) (by decide)).2 ⟨rfl, ?_⟩, fun h => ?_⟩
  · simp [kinds, hzeros]
  · obtain ⟨hlength, -⟩ := (flatMap_encode_eq_iff (by decide) (by decide)).1 h
    cases hlength

end Value

end ScalarExpr
