import ScalarExpr.Proofs.Expr.Kept
/-!
Trees as their leaves, from left to right, and the calls around these. Nothing else is in a tree but
the keys that its calls keep.
-/
namespace ScalarExpr.Expr

set_option autoImplicit true

mutual

/-- The leaves of a tree from left to right. -/
def leaves : Expr → List Expr
  | call _ args _ => allLeaves args
  | column c => [column c]
  | outer c slot memo => [outer c slot memo]
  | literal v t memo => [literal v t memo]

def allLeaves : List Expr → List Expr
  | [] => []
  | e :: es => e.leaves ++ allLeaves es

end

mutual

/-- The calls of a tree with nothing kept, around leaves that are all alike. -/
def frame : Expr → Expr
  | call head args _ => call head (frames args) none
  | column _ => literal .null .unspecified none
  | outer _ _ _ => literal .null .unspecified none
  | literal _ _ _ => literal .null .unspecified none

def frames : List Expr → List Expr
  | [] => []
  | e :: es => e.frame :: frames es

end

def IsLeaf : Expr → Prop
  | call _ _ _ => False
  | _ => True

variable {e e' : Expr} {args args' : List Expr} {head : CallHead} {memo memo' : Memo}

theorem allLeaves_eq_flatMap (es : List Expr) : allLeaves es = es.flatMap leaves := by
  induction es with
  | nil => rfl
  | cons e es ih => rw [allLeaves, ih, List.flatMap_cons]

theorem frames_eq_map (es : List Expr) : frames es = es.map frame := by
  induction es with
  | nil => rfl
  | cons e es ih => rw [frames, ih, List.map_cons]

theorem leaves_call : (call head args memo).leaves = args.flatMap leaves := by
  rw [leaves, allLeaves_eq_flatMap]

theorem frame_call : (call head args memo).frame = call head (args.map frame) none := by
  rw [frame, frames_eq_map]

theorem IsLeaf.leaves_eq (h : e.IsLeaf) : e.leaves = [e] := by
  cases e with
  | call => cases h
  | _ => rfl

theorem IsLeaf.frame_eq (h : e.IsLeaf) : e.frame = literal .null .unspecified none := by
  cases e with
  | call => cases h
  | _ => rfl

theorem isLeaf_of_mem_leaves (h : x ∈ e.leaves) : x.IsLeaf := by
  induction e with
  | column | outer | literal =>
    obtain rfl := List.mem_singleton.1 h
    trivial
  | call head args memo ih =>
    rw [leaves_call, List.mem_flatMap] at h
    obtain ⟨e, he, hx⟩ := h
    exact ih e he hx

/-! ### Leaves and calls make the tree -/

theorem length_leaves_frame (e : Expr) : e.frame.leaves.length = e.leaves.length := by
  induction e with
  | column | outer | literal => rfl
  | call head args memo ih =>
    rw [frame_call, leaves_call, leaves_call, List.flatMap_map, List.length_flatMap,
      List.length_flatMap]
    congr 1
    exact List.map_congr_left ih

theorem isLeaf_of_frame_eq (h : e.frame = e'.frame) (he : e.IsLeaf) : e'.IsLeaf := by
  cases e' with
  | call head args memo =>
    rw [he.frame_eq] at h
    cases h
  | _ => trivial

theorem length_leaves_of_frame (h : e.frame = e'.frame) :
    (e.leaves.map forget).length = (e'.leaves.map forget).length := by
  rw [List.length_map, List.length_map, ← length_leaves_frame, h, length_leaves_frame]

theorem map_forget_eq_of_leaves {es es' : List Expr}
    (h : ∀ e ∈ es, ∀ e' : Expr, e.frame = e'.frame → e.leaves.map forget = e'.leaves.map forget →
      e.forget = e'.forget)
    (hf : es.map frame = es'.map frame)
    (hl : es.flatMap (·.leaves.map forget) = es'.flatMap (·.leaves.map forget)) :
    es.map forget = es'.map forget := by
  induction es generalizing es' with
  | nil =>
    cases es' with
    | nil => rfl
    | cons => cases hf
  | cons e es ih =>
    cases es' with
    | nil => cases hf
    | cons e' es' =>
      obtain ⟨he, hes⟩ := List.cons.inj hf
      -- The frames are equal, so that the leaves of the first trees end at the same place.
      obtain ⟨hl, hls⟩ := List.append_inj hl (length_leaves_of_frame he)
      rw [List.map_cons, List.map_cons, h e (by simp) e' he hl,
        ih (fun x hx => h x (by simp [hx])) hes hls]

theorem IsLeaf.forget_eq (he : e.IsLeaf) (hf : e.frame = e'.frame)
    (hl : e.leaves.map forget = e'.leaves.map forget) : e.forget = e'.forget := by
  rw [he.leaves_eq, (isLeaf_of_frame_eq hf he).leaves_eq] at hl
  exact List.head_eq_of_cons_eq hl

/-- Trees of the same calls around the same leaves differ in nothing but the keys they keep. -/
theorem forget_eq_of_leaves (hf : e.frame = e'.frame)
    (hl : e.leaves.map forget = e'.leaves.map forget) : e.forget = e'.forget := by
  induction e generalizing e' with
  | column | outer | literal => exact IsLeaf.forget_eq trivial hf hl
  | call head args memo ih =>
    cases e' with
    | column | outer | literal => cases hf
    | call head' args' memo' =>
      rw [frame_call, frame_call, call.injEq] at hf
      obtain ⟨rfl, hargs, -⟩ := hf
      rw [leaves_call, leaves_call, List.map_flatMap, List.map_flatMap] at hl
      have ha := map_forget_eq_of_leaves (fun x hx y hf hl => ih x hx hf hl) hargs hl
      rw [forget, forget, forgetAll_eq_map, forgetAll_eq_map, ha]

end ScalarExpr.Expr
