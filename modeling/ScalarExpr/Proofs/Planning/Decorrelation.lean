import ScalarExpr.Proofs.Evaluation.Congruence
import ScalarExpr.Proofs.Expr.Leaves
import ScalarExpr.Proofs.Planning.Commutation
import ScalarExpr.Proofs.Schema
/-!
Decorrelation. A column of an enclosing query and the plain column it turns into have one text and,
where the row holds the value that is bound, one value. Nothing but such columns is replaced, so
that decorrelations come down to what they do to leaves.
-/
namespace ScalarExpr

set_option autoImplicit true

variable {e x : Expr} {s : Schema} {env : Env} {r : Row}

/-- The row has the values that are bound for the columns of enclosing queries in the schema. -/
def Row.HoldsOuters (r : Row) (s : Schema) (env : Env) (e : Expr) : Prop :=
  e.All fun
    | .outer c slot _ => s.contains c.id → r.get c.index c.type = .ok (env.slot slot)
    | _ => True

namespace Expr

theorem decorrelate_agreeOn (h : r.HoldsOuters s env e) :
    Meaning.AgreeOn .exact r r ((e.decorrelate s).meaning env) (e.meaning env) := by
  induction e with
  | column => exact .leaf rfl rfl
  | literal => exact .leaf rfl rfl
  | outer c slot memo =>
    rw [decorrelate]
    split
    case isTrue hc => exact .leaf rfl (h hc)
    case isFalse => exact .leaf rfl rfl
  | call head args memo ih =>
    obtain ⟨-, ha⟩ := all_call.1 h
    rw [decorrelate, decorrelateAll_eq_map]
    apply agreeOn_call
    rw [List.forall₂_map_left_iff, List.forall₂_same]
    exact fun e he => ih e he (ha e he)

/-- Decorrelation keeps values, results of every kind and failures, their messages included. -/
theorem decorrelate_eval_eq (h : r.HoldsOuters s env e) :
    (e.decorrelate s).eval env r = e.eval env r ∧
      ∀ k, (e.decorrelate s).evalAs env r k = e.evalAs env r k := by
  have ha := decorrelate_agreeOn h
  exact ⟨Tolerance.agree_exact_iff.1 ha.value, fun k => Tolerance.agree_exact_iff.1 (ha.row k)⟩

/-- An overflowing sum of two columns of enclosing queries, one of which the schema has. -/
theorem decorrelate_eval_eq_overflow :
    let c : ColumnRef := ⟨1, 1, .bigint, "o.a", none⟩
    let d : ColumnRef := ⟨2, 7, .bigint, "o.b", none⟩
    let sum := (Builtin.arithmetic .plus (.int false)).toCall
    let e := sum [outer c 0 none, outer d 1 none]
    let s : Schema := ⟨[⟨3, 0, .double, "x", none⟩, c]⟩
    let env : Env := { slots := [.int 9223372036854775807, .int 1] }
    let k : Chunk := ⟨[⟨.float64, [none]⟩, ⟨.int64, [some 9223372036854775807]⟩], 1,
      List.forall_mem_cons.2 ⟨rfl, List.forall_mem_singleton.2 rfl⟩⟩
    (k.row 0).HoldsOuters s env e ∧ e.decorrelate s = sum [column c, outer d 1 none] ∧
      (e.decorrelate s).eval env (k.row 0) = e.eval env (k.row 0) ∧
      e.value env (k.row 0) = .error (.error (.outOfRange "BIGINT" "(o.a + o.b)")) := by
  intro c d sum e s env k
  have hread : (k.row 0).get 1 .bigint = .ok (.int 9223372036854775807) := rfl
  have h : (k.row 0).HoldsOuters s env e := ⟨trivial, fun _ => hread, nofun, trivial⟩
  exact ⟨h, rfl, (decorrelate_eval_eq h).1, rfl⟩

/-! ### Which leaves are replaced -/

/-- The leaf, or its plain column if the schema has it. -/
def FreedBy (s : Schema) : Expr → Expr → Prop
  | outer c slot memo, x => c.id ∈ s.ids ∧ x = column c ∨ c.id ∉ s.ids ∧ x = outer c slot memo
  | e, x => x = e

theorem decorrelate_outer (s : Schema) (c : ColumnRef) (slot : Nat) (memo : Memo) :
    (outer c slot memo).decorrelate s =
      if c.id ∈ s.ids then column c else outer c slot memo := by
  simp only [decorrelate, Schema.contains_iff]

theorem IsLeaf.freedBy_iff (h : e.IsLeaf) : FreedBy s e x ↔ e.decorrelate s = x := by
  cases e with
  | call => cases h
  | column | literal => exact eq_comm
  | outer c slot memo =>
    rw [decorrelate_outer, FreedBy]
    split
    case isTrue hc => simp [hc, eq_comm]
    case isFalse hc => simp [hc, eq_comm]

theorem frame_decorrelate (s : Schema) (e : Expr) : (e.decorrelate s).frame = e.frame := by
  induction e with
  | column | literal => rfl
  | outer c slot memo =>
    rw [decorrelate_outer]
    split <;> rfl
  | call head args memo ih =>
    rw [Expr.decorrelate, decorrelateAll_eq_map, frame_call, frame_call, List.map_map]
    congr 1
    exact List.map_congr_left ih

theorem leaves_decorrelate (s : Schema) (e : Expr) :
    (e.decorrelate s).leaves = e.leaves.map (decorrelate s) := by
  induction e with
  | column | literal => rfl
  | outer c slot memo =>
    rw [decorrelate_outer]
    split
    case isTrue hc => simp only [leaves, List.map_singleton, decorrelate_outer, if_pos hc]
    case isFalse hc => simp only [leaves, List.map_singleton, decorrelate_outer, if_neg hc]
  | call head args memo ih =>
    rw [Expr.decorrelate, decorrelateAll_eq_map, leaves_call, leaves_call, List.flatMap_map,
      List.map_flatMap]
    exact List.flatMap_congr ih

theorem freedBy_leaves_iff {xs : List Expr} :
    List.Forall₂ (FreedBy s) e.leaves xs ↔ (e.decorrelate s).leaves = xs := by
  rw [leaves_decorrelate, ← List.forall₂_eq_eq_eq, List.forall₂_map_left_iff]
  constructor
  · intro h
    exact (forall₂_and_mem h).imp fun x _ hx => (isLeaf_of_mem_leaves hx.1).freedBy_iff.1 hx.2
  · intro h
    exact (forall₂_and_mem h).imp fun x _ hx => (isLeaf_of_mem_leaves hx.1).freedBy_iff.2 hx.2

/-- Decorrelation is the one change that replaces these leaves and no more. -/
theorem forget_decorrelate {e' : Expr} (hf : e.frame = e'.frame)
    (hl : List.Forall₂ (FreedBy s) e.leaves e'.leaves) :
    (e.decorrelate s).forget = e'.forget := by
  apply forget_eq_of_leaves
  · rw [frame_decorrelate, hf]
  · rw [freedBy_leaves_iff.1 hl]

theorem areCorrelated_iff (es : List Expr) : areCorrelated es ↔ ∃ e ∈ es, e.isCorrelated := by
  induction es with
  | nil => simp [areCorrelated]
  | cons e es ih => simp [areCorrelated, ih]

theorem isCorrelated_iff : e.isCorrelated ↔ ∃ c slot memo, outer c slot memo ∈ e.leaves := by
  induction e with
  | column | literal => simp [isCorrelated, leaves]
  | outer c slot memo => simp [isCorrelated, leaves]
  | call head args memo ih =>
    rw [isCorrelated, areCorrelated_iff, leaves_call]
    constructor
    · intro h
      obtain ⟨x, hx, hc⟩ := h
      obtain ⟨c, slot, memo, hl⟩ := (ih x hx).1 hc
      exact ⟨c, slot, memo, List.mem_flatMap.2 ⟨x, hx, hl⟩⟩
    · intro h
      obtain ⟨c, slot, memo, hl⟩ := h
      obtain ⟨x, hx, hl⟩ := List.mem_flatMap.1 hl
      exact ⟨x, hx, (ih x hx).2 ⟨c, slot, memo, hl⟩⟩

theorem IsLeaf.decorrelate_eq_outer_iff (h : e.IsLeaf) :
    e.decorrelate s = outer c slot memo ↔ e = outer c slot memo ∧ c.id ∉ s.ids := by
  cases e with
  | call => cases h
  | column | literal => simp [decorrelate]
  | outer c' slot' memo' =>
    rw [decorrelate_outer]
    split
    case isTrue hc =>
      constructor
      · intro h
        cases h
      · intro h
        cases h.1
        exact (h.2 hc).elim
    case isFalse hc =>
      refine ⟨fun he => ⟨he, ?_⟩, And.left⟩
      cases he
      exact hc

theorem isCorrelated_decorrelate_iff : (e.decorrelate s).isCorrelated ↔
    ∃ c slot memo, outer c slot memo ∈ e.leaves ∧ c.id ∉ s.ids := by
  rw [isCorrelated_iff, leaves_decorrelate]
  refine exists_congr fun c => exists_congr fun slot => exists_congr fun memo => ?_
  rw [List.mem_map]
  constructor
  · intro h
    obtain ⟨x, hx, hd⟩ := h
    obtain ⟨rfl, hc⟩ := (isLeaf_of_mem_leaves hx).decorrelate_eq_outer_iff.1 hd
    exact ⟨hx, hc⟩
  · intro h
    exact ⟨_, h.1, (isLeaf_of_mem_leaves h.1).decorrelate_eq_outer_iff.2 ⟨rfl, h.2⟩⟩

/-- Where no log is kept, decorrelation cannot fail. -/
theorem decorrelateTraced_result (s : Schema) (e : Expr) :
    (e.decorrelateTraced s).result = .ok (e.decorrelate s) := by
  have hy := decorrelateTraced_yields (p := fun _ => True) (fun c (_ : c ∈ e.calls) => trivial) s
  obtain ⟨t, log, hr, rfl, -⟩ := hy [] fun _ _ => trivial
  exact congrArg Prod.fst hr

/-! ### One after another -/

section Union

variable {s₁ s₂ : Schema} (h : ∀ id, id ∈ s.ids ↔ id ∈ s₁.ids ∨ id ∈ s₂.ids)

include h

theorem IsLeaf.decorrelate_decorrelate (he : e.IsLeaf) :
    (e.decorrelate s₁).decorrelate s₂ = e.decorrelate s := by
  cases e with
  | call => cases he
  | column | literal => rfl
  | outer c slot memo =>
    simp only [decorrelate_outer, h]
    by_cases h₁ : c.id ∈ s₁.ids
    · simp only [h₁, true_or, if_true, Expr.decorrelate]
    · simp only [h₁, false_or, if_false, decorrelate_outer]

theorem forget_decorrelate_decorrelate (e : Expr) :
    ((e.decorrelate s₁).decorrelate s₂).forget = (e.decorrelate s).forget := by
  apply Eq.symm
  apply forget_decorrelate
  · rw [frame_decorrelate, frame_decorrelate]
  · rw [freedBy_leaves_iff, leaves_decorrelate, leaves_decorrelate, leaves_decorrelate,
      List.map_map]
    apply List.map_congr_left
    intro x hx
    exact ((isLeaf_of_mem_leaves hx).decorrelate_decorrelate h).symm

end Union

/-- Decorrelation replaces the columns of enclosing queries that the schema has, each in its own
place, and nothing else. Decorrelations by two schemas are one by both. -/
theorem decorrelate_exact {s₁ s₂ : Schema} (h : ∀ id, id ∈ s.ids ↔ id ∈ s₁.ids ∨ id ∈ s₂.ids)
    (e : Expr) :
    (e.decorrelateTraced s₁).result = .ok (e.decorrelate s₁) ∧
      (e.decorrelate s₁).frame = e.frame ∧
      List.Forall₂ (FreedBy s₁) e.leaves (e.decorrelate s₁).leaves ∧
      ((e.decorrelate s₁).isCorrelated ↔
        ∃ c slot memo, outer c slot memo ∈ e.leaves ∧ c.id ∉ s₁.ids) ∧
      ((e.decorrelate s₁).decorrelate s₂).forget = (e.decorrelate s).forget ∧
      ((e.decorrelate s₂).decorrelate s₁).forget = (e.decorrelate s).forget ∧
      ((e.decorrelate s₁).decorrelate s₁).forget = (e.decorrelate s₁).forget := by
  have hself (id : Int64) : id ∈ s₁.ids ↔ id ∈ s₁.ids ∨ id ∈ s₁.ids := (or_self_iff).symm
  have hswap (id : Int64) : id ∈ s.ids ↔ id ∈ s₂.ids ∨ id ∈ s₁.ids := (h id).trans or_comm
  exact ⟨decorrelateTraced_result s₁ e, frame_decorrelate s₁ e, freedBy_leaves_iff.2 rfl,
    isCorrelated_decorrelate_iff, forget_decorrelate_decorrelate h e,
    forget_decorrelate_decorrelate hswap e, forget_decorrelate_decorrelate hself e⟩

/-- Three columns of enclosing queries at different depths, each schema with another of them. -/
theorem decorrelate_exact_nested :
    let c (id : Int64) : ColumnRef := ⟨id, 7, .bigint, "o.a", none⟩
    let free (id : Int64) := column (c id)
    let bound (id : Int64) := outer (c id) 0 (some [2])
    let sum (x y : Expr) := (Builtin.arithmetic .plus (.int false)).toCall [x, y]
    let tree (x y z : Expr) := sum (sum x (sum y (literal (.int 1) .bigint none))) (sum z (free 9))
    let e := tree (bound 1) (bound 2) (bound 3)
    let s₁ : Schema := ⟨[c 5, c 2]⟩
    let s₂ : Schema := ⟨[c 1, c 1]⟩
    let s : Schema := ⟨[c 2, c 1, c 5]⟩
    (∀ id, id ∈ s.ids ↔ id ∈ s₁.ids ∨ id ∈ s₂.ids) ∧
      (e.decorrelateTraced s₁).result = .ok (tree (bound 1) (free 2) (bound 3)) ∧
      (e.decorrelate s₁).isCorrelated ∧
      ((e.decorrelate s₁).decorrelate s₂).forget = (tree (free 1) (free 2) (bound 3)).forget ∧
      ((e.decorrelate s₂).decorrelate s₁).forget = (tree (free 1) (free 2) (bound 3)).forget := by
  intro c free bound sum tree e s₁ s₂ s
  have h (id : Int64) : id ∈ s.ids ↔ id ∈ s₁.ids ∨ id ∈ s₂.ids := by
    grind [Schema.ids]
  obtain ⟨hr, -, -, hc, hunion, hswap, -⟩ := decorrelate_exact h e
  have hs : e.decorrelate s = tree (free 1) (free 2) (bound 3) := rfl
  have hthree : outer (c 3) 0 (some [2]) ∈ e.leaves ∧ (c 3).id ∉ s₁.ids :=
    ⟨by simp [e, tree, sum, Builtin.toCall, leaves, allLeaves, bound], by decide⟩
  rw [hs] at hunion hswap
  exact ⟨h, hr, hc.2 ⟨c 3, 0, some [2], hthree⟩, hunion, hswap⟩

end Expr

end ScalarExpr
