import ScalarExpr.Planning.Decorrelate
import ScalarExpr.Planning.Edit
import ScalarExpr.Planning.Resolve
import ScalarExpr.Proofs.Expr.Kept
import ScalarExpr.Proofs.Planning.Fold
/-!
Changes of trees and the keys that are kept in them. Every step of planning leaves a current tree
current, whether it changes the tree in place, copies it or stops halfway.
-/
namespace ScalarExpr

set_option autoImplicit true

theorem exists_of_mem_modify {f : α → α} {xs : List α} (hy : y ∈ xs.modify i f) :
    y ∈ xs ∨ ∃ x ∈ xs, y = f x := by
  rw [List.mem_iff_getElem?] at hy
  obtain ⟨j, hj⟩ := hy
  rw [List.getElem?_modify, Option.map_eq_map, Option.map_eq_some_iff] at hj
  obtain ⟨x, hx, hy⟩ := hj
  have hm := List.mem_of_getElem? hx
  split at hy
  · exact .inr ⟨x, hm, hy.symm⟩
  · exact .inl (hy ▸ hm)

theorem map_modify_eq {f : α → α} {g : α → β} (h : ∀ x, g (f x) = g x) (xs : List α) (i : Nat) :
    (xs.modify i f).map g = xs.map g := by
  apply List.ext_getElem?
  intro j
  rw [List.getElem?_map, List.getElem?_map, List.getElem?_modify]
  cases xs[j]? with
  | none => rfl
  | some x =>
    simp only [Option.map_eq_map, Option.map_some]
    split
    · rw [h]
    · rfl

namespace Expr

variable {e e' n : Expr} {args : List Expr} {head : CallHead} {memo : Memo} {o : Int32}
  {path : List Nat} {f : Expr → Expr}

theorem All.at? {p : Expr → Prop} (h : e.All p) (hn : e.at? path = some n) : n.All p := by
  induction path generalizing e with
  | nil =>
    rw [Expr.at?] at hn
    cases hn
    exact h
  | cons i path ih =>
    cases e with
    | column | outer | literal => cases hn
    | call head args memo =>
      rw [Expr.at?, Option.bind_eq_some_iff] at hn
      obtain ⟨e, he, hn⟩ := hn
      exact ih ((all_call.1 h).2 e (List.mem_of_getElem? he)) hn

theorem decorrelateAll_eq_map (s : Schema) (es : List Expr) :
    decorrelateAll s es = es.map (decorrelate s) := by
  induction es with
  | nil => rfl
  | cons e es ih => rw [decorrelateAll, ih, List.map_cons]

/-- The arguments up to the first column that is missing are resolved, the later ones are as
before. -/
theorem forall_mem_resolveAll {p : Expr → Prop} {es : List Expr}
    (hr : ∀ e ∈ es, p (e.resolve s).result) (h : ∀ e ∈ es, p e) :
    ∀ e ∈ (resolveAll s es).result, p e := by
  induction es with
  | nil => exact h
  | cons e es ih =>
    have he := hr e (by simp)
    have hes := ih (fun x hx => hr x (by simp [hx])) fun x hx => h x (by simp [hx])
    rw [resolveAll]
    split
    case h_1 e' c hc =>
      rw [hc] at he
      exact List.forall_mem_cons.2 ⟨he, fun x hx => h x (by simp [hx])⟩
    case h_2 e' hc =>
      rw [hc] at he
      exact List.forall_mem_cons.2 ⟨he, hes⟩

theorem forall₂_of_resolveAll {es es' : List Expr} (h : resolveAll s es = ⟨es', none⟩) :
    List.Forall₂ (fun e e' => e.resolve s = ⟨e', none⟩) es es' := by
  induction es generalizing es' with
  | nil =>
    cases h
    exact .nil
  | cons e es ih =>
    rw [resolveAll] at h
    split at h
    case h_1 => cases h
    case h_2 e' he =>
      cases hr : resolveAll s es with
      | mk rest missing =>
        rw [hr] at h
        cases h
        exact .cons he (ih hr)

theorem exists_of_resolve_call (h : (call head args memo).resolve s = ⟨e', none⟩) :
    ∃ args', e' = call head args' none ∧
      List.Forall₂ (fun e e' => e.resolve s = ⟨e', none⟩) args args' := by
  rw [Expr.resolve] at h
  cases hr : resolveAll s args with
  | mk args' missing =>
    rw [hr] at h
    cases h
    exact ⟨args', rfl, forall₂_of_resolveAll hr⟩

/-- The arguments are copied one after another, with the generators that the copies before take. -/
theorem forall₂_duplicateAll {R : Expr → Expr → Prop} {es : List Expr}
    (h : ∀ e ∈ es, ∀ g, R e (e.duplicate.run g).1) (g : Generators) :
    List.Forall₂ R es ((duplicateAll es).run g).1 := by
  induction es generalizing g with
  | nil => exact .nil
  | cons e es ih => exact .cons (h e (by simp) g) (ih (fun x hx => h x (by simp [hx])) _)

/-- A call keeps its key in the copy, and a generator of its own goes on in a new one. -/
theorem exists_duplicate_call (head : CallHead) (args : List Expr) (memo : Memo) (g : Generators) :
    ∃ g', ((call head args memo).duplicate.run g).1 =
      call { head with builtin := (head.builtin.duplicate.run g').1 }
        ((duplicateAll args).run g).1 memo :=
  ⟨_, rfl⟩

theorem key_visitAt (hf : ∀ n, (f n).key o = n.key o) (path : List Nat) (e : Expr) :
    (e.visitAt f path).key o = e.key o := by
  induction path generalizing e with
  | nil => rw [visitAt, hf]
  | cons i path ih =>
    cases e with
    | column | outer | literal => rfl
    | call head args memo =>
      rw [visitAt, key_call, key_call, List.flatMap_def, List.flatMap_def, map_modify_eq ih]

namespace IsCurrent

/-! ### Changes in place -/

/-- The calls above the change have forgotten their keys. -/
theorem editAt (h : e.IsCurrent o) (hf : ∀ n, n.IsCurrent o → (f n).IsCurrent o) (path : List Nat) :
    (e.editAt f path).IsCurrent o := by
  induction path generalizing e with
  | nil =>
    rw [Expr.editAt]
    exact hf e h
  | cons i path ih =>
    cases e with
    | column | outer | literal => exact h
    | call head args memo =>
      obtain ⟨-, ha⟩ := isCurrent_call.1 h
      refine isCurrent_call.2 ⟨.none, ?_⟩
      intro e he
      obtain he | ⟨x, hx, rfl⟩ := exists_of_mem_modify he
      · exact ha e he
      · exact ih (ha x hx)

theorem setValue? (h : e.IsCurrent o) (hs : e.setValue? v = some e') : e'.IsCurrent o := by
  cases e with
  | literal v t memo =>
    cases hs
    exact .none
  | _ => cases hs

theorem setType? (h : e.IsCurrent o) (hs : e.setType? t = some e') : e'.IsCurrent o := by
  cases e with
  | column c =>
    cases hs
    exact h
  | outer c slot memo =>
    cases hs
    exact ⟨h.1, .none⟩
  | literal v t memo =>
    cases hs
    exact h
  | call => cases hs

theorem setIndex? (h : e.IsCurrent o) (hs : e.setIndex? i = some e') : e'.IsCurrent o := by
  cases e with
  | column c =>
    cases hs
    exact h
  | outer c slot memo =>
    cases hs
    exact ⟨h.1, .none⟩
  | _ => cases hs

theorem setId? {id : Int64} (hs : e.setId? id = some e') : e'.IsCurrent o := by
  cases e with
  | column c =>
    cases hs
    exact .none
  | outer c slot memo =>
    cases hs
    exact ⟨.none, .none⟩
  | _ => cases hs

theorem touch? (h : e.IsCurrent o) (hs : e.touch? = some e') : e'.IsCurrent o := by
  cases e with
  | call head args memo =>
    cases hs
    exact isCurrent_call.2 ⟨.none, (isCurrent_call.1 h).2⟩
  | _ => cases hs

theorem decorrelate (h : e.IsCurrent o) (s : Schema) : (e.decorrelate s).IsCurrent o := by
  induction e with
  | column | literal => exact h
  | outer c slot memo =>
    rw [Expr.decorrelate]
    split
    · exact h.1
    · exact h
  | call head args memo ih =>
    obtain ⟨-, ha⟩ := isCurrent_call.1 h
    rw [Expr.decorrelate, decorrelateAll_eq_map]
    refine isCurrent_call.2 ⟨.none, ?_⟩
    intro e he
    obtain ⟨x, hx, rfl⟩ := List.mem_map.1 he
    exact ih x hx (ha x hx)

/-! ### Keys that are answered -/

/-- The calls above the node go on keeping their keys, which the visit does not change. -/
theorem visitAt (h : e.IsCurrent o) (hf : ∀ n, n.IsCurrent o → (f n).IsCurrent o)
    (hk : ∀ n, (f n).key o = n.key o) (path : List Nat) : (e.visitAt f path).IsCurrent o := by
  induction path generalizing e with
  | nil =>
    rw [Expr.visitAt]
    exact hf e h
  | cons i path ih =>
    cases e with
    | column | outer | literal => exact h
    | call head args memo =>
      obtain ⟨hm, ha⟩ := isCurrent_call.1 h
      have hkey := key_visitAt hk (i :: path) (call head args memo)
      refine isCurrent_call.2 ⟨?_, ?_⟩
      · intro k hmk
        exact (hm k hmk).trans hkey.symm
      · intro e he
        obtain he | ⟨x, hx, rfl⟩ := exists_of_mem_modify he
        · exact ha e he
        · exact ih (ha x hx)

/-! ### Copies -/

/-- A copy keeps the keys that the original keeps, and they are its own. -/
theorem duplicate (h : e.IsCurrent o) (g : Generators) :
    (e.duplicate.run g).1.IsCurrent o ∧ (e.duplicate.run g).1.key o = e.key o := by
  induction e generalizing g with
  | column | outer | literal => exact ⟨h, rfl⟩
  | call head args memo ih =>
    obtain ⟨hm, ha⟩ := isCurrent_call.1 h
    obtain ⟨b, hb⟩ := exists_duplicate_call head args memo g
    have hargs := forall₂_duplicateAll (R := fun e e' => e'.IsCurrent o ∧ e'.key o = e.key o)
      (fun e he => ih e he (ha e he)) g
    have hkeys := keys_of_forall₂ (hargs.imp fun _ _ hx => hx.2.symm)
    rw [hb]
    refine ⟨isCurrent_call.2 ⟨?_, ?_⟩, ?_⟩
    · rw [← hkeys]
      exact hm
    · intro x hx
      obtain ⟨e, -, he, -⟩ := exists_left_of_forall₂ hargs hx
      exact he
    · rw [key, key, hkeys]
      rfl

theorem resolve (h : e.IsCurrent o) (s : Schema) : (e.resolve s).result.IsCurrent o := by
  induction e with
  | column c =>
    rw [Expr.resolve]
    split <;> exact h
  | outer | literal => exact h
  | call head args memo ih =>
    obtain ⟨-, ha⟩ := isCurrent_call.1 h
    rw [Expr.resolve]
    exact isCurrent_call.2 ⟨.none, forall_mem_resolveAll (fun e he => ih e he (ha e he)) ha⟩

theorem fold (h : e.IsCurrent o) (hf : e.fold.result = .ok e') : e'.IsCurrent o := by
  apply all_fold ?_ ?_ h hf
  · intro _ _
    exact .none
  · intro _ _ _ _ _ _
    exact .none

end IsCurrent

end Expr

end ScalarExpr
