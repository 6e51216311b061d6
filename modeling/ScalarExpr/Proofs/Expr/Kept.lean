import ScalarExpr.Expr.Key
import ScalarExpr.Proofs.Expr.Induction
import Mathlib.Data.List.Forall2
/-!
The keys that nodes keep. A tree is current if every key that is kept in it is the key that its node
has now; the key that such a tree answers is its own, and answering it leaves the tree current.
-/
namespace ScalarExpr

set_option autoImplicit true

/-- A key that is kept is the given one. -/
def Memo.Holds (memo : Memo) (key : Bytes) : Prop := ∀ k, memo = some k → k = key

namespace Memo.Holds

theorem none : Holds none key := nofun

theorem some (h : k = key) : Holds (some k) key := fun _ hk => (Option.some.inj hk).symm.trans h

theorem of_eq_none (h : memo = Option.none) : Holds memo key := by
  subst h
  exact none

theorem remember (h : Holds memo key) : Expr.remember memo key = key := by
  cases memo with
  | none => rfl
  | some k => exact h k rfl

theorem some_remember (h : Holds memo key) : Holds (Option.some (Expr.remember memo key)) key :=
  some h.remember

end Memo.Holds

namespace Expr

/-- Nothing is kept in the tree. -/
def IsFresh (e : Expr) : Prop :=
  e.All fun
    | column c => c.memo = none
    | outer c _ memo => c.memo = none ∧ memo = none
    | literal _ _ memo => memo = none
    | call _ _ memo => memo = none

/-- Every key that is kept in the tree is the key of its node, for statements with the offset. The
column inside a column of an enclosing query keeps a key too. -/
def IsCurrent (o : Int32) (e : Expr) : Prop :=
  e.All fun
    | column c => Memo.Holds c.memo c.key
    | outer c _ memo => Memo.Holds c.memo c.key ∧ Memo.Holds memo c.outerKey
    | literal v _ memo => Memo.Holds memo (literalKey o v)
    | call head args memo => Memo.Holds memo (head.key (keys o args))

variable {e e' n : Expr} {args : List Expr} {head : CallHead} {memo : Memo} {o : Int32}

theorem isCurrent_call : (call head args memo).IsCurrent o ↔
    Memo.Holds memo (head.key (keys o args)) ∧ ∀ e ∈ args, e.IsCurrent o :=
  all_call

theorem IsFresh.isCurrent (h : e.IsFresh) (o : Int32) : e.IsCurrent o := by
  apply h.imp
  intro e he
  cases e with
  | column c => exact .of_eq_none he
  | outer c slot memo => exact ⟨.of_eq_none he.1, .of_eq_none he.2⟩
  | literal v t memo => exact .of_eq_none he
  | call head args memo => exact .of_eq_none he

theorem forgetAll_eq_map (es : List Expr) : forgetAll es = es.map forget := by
  induction es with
  | nil => rfl
  | cons e es ih => rw [forgetAll, ih, List.map_cons]

theorem forget_isFresh (e : Expr) : e.forget.IsFresh := by
  induction e with
  | column => rfl
  | outer => exact ⟨rfl, rfl⟩
  | literal => rfl
  | call head args memo ih =>
    rw [forget, forgetAll_eq_map]
    refine all_call.2 ⟨rfl, ?_⟩
    intro e he
    obtain ⟨e, ha, rfl⟩ := List.mem_map.1 he
    exact ih e ha

theorem keys_eq_flatMap (o : Int32) (es : List Expr) : keys o es = es.flatMap (key o) := by
  induction es with
  | nil => rfl
  | cons e es ih => rw [keys, ih, List.flatMap_cons]

theorem key_call : (call head args memo).key o = head.key (args.flatMap (key o)) := by
  rw [key, keys_eq_flatMap]

theorem keys_of_forall₂ {es es' : List Expr}
    (h : List.Forall₂ (fun e e' => e.key o = e'.key o) es es') : keys o es = keys o es' := by
  induction h with
  | nil => rfl
  | cons he _ ih => rw [keys, keys, he, ih]

theorem keys_map {f : Expr → Expr} {es : List Expr} (h : ∀ e ∈ es, (f e).key o = e.key o) :
    keys o (es.map f) = keys o es := by
  apply keys_of_forall₂
  rw [List.forall₂_map_left_iff, List.forall₂_same]
  exact h

theorem key_forget (e : Expr) (o : Int32) : e.forget.key o = e.key o := by
  induction e with
  | column | outer | literal => rfl
  | call head args memo ih =>
    rw [forget, forgetAll_eq_map, key, key, keys_map ih]

/-! ### Answering keys -/

theorem hashCodes_eq (o : Int32) (es : List Expr) :
    hashCodes o es =
      (es.flatMap fun e => (e.hashCode o).1, es.map fun e => (e.hashCode o).2) := by
  induction es with
  | nil => rfl
  | cons e es ih => rw [hashCodes, ih, List.flatMap_cons, List.map_cons]

theorem hashCode_call (head : CallHead) (args : List Expr) (o : Int32) :
    (call head args none).hashCode o =
      (head.key (args.flatMap fun e => (e.hashCode o).1),
        call head (args.map fun e => (e.hashCode o).2)
          (some (head.key (args.flatMap fun e => (e.hashCode o).1)))) := by
  rw [hashCode, hashCodes_eq]

/-- A tree that is current answers its own key. -/
theorem IsCurrent.hashCode_eq (h : e.IsCurrent o) : (e.hashCode o).1 = e.key o := by
  induction e with
  | column c => exact h.remember
  | outer c slot memo => exact h.2.remember
  | literal v t memo => exact h.remember
  | call head args memo ih =>
    obtain ⟨hm, ha⟩ := isCurrent_call.1 h
    cases memo with
    | some k => exact hm k rfl
    | none =>
      have hk := List.flatMap_congr fun e he => ih e he (ha e he)
      rw [hashCode_call, key_call, ← hk]

theorem key_hashCode (e : Expr) (o o' : Int32) : (e.hashCode o).2.key o' = e.key o' := by
  induction e with
  | column | outer | literal => rfl
  | call head args memo ih =>
    cases memo with
    | some k => rfl
    | none => rw [hashCode_call, key, key, keys_map ih]

theorem IsCurrent.hashCode (h : e.IsCurrent o) : (e.hashCode o).2.IsCurrent o := by
  induction e with
  | column c => exact Memo.Holds.some_remember h
  | outer c slot memo => exact ⟨h.1, h.2.some_remember⟩
  | literal v t memo => exact Memo.Holds.some_remember h
  | call head args memo ih =>
    cases memo with
    | some k => exact h
    | none =>
      obtain ⟨-, ha⟩ := isCurrent_call.1 h
      have hk := key_hashCode (call head args none) o o
      have hn := h.hashCode_eq
      rw [hashCode_call] at hk hn ⊢
      refine isCurrent_call.2 ⟨?_, ?_⟩
      · exact .some (hn.trans hk.symm)
      · intro e he
        obtain ⟨e, hea, rfl⟩ := List.mem_map.1 he
        exact ih e hea (ha e hea)

theorem IsFresh.hashCode_eq (h : e.IsFresh) (o : Int32) : (e.hashCode o).1 = e.key o :=
  (h.isCurrent o).hashCode_eq

end Expr

end ScalarExpr
