import Mathlib.Logic.Relation
import ScalarExpr.Proofs.Evaluation.Congruence
import ScalarExpr.Proofs.Evaluation.Outcome
import ScalarExpr.Proofs.Planning.Edit
/-!
Values bound for columns of enclosing queries. Planning keeps the slots of the columns that it does
not decorrelate, so that a value reaches them in every copy; and the leaf that reads a slot stands
for the literal of the value in it, except in messages.
-/
namespace ScalarExpr

set_option autoImplicit true

/-- The environment after a value is bound. -/
def Env.bind (env : Env) (slot : Nat) (v : Value) : Env :=
  { env with slots := env.slots.set slot v }

theorem Env.slot_bind {env : Env} {slot : Nat} (h : slot < env.slots.length) (v : Value) :
    (env.bind slot v).slot slot = v := by
  rw [Env.slot, bind, List.getD_eq_getElem?_getD, List.getElem?_set_self h, Option.getD_some]

/-! ### Texts with the value in place of a name -/

namespace Value

variable {v : Value}

/-- Texts one of which has the value where the other one has a name. There is no text with the
value if the value has none. -/
inductive Spelled (v : Value) : Except Fault α → Except Fault α → Prop
  | ok (a b : α) : Spelled v (.ok a) (.ok b)
  | fault : Spelled v (.error .integerOverflow) (.error .integerOverflow)
  | unspelled (h : v.render = .error .integerOverflow) (a : α) :
      Spelled v (.ok a) (.error .integerOverflow)

namespace Spelled

theorem name (v : Value) (s : String) : Spelled v (.ok s) v.render := by
  cases h : v.render with
  | ok t => exact .ok s t
  | error f =>
    obtain rfl := render_error h
    exact .unspelled h s

theorem literal (v w : Value) : Spelled v w.render w.render := by
  cases h : w.render with
  | ok t => exact .ok t t
  | error f =>
    obtain rfl := render_error h
    exact .fault

theorem bind {x y : Except Fault α} {k k' : α → Except Fault β} (h : Spelled v x y)
    (hk : ∀ a b, Spelled v (k a) (k' b)) : Spelled v (x >>= k) (y >>= k') := by
  cases h with
  | ok a b => exact hk a b
  | fault => exact .fault
  | unspelled h a =>
    change Spelled v (k a) (.error .integerOverflow)
    have ha := hk a a
    generalize k a = x at ha ⊢
    generalize k' a = y at ha
    cases ha with
    | ok c => exact .unspelled h c
    | fault => exact .fault
    | unspelled _ c => exact .unspelled h c

theorem map {x y : Except Fault α} (f : α → β) (h : Spelled v x y) :
    Spelled v (f <$> x) (f <$> y) :=
  h.bind fun a b => .ok (f a) (f b)

theorem mapM {xs ys : List (Except Fault α)} (h : List.Forall₂ (Spelled v) xs ys) :
    Spelled v (xs.mapM id) (ys.mapM id) := by
  induction h with
  | nil => exact .ok [] []
  | cons hx _ ih =>
    rw [List.mapM_cons, List.mapM_cons]
    exact hx.bind fun _ _ => ih.bind fun _ _ => .ok _ _

end Spelled

end Value

/-- Failures are the same up to the operands that an overflow spells out. If these are to have a
value that has no text, there may be the fault instead that keeps it from having one. -/
def Tolerance.operands (v : Value) : Tolerance where
  texts := v.Spelled
  failures f f' := f.withoutOperands = f'.withoutOperands ∨
    v.render = .error .integerOverflow ∧
      (∃ typeName operands, f = .error (.outOfRange typeName operands)) ∧
      f' = .fault .integerOverflow
  joined h f := (Value.Spelled.mapM h).map f
  outOfRange h typeName := by
    cases h with
    | ok => exact .inl rfl
    | fault => exact .inl rfl
    | unspelled h s => exact .inr ⟨h, ⟨typeName, s, rfl⟩, rfl⟩
  refl _ := .inl rfl

namespace Expr

variable {e e' : Expr} {args args' : List Expr} {env : Env} {slot : Nat} {v : Value}

/-! ### The leaves that read a slot -/

mutual

/-- The tree with the literal of the value in place of each leaf that reads the slot. -/
def supply (slot : Nat) (v : Value) : Expr → Expr
  | outer c i memo => if i = slot then literal v c.type none else outer c i memo
  | call head args _ => call head (supplyAll slot v args) none
  | column c => column c
  | literal w t memo => literal w t memo

def supplyAll (slot : Nat) (v : Value) : List Expr → List Expr
  | [] => []
  | e :: es => e.supply slot v :: supplyAll slot v es

end

theorem supplyAll_eq_map (slot : Nat) (v : Value) (es : List Expr) :
    supplyAll slot v es = es.map (supply slot v) := by
  induction es with
  | nil => rfl
  | cons e es ih => rw [supplyAll, ih, List.map_cons]

theorem supply_agreeOn (hv : env.slot slot = v) (e : Expr) (r : Row) :
    Meaning.AgreeOn (.operands v) r r (e.meaning env) ((e.supply slot v).meaning env) := by
  induction e with
  | column c => exact .leaf (Value.Spelled.ok _ _) rfl
  | literal w t memo => exact .leaf (Value.Spelled.literal v w) rfl
  | outer c i memo =>
    rw [supply]
    split
    case isTrue hi => exact .leaf (Value.Spelled.name v _) (by rw [hi, hv])
    case isFalse => exact .leaf (Value.Spelled.ok _ _) rfl
  | call head args memo ih =>
    rw [supply, supplyAll_eq_map]
    apply agreeOn_call
    rw [List.forall₂_map_right_iff, List.forall₂_same]
    exact ih

theorem supply_agreeOnChunks (hv : env.slot slot = v) (e : Expr) (input : Chunk) :
    Meaning.AgreeOnChunks (.operands v) input input (e.meaning env)
      ((e.supply slot v).meaning env) := by
  induction e with
  | column c => exact .leaf (Value.Spelled.ok _ _) (fun _ => rfl) rfl
  | literal w t memo => exact .leaf (Value.Spelled.literal v w) (fun _ => rfl) rfl
  | outer c i memo =>
    rw [supply]
    split
    case isTrue hi =>
      rw [← hi] at hv
      exact .leaf (Value.Spelled.name v _) (fun _ => by rw [hv]) (by rw [hv])
    case isFalse => exact .leaf (Value.Spelled.ok _ _) (fun _ => rfl) rfl
  | call head args memo ih =>
    rw [supply, supplyAll_eq_map]
    apply agreeOnChunks_call rfl
    rw [List.forall₂_map_right_iff, List.forall₂_same]
    exact ih

/-! ### Planning -/

mutual

/-- The leaves of the column of an enclosing query with the identity, in order, each with the slot
that it reads. -/
def outersOf (id : Int64) : Expr → List (ColumnRef × Nat)
  | outer c slot _ => if c.id = id then [(c, slot)] else []
  | call _ args _ => allOutersOf id args
  | _ => []

def allOutersOf (id : Int64) : List Expr → List (ColumnRef × Nat)
  | [] => []
  | e :: es => e.outersOf id ++ allOutersOf id es

end

theorem allOutersOf_eq_flatten (id : Int64) (es : List Expr) :
    allOutersOf id es = (es.map (outersOf id)).flatten := by
  induction es with
  | nil => rfl
  | cons e es ih => rw [allOutersOf, ih, List.map_cons, List.flatten_cons]

theorem outersOf_call {id : Int64} {head head' : CallHead} {memo memo' : Memo}
    (h : List.Forall₂ (fun x y => x.outersOf id = y.outersOf id) args args') :
    (call head args memo).outersOf id = (call head' args' memo').outersOf id := by
  rw [outersOf, outersOf, allOutersOf_eq_flatten, allOutersOf_eq_flatten, map_eq_iff_forall₂.2 h]

theorem outersOf_of_isConstant (h : e.isConstant) (id : Int64) : e.outersOf id = [] := by
  induction e with
  | column | literal => rfl
  | outer => cases h
  | call head args memo ih =>
    rw [isConstant, Bool.and_eq_true, areConstant_iff] at h
    rw [outersOf, allOutersOf_eq_flatten, List.flatten_eq_nil_iff, List.forall_mem_map]
    exact fun e he => ih e he (h.2 e he)

/-- A step of planning other than the decorrelation of the columns with the identity. -/
inductive Replans (id : Int64) : Expr → Expr → Prop
  | copy (t : Expr) (g : Generators) : Replans id t (t.duplicate.run g).1
  | resolve {t t' : Expr} {s : Schema} {g : Generators}
      (h : (t.duplicate.run g).1.resolve s = ⟨t', none⟩) : Replans id t t'
  | fold {t t' : Expr} (h : t.fold.result = .ok t') : Replans id t t'
  | decorrelate (t : Expr) {s : Schema} (h : s.contains id = false) :
      Replans id t (t.decorrelate s)

section Steps

variable {id : Int64}

theorem outersOf_duplicate (e : Expr) (g : Generators) :
    e.outersOf id = (e.duplicate.run g).1.outersOf id := by
  induction e generalizing g with
  | column | outer | literal => rfl
  | call head args memo ih =>
    obtain ⟨g', hcopy⟩ := exists_duplicate_call head args memo g
    rw [hcopy]
    exact outersOf_call (forall₂_duplicateAll ih g)

theorem outersOf_resolve {s : Schema} (h : e.resolve s = ⟨e', none⟩) :
    e.outersOf id = e'.outersOf id := by
  induction e generalizing e' with
  | column c =>
    rw [resolve] at h
    split at h <;> cases h
    rfl
  | outer | literal =>
    cases h
    rfl
  | call head args memo ih =>
    obtain ⟨args', rfl, hargs⟩ := exists_of_resolve_call h
    have hmem := forall₂_and_mem hargs
    exact outersOf_call (hmem.imp fun x _ hx => ih x hx.1 hx.2)

theorem outersOf_fold (h : e.fold.result = .ok e') : e.outersOf id = e'.outersOf id := by
  induction e generalizing e' with
  | column | outer | literal =>
    cases h
    rfl
  | call head args memo ih =>
    obtain ⟨args', hargs, he'⟩ := fold_cases h
    have hmem := forall₂_and_mem hargs
    have hcall : (call head args memo).outersOf id = (call head args' none).outersOf id :=
      outersOf_call (hmem.imp fun x _ hx => ih x hx.1 hx.2)
    -- What gives way to a literal is constant, and reads no enclosing query.
    obtain rfl | ⟨v, hc, -, -, rfl⟩ := he'
    · exact hcall
    · exact hcall.trans (outersOf_of_isConstant hc id)

theorem outersOf_decorrelate {s : Schema} (h : s.contains id = false) (e : Expr) :
    e.outersOf id = (e.decorrelate s).outersOf id := by
  induction e with
  | column | literal => rfl
  | outer c slot memo =>
    rw [decorrelate]
    split
    case isTrue hc =>
      have hid : c.id ≠ id := fun hid => by rw [hid, h] at hc; cases hc
      exact if_neg hid
    case isFalse => rfl
  | call head args memo ih =>
    rw [decorrelate, decorrelateAll_eq_map]
    apply outersOf_call
    rw [List.forall₂_map_right_iff, List.forall₂_same]
    exact ih

theorem Replans.outersOf_eq (h : Replans id e e') : e.outersOf id = e'.outersOf id := by
  cases h with
  | copy g => exact outersOf_duplicate e g
  | resolve h => exact (outersOf_duplicate e _).trans (outersOf_resolve h)
  | fold h => exact outersOf_fold h
  | decorrelate h => exact outersOf_decorrelate h e

/-- However often a tree is planned anew, the leaves of the column read the slots that they did. -/
theorem outersOf_of_replans (h : Relation.ReflTransGen (Replans id) e e') :
    e.outersOf id = e'.outersOf id := by
  induction h with
  | refl => rfl
  | tail _ hstep ih => exact ih.trans hstep.outersOf_eq

end Steps

/-- A value that is bound reaches every leaf of its column in every tree that planning makes: there
the leaf is as good as the literal of the value, for rows and for chunks, except that a message
names the column and has the value in place of the literal. -/
theorem bind_agree_of_replans {id : Int64} (h : Relation.ReflTransGen (Replans id) e e')
    (hs : slot < env.slots.length) (v : Value) :
    let bound := env.bind slot v
    let supplied := e'.supply slot v
    e.outersOf id = e'.outersOf id ∧
      (∀ r, (Tolerance.operands v).Agree (e'.eval bound r) (supplied.eval bound r)) ∧
      (∀ r k, (Tolerance.operands v).Agree (e'.evalAs bound r k) (supplied.evalAs bound r k)) ∧
      ∀ input b, (Tolerance.operands v).Agree (e'.fillBuffer bound input b)
        (supplied.fillBuffer bound input b) := by
  have hv := env.slot_bind hs v
  exact ⟨outersOf_of_replans h, fun r => (supply_agreeOn hv e' r).value,
    fun r => (supply_agreeOn hv e' r).row,
    fun input => fillBuffer_agree (supply_agreeOnChunks hv e' input)⟩

/-- A difference that overflows, copied and then folded on the other side of the leaf. -/
theorem bind_agree_of_replans_overflow :
    let c : ColumnRef := ⟨1, 0, .bigint, "o.a", none⟩
    let int (n : Int64) := literal (.int n) .bigint none
    let minus := (Builtin.arithmetic .minus (.int false)).toCall
    let e := minus [outer c 0 none, (Builtin.arithmetic .plus (.int false)).toCall [int 1, int 2]]
    let e' := minus [outer c 0 none, int 3]
    let v : Value := .int (-9223372036854775808)
    let env : Env := { slots := [.null] }
    let bound := env.bind 0 v
    Relation.ReflTransGen (Replans 1) e e' ∧ 0 < env.slots.length ∧ e'.outersOf 1 = [(c, 0)] ∧
      (Tolerance.operands v).Agree (e'.eval bound .empty) ((e'.supply 0 v).eval bound .empty) ∧
      e'.value bound .empty = .error (.error (.outOfRange "BIGINT" "(o.a - 3)")) ∧
      (e'.supply 0 v).value bound .empty =
        .error (.error (.outOfRange "BIGINT" "(-9223372036854775808 - 3)")) := by
  intro c int minus e e' v env bound
  have h : Relation.ReflTransGen (Replans 1) e e' :=
    .tail (.tail .refl (.copy e {})) (.fold rfl)
  have hs : 0 < env.slots.length := by decide
  obtain ⟨houters, heval, -⟩ := bind_agree_of_replans h hs v
  exact ⟨h, hs, houters.symm, heval .empty, rfl, rfl⟩

/-- Every number is at most itself, a NaN among them. -/
theorem result_le_self {x : Expr} (hd : x.IsDeterministic)
    (h : x.result env r .real = .ok (some z)) :
    ((Builtin.compare .le .real).toCall [x, x]).result env r .int = .ok (some 1) := by
  have hle : ((Builtin.compare .le .real).toCall [x, x]).IsDeterministic :=
    .of_call ⟨rfl, rfl, rfl⟩ (by simpa using hd)
  have hz : Binary64.compareTotal z z = .eq := Std.ReflOrd.compare_self
  have h : x.result env r CompareSignature.real.kind = .ok (some z) := h
  refine (hle.result_call (o := Operation.comparison .le .real) rfl env r).trans ?_
  simp only [List.map_cons, List.map_nil, h]
  show Except.ok (some (Evaluation.truth (CompareOp.le.holds (Binary64.compareTotal z z)))) = _
  rw [hz]
  rfl

theorem value_overflow {x : Expr} (hd : x.IsDeterministic)
    (h : x.result env r .real = .ok (some z)) :
    let args := [literal (.int 9223372036854775807) .bigint none,
      (Builtin.compare .le .real).toCall [x, x]]
    ((Builtin.arithmetic .plus (.int false)).toCall args).value env r =
      .error (Meaning.outOfRange .bigint "+" (args.map (·.meaning env))) := by
  intro args
  have hle : ((Builtin.compare .le .real).toCall [x, x]).IsDeterministic :=
    .of_call ⟨rfl, rfl, rfl⟩ (by simpa using hd)
  have hs : ((Builtin.arithmetic .plus (.int false)).toCall args).IsDeterministic :=
    .of_call ⟨rfl, rfl, rfl⟩ (List.forall_mem_cons.2 ⟨trivial, List.forall_mem_singleton.2 hle⟩)
  have hr := hs.result_call rfl env r
  simp only [args, List.map_cons, List.map_nil, result_le_self hd h] at hr
  exact (value_call (k := .int) rfl env r).trans (congrArg _ hr)

/-- An overflow beside a decimal with a power of ten that is out of range: with the name of the
column there is a message, with the literal there is none. -/
theorem bind_not_sameOutcome_decimal :
    let c : ColumnRef := ⟨1, 0, .decimal 38 0, "o.a", none⟩
    let le := (Builtin.compare .le .real).toCall [outer c 0 none, outer c 0 none]
    let e := (Builtin.arithmetic .plus (.int false)).toCall
      [literal (.int 9223372036854775807) .bigint none, le]
    let v : Value := .decimal 1 (-39)
    let bound := Env.bind { slots := [.null] } 0 v
    e.value bound .empty =
        .error (.error (.outOfRange "BIGINT" "(9223372036854775807 + le(o.a, o.a))")) ∧
      (e.supply 0 v).value bound .empty = .error (.fault .integerOverflow) ∧
      ¬ SameOutcome (e.value bound .empty) ((e.supply 0 v).value bound .empty) := by
  intro c le e v bound
  have he : e.value bound .empty =
      .error (.error (.outOfRange "BIGINT" "(9223372036854775807 + le(o.a, o.a))")) :=
    (value_overflow (x := outer c 0 none) trivial rfl).trans rfl
  have hs : (e.supply 0 v).value bound .empty = .error (.fault .integerOverflow) :=
    (value_overflow (x := literal v c.type none) trivial rfl).trans rfl
  refine ⟨he, hs, ?_⟩
  rw [he, hs]
  intro h
  cases h with
  | error h => cases h

end Expr

end ScalarExpr
