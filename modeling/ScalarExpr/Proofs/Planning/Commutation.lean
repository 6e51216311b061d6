import ScalarExpr.Proofs.Function.Native
import ScalarExpr.Proofs.Planning.Edit
/-!
Folding and the rewriting of columns. What is folded has no columns, and only columns are rewritten,
so that it does not matter which of the two is done first; nor does folding take away a column that
resolution misses.
-/
namespace ScalarExpr

set_option autoImplicit true

namespace Expr

variable {e e' : Expr} {args args' : List Expr} {head : CallHead} {memo memo' : Memo} {s : Schema}

/-! ### Settling a call -/

theorem settle_result (head : CallHead) (args : List Expr) :
    (settle head args).result =
      if (call head args none).isConstant && head.type.category.isFolded then
        match (call head args none).constantValue with
        | .ok v => .ok (literal v head.type none)
        | .error (.error _) => .ok (call head args none)
        | .error (.fault f) => .error f
      else .ok (call head args none) := by
  unfold settle
  dsimp only
  split
  · cases (call head args none).constantValue with
    | ok v => rfl
    | error f => cases f <;> rfl
  · rfl

/-- Calls of one type are settled alike if they are alike as constants. -/
theorem settle_congr {head' : CallHead} (ht : head.type = head'.type)
    (hc : (call head args none).isConstant = (call head' args' none).isConstant)
    (hv : (call head args none).isConstant →
      (call head args none).constantValue = (call head' args' none).constantValue)
    (h : (settle head args).result = .ok e) :
    (e = call head args none ∧ (settle head' args').result = .ok (call head' args' none)) ∨
      ∃ v, e = literal v head.type none ∧ (call head args none).isConstant ∧
        (settle head' args').result = .ok (literal v head.type none) := by
  rw [settle_result] at h
  rw [settle_result, ← hc, ← ht]
  split at h
  case isTrue hif =>
    have hconst := (Bool.and_eq_true_iff.1 hif).1
    rw [if_pos hif, ← hv hconst]
    split at h
    · cases h
      exact .inr ⟨_, rfl, hconst, rfl⟩
    · cases h
      exact .inl ⟨rfl, rfl⟩
    · cases h
  case isFalse hif =>
    cases h
    rw [if_neg hif]
    exact .inl ⟨rfl, rfl⟩

theorem isConstant_call_congr {head' : CallHead} (hn : head.name = head'.name)
    (h : List.Forall₂ (fun x y => x.isConstant = y.isConstant) args args') :
    (call head args memo).isConstant = (call head' args' memo').isConstant := by
  have ha : areConstant args = areConstant args' := by
    induction h with
    | nil => rfl
    | cons hx _ ih => rw [areConstant, areConstant, hx, ih]
  rw [isConstant, isConstant, hn, ha]

/-- Calls whose arguments mean the same mean the same, whatever keys they have kept. -/
theorem meaning_call_congr {env : Env}
    (h : List.Forall₂ (fun x y => x.meaning env = y.meaning env) args args') :
    (call head args memo).meaning env = (call head args' memo').meaning env := by
  have hl (args : List Expr) : renderAll args = (args.map (meaning env)).mapM (·.label ()) := by
    rw [renderAll_eq_mapM, List.mapM_map]
    congr 1
    funext e
    exact (meaning_label e env).symm
  have hr : (call head args memo).render = (call head args' memo').render := by
    rw [render, render, hl, hl, map_eq_iff_forall₂.2 h]
  rw [meaning, meaning, meanings_eq_map, meanings_eq_map, map_eq_iff_forall₂.2 h, hr]

theorem constantValue_congr (h : e.meaning {} = e'.meaning {}) :
    e.constantValue = e'.constantValue := by
  rw [constantValue, constantValue, eval, eval, h]

/-! ### Rewriting of columns -/

/-- A column, of an enclosing query or not. -/
def IsColumn : Expr → Prop
  | column _ | outer _ _ _ => True
  | _ => False

theorem IsColumn.not_isConstant (h : e.IsColumn) : e.isConstant = false := by
  cases e with
  | column | outer => rfl
  | literal | call => cases h

theorem IsColumn.fold_result (h : e.IsColumn) : e.fold.result = .ok e := by
  cases e with
  | column | outer => rfl
  | literal | call => cases h

/-- A step of planning that rewrites the columns of a tree and nothing else. -/
structure RewritesColumns (R : Expr → Expr → Prop) : Prop where
  column : ∀ {c e'}, R (column c) e' → e'.IsColumn
  outer : ∀ {c slot memo e'}, R (outer c slot memo) e' → e'.IsColumn
  literal : ∀ {v t memo e'}, R (literal v t memo) e' ↔ e' = literal v t memo
  call : ∀ {head args memo e'}, R (call head args memo) e' ↔
    ∃ args', e' = call head args' none ∧ List.Forall₂ R args args'

theorem rewritesColumns_decorrelate (s : Schema) :
    RewritesColumns fun e e' => e.decorrelate s = e' where
  column h := by
    cases h
    trivial
  outer h := by
    rw [decorrelate] at h
    split at h <;> (cases h; trivial)
  literal := eq_comm
  call := by
    intro head args memo e'
    have hmap (args' : List Expr) : List.Forall₂ (fun e e' => e.decorrelate s = e') args args' ↔
        args.map (decorrelate s) = args' := by
      rw [← List.forall₂_eq_eq_eq, List.forall₂_map_left_iff]
    rw [decorrelate, decorrelateAll_eq_map]
    simp only [hmap]
    constructor
    · intro h
      exact ⟨_, h.symm, rfl⟩
    · intro h
      obtain ⟨args', rfl, rfl⟩ := h
      rfl

theorem resolveAll_of_forall₂ {es es' : List Expr}
    (h : List.Forall₂ (fun e e' => e.resolve s = ⟨e', none⟩) es es') :
    resolveAll s es = ⟨es', none⟩ := by
  induction h with
  | nil => rfl
  | cons he _ ih =>
    rw [resolveAll, he]
    dsimp only
    rw [ih]
    rfl

theorem rewritesColumns_resolve (s : Schema) :
    RewritesColumns fun e e' => e.resolve s = ⟨e', none⟩ where
  column h := by
    rw [resolve] at h
    split at h <;> cases h
    trivial
  outer h := by
    cases h
    trivial
  literal := by
    intro v t memo e'
    rw [resolve, Resolution.mk.injEq, and_iff_left rfl, eq_comm]
  call := by
    intro head args memo e'
    constructor
    · exact exists_of_resolve_call
    · intro h
      obtain ⟨args', rfl, h⟩ := h
      rw [resolve, resolveAll_of_forall₂ h]
      rfl

namespace RewritesColumns

variable {R : Expr → Expr → Prop} (hR : RewritesColumns R)

include hR

theorem isConstant_eq (h : R e e') : e.isConstant = e'.isConstant := by
  induction e generalizing e' with
  | column => exact (hR.column h).not_isConstant.symm
  | outer => exact (hR.outer h).not_isConstant.symm
  | literal =>
    obtain rfl := hR.literal.1 h
    rfl
  | call head args memo ih =>
    obtain ⟨args', rfl, ha⟩ := hR.call.1 h
    have hmem := forall₂_and_mem ha
    exact isConstant_call_congr rfl (hmem.imp fun x _ hx => ih x hx.1 hx.2)

/-- A constant tree has no columns. -/
theorem meaning_eq (h : R e e') (hc : e.isConstant) (env : Env) :
    e.meaning env = e'.meaning env := by
  induction e generalizing e' with
  | column | outer => cases hc
  | literal =>
    obtain rfl := hR.literal.1 h
    rfl
  | call head args memo ih =>
    obtain ⟨args', rfl, ha⟩ := hR.call.1 h
    have hmem := forall₂_and_mem ha
    have hc := (isConstant_call.1 hc).2
    exact meaning_call_congr (hmem.imp fun x _ hx => ih x hx.1 hx.2 (hc x hx.1))

/-- What is folded and then rewritten is also what is rewritten and then folded. -/
theorem fold_result {f : Expr} (h : R e e') (hf : e.fold.result = .ok f) :
    ∃ f', R f f' ∧ e'.fold.result = .ok f' := by
  induction e generalizing e' f with
  | column =>
    cases hf
    exact ⟨e', h, (hR.column h).fold_result⟩
  | outer =>
    cases hf
    exact ⟨e', h, (hR.outer h).fold_result⟩
  | literal =>
    obtain rfl := hR.literal.1 h
    cases hf
    exact ⟨_, h, rfl⟩
  | call head args memo ih =>
    obtain ⟨args', rfl, ha⟩ := hR.call.1 h
    rw [fold_call_result] at hf
    obtain ⟨fargs, hfa, hf⟩ := bind_ok_iff.1 hf
    have hargs : ∃ fargs', List.Forall₂ R fargs fargs' ∧
        List.Forall₂ (fun e f => e.fold.result = .ok f) args' fargs' :=
      exists_forall₂_of_squares (fun x hx _ _ hf hr => ih x hx hr hf) (mapM_ok_iff.1 hfa) ha
    obtain ⟨fargs', hr, hfa'⟩ := hargs
    have hcall : R (Expr.call head fargs none) (Expr.call head fargs' none) :=
      hR.call.2 ⟨fargs', rfl, hr⟩
    have hs := settle_congr rfl (hR.isConstant_eq hcall)
      (fun hc => constantValue_congr (hR.meaning_eq hcall hc {})) hf
    rw [fold_call_result, mapM_ok_iff.2 hfa']
    obtain ⟨rfl, hs⟩ | ⟨v, rfl, -, hs⟩ := hs
    · exact ⟨_, hcall, hs⟩
    · exact ⟨_, hR.literal.2 rfl, hs⟩

theorem all {p : Expr → Prop} (hcolumn : ∀ x, x.IsColumn → p x)
    (hcall : ∀ head args args' memo, args.length = args'.length → p (.call head args memo) →
      p (.call head args' none)) (h : R e e') (he : e.All p) : e'.All p := by
  have hleaf (x : Expr) (hx : x.IsColumn) : x.All p := by
    have hp := hcolumn x hx
    cases x with
    | column | outer => exact hp
    | literal | call => cases hx
  induction e generalizing e' with
  | column => exact hleaf _ (hR.column h)
  | outer => exact hleaf _ (hR.outer h)
  | literal =>
    obtain rfl := hR.literal.1 h
    exact he
  | call head args memo ih =>
    obtain ⟨args', rfl, ha⟩ := hR.call.1 h
    obtain ⟨hp, hargs⟩ := all_call.1 he
    refine all_call.2 ⟨hcall head args args' memo ha.length_eq hp, fun x' hx' => ?_⟩
    obtain ⟨x, hx, hr⟩ := exists_left_of_forall₂ ha hx'
    exact ih x hx hr (hargs x hx)

theorem isNative (h : R e e') (hn : e.IsNative) : e'.IsNative := by
  apply hR.all ?_ ?_ h hn
  · intro x hx
    cases x with
    | column | outer | literal => trivial
    | call => cases hx
  · intro head args args' memo hl hp
    show head.IsNative args'.length
    exact hl ▸ hp

theorem hasTexts (h : R e e') (ht : e.HasTexts) : e'.HasTexts := by
  apply hR.all ?_ ?_ h ht
  · intro x hx
    cases x with
    | column | outer | call => trivial
    | literal => cases hx
  · intro _ _ _ _ _ _
    trivial

end RewritesColumns

/-! ### Missing columns -/

mutual

/-- The columns of a tree in the order in which they are resolved. -/
def columns : Expr → List ColumnRef
  | column c => [c]
  | call _ args _ => allColumns args
  | _ => []

def allColumns : List Expr → List ColumnRef
  | [] => []
  | e :: es => e.columns ++ allColumns es

end

theorem allColumns_eq_flatten (es : List Expr) : allColumns es = (es.map columns).flatten := by
  induction es with
  | nil => rfl
  | cons e es ih => rw [allColumns, ih, List.map_cons, List.flatten_cons]

theorem columns_call {head' : CallHead}
    (h : List.Forall₂ (fun x y => x.columns = y.columns) args args') :
    (call head args memo).columns = (call head' args' memo').columns := by
  rw [columns, columns, allColumns_eq_flatten, allColumns_eq_flatten, map_eq_iff_forall₂.2 h]

theorem columns_of_isConstant (h : e.isConstant) : e.columns = [] := by
  induction e with
  | literal => rfl
  | column | outer => cases h
  | call head args memo ih =>
    rw [columns, allColumns_eq_flatten, List.flatten_eq_nil_iff, List.forall_mem_map]
    exact fun e he => ih e he ((isConstant_call.1 h).2 e he)

theorem columns_fold (h : e.fold.result = .ok e') : e.columns = e'.columns := by
  induction e generalizing e' with
  | column | outer | literal =>
    cases h
    rfl
  | call head args memo ih =>
    obtain ⟨args', hargs, he'⟩ := fold_cases h
    have hmem := forall₂_and_mem hargs
    have hcall : (call head args memo).columns = (call head args' none).columns :=
      columns_call (hmem.imp fun x _ hx => ih x hx.1 hx.2)
    obtain rfl | ⟨v, hc, -, -, rfl⟩ := he'
    · exact hcall
    · exact hcall.trans (columns_of_isConstant hc)

theorem columns_duplicate (e : Expr) (g : Generators) :
    e.columns = (e.duplicate.run g).1.columns := by
  induction e generalizing g with
  | column | outer | literal => rfl
  | call head args memo ih =>
    obtain ⟨g', hcopy⟩ := exists_duplicate_call head args memo g
    rw [hcopy]
    exact columns_call (forall₂_duplicateAll ih g)

/-- Resolution ends at the first column that the schema lacks. -/
theorem resolve_missing (s : Schema) (e : Expr) :
    (e.resolve s).missing = e.columns.find? fun c => !s.contains c.id := by
  induction e with
  | column c =>
    rw [resolve, columns, List.find?_singleton, Schema.contains]
    cases s.index? c.id <;> rfl
  | outer | literal => rfl
  | call head args memo ih =>
    rw [resolve, columns]
    show (resolveAll s args).missing = _
    induction args with
    | nil => rfl
    | cons e es ihs =>
      have he := ih e (by simp)
      rw [resolveAll, allColumns, List.find?_append, ← he,
        ← ihs fun x hx => ih x (by simp [hx])]
      split
      case h_1 h => rw [h]; rfl
      case h_2 h => rw [h]; rfl

/-! ### Copies -/

theorem isConstant_duplicate (e : Expr) (g : Generators) :
    e.isConstant = (e.duplicate.run g).1.isConstant := by
  induction e generalizing g with
  | column | outer | literal => rfl
  | call head args memo ih =>
    obtain ⟨g', hcopy⟩ := exists_duplicate_call head args memo g
    rw [hcopy]
    exact isConstant_call_congr rfl (forall₂_duplicateAll ih g)

theorem duplicateAll_eq_self {es : List Expr} (h : ∀ e ∈ es, ∀ g, e.duplicate.run g = (e, g))
    (g : Generators) : (duplicateAll es).run g = (es, g) := by
  induction es with
  | nil => rfl
  | cons e es ih =>
    rw [duplicateAll, StateT.run_bind, h e (by simp) g]
    show StateT.run (duplicateAll es >>= fun es => pure (e :: es)) g = _
    rw [StateT.run_bind, ih fun x hx => h x (by simp [hx])]
    rfl

theorem duplicate_call (head : CallHead) (args : List Expr) (memo : Memo) (g : Generators) :
    (call head args memo).duplicate.run g =
      let copies := (duplicateAll args).run g
      let builtin := head.builtin.duplicate.run copies.2
      (call { head with builtin := builtin.1 } copies.1 memo, builtin.2) :=
  rfl

theorem Builtin.duplicate_of_isDeterministic {b : Builtin} (hb : b.isDeterministic)
    (g : Generators) : b.duplicate.run g = (b, g) := by
  cases b with
  | rand => cases hb
  | _ => rfl

/-- A constant tree has no generators to copy. -/
theorem IsNative.duplicate_eq_self (hn : e.IsNative) (hc : e.isConstant) (g : Generators) :
    e.duplicate.run g = (e, g) := by
  have hd := hn.isDeterministic hc
  clear hn hc
  induction e generalizing g with
  | column | outer | literal => rfl
  | call head args memo ih =>
    rw [duplicate_call, duplicateAll_eq_self fun x hx g => ih x hx g (hd.of_mem x hx)]
    dsimp only
    rw [Builtin.duplicate_of_isDeterministic hd.of_head.builtin]

theorem IsNative.of_fold (hn : e.IsNative) (h : e.fold.result = .ok e') : e'.IsNative := by
  apply all_fold ?_ ?_ hn h
  · intro _ _
    trivial
  · intro head args args' memo hl hp
    show head.IsNative args'.length
    exact hl ▸ hp

/-- The copy of the folded tree is the copy of the tree, folded, and takes the same generators. -/
def FoldsCopies (e f : Expr) : Prop :=
  ∀ g, (e.duplicate.run g).1.fold.result = .ok (f.duplicate.run g).1 ∧
    (e.duplicate.run g).2 = (f.duplicate.run g).2

theorem foldsCopies_all {es fs : List Expr} (h : List.Forall₂ FoldsCopies es fs) (g : Generators) :
    List.Forall₂ (fun e f => e.fold.result = .ok f) ((duplicateAll es).run g).1
        ((duplicateAll fs).run g).1 ∧
      ((duplicateAll es).run g).2 = ((duplicateAll fs).run g).2 := by
  induction h generalizing g with
  | nil => exact ⟨.nil, rfl⟩
  | @cons e f es fs he _ ih =>
    obtain ⟨hf, hg⟩ := he g
    obtain ⟨hfs, hgs⟩ := ih (e.duplicate.run g).2
    have hes (e : Expr) (es : List Expr) : (duplicateAll (e :: es)).run g =
        ((e.duplicate.run g).1 :: ((duplicateAll es).run (e.duplicate.run g).2).1,
          ((duplicateAll es).run (e.duplicate.run g).2).2) := rfl
    rw [hes, hes, ← hg]
    exact ⟨.cons hf hfs, hgs⟩

theorem IsNative.foldsCopies {f : Expr} (hn : e.IsNative) (h : e.fold.result = .ok f) :
    FoldsCopies e f := by
  induction e generalizing f with
  | column | outer | literal =>
    cases h
    exact fun g => ⟨rfl, rfl⟩
  | call head args memo ih =>
    rw [fold_call_result] at h
    obtain ⟨fargs, ha, h⟩ := bind_ok_iff.1 h
    have ha := mapM_ok_iff.1 ha
    have hmem := forall₂_and_mem ha
    have hcall : (call head fargs none).IsNative := by
      apply hn.of_args ha.length_eq
      intro x' hx'
      obtain ⟨x, hx, hf⟩ := exists_left_of_forall₂ ha hx'
      exact (hn.of_mem x hx).of_fold hf
    intro g
    obtain ⟨hfold, hg⟩ :=
      foldsCopies_all (hmem.imp fun x _ hx => ih x hx.1 (hn.of_mem x hx.1) hx.2) g
    let copies := (duplicateAll fargs).run g
    let builtin := head.builtin.duplicate.run copies.2
    let head' : CallHead := { head with builtin := builtin.1 }
    have hself (hc : (call head fargs none).isConstant) :
        (call head' copies.1 none, builtin.2) = (call head fargs none, g) :=
      (duplicate_call head fargs none g).symm.trans (hcall.duplicate_eq_self hc g)
    have ht : head.type = head'.type := rfl
    have hc : (call head fargs none).isConstant = (call head' copies.1 none).isConstant :=
      isConstant_call_congr rfl (forall₂_duplicateAll (fun x _ => isConstant_duplicate x) g)
    have hv (hc : (call head fargs none).isConstant) :
        (call head fargs none).constantValue = (call head' copies.1 none).constantValue := by
      rw [(Prod.mk.inj (hself hc)).1]
    have hcopy : (call head args memo).duplicate.run g =
        (call head' ((duplicateAll args).run g).1 memo, builtin.2) := by
      rw [duplicate_call]
      dsimp only
      rw [hg]
    rw [hcopy, fold_call_result, mapM_ok_iff.2 hfold]
    obtain ⟨rfl, hs⟩ | ⟨v, rfl, hconst, hs⟩ := settle_congr ht hc hv h
    · exact ⟨hs, rfl⟩
    · exact ⟨hs, (Prod.mk.inj (hself hconst)).2⟩

theorem all_duplicate {p : Expr → Prop}
    (hcall : ∀ head args args' memo g, args.length = args'.length → p (call head args memo) →
      p (call { head with builtin := (head.builtin.duplicate.run g).1 } args' memo))
    (he : e.All p) (g : Generators) : (e.duplicate.run g).1.All p := by
  induction e generalizing g with
  | column | outer | literal => exact he
  | call head args memo ih =>
    obtain ⟨hp, hargs⟩ := all_call.1 he
    have ha : List.Forall₂ (fun _ x' => x'.All p) args ((duplicateAll args).run g).1 :=
      forall₂_duplicateAll (fun x hx => ih x hx (hargs x hx)) g
    rw [duplicate_call]
    refine all_call.2 ⟨hcall head args _ memo _ ha.length_eq hp, fun x' hx' => ?_⟩
    obtain ⟨-, -, hx⟩ := exists_left_of_forall₂ ha hx'
    exact hx

theorem CallHead.IsNative.duplicate {head : CallHead} (h : head.IsNative n) (g : Generators) :
    ({ head with builtin := (head.builtin.duplicate.run g).1 } : CallHead).IsNative n := by
  obtain ⟨name, type, builtin, settings⟩ := head
  cases builtin with
  | rand source =>
    cases source with
    | generator i => exact ⟨h.shipped, h.arity, h.type, h.name⟩
    | rowSeed => exact h
  | _ => exact h

theorem IsNative.duplicate (hn : e.IsNative) (g : Generators) :
    (e.duplicate.run g).1.IsNative := by
  apply all_duplicate ?_ hn
  intro head args args' memo g hl hp
  show CallHead.IsNative _ args'.length
  exact hl ▸ CallHead.IsNative.duplicate hp g

theorem HasTexts.duplicate (ht : e.HasTexts) (g : Generators) : (e.duplicate.run g).1.HasTexts :=
  all_duplicate (fun _ _ _ _ _ _ _ => trivial) ht g

/-! ### What is written to the log -/

theorem IsNative.settle_yields (hn : (call head args none).IsNative)
    (ht : (call head args none).HasTexts) :
    (settle head args).Yields HasTexts Event.HasLine := by
  by_cases hc : (call head args none).isConstant
  · exact (Expr.settle_yields (hn.isDeterministic hc) ht).imp fun _ h => h.2
  · have hs : settle head args = pure (call head args none) :=
      if_neg fun h => hc (Bool.and_eq_true_iff.1 h).1
    rw [hs]
    exact .pure ht

theorem IsNative.fold_yields (hn : e.IsNative) (ht : e.HasTexts) :
    e.fold.Yields (fun f => e.fold.result = .ok f ∧ f.HasTexts) Event.HasLine := by
  induction e with
  | column | outer | literal => exact .pure ⟨rfl, ht⟩
  | call head args memo ih =>
    refine Traced.Yields.and_result ?_ (fold_isBlind _)
    rw [fold, foldAll_eq_mapM]
    apply Traced.Yields.bind (.mapM fun x hx => ih x hx (hn.of_mem x hx) (ht.of_mem x hx))
    intro args' ha
    have hm (x' : Expr) (hx' : x' ∈ args') : x'.IsNative ∧ x'.HasTexts := by
      obtain ⟨x, hx, hf, ht'⟩ := exists_left_of_forall₂ ha hx'
      exact ⟨(hn.of_mem x hx).of_fold hf, ht'⟩
    apply IsNative.settle_yields
    · exact hn.of_args ha.length_eq fun x' hx' => (hm x' hx').1
    · exact all_call.2 ⟨trivial, fun x' hx' => (hm x' hx').2⟩

theorem allCalls_eq_flatten (es : List Expr) : allCalls es = (es.map calls).flatten := by
  induction es with
  | nil => rfl
  | cons e es ih => rw [allCalls, ih, List.map_cons, List.flatten_cons]

theorem All.exists_of_mem_calls {p : Expr → Prop} {x : Expr} (h : e.All p) (hx : x ∈ e.calls) :
    (∃ head args memo, x = call head args memo) ∧ x.All p := by
  induction e with
  | column | outer | literal => cases hx
  | call head args memo ih =>
    obtain rfl | hx := List.mem_cons.1 hx
    · exact ⟨⟨head, args, memo, rfl⟩, h⟩
    · rw [allCalls_eq_flatten, List.mem_flatten] at hx
      obtain ⟨cs, hcs, hx⟩ := hx
      obtain ⟨y, hy, rfl⟩ := List.mem_map.1 hcs
      exact ih y hy ((all_call.1 h).2 y hy) hx

theorem recordAll_yields {p : Event → Prop} {cs : List Expr}
    (h : ∀ c ∈ cs, p (.decorrelating c)) :
    (forIn cs PUnit.unit fun c _ => do
      Traced.record (.decorrelating c)
      return .yield PUnit.unit : Traced PUnit).Yields (fun _ => True) p := by
  induction cs with
  | nil => exact .pure trivial
  | cons c cs ih =>
    rw [List.forIn_cons, bind_assoc]
    exact (Traced.Yields.record (h c (by simp))).bind fun _ _ => ih fun x hx => h x (by simp [hx])

theorem decorrelateTraced_yields {p : Event → Prop} (h : ∀ c ∈ e.calls, p (.decorrelating c))
    (s : Schema) : (e.decorrelateTraced s).Yields (fun t => t = e.decorrelate s) p := by
  have hpure : (pure (e.decorrelate s) : Traced Expr).Yields (fun t => t = e.decorrelate s) p :=
    .pure rfl
  unfold decorrelateTraced
  exact (recordAll_yields h).bind fun _ _ => hpure

theorem HasTexts.decorrelateTraced_yields (ht : e.HasTexts) (s : Schema) :
    (e.decorrelateTraced s).Yields (fun t => t = e.decorrelate s) Event.HasLine := by
  apply Expr.decorrelateTraced_yields
  intro c hc
  obtain ⟨text, htext⟩ := HasTexts.exists_render (All.exists_of_mem_calls ht hc).2
  rw [Event.HasLine, Event.line, htext]
  exact ⟨_, rfl⟩

/-! ### Folding before and after -/

section Gives

variable (hn : e.IsNative) (ht : e.HasTexts) (hf : e.fold.result = .ok e')

include hn ht hf

theorem IsNative.fold_yields_eq :
    e.fold.Yields (fun f => f = e' ∧ f.HasTexts) Event.HasLine :=
  (hn.fold_yields ht).imp fun _ h => ⟨Except.ok.inj (h.1.symm.trans hf), h.2⟩

theorem IsNative.fold_gives : e.fold.Gives e' :=
  (hn.fold_yields_eq ht hf).gives fun _ h => h.1

theorem IsNative.fold_decorrelate_gives (s : Schema) :
    (do let t ← e.fold; t.decorrelateTraced s).Gives (e'.decorrelate s) := by
  have hy : (do let t ← e.fold; t.decorrelateTraced s).Yields (fun t => t = e'.decorrelate s)
      Event.HasLine := by
    apply (hn.fold_yields_eq ht hf).bind
    intro t h
    rw [← h.1]
    exact h.2.decorrelateTraced_yields s
  exact hy.gives fun _ h => h

theorem IsNative.decorrelate_fold_gives (s : Schema) :
    (do let t ← e.decorrelateTraced s; t.fold).Gives (e'.decorrelate s) := by
  have hR := rewritesColumns_decorrelate s
  obtain ⟨_, rfl, hd⟩ := hR.fold_result rfl hf
  have hy : (do let t ← e.decorrelateTraced s; t.fold).Yields
      (fun t : Expr => t = e'.decorrelate s ∧ t.HasTexts) Event.HasLine := by
    apply (ht.decorrelateTraced_yields s).bind
    intro t h
    rw [h]
    exact (hR.isNative rfl hn).fold_yields_eq (hR.hasTexts rfl ht) hd
  exact hy.gives fun _ h => h.1

theorem IsNative.resolve_fold_gives {r : Expr} (h : e.resolve s = ⟨r, none⟩) :
    r.fold.Gives (e'.resolve s).result := by
  have hR := rewritesColumns_resolve s
  obtain ⟨f, hr, hrf⟩ := hR.fold_result h hf
  rw [hr]
  exact (hR.isNative h hn).fold_gives (hR.hasTexts h ht) hrf

end Gives

/-- Folding commutes with decorrelation and with resolution, and resolution of a folded tree misses
the column that it misses in the tree. -/
theorem IsNative.fold_commutes (hn : e.IsNative) (hp : e.HasPlainDecimals) :
    ∃ e', e.fold.Gives e' ∧ ∀ s,
      (do let t ← e.decorrelateTraced s; t.fold).Gives (e'.decorrelate s) ∧
      (do let t ← e.fold; t.decorrelateTraced s).Gives (e'.decorrelate s) ∧
      ∀ g, let copy := e.duplicate.run g
        let copy' := e'.duplicate.run g
        copy.2 = copy'.2 ∧
        (copy.1.resolve s).missing = (copy'.1.resolve s).missing ∧
        ((copy.1.resolve s).missing = none →
          (copy.1.resolve s).result.fold.Gives (copy'.1.resolve s).result) := by
  have ht := hp.hasTexts
  obtain ⟨e', -, -, hf, -⟩ := (hn.fold_yields ht).exists_result
  refine ⟨e', hn.fold_gives ht hf, fun s => ⟨hn.decorrelate_fold_gives ht hf s,
    hn.fold_decorrelate_gives ht hf s, fun g => ?_⟩⟩
  intro copy copy'
  obtain ⟨hcopy, hg⟩ := hn.foldsCopies hf g
  have hmissing : (copy.1.resolve s).missing = (copy'.1.resolve s).missing := by
    rw [resolve_missing, resolve_missing, ← columns_duplicate, ← columns_duplicate,
      columns_fold hf]
  refine ⟨hg, hmissing, fun hnone => ?_⟩
  have hr : copy.1.resolve s = ⟨(copy.1.resolve s).result, none⟩ := hnone ▸ rfl
  exact (hn.duplicate g).resolve_fold_gives (ht.duplicate g) hcopy hr

/-- A random number and the columns of two queries beside the length of a decimal. -/
theorem IsNative.fold_commutes_length :
    let c : ColumnRef := ⟨1, 0, .bigint, "o.a", none⟩
    let n (i : Nat) := column ⟨2, i, .bigint, "n", none⟩
    let sum (x y : Expr) := (Builtin.arithmetic .plus .real).toCall [x, y]
    let random (i : Nat) := (Builtin.rand (.generator i)).toCall []
    let length := Builtin.length.toCall [literal (.decimal 150 2) (.decimal 3 2) none]
    let four := literal (.int 4) .bigint none
    let e := sum (random 0) (sum (outer c 0 none) (sum (n 0) length))
    let s : Schema := ⟨[c, ⟨2, 0, .bigint, "n", none⟩]⟩
    let copy := (e.duplicate.run { states := [⟨5⟩] }).1
    e.IsNative ∧ e.HasPlainDecimals ∧
      (do let t ← e.decorrelateTraced s; t.fold).Gives
        (sum (random 0) (sum (column c) (sum (n 0) four))) ∧
      (copy.resolve s).missing = none ∧
      (copy.resolve s).result.fold.Gives
        (sum (random 1) (sum (outer c 0 none) (sum (n 1) four))) := by
  intro c n sum random length four e s copy
  have hsum (x y : Expr) (hx : x.IsNative) (hy : y.IsNative) : (sum x y).IsNative :=
    ⟨⟨by decide, rfl, rfl, rfl⟩, hx, hy, trivial⟩
  have hr : (random 0).IsNative := ⟨⟨by decide, rfl, rfl, rfl⟩, trivial⟩
  have hl : length.IsNative := ⟨⟨by decide, rfl, rfl, rfl⟩, trivial, trivial⟩
  have hn : e.IsNative := hsum _ _ hr (hsum _ _ trivial (hsum _ _ trivial hl))
  have hp : e.HasPlainDecimals :=
    ⟨trivial, ⟨trivial, trivial⟩, ⟨trivial, trivial, ⟨trivial, trivial,
      ⟨trivial, ⟨by decide, by decide⟩, trivial⟩, trivial⟩, trivial⟩, trivial⟩
  have hf : e.fold.result = .ok (sum (random 0) (sum (outer c 0 none) (sum (n 0) four))) := rfl
  obtain ⟨e', hg, h⟩ := hn.fold_commutes hp
  cases hf.symm.trans hg.1
  have hnone : (copy.resolve s).missing = none := rfl
  obtain ⟨hd, -, hcopy⟩ := h s
  exact ⟨hn, hp, hd, hnone, (hcopy _).2.2 hnone⟩

end Expr

end ScalarExpr
