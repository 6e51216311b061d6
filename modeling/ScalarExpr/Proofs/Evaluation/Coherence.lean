import ScalarExpr.Proofs.Evaluation.Chunks
import ScalarExpr.Proofs.Function.Call
/-!
The six comparisons of two trees. For a row as well as for a chunk they come from one order of the
operands, and the comparisons of the swapped operands from the swapped order, so that all of them
fit together whatever the operands are compared as.
-/
namespace ScalarExpr

set_option autoImplicit true

/-! ### What an order makes of the six comparisons -/

/-- Results of the comparisons of two operands, and of the same operands swapped, of which exactly
one order holds. -/
structure IsCoherent (f g : CompareOp → Int64) : Prop where
  order : (f .lt, f .eq, f .gt) ∈ [(1, 0, 0), (0, 1, 0), (0, 0, 1)]
  ne : f .ne = 1 - f .eq
  le : f .le = 1 - f .gt
  ge : f .ge = 1 - f .lt
  swapped_gt : f .lt = g .gt
  swapped_eq : f .eq = g .eq

/-- The results are NULL for all comparisons or coherent. -/
def FitTogether (isNull : Prop) (p q : CompareOp → Option Int64) : Prop :=
  (isNull ∧ ∀ op, p op = none ∧ q op = none) ∨
    ¬isNull ∧ ∃ f g, (∀ op, p op = some (f op) ∧ q op = some (g op)) ∧ IsCoherent f g

/-- The result of a comparison for an order of its operands; without one they are NULL. -/
def CompareOp.verdict (op : CompareOp) (o : Option Ordering) : Option Int64 :=
  o.map (Evaluation.truth ∘ op.holds)

theorem isCoherent_truth (o : Ordering) :
    IsCoherent (fun op => Evaluation.truth (op.holds o))
      fun op => Evaluation.truth (op.holds o.swap) := by
  cases o <;> constructor <;> decide

theorem fitTogether_verdict (o : Option Ordering) :
    FitTogether (o = none) (·.verdict o) (·.verdict (o.map Ordering.swap)) := by
  cases o with
  | none => exact .inl ⟨rfl, fun _ => ⟨rfl, rfl⟩⟩
  | some o => exact .inr ⟨nofun, _, _, fun _ => ⟨rfl, rfl⟩, isCoherent_truth o⟩

theorem Evaluation.orderOf_eq_none_iff {f : α → α → Ordering} {a b : Option α} :
    orderOf f a b = none ↔ a = none ∨ b = none := by
  cases a <;> cases b <;> simp [orderOf]

theorem Evaluation.orderOf_swap (f : α → α → Ordering) (a b : Option α) :
    orderOf (fun b a => (f a b).swap) b a = (orderOf f a b).map Ordering.swap := by
  cases a <;> cases b <;> rfl

theorem fitTogether_orderOf (f : α → α → Ordering) (a b : Option α) :
    FitTogether (a = none ∨ b = none) (·.verdict (Evaluation.orderOf f a b))
      (·.verdict ((Evaluation.orderOf f a b).map Ordering.swap)) := by
  rw [← Evaluation.orderOf_eq_none_iff]
  exact fitTogether_verdict _

namespace CompareSignature

/-- The signature for the operands the other way round. -/
def swap : CompareSignature → CompareSignature
  | int u v => int v u
  | s => s

/-- Integers of which one side is unsigned. -/
def isMixed : CompareSignature → Bool
  | int u v => u || v
  | _ => false

theorem isMixed_swap (σ : CompareSignature) : σ.swap.isMixed = σ.isMixed := by
  cases σ with
  | int u v => exact Bool.or_comm v u
  | text | real => rfl

theorem comparesByRow_eq (op : CompareOp) (σ : CompareSignature) :
    (Builtin.compare op σ).comparesByRow = σ.isMixed := by
  cases σ <;> rfl

/-- Operands are compared as results of the kind, in the order. -/
inductive Orders : CompareSignature → (k : Kind) → (k.Item → k.Item → Ordering) → Prop
  | mk (σ : CompareSignature) : Orders σ σ.kind σ.order

theorem Orders.swap {f : k.Item → k.Item → Ordering} (h : Orders σ k f) :
    σ.swap.Orders k fun b a => (f a b).swap := by
  cases h
  cases σ with
  | int u v =>
    have hf : (int v u).order = fun b a => ((int u v).order a b).swap :=
      funext fun _ => funext fun _ => (Int.compare_swap _ _).symm
    exact hf ▸ mk (int v u)
  | text =>
    have hs (b a : String) : compare b a = (compare a b).swap := Std.OrientedCmp.eq_swap
    have hf : text.order = fun b a => (text.order a b).swap :=
      funext fun b => funext fun a => hs b a
    exact hf ▸ mk text
  | real =>
    have hf : real.order = fun b a => (real.order a b).swap :=
      funext fun _ => funext fun _ => (Int.compare_swap _ _).symm
    exact hf ▸ mk real

end CompareSignature

theorem FunctionClass.compareSignature_swap (x y : Expr) :
    compareSignature [y, x] = (compareSignature [x, y]).swap := by
  have hall (c : Category) : allOf c [y, x] = allOf c [x, y] := by
    simp [allOf, Bool.and_comm]
  rw [compareSignature, compareSignature, hall, hall]
  split
  · rfl
  · split <;> rfl

namespace Operation

variable {ms : List Meaning} {op : CompareOp} {σ : CompareSignature}

theorem run_comparison (a b : Option σ.kind.Item) :
    (comparison op σ).run ms [.ok a, .ok b] = .ok (op.verdict (Evaluation.orderOf σ.order a b)) := by
  cases a <;> cases b <;> rfl

/-- A comparison evaluates both operands. -/
theorem exists_of_run_comparison {a b : Except Failure (Option σ.kind.Item)}
    (h : (comparison op σ).run ms [a, b] = .ok c) : ∃ a' b', a = .ok a' ∧ b = .ok b' := by
  cases a with
  | error => cases h
  | ok a =>
    cases b with
    | error => cases a <;> cases h
    | ok b => exact ⟨a, b, rfl, rfl⟩

theorem runRows_comparison {as bs : List (Option σ.kind.Item)} (ha : as.length = n)
    (hb : bs.length = n) : (comparison op σ).runRows ms (slotRows n [as, bs]) =
      .ok (List.zipWith (fun a b => op.verdict (Evaluation.orderOf σ.order a b)) as bs) := by
  rw [slotRows_pair ha hb, runRows_total, List.map_zipWith]
  congr 2
  funext a b
  cases a <;> cases b <;> rfl

end Operation

namespace Expr

variable {x y : Expr} {env : Env} {r : Row} {input : Chunk} {σ : CompareSignature}

/-- The call of a comparison with a signature, in a session with the settings. -/
def compareCall (s : Settings) (σ : CompareSignature) (op : CompareOp) (x y : Expr) : Expr :=
  call ⟨.ofString op.name, .bigint, .compare op σ, s⟩ [x, y] none

/-- The call of a comparison with the signature that is chosen for the operands. -/
def comparison (s : Settings) (op : CompareOp) (x y : Expr) : Expr :=
  compareCall s (FunctionClass.compareSignature [x, y]) op x y

theorem newCall_comparison (s : Settings) (op : CompareOp) (t : SqlType) (x y : Expr) :
    newCall .builtins s op.name (some t) [x, y] = pure (comparison s op x y) := by
  -- All in one, so that the registry is evaluated once.
  have hl : ∀ op ∈ [CompareOp.eq, .ne, .lt, .le, .gt, .ge],
      FunctionRegistry.builtins.lookup op.name = some (.compare op) := by
    decide +kernel
  have hop : op ∈ [CompareOp.eq, .ne, .lt, .le, .gt, .ge] := by
    cases op <;> decide
  rw [newCall, hl op hop]
  rfl

theorem compareCall_isDeterministic (hx : x.IsDeterministic) (hy : y.IsDeterministic)
    (s : Settings) (σ : CompareSignature) (op : CompareOp) :
    (compareCall s σ op x y).IsDeterministic :=
  .of_call ⟨rfl, rfl, rfl⟩ (List.forall_mem_cons.2 ⟨hx, List.forall_mem_singleton.2 hy⟩)

section Call

variable (hx : x.IsDeterministic) (hy : y.IsDeterministic) (s : Settings) (op : CompareOp)

include hx hy

theorem result_compareCall_eq : (compareCall s σ op x y).result env r .int =
    (Operation.comparison op σ).run [x.meaning env, y.meaning env]
      [x.result env r σ.kind, y.result env r σ.kind] :=
  (compareCall_isDeterministic hx hy s σ op).result_call rfl env r

theorem slots_compareCall_byRow (hm : σ.isMixed) : (compareCall s σ op x y).slots env .int input =
    input.rows.mapM fun r => (compareCall s σ op x y).result env r .int :=
  slots_byRow (compareCall_isDeterministic hx hy s σ op) rfl env input
    ((CompareSignature.comparesByRow_eq op σ).trans hm)

theorem slots_compareCall_byColumn (hm : σ.isMixed = false) :
    (compareCall s σ op x y).slots env .int input =
      [x, y].mapM (·.slots env σ.kind input) >>= fun xss =>
        (Operation.comparison op σ).runRows [x.meaning env, y.meaning env]
          (slotRows input.rowCount xss) :=
  slots_call (compareCall_isDeterministic hx hy s σ op) rfl env input
    ((CompareSignature.comparesByRow_eq op σ).trans hm)

end Call

/-- The operands of a comparison for the rows of a chunk. One with an unsigned side alone evaluates
its operands row by row, and all others to columns. -/
def Operands (σ : CompareSignature) (env : Env) (input : Chunk) (k : Kind) (x : Expr)
    (as : List (Option k.Item)) : Prop :=
  if σ.isMixed then List.Forall₂ (fun r a => x.evalAs env r k = pure a) input.rows as
  else x.Fills env input k as

theorem Operands.swap {k : Kind} {as : List (Option k.Item)} (h : Operands σ env input k x as) :
    Operands σ.swap env input k x as := by
  rw [Operands, CompareSignature.isMixed_swap]
  exact h

theorem Operands.length_eq {k : Kind} {as : List (Option k.Item)}
    (h : Operands σ env input k x as) (hx : x.IsDeterministic) : as.length = input.rowCount := by
  rw [Operands] at h
  split at h
  case isTrue => rw [← h.length_eq, input.length_rows]
  case isFalse => exact hx.isAligned env input k as (hx.fills_iff.1 h)

section Pair

variable {k : Kind} {f : k.Item → k.Item → Ordering} (hσ : σ.Orders k f) (hx : x.IsDeterministic)
  (hy : y.IsDeterministic) (s : Settings) (op : CompareOp)

include hσ hx hy

/-! ### Rows -/

theorem result_compareCall (ha : x.result env r k = .ok a) (hb : y.result env r k = .ok b) :
    (compareCall s σ op x y).result env r .int =
      .ok (op.verdict (Evaluation.orderOf f a b)) := by
  cases hσ
  rw [result_compareCall_eq hx hy, ha, hb, Operation.run_comparison]

theorem result_compareCall_swap (ha : x.result env r k = .ok a) (hb : y.result env r k = .ok b) :
    (compareCall s σ.swap op y x).result env r .int =
      .ok (op.verdict ((Evaluation.orderOf f a b).map Ordering.swap)) := by
  rw [← Evaluation.orderOf_swap]
  exact result_compareCall hσ.swap hy hx s op hb ha

theorem exists_of_result_compareCall (h : (compareCall s σ op x y).result env r .int = .ok c) :
    ∃ a b, x.result env r k = .ok a ∧ y.result env r k = .ok b := by
  cases hσ
  rw [result_compareCall_eq hx hy] at h
  exact Operation.exists_of_run_comparison h

/-! ### Chunks -/

theorem slots_compareCall {as bs : List (Option k.Item)} (ha : Operands σ env input k x as)
    (hb : Operands σ env input k y bs) : (compareCall s σ op x y).slots env .int input =
      .ok (List.zipWith (fun a b => op.verdict (Evaluation.orderOf f a b)) as bs) := by
  have hla := ha.length_eq hx
  have hlb := hb.length_eq hy
  cases hm : σ.isMixed with
  | true =>
    simp only [Operands, hm, if_true, hx.evalAs_eq_pure_iff, hy.evalAs_eq_pure_iff] at ha hb
    rw [slots_compareCall_byRow hx hy s op hm, mapM_ok_iff]
    apply forall₂_zipWith ?_ ha hb
    intro r a b ha hb
    exact result_compareCall hσ hx hy s op ha hb
  | false =>
    simp only [Operands, hm, Bool.false_eq_true, if_false, hx.fills_iff, hy.fills_iff] at ha hb
    cases hσ
    rw [slots_compareCall_byColumn hx hy s op hm, List.mapM_cons, List.mapM_cons, ha, hb]
    exact Operation.runRows_comparison hla hlb

theorem slots_compareCall_swap {as bs : List (Option k.Item)} (ha : Operands σ env input k x as)
    (hb : Operands σ env input k y bs) : (compareCall s σ.swap op y x).slots env .int input =
      .ok (List.zipWith
        (fun a b => op.verdict ((Evaluation.orderOf f a b).map Ordering.swap)) as bs) := by
  rw [slots_compareCall hσ.swap hy hx s op hb.swap ha.swap, List.zipWith_comm]
  simp only [Evaluation.orderOf_swap]

theorem exists_of_slots_compareCall (h : (compareCall s σ op x y).slots env .int input = .ok xs) :
    ∃ as bs, Operands σ env input k x as ∧ Operands σ env input k y bs := by
  cases hm : σ.isMixed with
  | true =>
    simp only [Operands, hm, if_true, hx.evalAs_eq_pure_iff, hy.evalAs_eq_pure_iff]
    rw [slots_compareCall_byRow hx hy s op hm, mapM_ok_iff] at h
    have hboth (r : Row) (hr : r ∈ input.rows) :
        ∃ a b, x.result env r k = .ok a ∧ y.result env r k = .ok b := by
      obtain ⟨c, -, hc⟩ := exists_left_of_forall₂ h.flip hr
      exact exists_of_result_compareCall hσ hx hy s op hc
    have hleft (r : Row) (hr : r ∈ input.rows) : ∃ a, x.result env r k = .ok a := by
      obtain ⟨a, -, ha, -⟩ := hboth r hr
      exact ⟨a, ha⟩
    have hright (r : Row) (hr : r ∈ input.rows) : ∃ b, y.result env r k = .ok b := by
      obtain ⟨-, b, -, hb⟩ := hboth r hr
      exact ⟨b, hb⟩
    obtain ⟨as, ha⟩ := exists_mapM_ok hleft
    obtain ⟨bs, hb⟩ := exists_mapM_ok hright
    exact ⟨as, bs, mapM_ok_iff.1 ha, mapM_ok_iff.1 hb⟩
  | false =>
    simp only [Operands, hm, Bool.false_eq_true, if_false, hx.fills_iff, hy.fills_iff]
    cases hσ
    rw [slots_compareCall_byColumn hx hy s op hm] at h
    obtain ⟨xss, hxss, -⟩ := bind_ok_iff.1 h
    have hargs := (mapM_ok_iff.1 hxss).flip
    obtain ⟨as, -, ha⟩ := exists_left_of_forall₂ (y := x) hargs (by simp)
    obtain ⟨bs, -, hb⟩ := exists_left_of_forall₂ (y := y) hargs (by simp)
    exact ⟨as, bs, ha, hb⟩

end Pair

theorem IsDeterministic.eval_compareCall {s : Settings} {op : CompareOp} {p : Option Int64}
    (hd : (compareCall s σ op x y).IsDeterministic)
    (h : (compareCall s σ op x y).result env r .int = .ok p) :
    (compareCall s σ op x y).evalAs env r .int = pure p ∧
      (compareCall s σ op x y).eval env r = pure (p.elim .null .int) := by
  refine ⟨hd.evalAs_eq_pure_iff.2 h, ?_⟩
  have hv : (compareCall s σ op x y).value env r = .ok (p.elim .null .int) := by
    apply (value_call (k := .int) rfl env r).trans
    have h : (call _ [x, y] none).result env r .int = .ok p := h
    rw [h]
    cases p with
    | none => rfl
    | some n =>
      have hs : ¬SqlType.bigint.isUnsigned := by decide
      exact congrArg Except.ok (if_neg hs)
  rw [hd.eval_eq, hv]
  rfl

/-- The comparisons of two trees, and of the same trees swapped, fit together: on every row on which
both operands have a result, and in every row of a chunk for which one of them succeeds. -/
theorem comparisons_coherent (hx : x.IsDeterministic) (hy : y.IsDeterministic) (s : Settings)
    (env : Env) :
    let σ := FunctionClass.compareSignature [x, y]
    (∀ op t, newCall .builtins s op.name (some t) [x, y] = pure (comparison s op x y) ∧
      newCall .builtins s op.name (some t) [y, x] = pure (comparison s op y x)) ∧
    (∀ r a b g g₁ g₂, (x.evalAs env r σ.kind).run.run g = (.ok a, g₁) →
      (y.evalAs env r σ.kind).run.run g = (.ok b, g₂) →
      ∃ p q, FitTogether (a = none ∨ b = none) p q ∧ ∀ op,
        (comparison s op x y).evalAs env r .int = pure (p op) ∧
        (comparison s op x y).eval env r = pure ((p op).elim .null .int) ∧
        (comparison s op y x).evalAs env r .int = pure (q op) ∧
        (comparison s op y x).eval env r = pure ((q op).elim .null .int)) ∧
    ∀ input op buffer filled g g', buffer.category = .int →
      ((comparison s op x y).fillBuffer env input buffer).run.run g = (.ok filled, g') →
      let rows {α : Type} (slot : Nat → α) := (List.range input.rowCount).map slot
      ∃ (a b : Nat → Option σ.kind.Item) (p q : Nat → CompareOp → Option Int64),
        Operands σ env input σ.kind x (rows a) ∧ Operands σ env input σ.kind y (rows b) ∧
        (∀ op, (comparison s op x y).Fills env input .int (rows (p · op)) ∧
          (comparison s op y x).Fills env input .int (rows (q · op))) ∧
        ∀ i, FitTogether (a i = none ∨ b i = none) (p i) (q i) := by
  intro σ
  have hd (op : CompareOp) : (comparison s op x y).IsDeterministic :=
    compareCall_isDeterministic hx hy s _ op
  have hd' (op : CompareOp) : (comparison s op y x).IsDeterministic :=
    compareCall_isDeterministic hy hx s _ op
  have hswap (op : CompareOp) : comparison s op y x = compareCall s σ.swap op y x := by
    rw [comparison, FunctionClass.compareSignature_swap]
  have hσ := CompareSignature.Orders.mk σ
  refine ⟨fun op t => ⟨newCall_comparison s op t x y, newCall_comparison s op t y x⟩, ?_, ?_⟩
  · intro r a b g g₁ g₂ ha hb
    rw [hx.evalAs_run] at ha
    rw [hy.evalAs_run] at hb
    have ha : x.result env r σ.kind = .ok a := congrArg Prod.fst ha
    have hb : y.result env r σ.kind = .ok b := congrArg Prod.fst hb
    refine ⟨_, _, fitTogether_orderOf σ.order a b, fun op => ?_⟩
    have hp := (hd op).eval_compareCall (result_compareCall hσ hx hy s op ha hb)
    have hr : (comparison s op y x).result env r .int = _ :=
      hswap op ▸ result_compareCall_swap hσ hx hy s op ha hb
    have hq := (hd' op).eval_compareCall hr
    exact ⟨hp.1, hp.2, hq.1, hq.2⟩
  · intro input op buffer filled g g' hc hf rows
    obtain ⟨xs, hs⟩ := (hd op).exists_slots_of_fill (k := .int) hc hf
    obtain ⟨as, bs, ha, hb⟩ := exists_of_slots_compareCall hσ hx hy s op hs
    obtain ⟨a, rfl⟩ : ∃ a : Nat → _, as = rows a := ⟨_, eq_map_range (ha.length_eq hx)⟩
    obtain ⟨b, rfl⟩ : ∃ b : Nat → _, bs = rows b := ⟨_, eq_map_range (hb.length_eq hy)⟩
    have hrows {α : Type} (f : Option σ.kind.Item → Option σ.kind.Item → α) :
        List.zipWith f (rows a) (rows b) = rows fun i => f (a i) (b i) := by
      rw [List.zipWith_map, List.zipWith_self]
    refine ⟨a, b, _, _, ha, hb, fun op => ⟨?_, ?_⟩,
      fun i => fitTogether_orderOf σ.order (a i) (b i)⟩
    · rw [(hd op).fills_iff]
      exact (slots_compareCall hσ hx hy s op ha hb).trans (congrArg Except.ok (hrows _))
    · rw [(hd' op).fills_iff, hswap]
      exact (slots_compareCall_swap hσ hx hy s op ha hb).trans (congrArg Except.ok (hrows _))

/-- A signed and an unsigned column whose first items have the same bits. -/
theorem comparisons_coherent_mixed :
    let n := column ⟨1, 0, .bigint, "n", none⟩
    let m := column ⟨2, 1, .unsignedBigint, "m", none⟩
    let input : Chunk :=
      ⟨[⟨.int64, [some (-1), none]⟩, ⟨.uint64, [some 18446744073709551615, some 3]⟩], 2,
        List.forall_mem_cons.2 ⟨rfl, List.forall_mem_singleton.2 rfl⟩⟩
    let σ := CompareSignature.int false true
    let filled : Buffer := ⟨.int, some ⟨.int64, [some 1, none]⟩, true⟩
    n.IsDeterministic ∧ m.IsDeterministic ∧
      (n.evalAs {} (input.row 0) .int).run.run {} = (.ok (some (-1)), {}) ∧
      (m.evalAs {} (input.row 0) .int).run.run {} = (.ok (some (-1)), {}) ∧
      (∃ p q, FitTogether False p q ∧ p .lt = some 1 ∧ ∀ op,
        (comparison {} op n m).evalAs {} (input.row 0) .int = pure (p op) ∧
        (comparison {} op m n).evalAs {} (input.row 0) .int = pure (q op)) ∧
      ((comparison {} .lt n m).fillBuffer {} input (.empty .int)).run.run {} = (.ok filled, {}) ∧
      ∃ (a b : Nat → Option Int64) (p q : Nat → CompareOp → Option Int64),
        Operands σ {} input .int n [a 0, a 1] ∧ Operands σ {} input .int m [b 0, b 1] ∧
        (∀ op, (comparison {} op n m).Fills {} input .int [p 0 op, p 1 op] ∧
          (comparison {} op m n).Fills {} input .int [q 0 op, q 1 op]) ∧
        ∀ i, FitTogether (a i = none ∨ b i = none) (p i) (q i) := by
  intro n m input σ filled
  have hn : n.IsDeterministic := trivial
  have hm : m.IsDeterministic := trivial
  have ha : (n.evalAs {} (input.row 0) .int).run.run {} = (.ok (some (-1)), {}) := rfl
  have hb : (m.evalAs {} (input.row 0) .int).run.run {} = (.ok (some (-1)), {}) := rfl
  have hσ : FunctionClass.compareSignature [n, m] = σ := by
    simp only [n, m, σ]
    rfl
  have hf : ((comparison {} .lt n m).fillBuffer {} input (.empty .int)).run.run {} =
      (.ok filled, {}) := by
    rw [comparison, hσ]
    rfl
  obtain ⟨-, hrows, hchunks⟩ := comparisons_coherent hn hm {} {}
  rw [hσ] at hrows hchunks
  obtain ⟨p, q, hfit, hp⟩ := hrows (input.row 0) _ _ _ _ _ ha hb
  have hlt : (comparison {} .lt n m).evalAs {} (input.row 0) .int = pure (some 1) := by
    rw [comparison, hσ]
    rfl
  refine ⟨hn, hm, ha, hb, ⟨p, q, ?_, Eval.pure_inj.1 ((hp .lt).1.symm.trans hlt),
    fun op => ⟨(hp op).1, (hp op).2.2.1⟩⟩, hf, hchunks input .lt _ _ _ _ rfl hf⟩
  simpa using hfit

end Expr

end ScalarExpr
