import ScalarExpr.Proofs.Column.Uniform
import ScalarExpr.Proofs.Evaluation.Congruence
import ScalarExpr.Proofs.Function.Native
/-!
Constant trees and what they are evaluated on. They give one value and one result of each kind for
all rows, and for chunks copies of one slot: neither the rows nor the clock nor bound values matter.
-/
namespace ScalarExpr

set_option autoImplicit true

/-! ### One result for all chunks -/

/-- For every chunk but an empty one there is the same failure, or what one result is for its number
of rows. -/
def Spreads (spread : Nat → α → β) (f : Chunk → Eval β) : Prop :=
  ∃ o : Except Failure α, ∀ input, 0 < input.rowCount →
    f input = Eval.lift (o.map (spread input.rowCount))

namespace Spreads

theorem lift {s : Nat → α → β} {f : Nat → Except Failure β} (h : Repeats s f) :
    Spreads s fun input => Eval.lift (f input.rowCount) := by
  obtain ⟨o, ho⟩ := h
  exact ⟨o, fun input hn => congrArg Eval.lift (ho _ hn)⟩

theorem pure (s : Nat → α → β) (a : α) :
    Spreads s fun input => Pure.pure (s input.rowCount a) :=
  ⟨.ok a, fun _ _ => rfl⟩

theorem bind {s : Nat → α → β} {t : Nat → γ → δ} {f : Chunk → Eval β} {k : Chunk → β → Eval δ}
    (hf : Spreads s f) (hk : ∀ a, Spreads t fun input => k input (s input.rowCount a)) :
    Spreads t fun input => f input >>= k input := by
  obtain ⟨o, ho⟩ := hf
  cases o with
  | error e =>
    refine ⟨.error e, fun input hn => ?_⟩
    show f input >>= k input = _
    rw [ho input hn]
    rfl
  | ok a =>
    obtain ⟨o, hk⟩ := hk a
    refine ⟨o, fun input hn => ?_⟩
    show f input >>= k input = _
    rw [ho input hn]
    exact hk input hn

theorem mapM {s : Nat → α → β} {f : γ → Chunk → Eval β} {xs : List γ}
    (h : ∀ x ∈ xs, Spreads s (f x)) :
    Spreads (fun n (as : List α) => as.map (s n)) fun input => xs.mapM (f · input) := by
  induction xs with
  | nil => exact .pure (fun n (as : List α) => as.map (s n)) []
  | cons x xs ih =>
    simp only [List.mapM_cons]
    apply (h x (by simp)).bind
    intro a
    apply (ih fun y hy => h y (by simp [hy])).bind
    intro as
    exact .pure (fun n (as : List α) => as.map (s n)) (a :: as)

end Spreads

/-- The evaluation is one result for all rows. -/
def IgnoresRows (f : Row → Eval α) : Prop := ∃ a, ∀ r, f r = Eval.lift a

namespace IgnoresRows

theorem pure (a : α) : IgnoresRows fun _ => Pure.pure a := ⟨.ok a, fun _ => rfl⟩

theorem bind {f : Row → Eval α} {k : Row → α → Eval β} (hf : IgnoresRows f)
    (hk : ∀ a, IgnoresRows fun r => k r a) : IgnoresRows fun r => f r >>= k r := by
  obtain ⟨a, ha⟩ := hf
  cases a with
  | error e =>
    refine ⟨.error e, fun r => ?_⟩
    show f r >>= k r = _
    rw [ha r]
    rfl
  | ok a =>
    obtain ⟨b, hb⟩ := hk a
    refine ⟨b, fun r => ?_⟩
    show f r >>= k r = _
    rw [ha r]
    exact hb r

end IgnoresRows

/-- The results for a row are the same for all rows, and those for a chunk copies of one slot. -/
structure Meaning.IsUniform (m : Meaning) : Prop where
  row : ∀ k, IgnoresRows (m.row · k)
  column : ∀ c, Spreads Slot.column (m.column c)

namespace Meaning.IsUniform

theorem buffer (hm : IsUniform m) (c : Category) : Spreads (Slot.buffer c) (m.buffer c) :=
  (hm.column c).bind fun s => .lift (s.repeats_fill (.empty c))

theorem buffers₂ (hx : IsUniform x) (hy : IsUniform y) (c : Category) :
    Spreads (fun n (p : (Slot × Bool) × (Slot × Bool)) =>
      (Slot.buffer c n p.1, Slot.buffer c n p.2)) (Meaning.buffers₂ x y c) :=
  (hx.buffer c).bind fun p => (hy.buffer c).bind fun q => .pure _ (p, q)

end Meaning.IsUniform

theorem Slot.repeats_slots (k : Kind) (p : Slot × Bool) :
    Repeats List.replicate fun n => (Slot.buffer k.category n p).slots k := by
  obtain ⟨⟨type, item⟩, tabulated⟩ := p
  cases k with
  | int =>
    cases type with
    | int64 => exact .ok _ item
    | uint64 =>
      exact ⟨.ok (item.map UInt64.toInt64), fun _ _ => congrArg Except.ok List.map_replicate⟩
    | _ => exact .error _ _
  | real =>
    cases type with
    | float64 => exact .ok _ item
    | _ => exact .error _ _
  | text =>
    cases type with
    | utf8 => exact .ok _ item
    | _ => exact .error _ _

theorem repeats_zipSlots (f : α → β → Except ε (Option γ)) (a : Option α) (b : Option β) :
    Repeats List.replicate fun n => zipSlots f (List.replicate n a) (List.replicate n b) := by
  simp only [zipSlots_eq_mapM, List.zip_replicate']
  exact .mapM _ _

namespace Evaluation

open Meaning

theorem comparedColumn_spreads (op : CompareOp) (order : α → α → Ordering) (a b : Option α) :
    Spreads Slot.column fun input => pure (comparedColumn op order
      (List.replicate input.rowCount a) (List.replicate input.rowCount b)) := by
  refine ⟨.ok ⟨.boolean, (orderOf order a b).map op.holds⟩, fun input _ => ?_⟩
  simp only [comparedColumn, List.zipWith_replicate']
  rfl

theorem mapped_spreads (type : ColumnType) (f : α → Option type.Item) (a : α) :
    Spreads Slot.column fun input => pure ⟨type, (List.replicate input.rowCount a).map f⟩ := by
  simp only [List.map_replicate]
  exact .pure Slot.column ⟨type, f a⟩

theorem slotRows_replicate (n : Nat) (as : List (Option α)) :
    slotRows n (as.map (List.replicate n)) = List.replicate n as := by
  apply List.ext_getElem (by simp [slotRows])
  intro i hi _
  have hi : i < n := by simpa [slotRows] using hi
  simp [slotRows, hi, Function.comp_def]

/-- Reading columns of one slot each, place by place. -/
theorem places_repeats {get : Nat → List (Option α) → Except ε (Option α)}
    (hg : ∀ i xs a, xs[i]? = some a → get i xs = .ok a) (as : List (Option α)) :
    Repeats List.replicate fun n =>
      (List.range n).mapM fun i => (as.map (List.replicate n)).mapM (get i) := by
  refine ⟨.ok as, fun n _ => ?_⟩
  show (List.range n).mapM (fun i => (as.map (List.replicate n)).mapM (get i)) = _
  rw [mapM_slots_eq hg (by simp), slotRows_replicate]
  rfl

theorem concatColumn_spreads (hs : ∀ m ∈ ms, m.IsUniform) :
    Spreads Slot.column (concatColumn ms) := by
  refine (Spreads.mapM fun m hm => (hs m hm).buffer .text).bind fun ps => ?_
  have hstrings : Spreads (fun n (as : List (Option String)) => as.map (List.replicate n))
      fun input => Eval.lift ((ps.map (Slot.buffer .text input.rowCount)).mapM Buffer.strings) := by
    simp only [List.mapM_map, ← Eval.mapM_lift]
    exact .mapM fun p _ => .lift (Slot.repeats_slots .text p)
  exact hstrings.bind fun as => .bind (.lift (places_repeats (fun i xs a h => by rw [h]) as))
    fun row => mapped_spreads .utf8 joinSlots row

theorem mapM_rows_spreads {f : Row → Eval α} (hf : IgnoresRows f) :
    Spreads List.replicate fun input => input.rows.mapM f := by
  obtain ⟨o, ho⟩ := hf
  have hrows (input : Chunk) : input.rows.mapM f =
      Eval.lift ((List.replicate input.rowCount ()).mapM fun _ => o) := by
    rw [funext ho, Eval.mapM_lift]
    have hl : List.replicate input.rowCount () = input.rows.map fun _ => () := by
      rw [List.map_const', input.length_rows]
    rw [hl, List.mapM_map]
    rfl
  simp only [hrows]
  exact .lift (.mapM _ ())

section Operands

variable {x y : Meaning} (hx : x.IsUniform) (hy : y.IsUniform)

include hx

section Pair

include hy

/-- The slots of two operands, and what is made of them. -/
theorem binary_spreads (k : Kind) {f : List (Option k.Item) → List (Option k.Item) → Eval Column}
    (hf : ∀ a b, Spreads Slot.column fun input =>
      f (List.replicate input.rowCount a) (List.replicate input.rowCount b)) :
    Spreads Slot.column (fun input => do
      let (a, b) ← x.buffers₂ y k.category input
      let as ← Eval.lift (a.slots k)
      let bs ← Eval.lift (b.slots k)
      f as bs) := by
  apply (hx.buffers₂ hy k.category).bind
  intro p
  apply (Spreads.lift (Slot.repeats_slots k p.1)).bind
  intro a
  apply (Spreads.lift (Slot.repeats_slots k p.2)).bind
  intro b
  exact hf a b

theorem intColumn_spreads (op : ArithOp) (u : Bool) : Spreads Slot.column (intColumn op u x y) := by
  apply binary_spreads hx hy .int
  intro a b
  apply (Spreads.lift (repeats_zipSlots (intResult op u x y) a b)).bind
  intro n
  exact .pure Slot.column ⟨.int64, n⟩

theorem realColumn_spreads (f : Binary64 → Binary64 → Except Failure (Option Binary64)) :
    Spreads Slot.column (realColumn f x y) := by
  apply binary_spreads hx hy .real
  intro a b
  apply (Spreads.lift (repeats_zipSlots f a b)).bind
  intro z
  exact .pure Slot.column ⟨.float64, z⟩

theorem compareRow_ignoresRows (s : CompareSignature) : IgnoresRows (compareRow s x y) := by
  cases s with
  | int => exact (hx.row .int).bind fun a => (hy.row .int).bind fun b => .pure _
  | text => exact (hx.row .text).bind fun a => (hy.row .text).bind fun b => .pure _
  | real => exact (hx.row .real).bind fun a => (hy.row .real).bind fun b => .pure _

theorem comparisonColumn_spreads (op : CompareOp) (s : CompareSignature) :
    Spreads Slot.column (comparisonColumn op s x y) := by
  have hrows (s : CompareSignature) := mapM_rows_spreads (compareRow_ignoresRows hx hy s)
  have hbyRow (s : CompareSignature) : Spreads Slot.column fun input => do
      let orders ← input.rows.mapM (compareRow s x y)
      return ⟨.boolean, orders.map (·.map op.holds)⟩ :=
    (hrows s).bind fun order => mapped_spreads .boolean _ order
  cases s with
  | int u v =>
    cases u with
    | true => exact hbyRow (.int true v)
    | false =>
      cases v with
      | true => exact hbyRow (.int false true)
      | false => exact binary_spreads hx hy .int (comparedColumn_spreads op _)
  | text => exact binary_spreads hx hy .text (comparedColumn_spreads op _)
  | real => exact binary_spreads hx hy .real (comparedColumn_spreads op _)

end Pair

/-- The slots of one operand, and what is made of them. -/
theorem unary_spreads (k : Kind) {f : List (Option k.Item) → Eval Column}
    (hf : ∀ a, Spreads Slot.column fun input => f (List.replicate input.rowCount a)) :
    Spreads Slot.column (fun input => do
      let a ← x.buffer k.category input
      let as ← Eval.lift (a.slots k)
      f as) := by
  apply (hx.buffer k.category).bind
  intro p
  exact (Spreads.lift (Slot.repeats_slots k p)).bind hf

theorem bitNegColumn_spreads : Spreads Slot.column (bitNegColumn x) :=
  unary_spreads hx .int (mapped_spreads .int64 _)

theorem mapTextColumn_spreads (f : String → String) : Spreads Slot.column (mapTextColumn f x) :=
  unary_spreads hx .text (mapped_spreads .utf8 _)

theorem secToTimeColumn_spreads : Spreads Slot.column (secToTimeColumn x) := by
  apply unary_spreads hx .int
  intro a
  apply (Spreads.lift (.mapSlotsM a secondsToNanos)).bind
  intro nanos
  exact .pure Slot.column ⟨.duration .nanosecond, nanos⟩

theorem lengthColumn_spreads : Spreads Slot.column (lengthColumn x) := by
  apply unary_spreads hx .text
  intro a
  refine ⟨.ok (if (a.map String.utf8ByteSize).all (· < ColumnType.textCapacity) then
    ⟨.int32, (a.map String.utf8ByteSize).map Int32.ofNat⟩
    else ⟨.int64, (a.map String.utf8ByteSize).map Int64.ofNat⟩), fun input hn => ?_⟩
  simp only [List.map_replicate, List.all_replicate, if_neg (Nat.ne_of_gt hn)]
  split <;> rfl

end Operands

theorem callColumn_spreads {head : CallHead} (hd : head.IsDeterministic args.length)
    (hs : ∀ m ∈ args, m.IsUniform) (env : Env) (c : Category) :
    Spreads Slot.column (callColumn env head args c) := by
  by_cases hc : head.builtin.columnCategory? = some c
  case neg => exact ⟨.error _, fun input _ => callColumn_refused hc env args input⟩
  have hn := hd.arity
  have hb := hd.builtin
  obtain ⟨name, type, builtin, settings⟩ := head
  cases builtin with
  | arithmetic op s =>
    obtain ⟨x, y, rfl, hx, hy⟩ := Arity.exists_pair hn hs
    cases s with
    | int u =>
      cases hc
      exact intColumn_spreads hx hy op u
    | real =>
      cases hc
      exact realColumn_spreads hx hy _
  | divide =>
    obtain ⟨x, y, rfl, hx, hy⟩ := Arity.exists_pair hn hs
    cases hc
    exact realColumn_spreads hx hy _
  | compare op s =>
    obtain ⟨x, y, rfl, hx, hy⟩ := Arity.exists_pair hn hs
    cases hc
    exact comparisonColumn_spreads hx hy op s
  | bitNeg =>
    obtain ⟨x, rfl, hx⟩ := Arity.exists_single hn hs
    cases hc
    exact bitNegColumn_spreads hx
  | concat =>
    cases hc
    exact concatColumn_spreads hs
  | lower | upper =>
    obtain ⟨x, rfl, hx⟩ := Arity.exists_single hn hs
    cases hc
    exact mapTextColumn_spreads hx _
  | length =>
    obtain ⟨x, rfl, hx⟩ := Arity.exists_single hn hs
    cases hc
    exact lengthColumn_spreads hx
  | secToTime =>
    obtain ⟨x, rfl, hx⟩ := Arity.exists_single hn hs
    cases hc
    exact secToTimeColumn_spreads hx
  | rand | now | unixTimestamp | fixed => cases hb

/-! ### The environment -/

/-- Only functions of the clock read the environment themselves. -/
theorem call_env {head : CallHead} (hb : head.builtin.isDeterministic)
    (label : Unit → Except Fault String) (args : List Meaning) (env env' : Env) :
    call env label head args = call env' label head args := by
  have hint (r : Row) : callInt env head.builtin args r = callInt env' head.builtin args r := by
    unfold callInt
    split <;> rename_i h <;> first | rfl | (rw [h] at hb; cases hb)
  have hrow : callRow env head args = callRow env' head args := by
    funext r k
    cases k with
    | int => exact hint r
    | real | text => rfl
  have hvalue : callValue env head args = callValue env' head args := by
    unfold callValue
    rw [hrow]
  have hcolumn : callColumn env head args = callColumn env' head args := by
    funext c input
    unfold callColumn
    split <;> rename_i h <;> first | rfl | (rw [h] at hb; cases hb)
  rw [call, call, hrow, hvalue, hcolumn]

end Evaluation

namespace Expr

variable {e : Expr} {env env' : Env}

/-- A constant tree reads no row. -/
theorem agreeOn_of_isConstant (hc : e.isConstant) (env : Env) (r r' : Row) :
    Meaning.AgreeOn .exact r r' (e.meaning env) (e.meaning env) := by
  induction e with
  | column | outer => cases hc
  | literal => exact .leaf rfl rfl
  | call head args memo ih =>
    apply agreeOn_call
    rw [List.forall₂_same]
    exact fun e he => ih e he ((isConstant_call.1 hc).2 e he)

theorem IsDeterministic.meaning_env (hd : e.IsDeterministic) (hc : e.isConstant) (env env' : Env) :
    e.meaning env = e.meaning env' := by
  induction e with
  | column | outer => cases hc
  | literal => rfl
  | call head args memo ih =>
    have hargs : meanings env args = meanings env' args := by
      rw [meanings_eq_map, meanings_eq_map]
      exact List.map_congr_left fun e he => ih e he (hd.of_mem e he) ((isConstant_call.1 hc).2 e he)
    rw [Expr.meaning, Expr.meaning, hargs]
    exact Evaluation.call_env hd.of_head.builtin _ _ env env'

theorem IsDeterministic.isUniform (hd : e.IsDeterministic) (hc : e.isConstant) (env : Env) :
    (e.meaning env).IsUniform := by
  have hrow (e : Expr) (hd : e.IsDeterministic) (hc : e.isConstant) (k : Kind) :
      IgnoresRows ((e.meaning env).row · k) := by
    refine ⟨e.result env .empty k, fun r => ?_⟩
    have ha := (agreeOn_of_isConstant hc env r .empty).row k
    exact (Tolerance.agree_exact_iff.1 ha).trans (hd.evalAs_eq env .empty k)
  induction e with
  | column | outer => cases hc
  | literal v t memo => exact ⟨hrow _ hd hc, fun _ => .lift (v.repeats_broadcast t)⟩
  | call head args memo ih =>
    refine ⟨hrow _ hd hc, ?_⟩
    have hs : ∀ m ∈ meanings env args, m.IsUniform := by
      rw [meanings_eq_map]
      intro m hm
      obtain ⟨e, he, rfl⟩ := List.mem_map.1 hm
      exact ih e he (hd.of_mem e he) ((isConstant_call.1 hc).2 e he)
    have hhead : head.IsDeterministic (meanings env args).length := by
      rw [meanings_eq_map, List.length_map]
      exact hd.of_head
    exact Evaluation.callColumn_spreads hhead hs env

theorem isConstant_iff_all : e.isConstant ↔ e.All fun
    | column _ | outer _ _ _ => False
    | literal _ _ _ => True
    | call head _ _ => head.name.lower ∉ unfoldable := by
  induction e with
  | column | outer => exact ⟨nofun, nofun⟩
  | literal => exact ⟨fun _ => trivial, fun _ => rfl⟩
  | call head args memo ih =>
    rw [isConstant_call, all_call]
    exact and_congr_right fun _ => forall₂_congr ih

/-- The constant trees are those without columns and without calls of a function that is not folded,
and there is one value, one result of each kind and for each category one slot that evaluation gives
of them, whatever the row, the chunk and the environment. -/
theorem IsNative.constant_eval (hn : e.IsNative) :
    (e.isConstant ↔ e.All fun
      | column _ | outer _ _ _ => False
      | literal _ _ _ => True
      | call head _ _ => head.name.lower ∉ unfoldable) ∧
    (e.isConstant →
      (∃ v, ∀ env r, e.eval env r = Eval.lift v) ∧
      (∀ k, ∃ a, ∀ env r, e.evalAs env r k = Eval.lift a) ∧
      ∀ c, ∃ outcome : Except Failure (Slot × Bool), ∀ env input b, b.category = c →
        0 < input.rowCount →
          e.fillBuffer env input b = Eval.lift (outcome.map (Slot.buffer c input.rowCount))) := by
  refine ⟨isConstant_iff_all, fun hc => ?_⟩
  have hd := hn.isDeterministic hc
  have henv (env : Env) : e.meaning env = e.meaning {} := hd.meaning_env hc env {}
  refine ⟨⟨e.value {} .empty, fun env r => ?_⟩, fun k => ?_, fun c => ?_⟩
  · have ha := Tolerance.agree_exact_iff.1 (agreeOn_of_isConstant hc {} r .empty).value
    rw [eval, henv, ha]
    exact hd.eval_eq {} .empty
  · obtain ⟨a, ha⟩ := (hd.isUniform hc {}).row k
    refine ⟨a, fun env r => ?_⟩
    rw [evalAs, henv]
    exact ha r
  · obtain ⟨outcome, ho⟩ := (hd.isUniform hc {}).buffer c
    refine ⟨outcome, fun env input b hb hrows => ?_⟩
    rw [fillBuffer_eq hb, henv]
    exact ho input hrows

/-- A sum in mixed case, for rows and for columns. -/
theorem IsNative.constant_eval_sum :
    let int (n : Int64) := literal (.int n) .bigint none
    let sum x y := call ⟨⟨"Plus", "plus"⟩, .bigint, .arithmetic .plus (.int false), {}⟩ [x, y] none
    let e := sum (int 1) (sum (int 2) (int 3))
    e.IsNative ∧ e.isConstant ∧ (∀ env r, e.eval env r = pure (.int 6)) ∧
      ∀ env input b, b.category = .int → 0 < input.rowCount →
        e.fillBuffer env input b =
          pure (Slot.buffer .int input.rowCount (⟨.int64, some 6⟩, false)) := by
  intro int sum e
  have hn : e.IsNative := ⟨⟨by decide, rfl, rfl, rfl⟩, trivial,
    ⟨⟨by decide, rfl, rfl, rfl⟩, trivial, trivial, trivial⟩, trivial⟩
  have hc : e.isConstant := rfl
  obtain ⟨⟨v, hv⟩, -, hchunks⟩ := hn.constant_eval.2 hc
  have hsix : e.eval {} .empty = Eval.lift (.ok (.int 6)) := rfl
  obtain rfl := Eval.lift_inj.1 ((hv {} .empty).symm.trans hsix)
  obtain ⟨outcome, ho⟩ := hchunks .int
  let row : Chunk := ⟨[], 1, List.forall_mem_nil _⟩
  have hone : e.fillBuffer {} row (.empty .int) =
      Eval.lift (.ok (Slot.buffer .int 1 (⟨.int64, some 6⟩, false))) := rfl
  have heq := Eval.lift_inj.1 ((ho {} row (.empty .int) rfl Nat.one_pos).symm.trans hone)
  cases outcome with
  | error => cases heq
  | ok p =>
    obtain ⟨⟨type, item⟩, tabulated⟩ := p
    cases heq
    exact ⟨hn, hc, hv, ho⟩

end Expr

end ScalarExpr
