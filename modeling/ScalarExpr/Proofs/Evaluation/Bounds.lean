import ScalarExpr.Proofs.Evaluation.Safety
import ScalarExpr.Proofs.Function.Native
/-!
Evaluation within bounds. Every evaluator for columns gives a chunk one result for each row, so that
its caller never reads past the end of what it was given, and random numbers are drawn from
generators that are there.
-/
namespace ScalarExpr

set_option autoImplicit true

/-- There is a generator to draw from, or an argument to seed one for each row. -/
def RandomSource.IsThere (arguments : Nat) (g : Generators) : RandomSource → Prop
  | generator i => i < g.states.length
  | rowSeed => 0 < arguments

theorem RandomSource.IsThere.mono {source : RandomSource} (h : source.IsThere n g)
    (hg : g.states.length ≤ g'.states.length) : source.IsThere n g' := by
  cases source with
  | generator i => exact Nat.lt_of_lt_of_le h hg
  | rowSeed => exact h

/-! ### Meanings -/

namespace Meaning

/-- The meaning has a result for every row of a chunk and stays in bounds. -/
structure IsBounded (Q : Generators → Prop) (m : Meaning) : Prop where
  label : ∀ c, m.label () = .error c → c ≠ .outOfBounds
  row : ∀ r k, Eval.Meets Q (fun _ => True) (m.row r k)
  column : ∀ t input, Eval.Meets Q (·.size = input.rowCount) (m.column t input)

namespace IsBounded

variable {Q : Generators → Prop} {x y : Meaning} {ms : List Meaning}

theorem leaf {label : Unit → Except Fault String} {value : Row → Except Failure Value}
    {column : Chunk → Except Failure Column} (hl : ∀ c, label () = .error c → c ≠ .outOfBounds)
    (hv : ∀ r f, value r = .error f → f.isInBounds)
    (hc : ∀ input c, column input = .ok c → c.size = input.rowCount)
    (hf : ∀ input f, column input = .error f → f.isInBounds) :
    (Meaning.leaf label value column).IsBounded Q where
  label := hl
  row r k := by
    refine .lift (fun _ _ => trivial) fun f h => ?_
    obtain h | ⟨v, -, h⟩ := bind_error_iff.1 h
    · exact hv r f h
    · exact Value.as_inBounds h
  column _ input := .lift (hc input) (hf input)

theorem buffer (h : x.IsBounded Q) (t : Category) (input : Chunk) :
    Eval.Meets Q (·.HasSlots t input.rowCount) (x.buffer t input) := by
  refine (h.column t input).bind fun c hc => .lift (fun b hb => ?_) fun f hf => ?_
  · exact hc ▸ Buffer.HasSlots.of_fill hb
  · exact Failure.isInBounds_of_isOfColumn (Buffer.fill_isOfColumn hf)

theorem buffers₂ (hx : x.IsBounded Q) (hy : y.IsBounded Q) (t : Category) (input : Chunk) :
    Eval.Meets Q (fun p => p.1.HasSlots t input.rowCount ∧ p.2.HasSlots t input.rowCount)
      (x.buffers₂ y t input) :=
  (hx.buffer t input).bind fun _ ha => (hy.buffer t input).bind fun _ hb => .pure ⟨ha, hb⟩

/-- The failure of an operation on operands is in bounds. -/
theorem inBounds (hx : x.IsBounded Q) (hy : y.IsBounded Q) (h : FailsAtLabels [x, y] f) :
    f.isInBounds := by
  cases f with
  | error => rfl
  | fault c =>
    obtain ⟨m, hmem, hl⟩ := h.2 c rfl
    have hm : ∀ m ∈ [x, y], m.IsBounded Q :=
      List.forall_mem_cons.2 ⟨hx, List.forall_mem_singleton.2 hy⟩
    have hc := (hm m hmem).label c hl
    cases c with
    | outOfBounds => exact absurd rfl hc
    | _ => rfl

end IsBounded

end Meaning

namespace Evaluation

open Meaning

variable {Q : Generators → Prop} {x y : Meaning} {ms : List Meaning} {r : Row} {input : Chunk}

/-! ### Rows -/

section Rows

variable (hx : x.IsBounded Q) (hy : y.IsBounded Q)

include hx

theorem unaryRow_meets (k k' : Kind) (f : k.Item → k'.Item) :
    Eval.Meets Q (fun _ => True) (do return (← x.row r k).map f : Eval (Option k'.Item)) :=
  (hx.row r k).bind fun _ _ => .pure trivial

include hy

theorem intRow_meets (op : ArithOp) (u : Bool) :
    Eval.Meets Q (fun _ => True) (intRow op u x y r) := by
  refine (hx.row r .int).bind fun a _ => ?_
  cases a with
  | none => exact .pure trivial
  | some a =>
    refine (hy.row r .int).bind fun b _ => ?_
    cases b with
    | none => exact .pure trivial
    | some b => exact .lift (fun _ _ => trivial) fun e he => hx.inBounds hy (intResult_error he)

theorem realRow_meets {f : Binary64 → Binary64 → Except Failure (Option Binary64)}
    (hf : ∀ a b e, f a b = .error e → FailsAtLabels [x, y] e) :
    Eval.Meets Q (fun _ => True) (realRow f x y r) := by
  refine (hx.row r .real).bind fun a _ => ?_
  cases a with
  | none => exact .pure trivial
  | some a =>
    refine (hy.row r .real).bind fun b _ => ?_
    cases b with
    | none => exact .pure trivial
    | some b => exact .lift (fun _ _ => trivial) fun e he => hx.inBounds hy (hf a b e he)

theorem compareRow_meets (s : CompareSignature) :
    Eval.Meets Q (fun _ => True) (compareRow s x y r) := by
  cases s with
  | int => exact (hx.row r .int).bind fun _ _ => (hy.row r .int).bind fun _ _ => .pure trivial
  | text => exact (hx.row r .text).bind fun _ _ => (hy.row r .text).bind fun _ _ => .pure trivial
  | real => exact (hx.row r .real).bind fun _ _ => (hy.row r .real).bind fun _ _ => .pure trivial

end Rows

theorem concatRow_meets (h : ∀ m ∈ ms, m.IsBounded Q) (acc : String) :
    Eval.Meets Q (fun _ => True) (concatRow acc r ms) := by
  induction ms generalizing acc with
  | nil => exact .pure trivial
  | cons m ms ih =>
    obtain ⟨hm, hms⟩ := List.forall_mem_cons.1 h
    refine (hm.row r .text).bind fun a _ => ?_
    cases a with
    | none => exact .pure trivial
    | some s => exact ih hms (acc ++ s)

/-! ### Random numbers -/

section Random

variable (hQ : Generators.IsOfSize Q) (hm : ∀ m ∈ ms, m.IsBounded Q) {source : RandomSource}
  (hs : ∀ g, Q g → source.IsThere ms.length g)

include hQ hm hs

theorem randRow_meets : Eval.Meets Q (fun _ => True) (randRow source ms r) := by
  cases source with
  | generator i => exact Generators.draw_meets hQ hs
  | rowSeed =>
    cases ms with
    | nil =>
      -- The seed is missing, so that no generators are as they have to be.
      exact ⟨fun _ _ _ _ => trivial, fun _ hg => hg, fun g _ _ _ hg => nomatch hs g hg⟩
    | cons x ms => exact ((hm x (by simp)).row r .int).bind fun _ _ => Generators.drawSeeded_meets _

end Random

/-! ### Chunks -/

theorem mapM_rows_meets {f : Row → Eval α} (h : ∀ r, Eval.Meets Q (fun _ => True) (f r)) :
    Eval.Meets Q (·.length = input.rowCount) (input.rows.mapM f) := by
  refine (Eval.Meets.mapM fun r _ => h r).mono fun xs hx => ?_
  rw [hx.1, input.length_rows]

section Chunks

variable (hx : x.IsBounded Q) (hy : y.IsBounded Q)

include hx hy

theorem intColumn_meets (op : ArithOp) (u : Bool) :
    Eval.Meets Q (·.size = input.rowCount) (intColumn op u x y input) :=
  (hx.buffers₂ hy .int input).bind fun _ h => h.1.int64s.bind fun _ ha =>
    h.2.int64s.bind fun _ hb =>
      (zipSlots_meets (fun _ _ _ he => hx.inBounds hy (intResult_error he)) ha hb).bind
        fun _ hn => .pure hn

theorem realColumn_meets {f : Binary64 → Binary64 → Except Failure (Option Binary64)}
    (hf : ∀ a b e, f a b = .error e → FailsAtLabels [x, y] e) :
    Eval.Meets Q (·.size = input.rowCount) (realColumn f x y input) :=
  (hx.buffers₂ hy .real input).bind fun _ h => h.1.float64s.bind fun _ ha =>
    h.2.float64s.bind fun _ hb =>
      (zipSlots_meets (fun a b e he => hx.inBounds hy (hf a b e he)) ha hb).bind
        fun _ hn => .pure hn

theorem comparisonColumn_meets (op : CompareOp) (s : CompareSignature) :
    Eval.Meets Q (·.size = input.rowCount) (comparisonColumn op s x y input) := by
  have hcompared {α : Type} (order : α → α → Ordering) {as bs : List (Option α)}
      (ha : as.length = input.rowCount) (hb : bs.length = input.rowCount) :
      (comparedColumn op order as bs).size = input.rowCount := by
    rw [comparedColumn, Column.size, List.length_zipWith, ha, hb, Nat.min_self]
  unfold comparisonColumn
  split
  · exact (hx.buffers₂ hy .int input).bind fun _ h => h.1.int64s.bind fun _ ha =>
      h.2.int64s.bind fun _ hb => .pure (hcompared _ ha hb)
  · refine (mapM_rows_meets fun r => compareRow_meets hx hy _).bind fun orders hn => .pure ?_
    rw [Column.size, List.length_map, hn]
  · exact (hx.buffers₂ hy .text input).bind fun _ h => h.1.strings.bind fun _ ha =>
      h.2.strings.bind fun _ hb => .pure (hcompared _ ha hb)
  · exact (hx.buffers₂ hy .real input).bind fun _ h => h.1.float64s.bind fun _ ha =>
      h.2.float64s.bind fun _ hb => .pure (hcompared _ ha hb)

end Chunks

theorem lengthColumn_meets (hx : x.IsBounded Q) :
    Eval.Meets Q (·.size = input.rowCount) (lengthColumn x input) := by
  refine (hx.buffer .text input).bind fun _ h => h.strings.bind fun as ha => .pure ?_
  split <;> simp [Column.size, ha]

theorem mapTextColumn_meets (hx : x.IsBounded Q) (f : String → String) :
    Eval.Meets Q (·.size = input.rowCount) (mapTextColumn f x input) :=
  (hx.buffer .text input).bind fun _ h => h.strings.bind fun _ ha =>
    .pure ((List.length_map _).trans ha)

theorem secToTimeColumn_meets (hx : x.IsBounded Q) :
    Eval.Meets Q (·.size = input.rowCount) (secToTimeColumn x input) := by
  have herror (n : Int64) (f : Failure) (h : secondsToNanos n = .error f) : f.isInBounds := by
    unfold secondsToNanos at h
    split at h
    · cases h
    · cases h
      rfl
  refine (hx.buffer .int input).bind fun _ h => h.int64s.bind fun as ha => ?_
  refine .bind (p := (·.length = input.rowCount)) (.lift (fun xs hm => ?_) fun f hf => ?_)
    fun xs hn => .pure hn
  · exact (mapM_ok_iff.1 hm).length_eq.symm.trans ha
  · obtain ⟨before, a, after, -, -, h⟩ := mapM_error_iff.1 hf
    cases a with
    | none => cases h
    | some n => exact herror n f (map_error_iff.1 h)

/-- All columns that are joined have a slot for each row. -/
theorem concatColumn_meets (hm : ∀ m ∈ ms, m.IsBounded Q) :
    Eval.Meets Q (·.size = input.rowCount) (concatColumn ms input) := by
  refine (Eval.Meets.mapM fun m h => (hm m h).buffer .text input).bind fun bufs hb => ?_
  rw [← Eval.mapM_lift]
  refine (Eval.Meets.mapM fun b h => (hb.2 b h).strings).bind fun columns hc => ?_
  rw [mapM_slots_eq (fun i xs a h => by rw [h]) hc.2]
  refine .pure ?_
  rw [Column.size, List.length_map, slotRows, List.length_map, List.length_range]

/-! ### Calls -/

section Calls

variable {head : CallHead} {args : List Meaning} (hn : head.IsNative args.length)
  (hQ : Generators.IsOfSize Q) (hm : ∀ m ∈ args, m.IsBounded Q)
  (hs : ∀ source, head.builtin = .rand source → ∀ g, Q g → source.IsThere args.length g)

include hn hQ hm hs

theorem callRow_meets (env : Env) (r : Row) (k : Kind) :
    Eval.Meets Q (fun _ => True) (callRow env head args r k) := by
  by_cases hk : head.builtin.rowKind? = some k
  case neg =>
    rw [callRow_refused hk]
    exact .error rfl
  obtain ⟨name, type, builtin, settings⟩ := head
  have harity := hn.arity
  cases builtin with
  | arithmetic op s =>
    obtain ⟨x, y, rfl, hx, hy⟩ := Arity.exists_pair harity hm
    cases s with
    | int u =>
      cases hk
      exact intRow_meets hx hy op u
    | real =>
      cases hk
      exact realRow_meets hx hy fun _ _ _ => finiteResult_error
  | divide =>
    obtain ⟨x, y, rfl, hx, hy⟩ := Arity.exists_pair harity hm
    cases hk
    exact realRow_meets hx hy fun _ _ _ => quotient_error
  | compare op s =>
    obtain ⟨x, y, rfl, hx, hy⟩ := Arity.exists_pair harity hm
    cases hk
    exact (compareRow_meets hx hy s).bind fun _ _ => .pure trivial
  | bitNeg =>
    obtain ⟨x, rfl, hx⟩ := Arity.exists_single harity hm
    cases hk
    exact unaryRow_meets hx .int .int _
  | concat =>
    cases hk
    exact concatRow_meets hm ""
  | lower | upper =>
    obtain ⟨x, rfl, hx⟩ := Arity.exists_single harity hm
    cases hk
    exact unaryRow_meets hx .text .text _
  | length =>
    obtain ⟨x, rfl, hx⟩ := Arity.exists_single harity hm
    cases hk
    exact unaryRow_meets hx .text .int _
  | rand source =>
    cases hk
    exact (randRow_meets hQ hm (hs source rfl)).bind fun _ _ => .pure trivial
  | unixTimestamp =>
    cases hk
    exact .pure trivial
  | now | secToTime => cases hk
  | fixed => simpa [Builtin.functionClass, FunctionClass.builtins] using hn.shipped

theorem callColumn_meets (env : Env) (t : Category) (input : Chunk) :
    Eval.Meets Q (·.size = input.rowCount) (callColumn env head args t input) := by
  by_cases ht : head.builtin.columnCategory? = some t
  case neg =>
    rw [callColumn_refused ht]
    exact .error rfl
  obtain ⟨name, type, builtin, settings⟩ := head
  have harity := hn.arity
  cases builtin with
  | arithmetic op s =>
    obtain ⟨x, y, rfl, hx, hy⟩ := Arity.exists_pair harity hm
    cases s with
    | int u =>
      cases ht
      exact intColumn_meets hx hy op u
    | real =>
      cases ht
      exact realColumn_meets hx hy fun _ _ _ => finiteResult_error
  | divide =>
    obtain ⟨x, y, rfl, hx, hy⟩ := Arity.exists_pair harity hm
    cases ht
    exact realColumn_meets hx hy fun _ _ _ => quotient_error
  | compare op s =>
    obtain ⟨x, y, rfl, hx, hy⟩ := Arity.exists_pair harity hm
    cases ht
    exact comparisonColumn_meets hx hy op s
  | bitNeg =>
    obtain ⟨x, rfl, hx⟩ := Arity.exists_single harity hm
    cases ht
    exact (hx.buffer .int input).bind fun _ h => h.int64s.bind fun _ ha =>
      .pure ((List.length_map _).trans ha)
  | concat =>
    cases ht
    exact concatColumn_meets hm
  | lower =>
    obtain ⟨x, rfl, hx⟩ := Arity.exists_single harity hm
    cases ht
    exact mapTextColumn_meets hx Text.lower
  | upper =>
    obtain ⟨x, rfl, hx⟩ := Arity.exists_single harity hm
    cases ht
    exact mapTextColumn_meets hx Text.upper
  | length =>
    obtain ⟨x, rfl, hx⟩ := Arity.exists_single harity hm
    cases ht
    exact lengthColumn_meets hx
  | rand source =>
    cases ht
    exact (mapM_rows_meets fun r => randRow_meets hQ hm (hs source rfl)).bind fun zs hz =>
      .pure ((List.length_map _).trans hz)
  | now | unixTimestamp =>
    cases ht
    exact .pure List.length_replicate
  | secToTime =>
    obtain ⟨x, rfl, hx⟩ := Arity.exists_single harity hm
    cases ht
    exact secToTimeColumn_meets hx
  | fixed => simpa [Builtin.functionClass, FunctionClass.builtins] using hn.shipped

end Calls

end Evaluation

/-! ### Trees -/

namespace Expr

variable {e : Expr} {head : CallHead} {args : List Expr} {memo : Memo} {g g' : Generators}
  {Q : Generators → Prop}

/-- All random numbers of the tree have where they come from. -/
def HasSources (e : Expr) (g : Generators) : Prop :=
  e.All fun
    | call head args _ => ∀ source, head.builtin = .rand source → source.IsThere args.length g
    | _ => True

theorem HasSources.mono (h : e.HasSources g) (hg : g.states.length ≤ g'.states.length) :
    e.HasSources g' := by
  apply h.imp
  intro e he
  cases e with
  | call head args memo => exact fun source hb => (he source hb).mono hg
  | column | outer | literal => trivial

theorem IsNative.isBounded (hn : e.IsNative) (hQ : Generators.IsOfSize Q)
    (hs : ∀ g, Q g → e.HasSources g) (env : Env) : (e.meaning env).IsBounded Q := by
  induction e with
  | column c =>
    refine .leaf (fun _ h => nomatch h) (fun _ _ => Row.get_inBounds) (fun input d h => ?_)
      fun input f h => ?_
    · have hd : standalone (((column c).meaning env).column .int input) = .ok d := h
      exact input.aligned _ (List.mem_of_getElem? (column_ok_iff.1 hd))
    · obtain ⟨_, -, rfl⟩ := mapError_error_iff.1 h
      rfl
  | outer c slot memo =>
    exact .leaf (fun _ h => nomatch h) (fun _ _ h => nomatch h) (fun _ _ => Value.broadcast_size)
      fun _ _ => Value.broadcast_inBounds
  | literal v t memo =>
    refine .leaf (fun c h => ?_) (fun _ _ h => nomatch h) (fun _ _ => Value.broadcast_size)
      fun _ _ => Value.broadcast_inBounds
    rw [Value.render_error h]
    nofun
  | call head args memo ih =>
    have hm : ∀ m ∈ args.map (·.meaning env), m.IsBounded Q := by
      intro m hm
      obtain ⟨e, he, rfl⟩ := List.mem_map.1 hm
      exact ih e he (hn.of_mem e he) fun g hg => (all_call.1 (hs g hg)).2 e he
    have hhead : head.IsNative (args.map (·.meaning env)).length := by
      rw [List.length_map]
      exact hn.of_head
    have hsource : ∀ source, head.builtin = .rand source → ∀ g, Q g →
        source.IsThere (args.map (·.meaning env)).length g := by
      intro source hb g hg
      rw [List.length_map]
      exact (all_call.1 (hs g hg)).1 source hb
    rw [meaning, meanings_eq_map]
    refine ⟨fun c h => ?_, Evaluation.callRow_meets hhead hQ hm hsource env,
      Evaluation.callColumn_meets hhead hQ hm hsource env⟩
    rw [render_error h]
    nofun

/-- What a call draws from is there once it is chosen, and what was there before stays. -/
theorem randomSource_isThere
    (h : (FunctionClass.randomSource args).run.run g = (.ok source, g')) :
    g.states.length ≤ g'.states.length ∧ source.IsThere args.length g' := by
  cases args with
  | nil =>
    cases h
    simp [RandomSource.IsThere]
  | cons seed args =>
    rw [FunctionClass.randomSource] at h
    split at h
    case isTrue =>
      obtain ⟨n, g₁, hn, h⟩ := Eval.exists_of_run_bind h
      obtain rfl : g = g₁ := congrArg Prod.snd hn
      cases h
      simp [RandomSource.IsThere]
    case isFalse =>
      cases h
      simp [RandomSource.IsThere]

theorem signature_isThere {c : FunctionClass} (h : (c.signature args).run.run g = (.ok b, g')) :
    g.states.length ≤ g'.states.length ∧
      ∀ source, b = .rand source → source.IsThere args.length g' := by
  cases c with
  | rand =>
    obtain ⟨source, g₁, hs, hb⟩ := Eval.exists_of_run_bind h
    cases hb
    obtain ⟨hg, hsource⟩ := randomSource_isThere hs
    exact ⟨hg, fun _ hb => by cases hb; exact hsource⟩
  | _ =>
    cases h
    exact ⟨Nat.le_refl _, nofun⟩

theorem newCall_hasSources {reg : FunctionRegistry} {s : Settings} {type : Option SqlType}
    (ha : ∀ e ∈ args, e.HasSources g)
    (h : (newCall reg s name type args).run.run g = (.ok e, g')) :
    g.states.length ≤ g'.states.length ∧ e.HasSources g' := by
  obtain ⟨c, t, b, -, -, hb, rfl⟩ := newCall_ok h
  obtain ⟨hg, hsource⟩ := signature_isThere hb
  exact ⟨hg, all_call.2 ⟨hsource, fun e he => (ha e he).mono hg⟩⟩

/-- A buffer that a tree of shipped builtins is evaluated into holds one slot for each row of the
chunk, in a column of its category, whatever it held before. No evaluation of a tree that was built
fails out of bounds. -/
theorem fillBuffer_hasSlots :
    (∀ s name type args g e g', (∀ a ∈ args, a.IsNative ∧ a.HasSources g) →
      (newCall .builtins s name type args).run.run g = (.ok e, g') →
      e.IsNative ∧ e.HasSources g' ∧ ∀ a : Expr, a.HasSources g → a.HasSources g') ∧
    ∀ e : Expr, e.IsNative → ∀ env input b g,
      (∀ filled g', (e.fillBuffer env input b).run.run g = (.ok filled, g') →
        filled.HasSlots b.category input.rowCount) ∧
      (e.HasSources g → ∀ r g', (e.fillBuffer env input b).run.run g = (r, g') →
        r ≠ .error (.fault .outOfBounds) ∧ ∀ a : Expr, a.HasSources g → a.HasSources g') := by
  constructor
  · intro s name type args g e g' ha h
    obtain ⟨hg, hsources⟩ := newCall_hasSources (fun a h => (ha a h).2) h
    exact ⟨newCall_isNative (fun a h => (ha a h).1) s name type g e g' h, hsources,
      fun a ha => ha.mono hg⟩
  · intro e he env input b g
    rw [fillBuffer_eq rfl]
    constructor
    · have hb : (e.meaning env).IsBounded fun _ => False :=
        he.isBounded (fun _ _ _ h => h) (fun _ h => h.elim) env
      exact (hb.buffer b.category input).returns g
    · intro hs r g' hr
      -- Evaluation keeps the number of generators.
      have hb : (e.meaning env).IsBounded fun g' => g'.states.length = g.states.length :=
        he.isBounded (fun _ _ hg h => hg.trans h) (fun g' hg => hs.mono (Nat.le_of_eq hg.symm)) env
      have hm := hb.buffer b.category input
      have hg' := hm.keeps g rfl
      rw [hr] at hg'
      refine ⟨?_, fun a ha => ha.mono (Nat.le_of_eq hg'.symm)⟩
      rintro rfl
      cases hm.inBounds g _ g' hr rfl

/-- Random numbers for two rows, in a buffer that held a single slot. -/
theorem fillBuffer_hasSlots_rand :
    let input : Chunk := ⟨[⟨.utf8, [some "ab", none]⟩], 2, List.forall_mem_singleton.2 rfl⟩
    let used : Buffer := ⟨.real, some ⟨.float64, [none]⟩, true⟩
    ∃ e g filled g', (newCall .builtins {} "rand" (some .double) []).run.run {} = (.ok e, g) ∧
      e.IsNative ∧ e.HasSources g ∧
      (e.fillBuffer {} input used).run.run g = (.ok filled, g') ∧ filled.HasSlots .real 2 := by
  intro input used
  let e := call ⟨.ofString "rand", .double, .rand (.generator 0), {}⟩ [] none
  let g := (Generators.addUnseeded.run {}).2
  have hl : FunctionRegistry.builtins.lookup "rand" = some .rand := by decide +kernel
  have hcall : (newCall .builtins {} "rand" (some .double) []).run.run {} = (.ok e, g) := by
    rw [newCall, hl]
    rfl
  obtain ⟨filled, g', hfill⟩ :
      ∃ filled g', (e.fillBuffer {} input used).run.run g = (.ok filled, g') := ⟨_, _, rfl⟩
  obtain ⟨hbuilt, hfilled⟩ := fillBuffer_hasSlots
  obtain ⟨hn, hs, -⟩ := hbuilt _ _ _ _ _ _ _ (List.forall_mem_nil _) hcall
  obtain ⟨hslots, -⟩ := hfilled e hn {} input used g
  exact ⟨e, g, filled, g', hcall, hn, hs, hfill, hslots filled g' hfill⟩

end Expr

end ScalarExpr
