import ScalarExpr.Proofs.Evaluation.Columns
/-!
Evaluation of trees of deterministic builtins for chunks. There is a result for every row, and the
results of a call are those of its operation on the rows of its arguments.
-/
namespace ScalarExpr

set_option autoImplicit true

/-- A column of one value is NULL everywhere or the same item everywhere. -/
theorem Value.broadcast_cases {v : Value} (h : v.broadcast t n = .ok c) :
    c = .nulls t.columnType n ∨
      ∃ type item, c = .filled type n item ∧ (type = .uint64 → t.isUnsigned) := by
  unfold broadcast at h
  split at h
  case isTrue =>
    cases h
    exact .inl rfl
  case isFalse =>
    right
    split at h
    case h_1 =>
      obtain ⟨i, -, h⟩ := bind_ok_iff.1 h
      cases h
      by_cases hu : t.isUnsigned
      · rw [if_pos hu]
        exact ⟨_, _, rfl, fun _ => hu⟩
      · rw [if_neg hu]
        exact ⟨_, _, rfl, nofun⟩
    case h_2 | h_3 =>
      obtain ⟨a, -, h⟩ := bind_ok_iff.1 h
      cases h
      exact ⟨_, _, rfl, nofun⟩
    case h_4 =>
      split at h
      · obtain ⟨-, -, h⟩ := bind_ok_iff.1 h
        cases h
        exact ⟨_, _, rfl, nofun⟩
      · cases h
    case h_5 | h_6 =>
      split at h
      · cases h
        exact ⟨_, _, rfl, nofun⟩
      · cases h

theorem Value.broadcast_size {v : Value} (h : v.broadcast t n = .ok c) : c.size = n := by
  obtain rfl | ⟨type, item, rfl, -⟩ := broadcast_cases h
  · exact List.length_replicate
  · exact List.length_replicate

theorem Builtin.columnCategory?_ne {b : Builtin} (hb : b.isDeterministic)
    (hk : b.rowKind? ≠ some k) : b.columnCategory? ≠ some k.category := by
  intro hc
  cases b with
  | arithmetic op signature =>
    cases signature <;> cases k <;> first | exact hk rfl | cases hc
  | rand | now | unixTimestamp | fixed => cases hb
  | _ => cases k <;> first | exact hk rfl | cases hc

namespace Expr

variable {e : Expr} {head : CallHead} {args : List Expr} {memo : Memo} {k : Kind}

/-- The results for a chunk where there are no generators. -/
def slots (e : Expr) (env : Env) (k : Kind) (input : Chunk) :
    Except Failure (List (Option k.Item)) :=
  (e.meaning env).slots k input

theorem slots_refused (hb : head.builtin.isDeterministic) (hk : head.builtin.rowKind? ≠ some k)
    (env : Env) (input : Chunk) :
    (call head args memo).slots env k input =
      .error (.error (.noEvaluator head.builtin.name (Builtin.columnEvaluator k.category))) := by
  have hc := Evaluation.callColumn_refused (Builtin.columnCategory?_ne hb hk) env
    (meanings env args) input
  rw [slots, meaning, Meaning.slots]
  show standalone (Evaluation.callColumn env head _ _ input) >>= _ = _
  rw [hc]
  rfl

theorem isAligned_of_size {m : Meaning}
    (h : ∀ k c, standalone (m.column k input) = .ok c → c.size = input.rowCount) :
    m.IsAligned input := by
  intro k xs hx
  obtain ⟨c, hc, hx⟩ := bind_ok_iff.1 hx
  rw [(Column.converts_slots c k).length xs hx, h _ _ hc]

section Call

variable {o : Operation} (h : (call head args memo).IsDeterministic)
  (ho : head.builtin.operation? head.settings = some o) (env : Env) (input : Chunk)

include h ho

theorem slots_call_of_aligned (hb : head.builtin.comparesByRow = false)
    (ha : ∀ e ∈ args, (e.meaning env).IsAligned input) :
    (call head args memo).slots env o.result input =
      args.mapM (·.slots env o.operand input) >>= fun xss =>
        o.runRows (args.map (·.meaning env)) (slotRows input.rowCount xss) := by
  have hm : ∀ m ∈ args.map (·.meaning env), m.IsSteady ∧ m.IsAligned input := by
    intro m hm
    obtain ⟨e, he, rfl⟩ := List.mem_map.1 hm
    exact ⟨(h.of_mem e he).meaning env, ha e he⟩
  have hc := Evaluation.callSlots_eq ho (h.arity_of_call env) hb hm env
    fun _ => (call head args memo).render
  rw [List.mapM_map, ← meanings_eq_map] at hc
  rw [← meanings_eq_map]
  exact hc

theorem slots_byRow (hb : head.builtin.comparesByRow) :
    (call head args memo).slots env o.result input =
      input.rows.mapM fun r => (call head args memo).result env r o.result := by
  have hc := Evaluation.callSlots_byRow ho (h.arity_of_call env) hb (h.steady_of_call env) env
    (fun _ => (call head args memo).render) input
  rw [← meanings_eq_map] at hc
  apply hc.trans
  apply mapM_congr
  intro r _
  rw [h.result_call ho, meanings_eq_map, List.map_map]
  rfl

end Call

theorem column_ok_iff {c : ColumnRef} :
    standalone (((column c).meaning env).column t input) = .ok d ↔
      input.columns[c.index]? = some d := by
  show (input.column c.index).mapError Failure.error = .ok d ↔ _
  unfold Chunk.column
  cases input.columns[c.index]? <;> simp [Except.mapError]

theorem IsDeterministic.isAligned (h : e.IsDeterministic) (env : Env) (input : Chunk) :
    (e.meaning env).IsAligned input := by
  induction e with
  | column c =>
    apply isAligned_of_size
    intro _ d hd
    exact input.aligned _ (List.mem_of_getElem? (column_ok_iff.1 hd))
  | outer c slot memo => exact isAligned_of_size fun _ _ => Value.broadcast_size
  | literal v t memo => exact isAligned_of_size fun _ _ => Value.broadcast_size
  | call head args memo ih =>
    intro k xs hx
    by_cases hk : head.builtin.rowKind? = some k
    · obtain ⟨o, ho, rfl⟩ := Builtin.exists_operation h.of_head.builtin hk head.settings
      cases hb : head.builtin.comparesByRow with
      | true =>
        have hr := (slots_byRow h ho env input hb).symm.trans hx
        rw [← (mapM_ok_iff.1 hr).length_eq]
        simp [Chunk.rows]
      | false =>
        have hr := (slots_call_of_aligned h ho env input hb fun e he =>
          ih e he (h.of_mem e he)).symm.trans hx
        obtain ⟨xss, -, hr⟩ := bind_ok_iff.1 hr
        rw [← (mapM_ok_iff.1 hr).length_eq]
        simp [slotRows]
    · have hx : (call head args memo).slots env k input = .ok xs := hx
      rw [slots_refused h.of_head.builtin hk] at hx
      cases hx

theorem slots_call {o : Operation} (h : (call head args memo).IsDeterministic)
    (ho : head.builtin.operation? head.settings = some o) (env : Env) (input : Chunk)
    (hb : head.builtin.comparesByRow = false) :
    (call head args memo).slots env o.result input =
      args.mapM (·.slots env o.operand input) >>= fun xss =>
        o.runRows (args.map (·.meaning env)) (slotRows input.rowCount xss) :=
  slots_call_of_aligned h ho env input hb fun e he => (h.of_mem e he).isAligned env input

/-- Evaluation into a buffer of the category of the results fails as the slots do. -/
theorem IsDeterministic.fillBuffer_cases {b : Buffer} (h : e.IsDeterministic)
    (hb : b.category = k.category) (env : Env) (input : Chunk) :
    ∃ r, e.fillBuffer env input b = Eval.lift r ∧
      ∀ f, r = .error f ↔ e.slots env k input = .error f := by
  obtain ⟨r, hr⟩ := (h.meaning env).column k.category input
  rw [fillBuffer, fillBy, hb, slots, Meaning.slots, hr]
  cases r with
  | error f' =>
    refine ⟨.error f', rfl, fun f => ?_⟩
    constructor
    · intro hf
      cases hf
      rfl
    · intro hf
      cases hf
      rfl
  | ok c => exact ⟨b.fill c, rfl, fun f => Column.fill_error_iff hb⟩

theorem IsDeterministic.fillBuffer_run_error_iff {b : Buffer} (h : e.IsDeterministic)
    (hb : b.category = k.category) :
    (∃ g', (e.fillBuffer env input b).run.run g = (.error f, g')) ↔
      e.slots env k input = .error f := by
  obtain ⟨r, hr, hf⟩ := h.fillBuffer_cases hb env input
  rw [hr, Eval.run_lift, ← hf]
  constructor
  · intro h
    obtain ⟨g', hg⟩ := h
    exact congrArg Prod.fst hg
  · intro hr
    exact ⟨g, congrArg (·, g) hr⟩

theorem IsDeterministic.fillBuffer_run_ok_iff {b : Buffer} (h : e.IsDeterministic)
    (hb : b.category = k.category) :
    (∃ filled, (e.fillBuffer env input b).run.run g = (.ok filled, g)) ↔
      ∃ xs, e.slots env k input = .ok xs := by
  obtain ⟨r, hr, hf⟩ := h.fillBuffer_cases hb env input
  rw [hr, Eval.run_lift]
  cases r with
  | error f =>
    have hs := (hf f).1 rfl
    constructor
    · intro h
      obtain ⟨filled, h⟩ := h
      cases h
    · intro h
      obtain ⟨xs, h⟩ := h
      cases hs.symm.trans h
  | ok filled =>
    cases hs : e.slots env k input with
    | error f => cases (hf f).2 hs
    | ok xs => exact ⟨fun _ => ⟨xs, rfl⟩, fun _ => ⟨filled, rfl⟩⟩

theorem IsDeterministic.exists_slots_of_fill {b filled : Buffer} (h : e.IsDeterministic)
    (hb : b.category = k.category)
    (hf : (e.fillBuffer env input b).run.run g = (.ok filled, g')) :
    ∃ xs, e.slots env k input = .ok xs := by
  obtain ⟨r, hr, -⟩ := h.fillBuffer_cases hb env input
  have hg : g' = g := by
    rw [hr, Eval.run_lift] at hf
    exact (congrArg Prod.snd hf).symm
  subst hg
  exact (h.fillBuffer_run_ok_iff hb).1 ⟨filled, hf⟩

/-- Evaluation for the chunk fills every buffer for results of the kind with these. -/
def Fills (env : Env) (input : Chunk) (k : Kind) (e : Expr) (xs : List (Option k.Item)) : Prop :=
  ∀ b : Buffer, b.category = k.category →
    ∃ filled, e.fillBuffer env input b = pure filled ∧ filled.slots k = .ok xs

theorem IsDeterministic.fills_iff {xs : List (Option k.Item)} (h : e.IsDeterministic) :
    e.Fills env input k xs ↔ e.slots env k input = .ok xs := by
  obtain ⟨f, hb, hs⟩ | ⟨filled, ys, hb, hf, hs⟩ := (h.meaning env).buffer_cases k input
  · have hs : e.slots env k input = .error f := hs
    rw [hs]
    refine ⟨fun h => ?_, nofun⟩
    obtain ⟨filled, hfill, -⟩ := h (.empty k.category) rfl
    rw [fillBuffer_eq rfl] at hfill
    cases Eval.lift_inj.1 (hb.symm.trans hfill)
  · have hs : e.slots env k input = .ok ys := hs
    rw [hs]
    constructor
    · intro h
      obtain ⟨filled', hfill, hf'⟩ := h (.empty k.category) rfl
      rw [fillBuffer_eq rfl] at hfill
      obtain rfl := Eval.pure_inj.1 (hb.symm.trans hfill)
      exact hf.symm.trans hf'
    · intro h b hk
      cases h
      exact ⟨filled, (fillBuffer_eq hk e env input).trans hb, hf⟩

end Expr

end ScalarExpr
