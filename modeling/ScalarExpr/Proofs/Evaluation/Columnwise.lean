import ScalarExpr.Proofs.Evaluation.Agreement
/-!
When the evaluation of a chunk succeeds. A call takes its arguments as whole columns before it looks
at a row, so that an argument has to succeed also where the evaluation of the row would stop at a
NULL in front of it. Only a comparison of integers with an unsigned side goes row by row.
-/
namespace ScalarExpr.Expr

set_option autoImplicit true

/-- The trees that the evaluation of a chunk evaluates to columns. -/
inductive AsksColumn : Expr → Expr → Prop
  | root (e : Expr) : AsksColumn e e
  | argument {head : CallHead} {args : List Expr} {memo : Memo} {e x : Expr}
    (hb : head.builtin.comparesByRow = false) (he : e ∈ args) (h : AsksColumn e x) :
    AsksColumn (call head args memo) x

variable {e x : Expr} {env : Env} {input : Chunk} {k : Kind}

theorem AsksColumn.all {p : Expr → Prop} (hx : e.AsksColumn x) (h : e.All p) : x.All p := by
  induction hx with
  | root => exact h
  | argument hb he _ ih => exact ih ((all_call.1 h).2 _ he)

/-- The tree has a value for every row of the chunk. -/
def SucceedsOnRows (env : Env) (input : Chunk) (e : Expr) : Prop :=
  ∀ i < input.rowCount, ∃ v, e.value env (input.row i) = .ok v

theorem succeedsOnRows_iff (h : e.IsDeterministic) (g : Generators) :
    e.SucceedsOnRows env input ↔
      ∀ i < input.rowCount, ∃ v, (e.eval env (input.row i)).run.run g = (.ok v, g) := by
  refine forall₂_congr fun i _ => exists_congr fun v => ?_
  rw [h.eval_run]
  constructor
  · intro hv
    rw [hv]
  · intro hv
    exact congrArg Prod.fst hv

theorem IsConsistent.succeeds_of_slots {xs : List (Option k.Item)} (h : e.IsConsistent env input)
    (hk : e.type.category = k.category) (hs : e.slots env k input = .ok xs)
    (hx : e.AsksColumn x) : x.SucceedsOnRows env input := by
  induction hx generalizing k with
  | root e => exact fun i hi => ⟨_, (h.gives hk hs hi).value⟩
  | @argument head args memo e x hb he _ ih =>
    obtain ⟨o, ho, rfl⟩ := h.exists_operation hk
    obtain ⟨hc, hk⟩ := h.of_call ho e he
    rw [slots_call h.isDeterministic ho env input hb] at hs
    obtain ⟨xss, hxss, -⟩ := bind_ok_iff.1 hs
    obtain ⟨ys, -, hys⟩ := exists_left_of_forall₂ (mapM_ok_iff.1 hxss).flip he
    exact ih hc hk hys

theorem column_exists_slots {c : ColumnRef} (h : (column c).IsConsistent env input)
    (hk : c.type.category = k.category) : ∃ xs, (column c).slots env k input = .ok xs := by
  obtain ⟨d, hd, ht⟩ := h
  obtain ⟨xs, hx⟩ := Column.exists_slots_of_accepts (ht ▸ SqlType.accepts_columnType hk)
  exact ⟨xs, bind_ok_iff.2 ⟨d, column_ok_iff.2 hd, hx⟩⟩

theorem exists_slots_of_fits {v : Value} (hv : v.fits t) (hk : t.category = k.category) (n : Nat) :
    ∃ xs, (v.broadcast t n >>= (·.slots k)) = .ok xs := by
  obtain ⟨a, rfl⟩ := Value.eq_box_of_fits hv hk
  exact ⟨_, Kind.broadcast_box hk n a⟩

/-- Where the columns of the arguments are there, so is that of a call with a value for each row. -/
theorem exists_slots_of_args {o : Operation} (h : (call head args memo).IsConsistent env input)
    (ho : head.builtin.operation? head.settings = some o)
    (hb : head.builtin.comparesByRow = false)
    (ha : ∀ e ∈ args, ∃ xs, e.slots env o.operand input = .ok xs)
    (hr : ∀ i < input.rowCount, ∃ a,
      (call head args memo).result env (input.row i) o.result = .ok a) :
    ∃ xs, (call head args memo).slots env o.result input = .ok xs := by
  have hdet := h.isDeterministic
  obtain ⟨xss, hxss⟩ := exists_mapM_ok ha
  rw [slots_call hdet ho env input hb, hxss]
  apply exists_mapM_ok
  intro row hrow
  obtain ⟨i, hi, rfl⟩ := List.mem_map.1 hrow
  rw [List.mem_range] at hi
  have hmem := forall₂_and_mem (mapM_ok_iff.1 hxss)
  rw [← hdet.result_of_slots ho (hmem.imp fun e xs hx =>
    (h.of_call ho e hx.1).1.gives (h.of_call ho e hx.1).2 hx.2 hi)]
  exact hr i hi

theorem IsConsistent.exists_slots (h : e.IsConsistent env input)
    (hk : e.type.category = k.category) (hx : ∀ x, e.AsksColumn x → x.SucceedsOnRows env input) :
    ∃ xs, e.slots env k input = .ok xs := by
  induction e generalizing k with
  | column c => exact column_exists_slots h hk
  | outer c slot memo => exact exists_slots_of_fits h hk _
  | literal v t memo => exact exists_slots_of_fits h hk _
  | call head args memo ih =>
    obtain ⟨o, ho, rfl⟩ := h.exists_operation hk
    have hr : ∀ i < input.rowCount, ∃ a,
        (call head args memo).result env (input.row i) o.result = .ok a := by
      intro i hi
      obtain ⟨v, hv⟩ := hx _ (.root _) i hi
      rw [value_call (Category.kind?_eq_some_iff.2 hk), map_ok_iff] at hv
      obtain ⟨a, ha, -⟩ := hv
      exact ⟨a, ha⟩
    -- Compared row by row, the call needs its own values alone, and no column of an argument.
    cases hb : head.builtin.comparesByRow with
    | true =>
      rw [slots_byRow h.isDeterministic ho env input hb]
      apply exists_mapM_ok
      intro r hmem
      obtain ⟨i, hi, rfl⟩ := List.mem_map.1 hmem
      exact hr i (List.mem_range.1 hi)
    | false =>
      apply exists_slots_of_args h ho hb _ hr
      intro e he
      obtain ⟨hc, hk⟩ := h.of_call ho e he
      exact ih e he hc hk fun x hask => hx x (.argument hb he hask)

/-- The evaluation of a chunk succeeds if and only if every tree that it evaluates to a column has a
value for every row. -/
theorem IsConsistent.fillBuffer_succeeds_iff {b : Buffer} (h : e.IsConsistent env input)
    (hk : e.type.category = k.category) (hb : b.category = e.type.category) (g : Generators) :
    (∃ filled, (e.fillBuffer env input b).run.run g = (.ok filled, g)) ↔
      ∀ x, e.AsksColumn x → ∀ i < input.rowCount, ∃ v,
        (x.eval env (input.row i)).run.run g = (.ok v, g) := by
  have hd := h.isDeterministic
  have hrows : (∀ x, e.AsksColumn x → x.SucceedsOnRows env input) ↔
      ∀ x, e.AsksColumn x → ∀ i < input.rowCount, ∃ v,
        (x.eval env (input.row i)).run.run g = (.ok v, g) :=
    forall₂_congr fun x hx => succeedsOnRows_iff (hx.all hd) g
  rw [hd.fillBuffer_run_ok_iff (hb.trans hk), ← hrows]
  constructor
  · intro h'
    obtain ⟨xs, hs⟩ := h'
    exact fun x hx => h.succeeds_of_slots hk hs hx
  · exact h.exists_slots hk

theorem isConsistent_sum_of_sum (hn : input.columns[0]? = some ⟨.int64, ns⟩)
    (hm : input.columns[1]? = some ⟨.int64, ms⟩) :
    let n := column ⟨1, 0, .bigint, "n", none⟩
    let m := column ⟨2, 1, .bigint, "m", none⟩
    let plus := (Builtin.arithmetic .plus (.int false)).toCall
    (plus [n, plus [m, literal (.int 1) .bigint none]]).IsConsistent env input := by
  intro n m plus
  have hone : Value.fits .bigint (.int 1) := by decide
  have hpair {x y : Expr} (hx : x.type.category = .int) (hy : y.type.category = .int) (k : Kind)
      (hk : (Builtin.arithmetic .plus (.int false)).operandKind? = some k) :
      ∀ e ∈ [x, y], e.type.category = k.category := by
    cases hk
    exact List.forall_mem_cons.2 ⟨hx, List.forall_mem_singleton.2 hy⟩
  exact ⟨⟨⟨rfl, rfl, rfl⟩, hpair rfl rfl⟩, ⟨_, hn, rfl⟩,
    ⟨⟨⟨rfl, rfl, rfl⟩, hpair rfl rfl⟩, ⟨_, hm, rfl⟩, hone, trivial⟩, trivial⟩

/-- The sum that is an argument is there for both rows, although the first row does not look at
it. -/
theorem IsConsistent.fillBuffer_succeeds_iff_sum :
    let n := column ⟨1, 0, .bigint, "n", none⟩
    let m := column ⟨2, 1, .bigint, "m", none⟩
    let plus := (Builtin.arithmetic .plus (.int false)).toCall
    let e := plus [n, plus [m, literal (.int 1) .bigint none]]
    let input : Chunk := ⟨[⟨.int64, [none, some 2]⟩, ⟨.int64, [some 3, some 4]⟩], 2,
      List.forall_mem_cons.2 ⟨rfl, List.forall_mem_singleton.2 rfl⟩⟩
    e.IsConsistent {} input ∧
      (∃ filled, (e.fillBuffer {} input (.empty .int)).run.run {} = (.ok filled, {})) ∧
      ∀ x, e.AsksColumn x → ∀ i < 2, ∃ v,
        (x.eval {} (input.row i)).run.run {} = (.ok v, {}) := by
  intro n m plus e input
  have hc : e.IsConsistent {} input := isConsistent_sum_of_sum rfl rfl
  have hf : ∃ filled, (e.fillBuffer {} input (.empty .int)).run.run {} = (.ok filled, {}) :=
    ⟨_, rfl⟩
  exact ⟨hc, hf, (hc.fillBuffer_succeeds_iff (k := .int) rfl rfl {}).1 hf⟩

/-- The only row stops at NULL, but the chunk fails at the sum behind it. -/
theorem IsConsistent.fillBuffer_fails_sum :
    let n := column ⟨1, 0, .bigint, "n", none⟩
    let m := column ⟨2, 1, .bigint, "m", none⟩
    let plus := (Builtin.arithmetic .plus (.int false)).toCall
    let e := plus [n, plus [m, literal (.int 1) .bigint none]]
    let input : Chunk := ⟨[⟨.int64, [none]⟩, ⟨.int64, [some 9223372036854775807]⟩], 1,
      List.forall_mem_cons.2 ⟨rfl, List.forall_mem_singleton.2 rfl⟩⟩
    e.IsConsistent {} input ∧
      (∀ i < 1, (e.eval {} (input.row i)).run.run {} = (.ok .null, {})) ∧
      (e.fillBuffer {} input (.empty .int)).run.run {} =
        (.error (.error (.outOfRange "BIGINT" "(m + 1)")), {}) := by
  intro n m plus e input
  refine ⟨isConsistent_sum_of_sum rfl rfl, fun i hi => ?_, rfl⟩
  obtain rfl := Nat.lt_one_iff.1 hi
  rfl

end ScalarExpr.Expr
