import ScalarExpr.Proofs.Evaluation.Chunks
/-!
Agreement of rows and columns. On trees in which every argument is of the category that its call
asks for, what the evaluation of a chunk gives for a row is the value of the row.
-/
namespace ScalarExpr

set_option autoImplicit true

/-- NULL, or a value of the kind that the type says; the sign of an integer is that of its type. -/
def Value.fits (t : SqlType) : Value → Bool
  | null => true
  | int _ => t.category = .int && !t.isUnsigned
  | uint _ => t.category = .int && t.isUnsigned
  | real _ => t.category = .real
  | text _ => t.category = .text
  | decimal _ _ => t.category = .decimal
  | datetime _ => t.category = .datetime
  | duration _ => t.category = .duration

theorem Value.eq_box_of_fits {v : Value} {k : Kind} (hv : v.fits t) (hk : t.category = k.category) :
    ∃ a, v = k.box t a := by
  cases v with
  | null => exact ⟨none, by cases k <;> rfl⟩
  | int n =>
    cases k with
    | int =>
      refine ⟨some n, ?_⟩
      simp only [fits, Bool.and_eq_true, Bool.not_eq_true'] at hv
      rw [Kind.box, if_neg (by simp [hv.2])]
    | real | text => simp [fits, hk, Kind.category] at hv
  | uint n =>
    cases k with
    | int =>
      refine ⟨some n.toInt64, ?_⟩
      simp only [fits, Bool.and_eq_true] at hv
      rw [Kind.box, if_pos hv.2, UInt64.toUInt64_toInt64]
    | real | text => simp [fits, hk, Kind.category] at hv
  | real x =>
    cases k with
    | real => exact ⟨some x, rfl⟩
    | int | text => simp [fits, hk, Kind.category] at hv
  | text s =>
    cases k with
    | text => exact ⟨some s, rfl⟩
    | int | real => simp [fits, hk, Kind.category] at hv
  | decimal | datetime | duration => cases k <;> simp [fits, hk, Kind.category] at hv

namespace Column

theorem readSlot_eq {xs : List (Option α)} (hi : i < xs.length) (f : α → Except Failure Value) :
    readSlot xs i f = (xs.getD i none).elim (.ok .null) f := by
  rw [readSlot, List.getD_eq_getElem?_getD, List.getElem?_eq_getElem hi]
  cases xs[i] <;> rfl

/-- A column that buffers hold as it is reads as its slots. -/
theorem read_of_accepts {d : Column} {k : Kind} {xs : List (Option k.Item)}
    (ha : k.category.accepts d.type) (hd : d.slots k = .ok xs)
    (hu : d.type = .uint64 → t.isUnsigned) (hi : i < xs.length) :
    d.read i t = .ok (k.box t (xs.getD i none)) := by
  obtain ⟨type, items⟩ := d
  cases k with
  | int =>
    cases type with
    | int64 =>
      cases hd
      rw [read, readSlot_eq hi]
      cases xs.getD i none with
      | none => rfl
      | some n =>
        by_cases ht : t.isUnsigned <;> simp [Kind.box, ht]
    | uint64 =>
      cases hd
      rw [List.length_map] at hi
      rw [read, readSlot_eq hi]
      have hg : (items.map (·.map UInt64.toInt64)).getD i none =
          (items.getD i none).map UInt64.toInt64 := by
        simp [hi]
      rw [hg]
      cases items.getD i none with
      | none => rfl
      | some n => simp [Kind.box, hu rfl]
    | _ => cases ha
  | real =>
    cases type with
    | float64 =>
      cases hd
      rw [read, readSlot_eq hi]
      cases xs.getD i none <;> rfl
    | _ => cases ha
  | text =>
    cases type with
    | utf8 =>
      cases hd
      rw [read, readSlot_eq hi]
      cases xs.getD i none <;> rfl
    | _ => cases ha

theorem cast_slots {c d : Column} {k : Kind} (ha : k.category.accepts c.type = false)
    (h : c.cast k.category = .ok d) :
    d.type = k.category.columnType ∧ d.slots k = c.slots k := by
  rw [slots_of_cast ha, h]
  cases k with
  | int | real | text =>
    obtain ⟨xs, -, hd⟩ := bind_ok_iff.1 h
    cases hd
    exact ⟨rfl, rfl⟩

end Column

theorem SqlType.accepts_columnType {t : SqlType} {k : Kind} (h : t.category = k.category) :
    k.category.accepts t.columnType := by
  unfold columnType
  cases k with
  | int =>
    rw [h]
    dsimp only [Kind.category]
    split <;> rfl
  | real | text =>
    rw [h]
    rfl

theorem SqlType.isUnsigned_of_columnType {t : SqlType} (h : t.columnType = .uint64) :
    t.isUnsigned := by
  unfold columnType at h
  cases hc : t.category with
  | int =>
    rw [hc] at h
    dsimp only at h
    split at h
    · assumption
    · cases h
  | real | decimal | text | datetime | duration =>
    rw [hc] at h
    cases h

theorem Column.slots_nulls {t : SqlType} {k : Kind} (h : t.category = k.category) (n : Nat) :
    (nulls t.columnType n).slots k = .ok (List.replicate n none) := by
  unfold SqlType.columnType
  cases k with
  | int =>
    rw [h]
    dsimp only [Kind.category]
    split
    · exact congrArg Except.ok List.map_replicate
    · rfl
  | real | text =>
    rw [h]
    rfl

/-- A column of one value has the result of that value everywhere. -/
theorem Kind.broadcast_box {t : SqlType} {k : Kind} (h : t.category = k.category) (n : Nat)
    (a : Option k.Item) :
    ((k.box t a).broadcast t n >>= (·.slots k)) = .ok (List.replicate n a) := by
  cases a with
  | none =>
    have hb : (k.box t none).broadcast t n = .ok (.nulls t.columnType n) := by cases k <;> rfl
    rw [hb]
    exact Column.slots_nulls h n
  | some a =>
    cases k with
    | int =>
      cases hu : t.isUnsigned with
      | true =>
        have hb : (Kind.int.box t (some a)).broadcast t n = .ok (.filled .uint64 n a.toUInt64) := by
          simp [box, Value.broadcast, Value.isNull, h, category, hu, Value.as, Value.asInt,
            Except.mapError]
        rw [hb]
        exact congrArg Except.ok List.map_replicate
      | false =>
        have hb : (Kind.int.box t (some a)).broadcast t n = .ok (.filled .int64 n a) := by
          simp [box, Value.broadcast, Value.isNull, h, category, hu, Value.as, Value.asInt,
            Except.mapError]
        rw [hb]
        rfl
    | real =>
      have hb : (Kind.real.box t (some a)).broadcast t n = .ok (.filled .float64 n a) := by
        simp [box, Value.broadcast, Value.isNull, h, category]
        rfl
      rw [hb]
      rfl
    | text =>
      have hb : (Kind.text.box t (some a)).broadcast t n = .ok (.filled .utf8 n a) := by
        simp [box, Value.broadcast, Value.isNull, h, category]
        rfl
      rw [hb]
      rfl

theorem Kind.accepts_columnType (k : Kind) : k.category.accepts k.category.columnType := by
  cases k <;> rfl

theorem Value.isUnsigned_of_broadcast {v : Value} (h : v.broadcast t n = .ok c)
    (hu : c.type = .uint64) : t.isUnsigned := by
  obtain rfl | ⟨type, item, rfl, ht⟩ := broadcast_cases h
  · exact SqlType.isUnsigned_of_columnType hu
  · exact ht hu

theorem Buffer.exists_slots_of_fill {b : Buffer} {k : Kind} (hb : b.category = k.category)
    (hf : b.fill c = .ok filled) : ∃ xs, c.slots k = .ok xs := by
  cases hs : c.slots k with
  | ok xs => exact ⟨xs, rfl⟩
  | error f =>
    have he := (Column.fill_error_iff hb).2 hs
    cases hf.symm.trans he

/-- A filled buffer reads as the slots of what it was filled with. -/
theorem Buffer.fill_read {b filled : Buffer} {k : Kind} {xs : List (Option k.Item)}
    (hf : b.fill c = .ok filled) (hb : b.category = k.category) (hs : c.slots k = .ok xs)
    (hu : c.type = .uint64 → t.isUnsigned) :
    ∃ d, filled.content = some d ∧
      ∀ i < xs.length, d.read i t = .ok (k.box t (xs.getD i none)) := by
  rw [fill_eq, hb] at hf
  split at hf
  case isTrue ha =>
    cases hf
    exact ⟨c, rfl, fun i hi => Column.read_of_accepts ha hs hu hi⟩
  case isFalse ha =>
    obtain ⟨d, hd, hf⟩ := bind_ok_iff.1 hf
    cases hf
    obtain ⟨ht, hds⟩ := Column.cast_slots (eq_false_of_ne_true ha) hd
    refine ⟨d, rfl, fun i hi => Column.read_of_accepts ?_ (hds.trans hs) ?_ hi⟩
    · rw [ht]
      exact k.accepts_columnType
    · rw [ht]
      cases k <;> exact nofun

namespace Evaluation

/-- No call gives unsigned integers for a chunk. -/
theorem callColumn_type (env : Env) (head : CallHead) (args : List Meaning) (c : Category)
    (input : Chunk) : (callColumn env head args c input).Returns (·.type ≠ .uint64) := by
  unfold callColumn
  split
  · exact .bind fun _ => .bind fun _ => .bind fun _ => .bind fun _ => .pure nofun
  · unfold comparisonColumn
    split
    · exact .bind fun _ => .bind fun _ => .bind fun _ => .pure nofun
    · exact .bind fun _ => .pure nofun
    · exact .bind fun _ => .bind fun _ => .bind fun _ => .pure nofun
    · exact .bind fun _ => .bind fun _ => .bind fun _ => .pure nofun
  · exact .bind fun _ => .bind fun _ => .pure nofun
  · refine .bind fun _ => .bind fun _ => .pure ?_
    split <;> exact nofun
  · exact .pure nofun
  · exact .bind fun _ => .bind fun _ => .bind fun _ => .bind fun _ => .pure nofun
  · exact .bind fun _ => .bind fun _ => .bind fun _ => .bind fun _ => .pure nofun
  · exact .bind fun _ => .pure nofun
  · exact .bind fun _ => .bind fun _ => .bind fun _ => .pure nofun
  · exact .bind fun _ => .bind fun _ => .pure nofun
  · exact .bind fun _ => .bind fun _ => .pure nofun
  · exact .pure nofun
  · exact .bind fun _ => .bind fun _ => .bind fun _ => .pure nofun
  · exact .error _ _

end Evaluation

/-- The kind of results that the builtin asks its arguments for. -/
def Builtin.operandKind? : Builtin → Option Kind
  | arithmetic _ (.int _) | bitNeg | secToTime => some .int
  | arithmetic _ .real | divide => some .real
  | compare _ s => some s.kind
  | concat | lower | upper | length => some .text
  | rand _ | now | unixTimestamp | fixed _ _ _ => none

theorem Builtin.operandKind?_of_operation? {b : Builtin} {o : Operation}
    (h : b.operation? s = some o) : b.operandKind? = some o.operand := by
  cases b with
  | arithmetic op signature => cases signature <;> (cases h; rfl)
  | rand | now | unixTimestamp | secToTime | fixed => cases h
  | _ => cases h; rfl

namespace Expr

variable {e : Expr} {env : Env} {input : Chunk} {k : Kind}

/-- Columns of the tree are there with the column type of their type, values fit their type, and
every argument is of the category of the results that its call asks for. -/
def IsConsistent (env : Env) (input : Chunk) (e : Expr) : Prop :=
  e.All fun
    | column c => ∃ d, input.columns[c.index]? = some d ∧ d.type = c.type.columnType
    | outer c slot _ => (env.slot slot).fits c.type
    | literal v t _ => v.fits t
    | call head args _ => head.IsDeterministic args.length ∧
        ∀ k, head.builtin.operandKind? = some k → ∀ e ∈ args, e.type.category = k.category

theorem IsConsistent.isDeterministic (h : e.IsConsistent env input) : e.IsDeterministic :=
  .of_all (fun _ _ _ hc => hc.1) h

section Call

variable {head : CallHead} {args : List Expr} {memo : Memo}

/-- The call asks its arguments for results of a kind, which is the category of each. -/
theorem IsConsistent.of_call {o : Operation} (h : (call head args memo).IsConsistent env input)
    (ho : head.builtin.operation? head.settings = some o) :
    ∀ e ∈ args, e.IsConsistent env input ∧ e.type.category = o.operand.category := by
  obtain ⟨⟨-, hc⟩, ha⟩ := all_call.1 h
  exact fun e he => ⟨ha e he, hc _ (Builtin.operandKind?_of_operation? ho) e he⟩

theorem IsConsistent.exists_operation (h : (call head args memo).IsConsistent env input)
    (hk : head.type.category = k.category) :
    ∃ o, head.builtin.operation? head.settings = some o ∧ o.result = k := by
  have hd := h.isDeterministic.of_head
  have hkind : head.type.category.kind? = some k := Category.kind?_eq_some_iff.2 hk
  exact Builtin.exists_operation hd.builtin (hd.kind?_eq.symm.trans hkind) head.settings

end Call

/-- What a tree gives for a row, as a result and as a value. -/
structure Gives (e : Expr) (env : Env) (r : Row) (k : Kind) (a : Option k.Item) : Prop where
  result : e.result env r k = .ok a
  value : e.value env r = .ok (k.box e.type a)

theorem gives_of_value {a : Option k.Item} (hl : e.result env r k = e.value env r >>= (·.as k))
    (hv : e.value env r = .ok (k.box e.type a)) : e.Gives env r k a where
  result := by
    rw [hl, hv]
    exact k.as_box _ a
  value := hv

theorem column_gives {c : ColumnRef} {xs : List (Option k.Item)}
    (hc : ∃ d, input.columns[c.index]? = some d ∧ d.type = c.type.columnType)
    (hk : c.type.category = k.category) (hs : (column c).slots env k input = .ok xs)
    (hi : i < input.rowCount) : (column c).Gives env (input.row i) k (xs.getD i none) := by
  obtain ⟨d, hd, ht⟩ := hc
  have hn : d.size = input.rowCount := input.aligned d (List.mem_of_getElem? hd)
  have hx : d.slots k = .ok xs := by
    obtain ⟨d', hd', hx⟩ := bind_ok_iff.1 hs
    rw [column_ok_iff, hd] at hd'
    cases hd'
    exact hx
  have hr : (column c).value env (input.row i) = d.read i c.type := by
    show (do let c' ← (input.column c.index).mapError Failure.error; _) = _
    rw [Chunk.column, hd]
    exact if_pos (hn ▸ hi)
  refine gives_of_value rfl (hr.trans (Column.read_of_accepts ?_ hx ?_ ?_))
  · rw [ht]
    exact SqlType.accepts_columnType hk
  · rw [ht]
    exact SqlType.isUnsigned_of_columnType
  · rw [(Column.converts_slots d k).length xs hx, hn]
    exact hi

theorem literal_gives {v : Value} {xs : List (Option k.Item)} (hv : v.fits t)
    (hk : t.category = k.category)
    (hs : (v.broadcast t n >>= (·.slots k)) = .ok xs) (hi : i < n) :
    v = k.box t (xs.getD i none) := by
  obtain ⟨a, rfl⟩ := Value.eq_box_of_fits hv hk
  rw [Kind.broadcast_box hk] at hs
  cases hs
  rw [List.getD_eq_getElem?_getD, List.getElem?_replicate, if_pos hi]
  rfl

/-- The result of a call for a row is that of its operation on the slots of the row. -/
theorem IsDeterministic.result_of_slots {head : CallHead} {args : List Expr} {o : Operation}
    {xss : List (List (Option o.operand.Item))} (h : (call head args memo).IsDeterministic)
    (ho : head.builtin.operation? head.settings = some o)
    (hx : List.Forall₂ (fun e xs => e.Gives env r o.operand (xs.getD i none)) args xss) :
    (call head args memo).result env r o.result =
      o.run (args.map (·.meaning env)) ((xss.map (·.getD i none)).map .ok) := by
  rw [h.result_call ho]
  congr 1
  rw [List.map_map, ← List.forall₂_eq_eq_eq, List.forall₂_map_left_iff, List.forall₂_map_right_iff]
  exact hx.imp fun _ _ hg => hg.result

theorem IsConsistent.gives {xs : List (Option k.Item)} (h : e.IsConsistent env input)
    (hk : e.type.category = k.category) (hs : e.slots env k input = .ok xs)
    (hi : i < input.rowCount) : e.Gives env (input.row i) k (xs.getD i none) := by
  induction e generalizing k with
  | column c => exact column_gives h hk hs hi
  | outer c slot memo => exact gives_of_value rfl (congrArg _ (literal_gives h hk hs hi))
  | literal v t memo => exact gives_of_value rfl (congrArg _ (literal_gives h hk hs hi))
  | call head args memo ih =>
    have hdet := h.isDeterministic
    obtain ⟨o, ho, rfl⟩ := h.exists_operation hk
    have hr : (call head args memo).result env (input.row i) o.result = .ok (xs.getD i none) := by
      cases hb : head.builtin.comparesByRow with
      | true =>
        rw [slots_byRow hdet ho env input hb, Chunk.rows, List.mapM_map, mapM_range_ok_iff] at hs
        obtain ⟨a, hx, hr⟩ := hs.2 i hi
        rw [List.getD_eq_getElem?_getD, hx]
        exact hr
      | false =>
        rw [slots_call hdet ho env input hb] at hs
        obtain ⟨xss, hxss, hs⟩ := bind_ok_iff.1 hs
        rw [Operation.runRows, slotRows, List.mapM_map, mapM_range_ok_iff] at hs
        obtain ⟨a, hx, hr⟩ := hs.2 i hi
        rw [List.getD_eq_getElem?_getD, hx, Option.getD_some, ← hr]
        apply hdet.result_of_slots ho
        have hmem := (List.forall₂_and_left args xss).2 ⟨h.of_call ho, mapM_ok_iff.1 hxss⟩
        have harg := forall₂_and_mem hmem
        exact harg.imp fun e xs hx => ih e hx.1 hx.2.1.1 hx.2.1.2 hx.2.2
    exact ⟨hr, by rw [value_call (Category.kind?_eq_some_iff.2 hk), hr]; rfl⟩

theorem IsConsistent.isUnsigned (h : e.IsConsistent env input)
    (hc : standalone ((e.meaning env).column t input) = .ok c) (hu : c.type = .uint64) :
    e.type.isUnsigned := by
  cases e with
  | column c' =>
    obtain ⟨d, hd, ht⟩ := h
    rw [column_ok_iff, hd] at hc
    cases hc
    exact SqlType.isUnsigned_of_columnType (ht.symm.trans hu)
  | outer c slot memo => exact Value.isUnsigned_of_broadcast hc hu
  | literal v t memo => exact Value.isUnsigned_of_broadcast hc hu
  | call head args memo =>
    have ht := Evaluation.callColumn_type env head (meanings env args) t input
    exact (ht.standalone hc hu).elim

/-- Where the evaluation of a chunk into a buffer of the category of the tree succeeds, every row
has the value that the buffer reads as. -/
theorem IsConsistent.eval_eq_read {b filled : Buffer} (h : e.IsConsistent env input)
    (hk : e.type.category = k.category) (hb : b.category = e.type.category)
    (hf : (e.fillBuffer env input b).run.run g = (.ok filled, g')) :
    ∃ d, filled.content = some d ∧ ∀ i < input.rowCount, ∃ v,
      d.read i e.type = .ok v ∧ ∀ g, (e.eval env (input.row i)).run.run g = (.ok v, g) := by
  have hdet := h.isDeterministic
  obtain ⟨r, hr⟩ := (hdet.meaning env).column b.category input
  rw [fillBuffer, fillBy, hr] at hf
  cases r with
  | error f => cases hf
  | ok c =>
    have hfill : b.fill c = .ok filled := congrArg Prod.fst hf
    have hbk := hb.trans hk
    obtain ⟨xs, hx⟩ := Buffer.exists_slots_of_fill hbk hfill
    have hc : standalone ((e.meaning env).column k.category input) = .ok c := by
      rw [← hbk, hr]
      rfl
    have hs : e.slots env k input = .ok xs := bind_ok_iff.2 ⟨c, hc, hx⟩
    obtain ⟨d, hd, hread⟩ := Buffer.fill_read hfill hbk hx (h.isUnsigned hc)
    refine ⟨d, hd, fun i hi => ⟨_, hread i ?_, fun g => ?_⟩⟩
    · rw [hdet.isAligned env input k xs hs]
      exact hi
    · rw [hdet.eval_eq, (h.gives hk hs hi).value]
      rfl

/-- The length of a text added to an integer, over a row with both and one without the text. -/
theorem IsConsistent.eval_eq_read_sum :
    let e := (Builtin.arithmetic .plus (.int false)).toCall
      [Builtin.length.toCall [.column ⟨1, 0, .varchar, "s", none⟩],
        .column ⟨2, 1, .bigint, "n", none⟩]
    let input : Chunk := ⟨[⟨.utf8, [some "ab", none]⟩, ⟨.int64, [some 3, some 4]⟩], 2,
      List.forall_mem_cons.2 ⟨rfl, List.forall_mem_singleton.2 rfl⟩⟩
    let filled : Buffer := ⟨.int, some ⟨.int64, [some 5, none]⟩, true⟩
    e.IsConsistent {} input ∧ (e.fillBuffer {} input (.empty .int)).run.run {} = (.ok filled, {}) ∧
      ∃ d, filled.content = some d ∧ ∀ i < 2, ∃ v,
        d.read i e.type = .ok v ∧ ∀ g, (e.eval {} (input.row i)).run.run g = (.ok v, g) := by
  intro e input filled
  have hc : e.IsConsistent {} input := by
    refine ⟨⟨⟨rfl, rfl, rfl⟩, ?_⟩, ⟨⟨⟨rfl, rfl, rfl⟩, ?_⟩, ⟨_, rfl, rfl⟩, trivial⟩,
      ⟨_, rfl, rfl⟩, trivial⟩
    · intro k h e he
      cases h
      obtain rfl | rfl := List.mem_pair.1 he <;> rfl
    · intro k h e he
      cases h
      obtain rfl := List.mem_singleton.1 he
      rfl
  have hf : (e.fillBuffer {} input (.empty .int)).run.run {} = (.ok filled, {}) := rfl
  exact ⟨hc, hf, hc.eval_eq_read (k := .int) rfl rfl hf⟩

end Expr

end ScalarExpr
