import ScalarExpr.Proofs.Evaluation.Agreement
import ScalarExpr.Proofs.Evaluation.Integers
/-!
Columns of integers by rows and by chunks. A chunk converts such a column whatever its width; a row
reads its slot as a value, and not every width has a reader.
-/
namespace ScalarExpr

set_option autoImplicit true

namespace ColumnType

/-- The number that an item stands for, in columns of integers and of booleans. -/
def integer? : (type : ColumnType) → Option (type.Item → Int)
  | boolean => some fun b => if b then 1 else 0
  | int8 => some Int8.toInt
  | int16 => some Int16.toInt
  | int32 => some Int32.toInt
  | int64 => some Int64.toInt
  | uint8 => some fun n => n.toNat
  | uint16 => some fun n => n.toNat
  | uint32 => some fun n => n.toNat
  | uint64 => some fun n => n.toNat
  | _ => none

/-- Integers that no value is read from. -/
def isUnreadInteger : ColumnType → Bool
  | uint8 | uint16 | uint32 => true
  | _ => false

end ColumnType

theorem int64?_natCast {n : Nat} (h : n < Nat.pow 2 32) : int64? n = some (Int64.ofInt n) := by
  have hb : -Int.pow 2 63 ≤ n ∧ (n : Int) < Int.pow 2 63 := by
    rw [Nat.pow_eq] at h
    rw [two_pow_63]
    omega
  exact if_pos (by simpa using hb)

theorem toInt64_eq_ofInt (n : UInt64) : n.toInt64 = Int64.ofInt n.toNat := by
  apply Int64.toBitVec_inj.1
  show n.toBitVec = BitVec.ofInt 64 n.toBitVec.toNat
  rw [BitVec.ofInt_natCast, BitVec.ofNat_toNat, BitVec.setWidth_eq]

namespace Column

variable {c : Column} {f : c.type.Item → Int}

theorem mapSlots_eq_map {f : α → Option β} {g : α → β} (h : ∀ a, f a = some (g a))
    (xs : List (Option α)) : mapSlots xs f = xs.map (·.map g) := by
  rw [mapSlots, funext h]
  apply List.map_congr_left
  intro a _
  cases a <;> rfl

/-- A chunk gives the 64 bits of the numbers. -/
theorem slots_integer (hf : c.type.integer? = some f) :
    c.slots .int = .ok (c.items.map (·.map fun a => Int64.ofInt (f a))) := by
  obtain ⟨type, xs⟩ := c
  cases type with
  | boolean =>
    cases hf
    apply congrArg Except.ok
    apply mapSlots_eq_map
    intro b
    cases b <;> rfl
  | int8 | int16 | int32 =>
    cases hf
    exact congrArg Except.ok (mapSlots_eq_map (fun _ => rfl) xs)
  | int64 =>
    cases hf
    show Except.ok xs = _
    simp
  | uint8 | uint16 | uint32 =>
    cases hf
    apply congrArg Except.ok
    apply mapSlots_eq_map
    intro n
    have hn := n.toNat_lt
    exact int64?_natCast (Nat.lt_of_lt_of_le hn (by decide))
  | uint64 =>
    cases hf
    exact congrArg (fun g => Except.ok (xs.map (·.map g))) (funext toInt64_eq_ofInt)
  | _ => cases hf

/-- A slot of a type that is not read is NULL or refused. -/
theorem readSlot_of_unread {xs : List (Option α)} (hi : i < xs.length) (e : Failure) :
    (if xs.any Option.isNone then readSlot xs i fun _ => .error e else .error e) =
      (xs.getD i none).elim (.ok .null) fun _ => .error e := by
  split
  case isTrue => exact readSlot_eq hi _
  case isFalse h =>
    rw [List.getD_eq_getElem?_getD, List.getElem?_eq_getElem hi]
    cases hx : xs[i] with
    | none => exact absurd (List.any_eq_true.2 ⟨none, List.mem_of_getElem hx, rfl⟩) h
    | some a => rfl

/-- A row gives the 64 bits of the number, unless there is no reader for numbers of that width. -/
theorem read_integer (hf : c.type.integer? = some f) (hi : i < c.size) (t : SqlType) :
    c.read i t >>= (·.as .int) =
      (c.items.getD i none).elim (.ok none) fun a =>
        if c.type.isUnreadInteger then .error (.error (unreadable c.type))
        else .ok (some (Int64.ofInt (f a))) := by
  obtain ⟨type, xs⟩ := c
  cases type with
  | boolean =>
    cases hf
    rw [read, readSlot_eq hi]
    cases xs.getD i none with
    | none => rfl
    | some b => cases b <;> rfl
  | int8 | int16 | int32 =>
    cases hf
    rw [read, readSlot_eq hi]
    cases xs.getD i none <;> rfl
  | int64 =>
    cases hf
    rw [read, readSlot_eq hi]
    cases xs.getD i none with
    | none => rfl
    | some n =>
      have hn : n = Int64.ofInt n.toInt := (Int64.ofInt_toInt n).symm
      cases t.isUnsigned <;> exact congrArg (fun m => Except.ok (some m)) hn
  | uint64 =>
    cases hf
    rw [read, readSlot_eq hi]
    cases xs.getD i none with
    | none => rfl
    | some n => exact congrArg (fun m => Except.ok (some m)) (toInt64_eq_ofInt n)
  | uint8 | uint16 | uint32 =>
    cases hf
    apply (congrArg (· >>= (·.as .int)) (readSlot_of_unread hi _)).trans
    cases xs.getD i none <;> rfl
  | _ => cases hf

end Column

namespace Expr

variable {c : ColumnRef} {col : Column} {input : Chunk} {b : Buffer}

theorem column_evalAs (hc : input.columns[c.index]? = some col) (hi : i < input.rowCount)
    (env : Env) (k : Kind) :
    (column c).evalAs env (input.row i) k = Eval.lift (col.read i c.type >>= (·.as k)) := by
  have hn : col.size = input.rowCount := input.aligned col (List.mem_of_getElem? hc)
  have hr : (input.row i).get c.index c.type = col.read i c.type := by
    show (do let d ← (input.column c.index).mapError Failure.error; _) = _
    rw [Chunk.column, hc]
    exact if_pos (hn ▸ hi)
  show Eval.lift ((input.row i).get c.index c.type >>= (·.as k)) = _
  rw [hr]

theorem column_slots (hc : input.columns[c.index]? = some col) (env : Env) (k : Kind) :
    ((column c).meaning env).slots k input = col.slots k := by
  rw [Meaning.slots, column_ok_iff.2 hc]
  rfl

variable {f : col.type.Item → Int}

theorem column_evalAs_integer (hc : input.columns[c.index]? = some col)
    (hf : col.type.integer? = some f) (hi : i < input.rowCount) (env : Env) :
    (column c).evalAs env (input.row i) .int =
      Eval.lift ((col.items.getD i none).elim (.ok none) fun a =>
        if col.type.isUnreadInteger then .error (.error (Column.unreadable col.type))
        else .ok (some (Int64.ofInt (f a)))) := by
  have hn : col.size = input.rowCount := input.aligned col (List.mem_of_getElem? hc)
  rw [column_evalAs hc hi, Column.read_integer hf (hn ▸ hi)]

theorem column_fillBuffer_integer (hc : input.columns[c.index]? = some col)
    (hf : col.type.integer? = some f) (hb : b.category = .int) (env : Env) :
    ∃ filled, (column c).fillBuffer env input b = pure filled ∧
      filled.int64s = .ok (col.items.map (·.map fun a => Int64.ofInt (f a))) := by
  have hs := (column_slots hc env .int).trans (Column.slots_integer hf)
  have hsteady : ((column c).meaning env).IsSteady := .leaf _ _ _
  rw [fillBuffer_eq hb]
  obtain ⟨e, -, he⟩ | ⟨filled, xs, hfill, hxs, hs'⟩ := hsteady.buffer_cases .int input
  · cases hs.symm.trans he
  · cases hs.symm.trans hs'
    exact ⟨filled, hfill, hxs⟩

/-- A column of integers of any width, or of booleans, is given whole for a chunk. Rows give the
same, except that they refuse the numbers of the unsigned types of less than 64 bits. So no row
fails exactly if the column is of another type or NULL everywhere. -/
theorem column_integer (hc : input.columns[c.index]? = some col)
    (hf : col.type.integer? = some f) (hb : b.category = .int) (env : Env) :
    (∃ filled, (column c).fillBuffer env input b = pure filled ∧
      filled.int64s = .ok (col.items.map (·.map fun a => Int64.ofInt (f a)))) ∧
    (∀ i < input.rowCount, (column c).evalAs env (input.row i) .int =
      Eval.lift ((col.items.getD i none).elim (.ok none) fun a =>
        if col.type.isUnreadInteger then .error (.error (Column.unreadable col.type))
        else .ok (some (Int64.ofInt (f a))))) ∧
    ((∀ i < input.rowCount, ∃ a, (column c).evalAs env (input.row i) .int = pure a) ↔
      (col.type.isUnreadInteger → ∀ a ∈ col.items, a = none)) := by
  have hn : col.items.length = input.rowCount := input.aligned col (List.mem_of_getElem? hc)
  refine ⟨column_fillBuffer_integer hc hf hb env,
    fun i hi => column_evalAs_integer hc hf hi env, ?_, ?_⟩
  · intro h hu a ha
    obtain ⟨i, hi, rfl⟩ := List.mem_iff_getElem.1 ha
    obtain ⟨r, hr⟩ := h i (hn ▸ hi)
    rw [column_evalAs_integer hc hf (hn ▸ hi), List.getD_eq_getElem?_getD,
      List.getElem?_eq_getElem hi, Option.getD_some] at hr
    cases hx : col.items[i] with
    | none => rfl
    | some x =>
      rw [hx] at hr
      cases (if_pos hu).symm.trans (Eval.lift_inj.1 hr)
  · intro h i hi
    rw [column_evalAs_integer hc hf hi]
    cases hx : col.items.getD i none with
    | none => exact ⟨none, rfl⟩
    | some x =>
      have hno : ¬col.type.isUnreadInteger := by
        intro hu
        have hnull := h hu _ (List.getElem_mem (hn ▸ hi))
        rw [List.getD_eq_getElem?_getD, List.getElem?_eq_getElem (hn ▸ hi), hnull] at hx
        cases hx
      exact ⟨some (Int64.ofInt (f x)), congrArg Eval.lift (if_neg hno)⟩

/-- A column of 16 bits with a number and a NULL. -/
theorem column_integer_int16 :
    let col : Column := ⟨.int16, [some (-5), none]⟩
    let input : Chunk := ⟨[col], 2, List.forall_mem_singleton.2 rfl⟩
    let e := column ⟨1, 0, .bigint, "n", none⟩
    (∃ filled, e.fillBuffer {} input (.empty .int) = pure filled ∧
      filled.int64s = .ok [some (-5), none]) ∧
    e.evalAs {} (input.row 0) .int = pure (some (-5)) ∧
    e.evalAs {} (input.row 1) .int = pure none := by
  intro col input e
  have hc : input.columns[0]? = some col := rfl
  have hf : col.type.integer? = some Int16.toInt := rfl
  have hb : (Buffer.empty .int).category = .int := rfl
  obtain ⟨hfill, hrows, -⟩ := column_integer (c := ⟨1, 0, .bigint, "n", none⟩) hc hf hb {}
  exact ⟨hfill, hrows 0 (by decide), hrows 1 (by decide)⟩

/-- A number of 32 bits without a sign, which only a chunk gives. -/
theorem column_refuses_uint32 :
    let col : Column := ⟨.uint32, [some 7]⟩
    let input : Chunk := ⟨[col], 1, List.forall_mem_singleton.2 rfl⟩
    let e := column ⟨1, 0, .bigint, "n", none⟩
    (∃ filled, e.fillBuffer {} input (.empty .int) = pure filled ∧
      filled.int64s = .ok [some 7]) ∧
    e.evalAs {} (input.row 0) .int =
      Eval.lift (.error (.error (.unsupported "reading UInt32 column into a datum"))) := by
  intro col input e
  have hc : input.columns[0]? = some col := rfl
  have hf : col.type.integer? = some fun n => (n.toNat : Int) := rfl
  have hb : (Buffer.empty .int).category = .int := rfl
  have hi : 0 < input.rowCount := by decide
  exact ⟨column_fillBuffer_integer (c := ⟨1, 0, .bigint, "n", none⟩) hc hf hb {},
    column_evalAs_integer (c := ⟨1, 0, .bigint, "n", none⟩) hc hf hi {}⟩

end Expr

end ScalarExpr
