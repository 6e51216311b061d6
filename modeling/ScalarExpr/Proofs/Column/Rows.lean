import ScalarExpr.Proofs.Column.Buffer
import ScalarExpr.Proofs.Column.Uniform
import ScalarExpr.Proofs.Evaluation.IntegerColumns
/-!
Reading the slots of rows as values. A row, a place and a type that are asked for in any combination
give a value or an error; only a date too far away for its midnight to be counted gives neither.
-/
namespace ScalarExpr

set_option autoImplicit true

/-! ### One slot -/

/-- Items of the type are values of expressions. -/
def ColumnType.isRead : ColumnType → Bool
  | null | uint8 | uint16 | uint32 | binary | date64 => false
  | timestamp unit _ => unit = .microsecond
  | duration unit => unit = .nanosecond
  | _ => true

namespace Slot

/-- There is an item of a type that is not read, or the type has no items at all. -/
def IsRefused (s : Slot) : Prop :=
  s.type = .null ∨ s.type.isRead = false ∧ s.item.isSome

/-- The microseconds up to the midnight of the date are too many for 64 bits. -/
def IsDistantDate (s : Slot) : Prop :=
  ∃ d, s = ⟨.date32, some d⟩ ∧ ¬InRange false (d.toInt * Column.microsPerDay)

/-- What a slot is read as. -/
inductive ReadsAs : Slot → Except Failure Value → Prop
  | null {type : ColumnType} (h : type ≠ .null) : ReadsAs ⟨type, none⟩ (.ok .null)
  | value {type : ColumnType} {item : type.Item} (ht : type.isRead) (hd : type ≠ .date32)
    (hv : v.isNull = false) : ReadsAs ⟨type, some item⟩ (.ok v)
  | date (h : InRange false (d.toInt * Column.microsPerDay)) :
    ReadsAs ⟨.date32, some d⟩ (.ok (.datetime (Int64.ofInt (d.toInt * Column.microsPerDay))))
  | distantDate (h : ¬InRange false (d.toInt * Column.microsPerDay)) :
    ReadsAs ⟨.date32, some d⟩ (.error (.fault .integerOverflow))
  | refused (h : s.IsRefused) : ReadsAs s (.error (.error (Column.unreadable s.type)))

variable {s : Slot} {r : Except Failure Value} {type : ColumnType}

namespace ReadsAs

theorem fault_iff (h : s.ReadsAs r) : (∃ f, r = .error (.fault f)) ↔ s.IsDistantDate := by
  constructor
  · rintro ⟨f, rfl⟩
    cases h with
    | distantDate h => exact ⟨_, rfl, h⟩
  · rintro ⟨d, rfl, hn⟩
    cases h with
    | value _ hd => exact absurd rfl hd
    | date h => exact absurd h hn
    | distantDate => exact ⟨_, rfl⟩
    | refused h => obtain h | ⟨h, -⟩ := h <;> cases h

theorem error_iff (h : s.ReadsAs r) : (∃ e, r = .error (.error e)) ↔ s.IsRefused := by
  constructor
  · rintro ⟨e, rfl⟩
    cases h with
    | refused h => exact h
  · rintro (hn | ⟨hr, hs⟩)
    · cases h with
      | null h => exact absurd hn h
      | value ht =>
        cases hn
        cases ht
      | date | distantDate => cases hn
      | refused => exact ⟨_, rfl⟩
    · cases h with
      | null => cases hs
      | value ht => cases ht.symm.trans hr
      | date | distantDate => cases hr
      | refused => exact ⟨_, rfl⟩

theorem eq_null (h : ReadsAs ⟨type, none⟩ r) (hn : type ≠ .null) : r = .ok .null := by
  cases h with
  | null => rfl
  | refused h =>
    obtain h | ⟨-, h⟩ := h
    · exact absurd h hn
    · cases h

theorem eq_midnight (h : ReadsAs ⟨.date32, some d⟩ r)
    (hd : InRange false (d.toInt * Column.microsPerDay)) :
    r = .ok (.datetime (Int64.ofInt (d.toInt * Column.microsPerDay))) := by
  cases h with
  | date => rfl
  | value _ hn => exact absurd rfl hn
  | distantDate hn => exact absurd hd hn
  | refused h => obtain h | ⟨h, -⟩ := h <;> cases h

end ReadsAs

end Slot

namespace Column

section List

variable {type : ColumnType} {xs : List (Option type.Item)} (hi : i < xs.length)

include hi

theorem readSlot_readsAs {value : type.Item → Value} (ht : type.isRead) (hd : type ≠ .date32)
    (hv : ∀ a, (value a).isNull = false) :
    Slot.ReadsAs ⟨type, xs.getD i none⟩ (readSlot xs i fun a => .ok (value a)) := by
  rw [readSlot_eq hi]
  cases xs.getD i none with
  | none => exact .null fun h => by cases h; cases ht
  | some a => exact .value ht hd (hv a)

theorem unread_readsAs (ht : type.isRead = false) (hn : type ≠ .null) :
    Slot.ReadsAs ⟨type, xs.getD i none⟩
      (if xs.any Option.isNone then readSlot xs i fun _ => .error (.error (unreadable type))
        else .error (.error (unreadable type))) := by
  rw [readSlot_of_unread hi]
  cases xs.getD i none with
  | none => exact .null hn
  | some a => exact .refused (.inr ⟨ht, rfl⟩)

end List

theorem date_readsAs {xs : List (Option Int32)} (hi : i < xs.length) :
    Slot.ReadsAs ⟨.date32, xs.getD i none⟩ (readSlot xs i fun d =>
      Failure.ofFault ((checkedInt64 (d.toInt * microsPerDay)).map .datetime)) := by
  rw [readSlot_eq hi]
  cases xs.getD i none with
  | none => exact .null ColumnType.noConfusion
  | some d =>
    simp only [checkedInt64, Bool.and_eq_true, decide_eq_true_eq, Option.elim_some]
    split
    case isTrue h => exact .date h
    case isFalse h => exact .distantDate h

theorem read_readsAs {c : Column} (hi : i < c.size) (t : SqlType) :
    Slot.ReadsAs ⟨c.type, c.items.getD i none⟩ (c.read i t) := by
  obtain ⟨type, xs⟩ := c
  cases type with
  | int64 =>
    rw [read]
    cases t.isUnsigned <;> exact readSlot_readsAs hi rfl ColumnType.noConfusion fun _ => rfl
  | int32 | int16 | int8 | uint64 | boolean | float64 | float32 | utf8 | largeUtf8 | decimal =>
    exact readSlot_readsAs hi rfl ColumnType.noConfusion fun _ => rfl
  | timestamp unit zone =>
    cases unit with
    | microsecond => exact readSlot_readsAs hi rfl ColumnType.noConfusion fun _ => rfl
    | _ => exact unread_readsAs hi rfl ColumnType.noConfusion
  | duration unit =>
    cases unit with
    | nanosecond => exact readSlot_readsAs hi rfl ColumnType.noConfusion fun _ => rfl
    | _ => exact unread_readsAs hi rfl ColumnType.noConfusion
  | date32 => exact date_readsAs hi
  | null => exact .refused (.inl rfl)
  | _ => exact unread_readsAs hi rfl ColumnType.noConfusion

end Column

/-! ### Rows -/

namespace Row

/-- The slot of the row in column `i`, if there are such a row and such a column. -/
def slot? (r : Row) (i : Nat) : Option Slot :=
  r.chunk.bind fun k => k.columns[i]?.bind fun c => c.items[r.index]?.map (Slot.mk c.type)

variable {r : Row} {s : Slot}

theorem get_readsAs (h : r.slot? i = some s) (t : SqlType) : s.ReadsAs (r.get i t) := by
  obtain ⟨k, hk, h⟩ := Option.bind_eq_some_iff.1 h
  obtain ⟨c, hc, h⟩ := Option.bind_eq_some_iff.1 h
  obtain ⟨item, hx, rfl⟩ := Option.map_eq_some_iff.1 h
  obtain ⟨hi, hx⟩ := List.getElem?_eq_some_iff.1 hx
  have hr : r.get i t = c.read r.index t := by
    rw [get, hk]
    show ((k.column i).mapError Failure.error >>= fun c => _) = _
    rw [Chunk.column, hc]
    exact if_pos hi
  have hread := Column.read_readsAs hi t
  rwa [List.getD_eq_getElem?_getD, List.getElem?_eq_getElem hi, hx, ← hr] at hread

theorem exists_error_of_slot? (h : r.slot? i = none) (t : SqlType) :
    ∃ e, r.get i t = .error (.error e) := by
  unfold get
  cases hk : r.chunk with
  | none => exact ⟨_, rfl⟩
  | some k =>
    dsimp only
    rw [Chunk.column]
    cases hc : k.columns[i]? with
    | none => exact ⟨_, rfl⟩
    | some c =>
      have hi : ¬r.index < c.size := by
        simpa [slot?, hk, hc, Column.size] using h
      exact ⟨_, if_neg hi⟩

/-- Whatever is asked of a row, it answers a value or an error unless the slot is a date too far
away. It is an error to ask for a slot that is not there or of a type that is not read; a slot that
is NULL is NULL, and a date is the moment at which it begins. -/
theorem get_safe (r : Row) (i : Nat) (t : SqlType) :
    (r.slot? i = none → ∃ e, r.get i t = .error (.error e)) ∧
    ∀ s, r.slot? i = some s →
      ((∃ f, r.get i t = .error (.fault f)) ↔ s.IsDistantDate) ∧
      ((∃ e, r.get i t = .error (.error e)) ↔ s.IsRefused) ∧
      (∀ type, s = ⟨type, none⟩ → type ≠ .null → r.get i t = .ok .null) ∧
      ∀ d, s = ⟨.date32, some d⟩ → ¬s.IsDistantDate →
        ∃ n, r.get i t = .ok (.datetime n) ∧ n.toInt = d.toInt * Column.microsPerDay := by
  refine ⟨fun h => exists_error_of_slot? h t, fun s h => ?_⟩
  have hr := get_readsAs h t
  refine ⟨hr.fault_iff, hr.error_iff, fun type hs hn => ?_, fun d hs hd => ?_⟩
  · subst hs
    exact hr.eq_null hn
  · subst hs
    have hrange : InRange false (d.toInt * Column.microsPerDay) := by
      by_contra hn
      exact hd ⟨d, rfl, hn⟩
    exact ⟨_, hr.eq_midnight hrange, Int64.toInt_ofInt_of_le hrange.1 hrange.2⟩

/-- The last date that has a moment, a NULL, and the first row behind them. -/
theorem get_safe_date :
    let dates : Column := ⟨.date32, [some 106751991, none]⟩
    let k : Chunk := ⟨[dates], 2, List.forall_mem_singleton.2 rfl⟩
    (k.row 0).get 0 .datetime = .ok (.datetime 9223372022400000000) ∧
      (k.row 1).get 0 .datetime = .ok .null ∧
      ∃ e, (k.row 2).get 0 .datetime = .error (.error e) := by
  intro dates k
  obtain ⟨-, hdate⟩ := get_safe (k.row 0) 0 .datetime
  obtain ⟨-, hnull⟩ := get_safe (k.row 1) 0 .datetime
  obtain ⟨hend, -⟩ := get_safe (k.row 2) 0 .datetime
  have hd : ¬(⟨.date32, some 106751991⟩ : Slot).IsDistantDate := by
    rintro ⟨d, h, hn⟩
    cases h
    exact hn (by decide)
  obtain ⟨-, -, -, hdate⟩ := hdate _ rfl
  obtain ⟨n, hn, hm⟩ := hdate _ rfl hd
  obtain rfl : n = 9223372022400000000 := Int64.toInt_inj.1 hm
  exact ⟨hn, (hnull _ rfl).2.2.1 _ rfl ColumnType.noConfusion, hend rfl⟩

/-- The next date has none. -/
theorem get_distantDate :
    let dates : Column := ⟨.date32, [some 106751992]⟩
    let k : Chunk := ⟨[dates], 1, List.forall_mem_singleton.2 rfl⟩
    (k.row 0).get 0 .datetime = .error (.fault .integerOverflow) := rfl

end Row

end ScalarExpr
