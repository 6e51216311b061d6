import ScalarExpr.Column.Buffer
import ScalarExpr.Proofs.Traversal
/-!
Columns that hold one slot over and over. Whatever they are converted to holds one slot over and
over as well, the same for every length but zero, and so does the buffer that they are put into.
-/
namespace ScalarExpr

set_option autoImplicit true

/-- What one slot of a column holds. -/
structure Slot where
  type : ColumnType
  item : Option type.Item

/-- The column of `n` such slots. -/
def Slot.column (n : Nat) (s : Slot) : Column := ⟨s.type, List.replicate n s.item⟩

/-- For every number but zero there is the same failure, or what one result is for that number. -/
def Repeats (spread : Nat → α → β) (f : Nat → Except ε β) : Prop :=
  ∃ o : Except ε α, ∀ n, 0 < n → f n = o.map (spread n)

namespace Repeats

theorem ok (spread : Nat → α → β) (a : α) : Repeats (ε := ε) spread fun n => .ok (spread n a) :=
  ⟨.ok a, fun _ _ => rfl⟩

theorem error (spread : Nat → α → β) (e : ε) : Repeats spread fun _ => .error e :=
  ⟨.error e, fun _ _ => rfl⟩

theorem bind {s : Nat → α → β} {t : Nat → γ → δ} {f : Nat → Except ε β}
    {k : Nat → β → Except ε δ} (hf : Repeats s f) (hk : ∀ a, Repeats t fun n => k n (s n a)) :
    Repeats t fun n => f n >>= k n := by
  obtain ⟨o, ho⟩ := hf
  cases o with
  | error e =>
    refine ⟨.error e, fun n hn => ?_⟩
    show f n >>= k n = _
    rw [ho n hn]
    rfl
  | ok a =>
    obtain ⟨o, hk⟩ := hk a
    refine ⟨o, fun n hn => ?_⟩
    show f n >>= k n = _
    rw [ho n hn]
    exact hk n hn

theorem ofFault {α β : Type} {s : Nat → α → β} {f : Nat → Except Fault β} (hf : Repeats s f) :
    Repeats s fun n => Failure.ofFault (f n) := by
  obtain ⟨o, ho⟩ := hf
  refine ⟨Failure.ofFault o, fun n hn => ?_⟩
  show Failure.ofFault (f n) = _
  rw [ho n hn]
  cases o <;> rfl

theorem mapSlots (a : Option α) (f : α → Option β) :
    Repeats (ε := ε) List.replicate fun n => .ok (Column.mapSlots (List.replicate n a) f) :=
  ⟨.ok (a.bind f), fun _ _ => congrArg Except.ok List.map_replicate⟩

theorem map {f : Nat → Except ε (List (Option α))} (hf : Repeats List.replicate f)
    (g : α → Option β) : Repeats List.replicate fun n => do return Column.mapSlots (← f n) g :=
  hf.bind fun a => mapSlots a g

theorem mapM (f : α → Except ε β) (a : α) :
    Repeats List.replicate fun n => (List.replicate n a).mapM f := by
  refine ⟨f a, fun n hn => ?_⟩
  show (List.replicate n a).mapM f = _
  cases ha : f a with
  | error e =>
    obtain ⟨m, rfl⟩ : ∃ m, n = m + 1 := ⟨n - 1, by omega⟩
    rw [List.replicate_succ, List.mapM_cons, ha]
    rfl
  | ok b =>
    refine mapM_ok_iff.2 (List.forall₂_iff_get.2 ⟨by simp, fun i h₁ h₂ => ?_⟩)
    simpa using ha

theorem mapSlotsM (a : Option α) (f : α → Except ε β) :
    Repeats List.replicate fun n => Column.mapSlotsM (List.replicate n a) f :=
  mapM _ a

theorem unsupported (s : Slot) (t : Category) :
    Repeats (α := Option α) List.replicate fun n => .error ((s.column n).castUnsupported t) :=
  .error _ (Column.castUnsupported ⟨s.type, []⟩ t)

end Repeats

namespace Slot

variable (s : Slot)

theorem repeats_toInts (t : Category) : Repeats List.replicate fun n => (s.column n).toInts t := by
  obtain ⟨type, item⟩ := s
  cases type with
  | int64 | timestamp | duration | date64 => exact .ok _ item
  | binary => exact .unsupported ⟨_, item⟩ t
  | decimal p scale =>
    by_cases h : 0 ≤ scale && scale ≤ 38
    · have hs (n : Nat) : (column n ⟨.decimal p scale, item⟩).toInts t = _ := if_pos h
      simp only [hs]
      exact .mapSlots item _
    · have hs (n : Nat) : (column n ⟨.decimal p scale, item⟩).toInts t = _ := if_neg h
      simp only [hs]
      exact .error _ _
  | _ => exact .mapSlots item _

theorem repeats_toReals : Repeats List.replicate fun n => (s.column n).toReals := by
  have hints := s.repeats_toInts .real
  obtain ⟨type, item⟩ := s
  cases type with
  | float64 => exact .ok _ item
  | date32 | date64 => exact .unsupported ⟨_, item⟩ .real
  | float32 | uint64 | utf8 | largeUtf8 | decimal => exact .mapSlots item _
  | _ => exact hints.map _

theorem repeats_toDecimals : Repeats List.replicate fun n => (s.column n).toDecimals := by
  have hints := s.repeats_toInts .decimal
  obtain ⟨type, item⟩ := s
  cases type with
  | boolean | date32 | date64 => exact .unsupported ⟨_, item⟩ .decimal
  | float32 | float64 | uint64 | utf8 | largeUtf8 | decimal => exact .mapSlots item _
  | _ => exact hints.map _

theorem repeats_toTexts : Repeats List.replicate fun n => (s.column n).toTexts := by
  have hints := s.repeats_toInts .text
  obtain ⟨type, item⟩ := s
  cases type with
  | utf8 | largeUtf8 => exact .ok _ item
  | boolean | float32 | float64 | uint64 | binary | decimal => exact .mapSlots item _
  | timestamp unit zone =>
    cases zone with
    | none =>
      exact .mapSlotsM item fun n =>
        Column.momentText (.timestamp unit none) unit Moment.joinedText n.toInt
    | some zone =>
      simp only [column, Column.toTexts]
      cases TimeZone.offset? zone.toList with
      | none => exact .error _ _
      | some offset => exact .mapSlotsM item _
  | date32 | date64 | duration => exact .mapSlotsM item _
  | _ => exact hints.map _

theorem repeats_toDatetimes : Repeats List.replicate fun n => (s.column n).toDatetimes := by
  have hints := s.repeats_toInts .datetime
  obtain ⟨type, item⟩ := s
  cases type with
  | timestamp | utf8 | largeUtf8 => exact .mapSlots item _
  | date32 | date64 => exact (Repeats.mapSlotsM item _).ofFault
  | boolean | duration => exact .unsupported ⟨_, item⟩ .datetime
  | _ => exact hints

theorem repeats_toDurations : Repeats List.replicate fun n => (s.column n).toDurations := by
  have hints := s.repeats_toInts .duration
  obtain ⟨type, item⟩ := s
  cases type with
  | duration => exact .mapSlots item _
  | boolean | utf8 | largeUtf8 | timestamp | date32 | date64 =>
    exact .unsupported ⟨_, item⟩ .duration
  | _ => exact hints

theorem repeats_cast (t : Category) : Repeats Slot.column fun n => (s.column n).cast t := by
  cases t with
  | int => exact (s.repeats_toInts .int).bind fun item => .ok Slot.column ⟨.int64, item⟩
  | real => exact s.repeats_toReals.bind fun item => .ok Slot.column ⟨.float64, item⟩
  | decimal => exact s.repeats_toDecimals.bind fun item => .ok Slot.column ⟨.decimal 38 10, item⟩
  | text => exact s.repeats_toTexts.bind fun item => .ok Slot.column ⟨.utf8, item⟩
  | datetime =>
    exact s.repeats_toDatetimes.bind fun item =>
      .ok Slot.column ⟨.timestamp .microsecond none, item⟩
  | duration =>
    exact s.repeats_toDurations.bind fun item => .ok Slot.column ⟨.duration .nanosecond, item⟩

theorem hasNull_column (h : 0 < n) : (s.column n).hasNull = s.item.isNone := by
  rw [column, Column.hasNull, List.any_replicate, if_neg (by omega)]

end Slot

/-- The buffer with `n` such slots, and with or without a table of those that are NULL. -/
def Slot.buffer (c : Category) (n : Nat) (p : Slot × Bool) : Buffer :=
  ⟨c, some (p.1.column n), p.2⟩

theorem Slot.repeats_fill (s : Slot) (b : Buffer) :
    Repeats (Slot.buffer b.category) fun n => b.fill (s.column n) := by
  by_cases ha : b.category.accepts s.type
  · refine ⟨.ok (s, s.item.isNone), fun n hn => ?_⟩
    rw [← s.hasNull_column hn]
    exact (b.fill_eq (s.column n)).trans (if_pos ha)
  · have hfill : (fun n => b.fill (s.column n)) =
        fun n => (s.column n).cast b.category >>= fun d => _ :=
      funext fun n => (b.fill_eq (s.column n)).trans (if_neg ha)
    rw [hfill]
    apply (s.repeats_cast b.category).bind
    intro d
    refine ⟨.ok (d, d.item.isNone || Column.castTabulates s.type b.category), fun n hn => ?_⟩
    rw [← d.hasNull_column hn]
    rfl

theorem Value.repeats_broadcast (v : Value) (t : SqlType) :
    Repeats Slot.column fun n => v.broadcast t n := by
  unfold broadcast
  split
  case isTrue => exact .ok Slot.column ⟨t.columnType, none⟩
  case isFalse =>
    cases t.category with
    | int =>
      cases v.as .int with
      | error f => exact .error _ f
      | ok i =>
        cases t.isUnsigned with
        | true => exact .ok Slot.column ⟨.uint64, some (i.getD 0).toUInt64⟩
        | false => exact .ok Slot.column ⟨.int64, some (i.getD 0)⟩
    | real =>
      cases v.as .real with
      | error f => exact .error _ f
      | ok x => exact .ok Slot.column ⟨.float64, some (x.getD .zero)⟩
    | text =>
      cases v.as .text with
      | error f => exact .error _ f
      | ok s => exact .ok Slot.column ⟨.utf8, some (s.getD "")⟩
    | decimal =>
      cases v with
      | decimal unscaled scale =>
        cases t.columnType with
        | decimal precision s =>
          dsimp only
          cases checkDecimalType precision scale with
          | error f => exact .error _ _
          | ok => exact .ok Slot.column ⟨.decimal precision scale, some unscaled⟩
        | _ => exact .error _ _
      | _ => exact .error _ _
    | datetime =>
      cases v with
      | datetime micros => exact .ok Slot.column ⟨.timestamp .microsecond none, some micros⟩
      | _ => exact .error _ _
    | duration =>
      cases v with
      | duration nanos => exact .ok Slot.column ⟨.duration .nanosecond, some nanos⟩
      | _ => exact .error _ _

end ScalarExpr
