import ScalarExpr.Proofs.Column.Rows
import ScalarExpr.Proofs.Evaluation.Literal
/-!
Values spread over columns: the slots that a value was spread over read as what it is converted to.
-/
namespace ScalarExpr

set_option autoImplicit true

namespace Column

theorem getD_replicate (hi : i < n) (a : Option α) : (List.replicate n a).getD i none = a := by
  simp [hi]

theorem read_nulls {type : ColumnType} (ht : type ≠ .null) (hi : i < n) (t : SqlType) :
    (nulls type n).read i t = .ok .null := by
  have hr := read_readsAs (c := nulls type n) (by rwa [size, nulls, List.length_replicate]) t
  rw [nulls, getD_replicate hi] at hr
  exact hr.eq_null ht

theorem readSlot_filled (hi : i < n) (a : α) (value : α → Except Failure Value) :
    readSlot (List.replicate n (some a)) i value = value a := by
  rw [readSlot_eq (by rwa [List.length_replicate]), getD_replicate hi]
  rfl

end Column

/-! ### One value in all slots -/

theorem SqlType.columnType_ne_null (t : SqlType) : t.columnType ≠ .null := by
  unfold columnType
  cases t.category with
  | int => cases t.isUnsigned <;> exact ColumnType.noConfusion
  | real | decimal | text | datetime | duration => exact ColumnType.noConfusion

theorem SqlType.accepts_self (t : SqlType) : t.category.accepts t.columnType := by
  unfold columnType
  cases t.category with
  | int => cases t.isUnsigned <;> rfl
  | real | decimal | text | datetime | duration => rfl

namespace Value

/-- What a value is as one of the type. NULL stays NULL. A type whose category is a kind of results
takes the results of that kind. The other types take only values of their own, and of decimals those
whose digits behind the point fit the precision. -/
inductive Becomes (t : SqlType) : Value → Value → Prop
  | null : Becomes t null null
  | result {v : Value} {k : Kind} {a : k.Item} (hk : t.category = k.category)
    (ha : v.as k = .ok (some a)) : Becomes t v (k.box t (some a))
  | decimal {scale : Int8} (ht : t.category = .decimal) (hs : scale.toInt ≤ t.precision) :
    Becomes t (decimal unscaled scale) (decimal unscaled scale)
  | datetime (ht : t.category = .datetime) : Becomes t (datetime micros) (datetime micros)
  | duration (ht : t.category = .duration) : Becomes t (duration nanos) (duration nanos)

variable {v w : Value} {t : SqlType} {k : Kind}

/-- The column holds the value in every slot. -/
structure IsSpreadOver (w : Value) (t : SqlType) (n : Nat) (c : Column) : Prop where
  size : c.size = n
  accepts : t.category.accepts c.type
  read : ∀ i < n, c.read i t = .ok w

theorem isSpreadOver_nulls (t : SqlType) (n : Nat) :
    null.IsSpreadOver t n (.nulls t.columnType n) where
  size := List.length_replicate
  accepts := t.accepts_self
  read _ hi := Column.read_nulls t.columnType_ne_null hi t

theorem isSpreadOver_filled {item : type.Item} (ha : t.category.accepts type)
    (h : ∀ i < n, (Column.filled type n item).read i t = .ok w) :
    w.IsSpreadOver t n (.filled type n item) where
  size := List.length_replicate
  accepts := ha
  read := h

theorem exists_broadcast_of_result (hk : t.category = k.category) (ha : v.as k = .ok (some a))
    (n : Nat) : ∃ c, v.broadcast t n = .ok c ∧ (k.box t (some a)).IsSpreadOver t n c := by
  have hv : v.isNull = false := by
    cases v with
    | null => cases k <;> cases ha
    | _ => rfl
  cases k with
  | int =>
    have hk : t.category = .int := hk
    cases hu : t.isUnsigned with
    | true =>
      refine ⟨.filled .uint64 n a.toUInt64, by simp [broadcast, hv, hk, ha, hu], ?_⟩
      have hbox : Kind.int.box t (some a) = .uint a.toUInt64 := if_pos hu
      rw [hbox]
      exact isSpreadOver_filled (hk ▸ rfl) fun i hi => Column.readSlot_filled hi _ _
    | false =>
      refine ⟨.filled .int64 n a, by simp [broadcast, hv, hk, ha, hu], ?_⟩
      refine isSpreadOver_filled (hk ▸ rfl) fun i hi => (Column.readSlot_filled hi _ _).trans ?_
      simp [Kind.box, hu]
  | real =>
    have hk : t.category = .real := hk
    refine ⟨.filled .float64 n a, by simp [broadcast, hv, hk, ha], ?_⟩
    exact isSpreadOver_filled (hk ▸ rfl) fun i hi => Column.readSlot_filled hi _ _
  | text =>
    have hk : t.category = .text := hk
    refine ⟨.filled .utf8 n a, by simp [broadcast, hv, hk, ha], ?_⟩
    exact isSpreadOver_filled (hk ▸ rfl) fun i hi => Column.readSlot_filled hi _ _

/-- A value that becomes one of the type is spread as that. -/
theorem Becomes.exists_broadcast (h : v.Becomes t w) (n : Nat) :
    ∃ c, v.broadcast t n = .ok c ∧ w.IsSpreadOver t n c := by
  cases h with
  | null => exact ⟨_, rfl, isSpreadOver_nulls t n⟩
  | result hk ha => exact exists_broadcast_of_result hk ha n
  | @decimal unscaled scale ht hs =>
    obtain ⟨p, s, hc, -, hle⟩ := SqlType.exists_decimal ht
    have hp : t.precision = p.toNat := by rw [SqlType.precision, hc]
    refine ⟨.filled (.decimal p scale) n unscaled, ?_, ?_⟩
    · obtain ⟨-, hcheck⟩ | ⟨hlt, -⟩ := checkDecimalType_cases hle scale
      · simp [broadcast, isNull, ht, hc, hcheck, Except.mapError]
      · omega
    · exact isSpreadOver_filled (ht ▸ rfl) fun i hi => Column.readSlot_filled hi _ _
  | @datetime micros ht =>
    refine ⟨.filled (.timestamp .microsecond none) n micros, by simp [broadcast, isNull, ht], ?_⟩
    exact isSpreadOver_filled (ht ▸ rfl) fun i hi => Column.readSlot_filled hi _ _
  | @duration nanos ht =>
    refine ⟨.filled (.duration .nanosecond) n nanos, by simp [broadcast, isNull, ht], ?_⟩
    exact isSpreadOver_filled (ht ▸ rfl) fun i hi => Column.readSlot_filled hi _ _

/-- Of two values that a value becomes, one is read where the other one is. -/
theorem Becomes.unique (h : v.Becomes t w) (h' : v.Becomes t w') : w = w' := by
  obtain ⟨c, hc, hw⟩ := h.exists_broadcast 1
  obtain ⟨c', hc', hw'⟩ := h'.exists_broadcast 1
  obtain rfl := Except.ok.inj (hc.symm.trans hc')
  exact Except.ok.inj ((hw.read 0 Nat.one_pos).symm.trans (hw'.read 0 Nat.one_pos))

theorem isNull_of_as (h : v.as k = .ok none) : v.isNull := by
  cases v with
  | null => rfl
  | decimal n scale =>
    cases k with
    | int | real => cases h
    | text =>
      simp only [as, asText] at h
      cases hr : (decimal n scale).render <;> rw [hr] at h <;> cases h
  | _ => cases k <;> cases h

theorem exists_becomes_of_result (hk : t.category = k.category) (hv : v.isNull = false)
    (ha : v.as k = .ok a) : ∃ w, v.Becomes t w := by
  cases a with
  | none => simp [isNull_of_as ha] at hv
  | some a => exact ⟨_, .result hk ha⟩

theorem exists_becomes (h : v.broadcast t n = .ok c) : ∃ w, v.Becomes t w := by
  cases hv : v.isNull with
  | true =>
    cases v with
    | null => exact ⟨_, .null⟩
    | _ => cases hv
  | false =>
    unfold broadcast at h
    rw [if_neg (by simp [hv])] at h
    split at h
    case h_1 ht =>
      obtain ⟨a, ha, -⟩ := bind_ok_iff.1 h
      exact exists_becomes_of_result (k := .int) ht hv ha
    case h_2 ht =>
      obtain ⟨a, ha, -⟩ := bind_ok_iff.1 h
      exact exists_becomes_of_result (k := .real) ht hv ha
    case h_3 ht =>
      obtain ⟨a, ha, -⟩ := bind_ok_iff.1 h
      exact exists_becomes_of_result (k := .text) ht hv ha
    case h_4 ht =>
      split at h
      case h_1 unscaled scale p s hc =>
        obtain ⟨u, hcheck, -⟩ := bind_ok_iff.1 h
        obtain ⟨p', s', hc', -, hle⟩ := SqlType.exists_decimal ht
        obtain ⟨rfl, rfl⟩ := ColumnType.decimal.inj (hc.symm.trans hc')
        obtain ⟨hs, -⟩ | ⟨-, e, he⟩ := checkDecimalType_cases hle scale
        · exact ⟨_, .decimal ht (by rwa [SqlType.precision, hc])⟩
        · rw [he] at hcheck
          cases hcheck
      case h_2 => cases h
    case h_5 ht =>
      split at h
      case h_1 micros => exact ⟨_, .datetime ht⟩
      case h_2 => cases h
    case h_6 ht =>
      split at h
      case h_1 nanos => exact ⟨_, .duration ht⟩
      case h_2 => cases h

theorem Becomes.read_broadcast (hw : v.Becomes t w) (h : v.broadcast t n = .ok c) :
    w.IsSpreadOver t n c := by
  obtain ⟨c', hc', hs⟩ := hw.exists_broadcast n
  exact Except.ok.inj (h.symm.trans hc') ▸ hs

theorem broadcast_error : (∃ f, v.broadcast t n = .error f) ↔ ¬∃ w, v.Becomes t w := by
  constructor
  · rintro ⟨f, h⟩ ⟨w, hw⟩
    obtain ⟨c, hc, -⟩ := hw.exists_broadcast n
    cases h.symm.trans hc
  · intro hw
    cases h : v.broadcast t n with
    | ok c => exact absurd (exists_becomes h) hw
    | error f => exact ⟨f, rfl⟩

/-- A column made of a value has as many slots as asked for, of a type that the category accepts,
and each is read as what the value becomes in the type. There is one such value or none, and it is
none exactly when no column is made. -/
theorem broadcast_readsBack (v : Value) (t : SqlType) (n : Nat) :
    (∀ c, v.broadcast t n = .ok c →
      c.size = n ∧ t.category.accepts c.type ∧
        ∃ w, v.Becomes t w ∧ ∀ i < n, c.read i t = .ok w) ∧
    ((∃ f, v.broadcast t n = .error f) ↔ ¬∃ w, v.Becomes t w) ∧
    ∀ w w', v.Becomes t w → v.Becomes t w' → w = w' := by
  refine ⟨fun c h => ?_, broadcast_error, fun w w' hw hw' => hw.unique hw'⟩
  obtain ⟨w, hw⟩ := exists_becomes h
  obtain ⟨hsize, haccepts, hread⟩ := hw.read_broadcast h
  exact ⟨hsize, haccepts, w, hw, hread⟩

/-- A negative number is spread over an unsigned column as its bit pattern. -/
theorem broadcast_readsBack_unsigned :
    ∃ c, (int (-1)).broadcast .unsignedBigint 2 = .ok c ∧ c.size = 2 ∧
      ∀ i < 2, c.read i .unsignedBigint = .ok (.uint 18446744073709551615) := by
  obtain ⟨hcolumn, -, hunique⟩ := broadcast_readsBack (int (-1)) .unsignedBigint 2
  obtain ⟨hsize, -, w, hw, hread⟩ := hcolumn _ rfl
  have hlargest : (int (-1)).Becomes .unsignedBigint (.uint 18446744073709551615) :=
    .result (k := .int) rfl rfl
  exact ⟨_, rfl, hsize, hunique w _ hw hlargest ▸ hread⟩

end Value

end ScalarExpr
