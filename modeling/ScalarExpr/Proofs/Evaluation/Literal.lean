import ScalarExpr.Proofs.Evaluation.Agreement
import ScalarExpr.Proofs.Evaluation.Constant
import ScalarExpr.Proofs.Value.Texts
/-!
Literals by rows and by chunks. A row converts the value, a chunk a column of it; what is said here
is for which values of a type the two give the same.
-/
namespace ScalarExpr

set_option autoImplicit true

/-- Both fail, or both give the same. -/
inductive SameResult : Except ε α → Except ε α → Prop
  | error (e e' : ε) : SameResult (.error e) (.error e')
  | ok (a : α) : SameResult (.ok a) (.ok a)

namespace SameResult

@[simp] theorem ok_ok_iff {a b : α} : SameResult (ε := ε) (.ok a) (.ok b) ↔ a = b := by
  constructor
  · intro h
    cases h
    rfl
  · intro h
    subst h
    exact .ok a

@[simp] theorem not_ok_error {a : α} {e : ε} : ¬SameResult (.ok a) (.error e) := nofun

@[simp] theorem not_error_ok {a : α} {e : ε} : ¬SameResult (.error e) (.ok a) := nofun

@[simp] theorem error_error {e e' : ε} : SameResult (α := α) (.error e) (.error e') := .error e e'

theorem map_iff {f : α → β} (hf : ∀ a b, f a = f b → a = b) {x y : Except ε α} :
    SameResult (x.map f) (y.map f) ↔ SameResult x y := by
  cases x with
  | error e => cases y <;> simp [Except.map]
  | ok a =>
    cases y with
    | error e => simp [Except.map]
    | ok b =>
      rw [Except.map, Except.map, ok_ok_iff, ok_ok_iff]
      exact ⟨hf a b, congrArg f⟩

end SameResult

/-! ### One slot for all -/

/-- What a column of one slot with the value gives. -/
def Value.viaColumn (v : Value) (t : SqlType) (k : Kind) : Except Failure (List (Option k.Item)) :=
  v.broadcast t 1 >>= (·.slots k)

theorem Value.repeats_slots (v : Value) (t : SqlType) (k : Kind) :
    Repeats List.replicate fun n => v.broadcast t n >>= (·.slots k) :=
  (v.repeats_broadcast t).bind fun s => (s.repeats_fill (.empty k.category)).bind fun p =>
    Slot.repeats_slots k p

/-- The number of rows does not matter. -/
theorem Value.sameResult_slots_iff (v : Value) (t : SqlType) (k : Kind) (hn : 0 < n)
    (a : Except Failure (Option k.Item)) :
    SameResult (a.map (List.replicate n)) (v.broadcast t n >>= (·.slots k)) ↔
      SameResult (a.map ([·])) (v.viaColumn t k) := by
  obtain ⟨o, ho⟩ := v.repeats_slots t k
  have hmany : (v.broadcast t n >>= (·.slots k)) = o.map (List.replicate n) := ho n hn
  have hone : v.viaColumn t k = o.map ([·]) := ho 1 Nat.one_pos
  rw [hmany, hone, SameResult.map_iff, SameResult.map_iff]
  · intro a b h
    exact List.singleton_inj.1 h
  · intro a b h
    exact (List.replicate_inj.1 h).2.resolve_left (Nat.ne_of_gt hn)

/-! ### Declared types -/

namespace SqlType

/-- The precision of a decimal type. -/
def precision (t : SqlType) : Nat :=
  match t.columnType with
  | .decimal p _ => p.toNat
  | _ => 0

/-- The scale of a decimal type. -/
def scale (t : SqlType) : Int :=
  match t.columnType with
  | .decimal _ s => s.toInt
  | _ => 0

variable {t : SqlType}

theorem decimalLength_bounds {length : Int32} (h : 0 < length) :
    0 < (min length 38).toInt.toNat.toUInt8.toNat ∧
      (min length 38).toInt.toNat.toUInt8.toNat ≤ 38 := by
  have hpos : 0 < length.toInt := Int32.lt_iff_toInt_lt.1 h
  have hmin : (min length 38).toInt = min length.toInt 38 := by
    show (if length ≤ 38 then length else 38).toInt = _
    have h38 : (38 : Int32).toInt = 38 := rfl
    by_cases hl : length ≤ 38
    · have hi := Int32.le_iff_toInt_le.1 hl
      rw [if_pos hl]
      omega
    · have hi : ¬length.toInt ≤ 38 := fun hi => hl (Int32.le_iff_toInt_le.2 hi)
      rw [if_neg hl]
      omega
  have hmod : (min length 38).toInt.toNat.toUInt8.toNat = (min length 38).toInt.toNat % 256 :=
    UInt8.toNat_ofNat'
  omega

theorem exists_decimal (ht : t.category = .decimal) :
    ∃ p s, t.columnType = .decimal p s ∧ 0 < p.toNat ∧ p.toNat ≤ 38 := by
  have hc : t.columnType = .decimal
      (if 0 < t.length then (min t.length 38).toInt.toNat.toUInt8 else 38)
      (Int8.ofInt (max t.decimals.toInt 0)) := by
    rw [columnType, ht]
  refine ⟨_, _, hc, ?_⟩
  split
  case isTrue h => exact decimalLength_bounds h
  case isFalse => decide

theorem nullSlots_int (h : t.category ≠ .decimal) :
    t.scale = 0 ∧ Column.slots ⟨t.columnType, [none]⟩ .int = .ok [none] := by
  unfold scale columnType
  cases ht : t.category with
  | int => cases t.isUnsigned <;> exact ⟨rfl, rfl⟩
  | decimal => exact absurd ht h
  | real | text | datetime | duration => exact ⟨rfl, rfl⟩

theorem nullSlots_real (t : SqlType) : Column.slots ⟨t.columnType, [none]⟩ .real = .ok [none] := by
  unfold columnType
  cases t.category with
  | int => cases t.isUnsigned <;> rfl
  | real | decimal | text | datetime | duration => rfl

theorem nullSlots_text (t : SqlType) : Column.slots ⟨t.columnType, [none]⟩ .text = .ok [none] := by
  unfold columnType
  cases t.category with
  | int => cases t.isUnsigned <;> rfl
  | real | decimal | text | datetime | duration => rfl

end SqlType

/-- A column of decimals is turned into whole numbers unless its scale is out of bounds. -/
theorem Column.decimalSlots_int (p : UInt8) (s : Int8) (xs : List (Option Int128)) :
    Column.slots ⟨.decimal p s, xs⟩ .int =
      if 0 ≤ s.toInt ∧ s.toInt ≤ 38 then
        .ok (mapSlots xs fun n => int64? (n.toInt.tdiv (Int.pow 10 s.toInt.toNat)))
      else .error (.error (.column (.decimalCastScale s))) := by
  have hs : (0 ≤ s && s ≤ 38) = true ↔ 0 ≤ s.toInt ∧ s.toInt ≤ 38 := by
    rw [Bool.and_eq_true, decide_eq_true_iff, decide_eq_true_iff, Int8.le_iff_toInt_le,
      Int8.le_iff_toInt_le]
    rfl
  have hd : (⟨.decimal p s, xs⟩ : Column).type ≠ .uint64 := nofun
  rw [slots_int hd, toInts]
  simp only [hs]

theorem Column.mapSlotsM_single (a : α) (f : α → Except ε β) :
    mapSlotsM [some a] f = (f a).map fun b => [some b] := by
  cases h : f a <;> simp [mapSlotsM, h, Except.map]

theorem checkDecimalType_cases {p : UInt8} (hp : p.toNat ≤ 38) (s : Int8) :
    s.toInt ≤ p.toNat ∧ checkDecimalType p s = .ok () ∨
      (p.toNat : Int) < s.toInt ∧ ∃ e, checkDecimalType p s = .error e := by
  have h38 : 38 < s ↔ (38 : Int) < s.toInt := Int8.lt_iff_toInt_lt
  unfold checkDecimalType
  by_cases hs : 38 < s
  · have hi := h38.1 hs
    rw [if_pos hs]
    exact .inr ⟨by omega, _, rfl⟩
  · rw [if_neg hs]
    by_cases hps : (p.toNat : Int) < s.toInt
    · rw [if_pos hps]
      exact .inr ⟨hps, _, rfl⟩
    · rw [if_neg hps]
      exact .inl ⟨Int.not_lt.1 hps, rfl⟩

/-! ### Values that are converted alike -/

namespace Value

variable {t : SqlType}

/-- Rows and columns convert a value of the type alike. -/
def ConvertsAlike (t : SqlType) : Value → Kind → Prop
  | null, k =>
    match k with
    | .int => 0 ≤ t.scale ∧ t.scale ≤ 38
    | .real | .text => True
  | int _, _ | uint _, _ => True
  | real x, k =>
    match k with
    | .int => False
    | .real => True
    | .text => x.isNaN ∨ x.isInfinite ∨ x.IsPlainFraction
  | decimal n scale, k =>
    match k with
    | .int => scale.toInt < 0 ∨ t.precision < scale.toInt
    | .real => scale.toInt ≤ t.precision
    | .text =>
      scale.toInt ≤ t.precision ∧ n.toInt.natAbs < 10 ^ t.precision ∧
        (scale.toInt < 0 → n.toInt ≠ 0)
  | text _, k => k = .text
  | datetime _, _ | duration _, _ => False

theorem null_sameResult_iff (t : SqlType) (k : Kind) :
    SameResult ((null.as k).map ([·])) (null.viaColumn t k) ↔ null.ConvertsAlike t k := by
  have hb : null.viaColumn t k = Column.slots ⟨t.columnType, [none]⟩ k := rfl
  rw [hb]
  cases k with
  | int =>
    by_cases ht : t.category = .decimal
    · obtain ⟨p, s, hc, -⟩ := SqlType.exists_decimal ht
      rw [ConvertsAlike, SqlType.scale, hc, Column.decimalSlots_int]
      by_cases hs : 0 ≤ s.toInt ∧ s.toInt ≤ 38
      · rw [if_pos hs]
        exact iff_of_true (.ok _) hs
      · rw [if_neg hs]
        exact iff_of_false SameResult.not_ok_error hs
    · obtain ⟨hs, hn⟩ := SqlType.nullSlots_int ht
      rw [ConvertsAlike, hs, hn]
      exact iff_of_true (.ok _) ⟨by decide, by decide⟩
  | real =>
    rw [t.nullSlots_real]
    exact iff_of_true (.ok _) trivial
  | text =>
    rw [t.nullSlots_text]
    exact iff_of_true (.ok _) trivial

theorem int_sameResult (ht : t.category = .int) (hu : t.isUnsigned = false) (n : Int64)
    (k : Kind) : SameResult (((int n).as k).map ([·])) ((int n).viaColumn t k) := by
  have hb : (int n).broadcast t 1 = .ok ⟨.int64, [some n]⟩ := by
    simp [broadcast, isNull, ht, hu, as, asInt, Except.mapError, Column.filled]
  rw [viaColumn, hb]
  cases k with
  | int | real | text => exact .ok _

theorem uint_sameResult (ht : t.category = .int) (hu : t.isUnsigned) (n : UInt64)
    (k : Kind) : SameResult (((uint n).as k).map ([·])) ((uint n).viaColumn t k) := by
  have hb : (uint n).broadcast t 1 = .ok ⟨.uint64, [some n]⟩ := by
    simp [broadcast, isNull, ht, hu, as, asInt, Except.mapError, Column.filled]
  rw [viaColumn, hb]
  cases k with
  | int | real | text => exact .ok _

theorem real_sameResult_iff (ht : t.category = .real) (x : Binary64) (k : Kind) :
    SameResult (((real x).as k).map ([·])) ((real x).viaColumn t k) ↔
      (real x).ConvertsAlike t k := by
  have hb : (real x).broadcast t 1 = .ok ⟨.float64, [some x]⟩ := by
    simp [broadcast, isNull, ht, as, asReal, Except.mapError, Column.filled]
  rw [viaColumn, hb]
  cases k with
  | int => exact iff_of_false SameResult.not_error_ok not_false
  | real => exact iff_of_true (.ok _) trivial
  | text =>
    show SameResult (.ok [some (x.text .value)]) (.ok [some (x.text .double)]) ↔ _
    rw [SameResult.ok_ok_iff, List.singleton_inj, Option.some_inj]
    exact x.text_eq_iff

theorem text_sameResult_iff (ht : t.category = .text) (s : String) (k : Kind) :
    SameResult (((text s).as k).map ([·])) ((text s).viaColumn t k) ↔
      (text s).ConvertsAlike t k := by
  have hb : (text s).broadcast t 1 = .ok ⟨.utf8, [some s]⟩ := by
    simp [broadcast, isNull, ht, as, asText, render, Except.map, Except.mapError, Column.filled]
  rw [viaColumn, hb]
  cases k with
  | int | real => exact iff_of_false SameResult.not_error_ok Kind.noConfusion
  | text => exact iff_of_true (.ok _) rfl

theorem as_decimal_text (hr : (decimal n scale).render = .ok s) :
    (decimal n scale).as .text = .ok (some s) := by
  rw [as, asText, hr]
  · rfl
  · exact Value.noConfusion

theorem decimal_sameResult_iff (ht : t.category = .decimal) (n : Int128) (scale : Int8) {k : Kind}
    (hr : k = .text → ∃ s, (decimal n scale).render = .ok s) :
    SameResult (((decimal n scale).as k).map ([·])) ((decimal n scale).viaColumn t k) ↔
      (decimal n scale).ConvertsAlike t k := by
  obtain ⟨p, s, hc, hpos, hle⟩ := SqlType.exists_decimal ht
  have hp : t.precision = p.toNat := by rw [SqlType.precision, hc]
  have hb : (decimal n scale).broadcast t 1 =
      (checkDecimalType p scale).mapError (Failure.error ∘ .column) >>= fun _ =>
        .ok ⟨.decimal p scale, [some n]⟩ := by
    simp [broadcast, isNull, ht, hc, Column.filled]
    rfl
  rw [viaColumn, hb]
  obtain ⟨hs, hcheck⟩ | ⟨hs, e, hcheck⟩ := checkDecimalType_cases hle scale
  · rw [hcheck]
    show SameResult _ (Column.slots ⟨.decimal p scale, [some n]⟩ k) ↔ _
    cases k with
    | int =>
      rw [Column.decimalSlots_int, ConvertsAlike, hp]
      by_cases hz : 0 ≤ scale.toInt
      · rw [if_pos ⟨hz, by omega⟩]
        exact iff_of_false SameResult.not_error_ok (by omega)
      · rw [if_neg fun h => hz h.1]
        exact iff_of_true (.error _ _) (by omega)
    | real =>
      rw [ConvertsAlike, hp]
      exact iff_of_true (.ok _) hs
    | text =>
      obtain ⟨text, hr⟩ := hr rfl
      have hcolumn : Column.slots ⟨.decimal p scale, [some n]⟩ .text =
          .ok [some (decimalColumnText p.toNat scale.toInt n.toInt)] := Column.slots_text _
      rw [as_decimal_text hr, hcolumn, Except.map, SameResult.ok_ok_iff, List.singleton_inj,
        Option.some_inj, decimalText_eq_iff hpos hs hr, ConvertsAlike, hp]
      exact (and_iff_right hs).symm
  · rw [hcheck]
    show SameResult _ (Except.error (Failure.error (.column e))) ↔ _
    cases k with
    | int => exact iff_of_true (.error _ _) (.inr (by omega))
    | real => exact iff_of_false SameResult.not_ok_error (by rw [ConvertsAlike]; omega)
    | text =>
      obtain ⟨text, hr⟩ := hr rfl
      rw [as_decimal_text hr]
      exact iff_of_false SameResult.not_ok_error (by rw [ConvertsAlike]; omega)

theorem datetime_not_sameResult (ht : t.category = .datetime) (micros : Int64) (k : Kind) :
    ¬SameResult (((datetime micros).as k).map ([·])) ((datetime micros).viaColumn t k) := by
  have hb : (datetime micros).broadcast t 1 =
      .ok ⟨.timestamp .microsecond none, [some micros]⟩ := by
    simp [broadcast, isNull, ht, Column.filled]
  rw [viaColumn, hb]
  cases k with
  | int | real => exact SameResult.not_error_ok
  | text =>
    let m := Moment.ofUnits 1000000 micros.toInt
    have hs : Column.slots ⟨.timestamp .microsecond none, [some micros]⟩ .text =
        (Column.momentText (.timestamp .microsecond none) .microsecond Moment.joinedText
          micros.toInt).map fun s => [some s] := by
      rw [Column.slots_text]
      exact Column.mapSlotsM_single _ _
    show ¬SameResult (.ok [some (datetimeText micros.toInt)]) (Column.slots _ .text)
    rw [hs]
    by_cases hm : m.date.hasText
    · have hrow : datetimeText micros.toInt = m.spacedText := if_pos hm
      have hcolumn : Column.momentText (.timestamp .microsecond none) .microsecond
          Moment.joinedText micros.toInt = .ok m.joinedText := if_pos hm
      rw [hrow, hcolumn, Except.map, SameResult.ok_ok_iff, List.singleton_inj, Option.some_inj]
      exact m.spacedText_ne_joinedText
    · have hcolumn : Column.momentText (.timestamp .microsecond none) .microsecond
          Moment.joinedText micros.toInt = .error _ := if_neg hm
      rw [hcolumn]
      exact SameResult.not_ok_error

theorem duration_not_sameResult (ht : t.category = .duration) (nanos : Int64) (k : Kind) :
    ¬SameResult (((duration nanos).as k).map ([·])) ((duration nanos).viaColumn t k) := by
  have hb : (duration nanos).broadcast t 1 = .ok ⟨.duration .nanosecond, [some nanos]⟩ := by
    simp [broadcast, isNull, ht, Column.filled]
  rw [viaColumn, hb]
  cases k with
  | int | real => exact SameResult.not_error_ok
  | text =>
    have hs : Column.slots ⟨.duration .nanosecond, [some nanos]⟩ .text =
        .ok [some (spanText (nanos.toInt * 1))] := by
      rw [Column.slots_text]
      exact Column.mapSlotsM_single _ _
    have hrow : (duration nanos).as .text = .ok (some (durationText nanos.toInt)) := rfl
    show ¬SameResult _ (Column.slots ⟨.duration .nanosecond, [some nanos]⟩ .text)
    rw [hrow, hs, Except.map, SameResult.ok_ok_iff, List.singleton_inj, Option.some_inj, Int.mul_one]
    exact durationText_ne_spanText nanos.toInt

/-- Exactly the values that are converted alike give for one row what they give as a column. -/
theorem sameResult_iff {v : Value} {k : Kind} (hv : v.fits t)
    (hr : k = .text → ∃ s, v.render = .ok s) :
    SameResult ((v.as k).map ([·])) (v.viaColumn t k) ↔ v.ConvertsAlike t k := by
  cases v with
  | null => exact null_sameResult_iff t k
  | int n =>
    simp only [fits, Bool.and_eq_true, decide_eq_true_eq, Bool.not_eq_true'] at hv
    exact iff_of_true (int_sameResult hv.1 hv.2 n k) trivial
  | uint n =>
    simp only [fits, Bool.and_eq_true, decide_eq_true_eq] at hv
    exact iff_of_true (uint_sameResult hv.1 hv.2 n k) trivial
  | real x => exact real_sameResult_iff (of_decide_eq_true hv) x k
  | text s => exact text_sameResult_iff (of_decide_eq_true hv) s k
  | decimal n scale => exact decimal_sameResult_iff (of_decide_eq_true hv) n scale hr
  | datetime micros =>
    exact iff_of_false (datetime_not_sameResult (of_decide_eq_true hv) micros k) id
  | duration nanos =>
    exact iff_of_false (duration_not_sameResult (of_decide_eq_true hv) nanos k) id

end Value

namespace Expr

variable {env : Env} {r : Row} {input : Chunk} {b : Buffer} {k : Kind}

/-- The evaluations for the row and for the chunk fail both, or both succeed and every slot of the
filled buffer holds the result for the row. -/
def AgreesOn (e : Expr) (env : Env) (r : Row) (input : Chunk) (b : Buffer) (k : Kind) : Prop :=
  (∃ f f', e.evalAs env r k = Eval.lift (.error f) ∧
    e.fillBuffer env input b = Eval.lift (.error f')) ∨
  ∃ a filled, e.evalAs env r k = pure a ∧ e.fillBuffer env input b = pure filled ∧
    filled.slots k = .ok (List.replicate input.rowCount a)

theorem literal_agreesOn_iff {v : Value} (hv : v.fits t) (hr : k = .text → ∃ s, v.render = .ok s)
    (hb : b.category = k.category) (hn : 0 < input.rowCount) (memo : Memo) (env : Env) (r : Row) :
    (literal v t memo).AgreesOn env r input b k ↔ v.ConvertsAlike t k := by
  have hsteady : ((literal v t memo).meaning env).IsSteady := .leaf _ _ _
  have hrow : (literal v t memo).evalAs env r k = Eval.lift (v.as k) := rfl
  have hslots : ((literal v t memo).meaning env).slots k input =
      v.broadcast t input.rowCount >>= (·.slots k) := rfl
  rw [← v.sameResult_iff hv hr, ← v.sameResult_slots_iff t k hn, ← hslots, AgreesOn,
    fillBuffer_eq hb, hrow]
  obtain ⟨f', hb, hs⟩ | ⟨filled, xs, hb, hf, hs⟩ := hsteady.buffer_cases k input
  · rw [hb, hs]
    cases v.as k with
    | error f => exact iff_of_true (.inl ⟨f, f', rfl, rfl⟩) (.error f f')
    | ok a =>
      apply iff_of_false
      · rintro (⟨_, _, h, -⟩ | ⟨_, _, -, h, -⟩) <;> cases Eval.lift_inj.1 h
      · exact SameResult.not_ok_error
  · rw [hb, hs]
    cases v.as k with
    | error f =>
      apply iff_of_false
      · rintro (⟨_, _, -, h⟩ | ⟨_, _, h, -⟩) <;> cases Eval.lift_inj.1 h
      · exact SameResult.not_error_ok
    | ok a =>
      rw [Except.map, SameResult.ok_ok_iff]
      constructor
      · rintro (⟨_, _, h, -⟩ | ⟨a', filled', ha, hb', hf'⟩)
        · cases Eval.lift_inj.1 h
        · cases Eval.lift_inj.1 ha
          cases Eval.pure_inj.1 hb'
          exact Except.ok.inj (hf'.symm.trans hf)
      · intro h
        exact .inr ⟨a, filled, rfl, rfl, h ▸ hf⟩

/-- A literal of its type gives for a row what it gives in each slot for a chunk, or both fail, if
its value is converted alike. If rows refuse the kind of value, they fail alone in all other cases:
the column is converted for the chunk. For results that are text the value has to have one. -/
theorem literal_agreement {v : Value} (hv : v.fits t) (hr : k = .text → ∃ s, v.render = .ok s)
    (hb : b.category = k.category) (hn : 0 < input.rowCount) (memo : Memo) (env : Env) (r : Row) :
    (v.ConvertsAlike t k → (literal v t memo).AgreesOn env r input b k) ∧
      ∀ f, v.as k = .error f → ¬v.ConvertsAlike t k →
        (literal v t memo).evalAs env r k = Eval.lift (.error f) ∧
          ∃ filled, (literal v t memo).fillBuffer env input b = pure filled := by
  have hiff := literal_agreesOn_iff hv hr hb hn memo env r
  refine ⟨hiff.2, ?_⟩
  intro f hf halike
  have hrow : (literal v t memo).evalAs env r k = Eval.lift (.error f) := by
    rw [← hf]
    rfl
  refine ⟨hrow, ?_⟩
  have hsteady : ((literal v t memo).meaning env).IsSteady := .leaf _ _ _
  rw [fillBuffer_eq hb]
  obtain ⟨f', hfill, -⟩ | ⟨filled, -, hfill, -⟩ := hsteady.buffer_cases k input
  · rw [← fillBuffer_eq hb] at hfill
    exact absurd (hiff.1 (.inl ⟨f, f', hrow, hfill⟩)) halike
  · exact ⟨filled, hfill⟩

/-- A decimal with digits after the point, as text. -/
theorem literal_agreement_decimal :
    let v := Value.decimal 1250 2
    let t := SqlType.decimal 10 2
    let rows : Chunk := ⟨[], 2, List.forall_mem_nil _⟩
    v.fits t ∧ v.ConvertsAlike t .text ∧
      (literal v t none).evalAs {} .empty .text = pure (some "12.50") ∧
      ∃ filled, (literal v t none).fillBuffer {} rows (.empty .text) = pure filled ∧
        filled.slots .text = .ok [some "12.50", some "12.50"] := by
  intro v t rows
  have hv : v.fits t := rfl
  have hr : v.render = .ok "12.50" := rfl
  have halike : v.ConvertsAlike t .text := ⟨by decide, by decide, by decide⟩
  have hrow : (literal v t none).evalAs {} .empty .text = pure (some "12.50") := rfl
  have hn : 0 < rows.rowCount := by decide
  have hb : (Buffer.empty .text).category = Kind.text.category := rfl
  obtain ⟨f, f', hf, -⟩ | ⟨a, filled, ha, hb, hs⟩ :=
    (literal_agreement hv (fun _ => ⟨_, hr⟩) hb hn none {} .empty).1 halike
  · cases Eval.lift_inj.1 (hrow.symm.trans hf)
  · cases Eval.pure_inj.1 (hrow.symm.trans ha)
    exact ⟨hv, halike, hrow, filled, hb, hs⟩

/-- A real is no integer for a row, and for a chunk its fraction is cut off. -/
theorem literal_disagrees_fraction :
    let v := Value.real ⟨0x3ff8000000000000⟩
    let row : Chunk := ⟨[], 1, List.forall_mem_nil _⟩
    v.fits .double ∧
      (literal v .double none).evalAs {} .empty .int =
        Eval.lift (.error (.error (.typeMismatch "INT64" "FLOAT64"))) ∧
      ∃ filled, (literal v .double none).fillBuffer {} row (.empty .int) = pure filled ∧
        filled.slots .int = .ok [some 1] := by
  intro v row
  have hint : (Binary64.truncate? ⟨0x3ff8000000000000⟩).bind int64? = some 1 := by decide
  refine ⟨rfl, rfl, _, rfl, ?_⟩
  rw [← hint]
  rfl

end Expr

end ScalarExpr
