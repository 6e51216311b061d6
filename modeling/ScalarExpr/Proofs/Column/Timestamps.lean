import ScalarExpr.Proofs.Calendar
import ScalarExpr.Proofs.Traversal
/-!
Timestamps as text. What a column of timestamps is written as, with or without a zone, is read as the
same timestamps.
-/
namespace ScalarExpr

set_option autoImplicit true

namespace Numeral

theorem value_eq (cs : List Char) : value cs = Nat.ofDigitChars 10 cs 0 := by
  rw [value, Nat.ofDigitChars_eq_foldl]

theorem value_padded (width n : Nat) : value (padded width n).toList = n := by
  rw [value_eq, ofDigitChars_padded]

theorem nat?_padded (width n : Nat) : nat? (padded width n).toList = some n := by
  have hne : (padded width n).toList ≠ [] := by
    rw [toList_padded]
    simp [Nat.toDigits_ne_nil]
  have hd : (padded width n).toList.all Char.isDigit :=
    List.all_eq_true.2 fun c hc => isDigit_of_mem_padded hc
  rw [nat?, value_padded, hd]
  simp [hne]

theorem exists_two_digits (h : n < 100) :
    ∃ a b, (padded 2 n).toList = [a, b] ∧ nat? [a, b] = some n := by
  have hl := length_padded (by decide : 0 < 2) h
  match hd : (padded 2 n).toList, hl with
  | [a, b], _ => exact ⟨a, b, rfl, hd ▸ nat?_padded 2 n⟩

theorem exists_four_digits (h : n < 10000) :
    ∃ a b c d, (padded 4 n).toList = [a, b, c, d] ∧ nat? [a, b, c, d] = some n := by
  have hl := length_padded (by decide : 0 < 4) h
  match hd : (padded 4 n).toList, hl with
  | [a, b, c, d], _ => exact ⟨a, b, c, d, rfl, hd ▸ nat?_padded 4 n⟩

end Numeral

namespace Timestamp

/-- The text goes on with neither digits nor a fraction. -/
def EndsClock (rest : List Char) : Prop := ∀ c ∈ rest.head?, ¬c.isDigit ∧ c ≠ '.'

theorem timeOfDay?_eq (hs : Numeral.nat? hours = some h) (ms : Numeral.nat? minutes = some m)
    (ss : Numeral.nat? seconds = some s) (hh : h < 24) (hm : m < 60) (hs' : s < 60) :
    timeOfDay? hours minutes seconds micros =
      some ((((h * 60 + m) * 60 + s : Nat) : Int) * 1000000 + micros) := by
  have hs60 : s ≤ 60 := by omega
  simp [timeOfDay?, hs, ms, ss, hh, hm, hs60]

theorem microsOf_padded (hk : width ≤ 6) (hw : 0 < width) (hn : n < 10 ^ width) :
    microsOf (padded width n).toList = n * 10 ^ (6 - width) := by
  have hl := length_padded hw hn
  have ht : ((padded width n).toList ++ List.replicate 6 '0').take 6 =
      (padded width n).toList ++ List.replicate (6 - width) '0' := by
    rw [List.take_append, hl, List.take_of_length_le (by omega), List.take_replicate,
      Nat.min_eq_left (Nat.sub_le _ _)]
  rw [microsOf, ht, Numeral.value_eq, Nat.ofDigitChars_append, ← Numeral.value_eq,
    Numeral.value_padded, Nat.ofDigitChars_replicate_zero, Nat.mul_comm]

theorem takeWhile_padded (h : EndsClock rest) (width n : Nat) :
    ((padded width n).toList ++ rest).takeWhile Char.isDigit = (padded width n).toList ∧
      ((padded width n).toList ++ rest).dropWhile Char.isDigit = rest := by
  have hd : ∀ c ∈ (padded width n).toList, c.isDigit := fun c => isDigit_of_mem_padded
  rw [List.takeWhile_append_of_pos hd, List.dropWhile_append_of_pos hd]
  cases rest with
  | nil => simp
  | cons c cs =>
    have hc := (h c rfl).1
    simp [hc]

theorem fraction?_nil (h : EndsClock rest) : fraction? rest = some (0, rest) := by
  cases rest with
  | nil => rfl
  | cons c cs =>
    have hc := (h c rfl).2
    unfold fraction?
    split
    case h_1 heq =>
      cases heq
      exact absurd rfl hc
    case h_2 => rfl

theorem fraction?_padded (width : Nat) (h : EndsClock rest) (hk : width ≤ 6) (hw : 0 < width)
    (hn : n < 10 ^ width) :
    fraction? ('.' :: ((padded width n).toList ++ rest)) = some (n * 10 ^ (6 - width), rest) := by
  obtain ⟨htake, hdrop⟩ := takeWhile_padded h width n
  have hne : (padded width n).toList.isEmpty = false := by
    rw [List.isEmpty_eq_false_iff, ← List.length_pos_iff, length_padded hw hn]
    exact hw
  rw [fraction?, htake, hdrop, hne, microsOf_padded hk hw hn]
  rfl

theorem fraction?_text (m : Moment) (hn : m.nanos < 1000000000) (hm : m.nanos % 1000 = 0)
    (h : EndsClock rest) :
    fraction? (m.fractionText.toList ++ rest) = some (m.nanos / 1000, rest) := by
  rw [Moment.fractionText]
  by_cases h0 : m.nanos = 0
  · rw [if_pos h0, h0]
    exact fraction?_nil h
  · rw [if_neg h0]
    by_cases h3 : m.nanos % 1000000 = 0
    · have hc := fraction?_padded 3 h (by decide) (by decide)
        (by omega : m.nanos / 1000000 < 1000)
      have he : m.nanos / 1000000 * 10 ^ (6 - 3) = m.nanos / 1000 := by omega
      rw [he] at hc
      rw [if_pos h3, String.toList_append]
      exact hc
    · have hc := fraction?_padded 6 h (by decide) (by decide)
        (by omega : m.nanos / 1000 < 1000000)
      rw [Nat.sub_self, Nat.pow_zero, Nat.mul_one] at hc
      rw [if_neg h3, if_pos hm, String.toList_append]
      exact hc

theorem clock?_text (m : Moment) (hn : m.nanos < 1000000000) (hm : m.nanos % 1000 = 0)
    (h : EndsClock rest) :
    clock? ((clockText m.secondOfDay).toList ++ (m.fractionText.toList ++ rest)) =
      some ((m.secondOfDay : Int) * 1000000 + (m.nanos / 1000 : Nat), rest) := by
  have hs : m.secondOfDay < 86400 := by
    rw [Moment.secondOfDay]
    omega
  have hf := fraction?_text m hn hm h
  generalize m.secondOfDay = s at hs ⊢
  obtain ⟨h₁, h₀, hh, hh'⟩ := Numeral.exists_two_digits (by omega : s / 3600 < 100)
  obtain ⟨m₁, m₀, hmin, hmin'⟩ := Numeral.exists_two_digits (by omega : s / 60 % 60 < 100)
  obtain ⟨s₁, s₀, hsec, hsec'⟩ := Numeral.exists_two_digits (by omega : s % 60 < 100)
  have hclock : (clockText s).toList = [h₁, h₀, ':', m₁, m₀, ':', s₁, s₀] := by
    simp [clockText, hh, hmin, hsec]
  have htime : timeOfDay? [h₁, h₀] [m₁, m₀] [s₁, s₀] (m.nanos / 1000) =
      some ((s : Int) * 1000000 + (m.nanos / 1000 : Nat)) := by
    have hsum : (s / 3600 * 60 + s / 60 % 60) * 60 + s % 60 = s := by omega
    rw [timeOfDay?_eq hh' hmin' hsec' (by omega) (by omega) (by omega), hsum]
  simp [hclock, clock?, hf, htime]

end Timestamp

namespace TimeZone

theorem seconds?_digits {h m : Nat} (hh : Numeral.nat? hours = some h)
    (hm : Numeral.nat? minutes = some m) (hd : h * 3600 + m * 60 < 86400) :
    seconds? hours minutes = some ((h * 3600 + m * 60 : Nat) : Int) := by
  simp [seconds?, hh, hm, hd]

/-- An offset that is written is read. -/
theorem zone?_offsetText {offset : Int} (hd : offset.natAbs < 86400) (hm : offset % 60 = 0) :
    Timestamp.zone? (offsetText offset).toList = some offset := by
  rw [offsetText]
  by_cases h0 : offset = 0
  · rw [if_pos h0, h0]
    rfl
  obtain ⟨h₁, h₀, hh, hh'⟩ :=
    Numeral.exists_two_digits (by omega : offset.natAbs / 3600 < 100)
  obtain ⟨m₁, m₀, hmin, hmin'⟩ :=
    Numeral.exists_two_digits (by omega : offset.natAbs / 60 % 60 < 100)
  have hseconds : magnitude? [h₁, h₀, ':', m₁, m₀] = some (offset.natAbs : Int) := by
    have he : offset.natAbs / 3600 * 3600 + offset.natAbs / 60 % 60 * 60 = offset.natAbs := by
      omega
    rw [magnitude?, seconds?_digits hh' hmin' (by omega), he]
  rw [if_neg h0]
  by_cases hneg : offset < 0
  · have ht : ("-" ++ padded 2 (offset.natAbs / 3600) ++ ":"
        ++ padded 2 (offset.natAbs / 60 % 60)).toList = ['-', h₁, h₀, ':', m₁, m₀] := by
      simp [hh, hmin]
    have hread : Timestamp.zone? ['-', h₁, h₀, ':', m₁, m₀] =
        (magnitude? [h₁, h₀, ':', m₁, m₀]).map Neg.neg := rfl
    rw [if_pos hneg, ht, hread, hseconds, Option.map_some, Option.some_inj]
    omega
  · have ht : ("+" ++ padded 2 (offset.natAbs / 3600) ++ ":"
        ++ padded 2 (offset.natAbs / 60 % 60)).toList = ['+', h₁, h₀, ':', m₁, m₀] := by
      simp [hh, hmin]
    have hread : Timestamp.zone? ['+', h₁, h₀, ':', m₁, m₀] =
        magnitude? [h₁, h₀, ':', m₁, m₀] := rfl
    rw [if_neg hneg, ht, hread, hseconds, Option.some_inj]
    omega

theorem endsClock_offsetText (offset : Int) : Timestamp.EndsClock (offsetText offset).toList := by
  rw [offsetText]
  split
  · intro c hc
    cases hc
    decide
  · intro c hc
    split at hc
    all_goals
      simp at hc
      subst hc
      decide

end TimeZone

namespace Timestamp

/-- The text of a moment, as clocks that are ahead show it, names the moment. -/
theorem micros?_text (m : Moment) (hn : m.nanos < 1000000000) (hm : m.nanos % 1000 = 0)
    (h0 : 0 ≤ m.date.year) (h4 : m.date.year ≤ 9999) {zone : String}
    (he : EndsClock zone.toList) (hz : zone? zone.toList = some offset) :
    micros? (m.joinedText ++ zone) =
      some ((m.seconds - offset) * 1000000 + (m.nanos / 1000 : Nat)) := by
  obtain ⟨year, month, day, hy, hmo, hd, hdate, htext⟩ := CivilDate.exists_text _ h0 h4
  obtain ⟨y₃, y₂, y₁, y₀, hys, hyn⟩ := Numeral.exists_four_digits hy
  obtain ⟨m₁, m₀, hms, hmn⟩ := Numeral.exists_two_digits hmo
  obtain ⟨d₁, d₀, hds, hdn⟩ := Numeral.exists_two_digits hd
  have hl : (m.joinedText ++ zone).toList =
      y₃ :: y₂ :: y₁ :: y₀ :: '-' :: m₁ :: m₀ :: '-' :: d₁ :: d₀ :: 'T' ::
        ((clockText m.secondOfDay).toList ++ (m.fractionText.toList ++ zone.toList)) := by
    have hd : m.date.text = _ := htext
    rw [Moment.joinedText, hd]
    simp [hys, hms, hds]
  have hdays : (CivilDate.mk year month day).days = m.seconds / 86400 := by
    rw [← hdate, CivilDate.days_ofDays]
  have hvalid : (CivilDate.mk year month day).isValid := by
    rw [← hdate]
    exact CivilDate.isValid_ofDays _
  have htime : sinceMidnight? ('T' :: ((clockText m.secondOfDay).toList ++
      (m.fractionText.toList ++ zone.toList))) =
      some ((m.secondOfDay : Int) * 1000000 + (m.nanos / 1000 : Nat) - offset * 1000000) := by
    simp [sinceMidnight?, clock?_text m hn hm he, hz]
  have hmidnight : midnight? [y₃, y₂, y₁, y₀] [m₁, m₀] [d₁, d₀] =
      some (m.seconds / 86400 * 86400000000) := by
    simp [midnight?, hyn, hmn, hdn, hvalid, hdays]
  have hsum : m.seconds / 86400 * 86400000000 +
      ((m.secondOfDay : Int) * 1000000 + (m.nanos / 1000 : Nat) - offset * 1000000) =
      (m.seconds - offset) * 1000000 + (m.nanos / 1000 : Nat) := by
    rw [Moment.secondOfDay]
    omega
  rw [← hsum]
  simp [micros?, hl, hmidnight, htime]

example : micros? "2024-02-29T12:00:00.5+01:00" = some 1709204400500000 := rfl

example : micros? "2023-02-29" = none := rfl

end Timestamp

namespace TimeZone

/-- The offset of the timestamps of a column; without a zone they are those of Greenwich. -/
def offsetOf? : Option String → Option Int
  | none => some 0
  | some zone => offset? zone.toList

theorem offset?_bounds {zone : List Char} (h : offset? zone = some offset) :
    offset.natAbs < 86400 ∧ offset % 60 = 0 := by
  have hseconds {hours minutes : List Char} {n : Int} (h : seconds? hours minutes = some n) :
      n.natAbs < 86400 ∧ n % 60 = 0 := by
    unfold seconds? at h
    simp only [Option.bind_eq_bind, Option.bind_eq_some_iff, Option.ite_none_right_eq_some] at h
    obtain ⟨a, -, b, -, hlt, he⟩ := h
    cases he
    omega
  have hmagnitude {cs : List Char} {n : Int} (h : magnitude? cs = some n) :
      n.natAbs < 86400 ∧ n % 60 = 0 := by
    unfold magnitude? at h
    split at h
    case h_4 => cases h
    all_goals exact hseconds h
  unfold offset? at h
  split at h
  · exact hmagnitude h
  · obtain ⟨n, hn, rfl⟩ := Option.map_eq_some_iff.1 h
    have hb := hmagnitude hn
    omega
  · cases h

end TimeZone

/-! ### Columns -/

theorem int64?_toInt (n : Int64) : int64? n.toInt = some n := by
  have hpow : Int.pow 2 63 = 9223372036854775808 := rfl
  have hl := n.le_toInt
  have hu := n.toInt_lt
  rw [int64?, hpow, if_pos (by simp; omega), Int64.ofInt_toInt]

/-- The text of a timestamp in microseconds, as clocks that are ahead show it, names it. -/
theorem Timestamp.micros?_ofUnits (n : Int64) {offset : Int} {zone : String}
    (h0 : 0 ≤ ((Moment.ofUnits 1000000 n.toInt).shift offset).date.year)
    (h4 : ((Moment.ofUnits 1000000 n.toInt).shift offset).date.year ≤ 9999)
    (he : EndsClock zone.toList) (hz : zone? zone.toList = some offset) :
    (micros? (((Moment.ofUnits 1000000 n.toInt).shift offset).joinedText ++ zone)).bind int64? =
      some n := by
  have hn : ((Moment.ofUnits 1000000 n.toInt).shift offset).nanos =
      (n.toInt % 1000000).toNat * 1000 := rfl
  have hs : ((Moment.ofUnits 1000000 n.toInt).shift offset).seconds =
      n.toInt / 1000000 + offset := rfl
  have hcount : (n.toInt / 1000000 + offset - offset) * 1000000 +
      ((n.toInt % 1000000).toNat * 1000 / 1000 : Nat) = n.toInt := by omega
  rw [micros?_text _ (by rw [hn]; omega) (by rw [hn]; omega) h0 h4 he hz, hs, hn, hcount,
    Option.bind_some, int64?_toInt]

namespace Column

theorem mapSlotsM_ok {xs : List (Option α)} {f : α → Except ε β} {g : α → β}
    (h : ∀ a, some a ∈ xs → f a = .ok (g a)) : mapSlotsM xs f = .ok (xs.map (·.map g)) := by
  apply mapM_ok_iff.2
  apply List.forall₂_map_right_iff.2
  apply List.forall₂_same.2
  intro x hx
  cases x with
  | none => rfl
  | some a =>
    dsimp only
    rw [h a hx]
    rfl

theorem mapSlots_map_eq_self {xs : List (Option α)} {g : α → β} {f : β → Option α}
    (h : ∀ a, some a ∈ xs → f (g a) = some a) : mapSlots (xs.map (·.map g)) f = xs := by
  rw [mapSlots, List.map_map]
  conv => rhs; rw [← List.map_id xs]
  apply List.map_congr_left
  intro x hx
  cases x with
  | none => rfl
  | some a => exact h a hx

/-- Timestamps whose years have four digits on their clocks are written as texts that are read as
the same timestamps. -/
theorem toDatetimes_of_toTexts {xs : List (Option Int64)} {zone : Option String}
    (hz : TimeZone.offsetOf? zone = some offset)
    (h : ∀ n, some n ∈ xs → let m := Moment.ofUnits 1000000 n.toInt
      m.date.hasText ∧ 0 ≤ (m.shift offset).date.year ∧ (m.shift offset).date.year ≤ 9999) :
    ∃ texts, (⟨.timestamp .microsecond zone, xs⟩ : Column).toTexts = .ok texts ∧
      (⟨.utf8, texts⟩ : Column).toDatetimes = .ok xs := by
  have hread (suffix : String) {shown : Moment → String}
      (he : Timestamp.EndsClock suffix.toList) (hs : Timestamp.zone? suffix.toList = some offset)
      (hshown : ∀ m : Moment, shown m = (m.shift offset).joinedText ++ suffix)
      (ht : (⟨.timestamp .microsecond zone, xs⟩ : Column).toTexts = mapSlotsM xs fun n =>
        momentText (.timestamp .microsecond zone) .microsecond shown n.toInt) :
      ∃ texts, (⟨.timestamp .microsecond zone, xs⟩ : Column).toTexts = .ok texts ∧
        (⟨.utf8, texts⟩ : Column).toDatetimes = .ok xs := by
    refine ⟨xs.map (·.map fun n => shown (Moment.ofUnits 1000000 n.toInt)), ?_, ?_⟩
    · rw [ht]
      exact mapSlotsM_ok fun n hn => if_pos (h n hn).1
    · apply congrArg Except.ok
      apply mapSlots_map_eq_self
      intro n hn
      obtain ⟨-, h0, h4⟩ := h n hn
      rw [hshown]
      exact Timestamp.micros?_ofUnits n h0 h4 he hs
  cases zone with
  | none =>
    cases hz
    refine hread "" nofun rfl (fun m => ?_) rfl
    simp [Moment.shift]
  | some zone =>
    obtain ⟨hd, hm⟩ := TimeZone.offset?_bounds hz
    refine hread (TimeZone.offsetText offset) (TimeZone.endsClock_offsetText offset)
      (TimeZone.zone?_offsetText hd hm) (fun m => rfl) ?_
    have hz : TimeZone.offset? zone.toList = some offset := hz
    simp only [toTexts, hz]
    rfl

end Column

end ScalarExpr
