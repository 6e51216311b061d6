import ScalarExpr.Proofs.Value.Texts
/-!
The calendar. The day of a date is the day that the date is of, and a date of a year with four digits
has a text of fixed width.
-/
namespace ScalarExpr

set_option autoImplicit true

namespace CivilDate

/-- Leap days before a day of the cycle are one for every fourth year but for full centuries. -/
theorem yearOfCycle_bounds (hd : d < 146097)
    (hy : (d - d / 1460 + d / 36524 - d / 146096) / 365 = y) :
    y < 400 ∧ 365 * y + y / 4 - y / 100 ≤ d ∧ d ≤ 365 * y + y / 4 - y / 100 + 365 := by
  have hlast : d / 146096 = 0 ∨ d = 146096 := by omega
  obtain hlast | rfl := hlast
  · have hfour : d / 1460 = y / 4 ∨ d / 1460 = y / 4 + 1 := by omega
    have hcentury : d / 36524 = y / 100 ∨ d / 36524 = y / 100 + 1 := by omega
    refine ⟨by omega, ?_⟩
    obtain hfour | hfour := hfour <;> obtain hcentury | hcentury := hcentury <;> omega
  · omega

/-- A day is one of a month from March, in a year of its cycle. -/
theorem exists_ofDays_eq (n : Int) :
    ∃ (cycle : Int) (year month day : Nat), year < 400 ∧ month < 12 ∧ day < 31 ∧
      n + 719468 = cycle * 146097 + (365 * year + year / 4 - year / 100 : Nat)
        + ((153 * month + 2) / 5 + day : Nat) ∧
      ofDays n = ⟨cycle * 400 + year + (if month < 10 then 0 else 1),
        if month < 10 then month + 3 else month - 9, day + 1⟩ := by
  have hd : ((n + 719468) % 146097).toNat < 146097 := by omega
  have hn : n + 719468 = (n + 719468) / 146097 * 146097 + ((n + 719468) % 146097).toNat := by omega
  unfold ofDays
  dsimp only
  generalize ((n + 719468) % 146097).toNat = d at hd hn ⊢
  generalize (n + 719468) / 146097 = cycle at hn ⊢
  generalize hy : (d - d / 1460 + d / 36524 - d / 146096) / 365 = y
  obtain ⟨hlt, hle, hle'⟩ := yearOfCycle_bounds hd hy
  clear hy hd
  generalize hf : 365 * y + y / 4 - y / 100 = first at hle hle' ⊢
  generalize hr : d - first = r
  generalize hm : (5 * r + 2) / 153 = m
  refine ⟨cycle, y, m, r - (153 * m + 2) / 5, hlt, by omega, by omega, ?_, ?_⟩
  · rw [hf]
    omega
  · by_cases hten : m < 10
    · have h2 : ¬m + 3 ≤ 2 := by omega
      simp [hten, h2]
    · have h2 : m - 9 ≤ 2 := by omega
      simp [hten, h2]

theorem days_ofDays (n : Int) : (ofDays n).days = n := by
  obtain ⟨cycle, year, month, day, hy, hm, hd, hn, he⟩ := exists_ofDays_eq n
  rw [he, days]
  dsimp only
  by_cases hten : month < 10
  · have hyear : (cycle * 400 + year) % 400 = year := by omega
    have h2 : ¬month + 3 ≤ 2 := by omega
    have hq : (cycle * 400 + year) / 400 = cycle := by omega
    simp only [hten, h2, if_true, if_false, Int.add_zero, hyear, hq]
    omega
  · have hyear : (cycle * 400 + year + 1 - 1) % 400 = year := by omega
    have hq : (cycle * 400 + year + 1 - 1) / 400 = cycle := by omega
    have h2 : month - 9 ≤ 2 := by omega
    simp only [hten, h2, if_true, if_false, hyear, hq]
    omega

theorem isValid_ofDays (n : Int) : (ofDays n).isValid := by
  rw [isValid, days_ofDays]
  exact decide_eq_true rfl

/-- The numbers that are written for a date of a year with four digits. -/
theorem exists_text (n : Int) (h0 : 0 ≤ (ofDays n).year) (h4 : (ofDays n).year ≤ 9999) :
    ∃ year month day : Nat, year < 10000 ∧ month < 100 ∧ day < 100 ∧
      ofDays n = ⟨year, month, day⟩ ∧
      (ofDays n).text = padded 4 year ++ "-" ++ padded 2 month ++ "-" ++ padded 2 day := by
  obtain ⟨cycle, y, m, d, -, hm, hd, -, he⟩ := exists_ofDays_eq n
  generalize ofDays n = date at *
  subst he
  dsimp only at *
  generalize cycle * 400 + y + (if m < 10 then 0 else 1) = year at *
  obtain ⟨year, rfl⟩ := Int.eq_ofNat_of_zero_le h0
  refine ⟨year, _, _, by omega, by split <;> omega, by omega, rfl, ?_⟩
  have hlow : ¬(year : Int) < 0 := by omega
  have hhigh : ¬9999 < (year : Int) := by omega
  rw [text, yearText]
  dsimp only
  rw [if_neg hlow, if_neg hhigh]
  rfl

end CivilDate

end ScalarExpr
