import ScalarExpr.Text.CaseMapping
/-!
Lowercase text. What a character becomes in lowercase has no other lowercase form, wherever it
stands, so that text in lowercase is its own lowercase form.
-/
namespace ScalarExpr

set_option autoImplicit true

/-! ### Ranges of characters -/

namespace CaseTable.CaseRange

variable {r q : CaseRange}

/-- The character with this number is in the range. -/
def Contains (r : CaseRange) (n : Nat) : Prop :=
  r.first ≤ n ∧ n ≤ r.last ∧ (n - r.first) % r.step = 0

def imageFirst (r : CaseRange) : Nat := (r.first + r.shift).toNat

def imageLast (r : CaseRange) : Nat := (r.last + r.shift).toNat

/-- The images of `r` come before `q` or after it, or between its characters. -/
def avoids (r q : CaseRange) : Bool :=
  r.imageLast.blt q.first || q.last.blt r.imageFirst ||
    (q.step == 2 && (r.step == 2 || r.first == r.last) && (r.imageFirst + q.first) % 2 == 1)

/-- The images are numbers of characters. -/
def hasImages (r : CaseRange) : Bool :=
  decide (0 ≤ r.first + r.shift) &&
    (r.imageLast.blt 0xd800 || Nat.blt 0xdfff r.imageFirst && r.imageLast.blt 0x110000)

theorem Contains.image_le (h : r.Contains n) :
    r.imageFirst ≤ (n + r.shift).toNat ∧ (n + r.shift).toNat ≤ r.imageLast := by
  obtain ⟨hfirst, hlast, -⟩ := h
  unfold imageFirst imageLast
  omega

theorem Contains.not_contains (h : r.Contains n) (hi : r.hasImages) (ha : r.avoids q) :
    ¬ q.Contains (n + r.shift).toNat := by
  intro hq
  have hle := h.image_le
  obtain ⟨hfirst, hlast, hstep⟩ := h
  obtain ⟨hfirst', hlast', hstep'⟩ := hq
  simp only [avoids, Bool.or_eq_true, Bool.and_eq_true, beq_iff_eq, Nat.blt_eq] at ha
  simp only [hasImages, Bool.and_eq_true, decide_eq_true_eq] at hi
  obtain (ha | ha) | ⟨⟨htwo, hr⟩, hodd⟩ := ha
  · omega
  · omega
  · rw [htwo] at hstep'
    unfold imageFirst at hodd
    obtain hr | hr := hr
    · rw [hr] at hstep
      omega
    · omega

theorem Contains.toNat_image (h : r.Contains n) (hi : r.hasImages) :
    (Char.ofNat (n + r.shift).toNat).toNat = (n + r.shift).toNat := by
  have hle := h.image_le
  simp only [hasImages, Bool.and_eq_true, Bool.or_eq_true, decide_eq_true_eq, Nat.blt_eq] at hi
  have hvalid : (n + r.shift).toNat.isValidChar := by
    unfold Nat.isValidChar
    omega
  rw [Char.ofNat, dif_pos hvalid]
  rfl

end CaseTable.CaseRange

namespace Text

open CaseTable

theorem exists_of_shifted? {ranges : List CaseRange} (h : shifted? ranges c = some d) :
    ∃ r ∈ ranges, r.Contains c.toNat ∧ d = .ofNat (c.toNat + r.shift).toNat := by
  obtain ⟨r, hr, rfl⟩ := Option.map_eq_some_iff.1 h
  have hc := List.find?_some hr
  simp only [Bool.and_eq_true, decide_eq_true_eq] at hc
  exact ⟨r, List.mem_of_find?_eq_some hr, ⟨hc.1.1, hc.1.2, hc.2⟩, rfl⟩

theorem shifted?_eq_none_iff {ranges : List CaseRange} :
    shifted? ranges c = none ↔ ∀ r ∈ ranges, ¬ r.Contains c.toNat := by
  simp [shifted?, CaseRange.Contains, and_assoc]

/-- No image of a range is in a range or the dotted capital. -/
theorem images_avoid (hr : r ∈ lowerRanges) :
    r.hasImages ∧ r.avoids ⟨0x130, 0x130, 1, 0⟩ ∧ ∀ q ∈ lowerRanges, r.avoids q := by
  have hall : (lowerRanges.all fun r =>
      r.hasImages && (r.avoids ⟨0x130, 0x130, 1, 0⟩ && lowerRanges.all r.avoids)) = true := by
    decide +kernel
  have h := List.all_eq_true.1 hall r hr
  rw [Bool.and_eq_true, Bool.and_eq_true, List.all_eq_true] at h
  exact h

/-! ### Characters -/

/-- The character is its own lowercase form, wherever it stands. -/
def IsLower (c : Char) : Prop := c ≠ 'Σ' ∧ lowerChar c = [c]

instance (c : Char) : Decidable (IsLower c) := inferInstanceAs (Decidable (_ ∧ _))

theorem isLower_of_notMem (hc : c ≠ 'İ') (h : ∀ r ∈ lowerRanges, ¬ r.Contains c.toNat) :
    IsLower c := by
  have hnone : shifted? lowerRanges c = none := shifted?_eq_none_iff.2 h
  have hsigma : c ≠ 'Σ' := by
    rintro rfl
    exact absurd hnone (by decide)
  refine ⟨hsigma, ?_⟩
  rw [lowerChar, if_neg hc, hnone, Option.getD_none]
  split
  · have hcapital : ¬ (⟨0x41, 0x5a, 1, 32⟩ : CaseRange).Contains c.toNat := h _ List.mem_cons_self
    have hkeeps : c.toLower = c := dif_neg fun h => hcapital ⟨h.1, h.2, Nat.mod_one _⟩
    rw [hkeeps]
  · rfl

theorem isLower_of_mem_lowerChar (h : d ∈ lowerChar c) : IsLower d := by
  unfold lowerChar at h
  split at h
  case isTrue ha =>
    have hall : ∀ n < 128, IsLower (Char.ofNat n).toLower := by decide +kernel
    rw [List.mem_singleton.1 h, ← c.ofNat_toNat]
    exact hall c.toNat (of_decide_eq_true ha)
  case isFalse =>
    split at h
    case isTrue =>
      obtain rfl | h := List.mem_cons.1 h
      · decide +kernel
      · rw [List.mem_singleton.1 h]
        decide +kernel
    case isFalse hc =>
      rw [List.mem_singleton.1 h]
      cases hs : shifted? lowerRanges c with
      | none => exact isLower_of_notMem hc (shifted?_eq_none_iff.1 hs)
      | some d =>
        obtain ⟨r, hr, hmem, rfl⟩ := exists_of_shifted? hs
        obtain ⟨hi, hdotted, hall⟩ := images_avoid hr
        have himage := hmem.toNat_image hi
        rw [Option.getD_some]
        refine isLower_of_notMem (fun h => ?_) fun q hq => ?_
        · apply hmem.not_contains hi hdotted
          rw [← himage, h]
          exact ⟨Nat.le_refl _, Nat.le_refl _, rfl⟩
        · rw [himage]
          exact hmem.not_contains hi (hall q hq)

theorem isLower_lowerSigma (before after : List Char) : IsLower (lowerSigma before after) := by
  unfold lowerSigma
  split
  · decide +kernel
  · decide +kernel

/-! ### Texts -/

theorem isLower_of_mem_lowerFrom (h : d ∈ lowerFrom before cs) : IsLower d := by
  induction cs generalizing before with
  | nil => cases h
  | cons c cs ih =>
    rw [lowerFrom, List.mem_append] at h
    obtain h | h := h
    · split at h
      · rw [List.mem_singleton.1 h]
        exact isLower_lowerSigma before cs
      · exact isLower_of_mem_lowerChar h
    · exact ih h

theorem lowerFrom_of_isLower (h : ∀ c ∈ cs, IsLower c) : lowerFrom before cs = cs := by
  induction cs generalizing before with
  | nil => rfl
  | cons c cs ih =>
    obtain ⟨⟨hsigma, hc⟩, hcs⟩ := List.forall_mem_cons.1 h
    rw [lowerFrom, if_neg hsigma, hc, ih hcs, List.singleton_append]

@[simp] theorem lower_lower (s : String) : lower (lower s) = lower s := by
  unfold lower
  rw [String.toList_ofList, lowerFrom_of_isLower fun _ => isLower_of_mem_lowerFrom]

end Text

end ScalarExpr
