import Mathlib.Algebra.Group.Int.Defs
import Mathlib.Algebra.Group.Nat.Defs
import Mathlib.Data.List.TakeDrop
import Mathlib.Data.Nat.Init
import ScalarExpr.Column.Cast
/-!
The two texts of a number or a moment: that of a value, and that of an item of a column turned into
text. They are the same in some cases only, and which those are is said for each kind.
-/
namespace ScalarExpr

set_option autoImplicit true

/-! ### Digits -/

/-- The sign of a number below zero. -/
def signDigits (n : Int) : List Char := if n < 0 then ['-'] else []

theorem toList_sign (n : Int) : (if n < 0 then "-" else "").toList = signDigits n := by
  rw [signDigits]
  split <;> rfl

theorem toList_toString_int (n : Int) :
    (toString n).toList = signDigits n ++ Nat.toDigits 10 n.natAbs := by
  rw [Int.toString_eq_repr, Int.repr_eq_if, signDigits]
  by_cases hn : 0 ≤ n
  · have ha : n.toNat = n.natAbs := by omega
    rw [if_pos hn, if_neg (Int.not_lt.2 hn), Nat.toList_repr, ha]
    rfl
  · have ha : (-n).toNat = n.natAbs := by omega
    rw [if_neg hn, if_pos (Int.not_le.1 hn), String.toList_append, Nat.toList_repr, ha]
    rfl

theorem toList_zeros (n : Nat) : ("".pushn '0' n).toList = List.replicate n '0' := by
  rw [String.pushn_eq_repeat_push]
  induction n with
  | zero => rfl
  | succ n ih => rw [Nat.repeat, String.toList_push, ih, List.replicate_succ']

theorem toList_padded (width n : Nat) :
    (padded width n).toList =
      List.replicate (width - (Nat.toDigits 10 n).length) '0' ++ Nat.toDigits 10 n := by
  rw [padded, Nat.toString_eq_repr, String.toList_append, toList_zeros, Nat.toList_repr,
    ← String.length_toList, Nat.toList_repr]

theorem toList_padded_succ (hw : 0 < width) (n : Nat) :
    (padded (width + 1) n).toList = (padded width (n / 10)).toList ++ Nat.toDigits 10 (n % 10) := by
  rw [toList_padded, toList_padded]
  by_cases hn : n < 10
  · rw [Nat.div_eq_of_lt hn, Nat.mod_eq_of_lt hn, Nat.toDigits_zero, Nat.toDigits_of_lt_base hn]
    have hr : List.replicate (width - 1) '0' ++ ['0'] = List.replicate width '0' := by
      rw [← List.replicate_succ', Nat.sub_add_cancel hw]
    simp [hr]
  · rw [Nat.toDigits_of_base_le (by decide) (Nat.le_of_not_lt hn),
      Nat.toDigits_of_lt_base (Nat.mod_lt n (by decide))]
    simp

/-- The digits before a place and those after it. -/
theorem toDigits_append_padded (hq : 0 < q) (hw : 0 < width) (hr : r < 10 ^ width) :
    Nat.toDigits 10 (q * 10 ^ width + r) = Nat.toDigits 10 q ++ (padded width r).toList := by
  induction width, hw using Nat.le_induction generalizing r with
  | base =>
    have hr : r < 10 := hr
    have hp : (padded 1 r).toList = Nat.toDigits 10 r := by
      rw [toList_padded, Nat.toDigits_of_lt_base hr]
      rfl
    show Nat.toDigits 10 (q * 10 + r) = Nat.toDigits 10 q ++ (padded 1 r).toList
    rw [hp, Nat.mul_comm, Nat.toDigits_append_toDigits (by decide) hq hr]
  | succ width hw ih =>
    have hd : r / 10 < 10 ^ width := by
      rw [Nat.pow_succ] at hr
      omega
    have hn : q * 10 ^ (width + 1) + r = 10 * (q * 10 ^ width + r / 10) + r % 10 := by
      have he := Nat.div_add_mod r 10
      rw [Nat.pow_succ, ← Nat.mul_assoc]
      omega
    have hpos : 0 < q * 10 ^ width + r / 10 :=
      Nat.add_pos_left (Nat.mul_pos hq (Nat.pow_pos (by decide))) _
    rw [hn, ← Nat.toDigits_append_toDigits (by decide) hpos (Nat.mod_lt r (by decide)), ih hd,
      toList_padded_succ hw, List.append_assoc]

theorem toDigits_mul_pow (hn : 0 < n) (k : Nat) :
    Nat.toDigits 10 (n * 10 ^ k) = Nat.toDigits 10 n ++ List.replicate k '0' := by
  cases k with
  | zero => simp
  | succ k =>
    have hz : 0 < 10 ^ (k + 1) := Nat.pow_pos (by decide)
    have hd := toDigits_append_padded hn (Nat.succ_pos k) hz
    have hp : (padded (k + 1) 0).toList = List.replicate (k + 1) '0' := by
      rw [toList_padded, Nat.toDigits_zero]
      exact List.replicate_succ'.symm
    rw [Nat.add_zero, hp] at hd
    exact hd

theorem length_padded (hw : 0 < width) (hn : n < 10 ^ width) :
    (padded width n).toList.length = width := by
  have hl := (Nat.length_toDigits_le_iff (by decide) hw).2 hn
  rw [toList_padded, List.length_append, List.length_replicate, Nat.sub_add_cancel hl]

theorem ofDigitChars_padded (width n : Nat) :
    Nat.ofDigitChars 10 (padded width n).toList 0 = n := by
  rw [toList_padded, Nat.ofDigitChars_append, Nat.ofDigitChars_replicate_zero, Nat.mul_zero,
    Nat.ofDigitChars_ten_toDigits]

/-! ### Decimals -/

theorem take_toDigits_eq_iff (hp : 0 < precision) (n : Nat) :
    (Nat.toDigits 10 n).take precision = Nat.toDigits 10 n ↔ n < 10 ^ precision := by
  rw [List.take_eq_self_iff, Nat.length_toDigits_le_iff (by decide) hp]

theorem wholeDigits_eq_iff (hp : 0 < precision) (n k : Nat) :
    Nat.toDigits 10 (n * 10 ^ k) =
        (Nat.toDigits 10 n).take precision ++ List.replicate k '0' ↔
      n < 10 ^ precision ∧ (0 < k → n ≠ 0) := by
  by_cases hn : n = 0
  · subst hn
    have hz : 0 < 10 ^ precision := Nat.pow_pos (by decide)
    rw [(take_toDigits_eq_iff hp 0).2 hz, Nat.zero_mul, List.self_eq_append_right,
      List.replicate_eq_nil_iff]
    simp [hz]
  · rw [toDigits_mul_pow (Nat.pos_of_ne_zero hn), List.append_cancel_right_eq, eq_comm,
      take_toDigits_eq_iff hp]
    simp [hn]

section Decimal

variable {precision : Nat} {n scale : Int} {text : String}

theorem decimalText_whole (hs : scale ≤ 0) (ht : decimalText n scale = .ok text) :
    text = toString (n * 10 ^ scale.natAbs) := by
  rw [decimalText, powerOfTen] at ht
  by_cases hk : scale.natAbs ≤ 38
  · rw [if_pos hk] at ht
    have ht := (if_pos hs).symm.trans ht
    split at ht
    · cases ht
      rfl
    · cases ht
  · rw [if_neg hk] at ht
    cases ht

theorem decimalText_fraction (hs : 0 < scale) (ht : decimalText n scale = .ok text) :
    text = (if n < 0 then "-" else "") ++ toString (n.natAbs / 10 ^ scale.natAbs) ++ "."
      ++ padded scale.natAbs (n.natAbs % 10 ^ scale.natAbs) := by
  rw [decimalText, powerOfTen] at ht
  by_cases hk : scale.natAbs ≤ 38
  · have hn : scale.toNat = scale.natAbs := by omega
    rw [if_pos hk, ← hn] at ht
    have ht := (if_neg (Int.not_le.2 hs)).symm.trans ht
    cases ht
    rw [← hn]
    rfl
  · rw [if_neg hk] at ht
    cases ht

/-- The power of ten of the decimal fits 128 bits and, if it is written without a point, the number
too. -/
def HasDecimalText (n scale : Int) : Prop :=
  scale.natAbs ≤ 38 ∧ (scale ≤ 0 → fitsInt128 (n * 10 ^ scale.natAbs))

instance (n scale : Int) : Decidable (HasDecimalText n scale) := inferInstanceAs (Decidable (_ ∧ _))

theorem exists_decimalText_iff :
    (∃ text, decimalText n scale = .ok text) ↔ HasDecimalText n scale := by
  rw [decimalText, powerOfTen]
  by_cases hk : scale.natAbs ≤ 38
  · have hpow : ((Nat.pow 10 scale.natAbs : Nat) : Int) = 10 ^ scale.natAbs := by simp
    rw [if_pos hk]
    show (∃ text, ite _ _ _ = Except.ok text) ↔ _
    rw [hpow]
    by_cases hs : scale ≤ 0
    · rw [if_pos hs]
      cases hf : fitsInt128 (n * 10 ^ scale.natAbs) with
      | true => exact iff_of_true ⟨_, rfl⟩ ⟨hk, fun _ => hf⟩
      | false =>
        constructor
        · rintro ⟨text, ht⟩
          cases ht
        · rintro ⟨-, h⟩
          cases hf.symm.trans (h hs)
    · rw [if_neg hs]
      exact iff_of_true ⟨_, rfl⟩ ⟨hk, fun h => absurd h hs⟩
  · rw [if_neg hk]
    constructor
    · rintro ⟨text, ht⟩
      cases ht
    · rintro ⟨h, -⟩
      exact absurd h hk

theorem toList_toString_mul_pow (n : Int) (k : Nat) :
    (toString (n * 10 ^ k)).toList = signDigits n ++ Nat.toDigits 10 (n.natAbs * 10 ^ k) := by
  have hpow : (0 : Int) < 10 ^ k := Int.pow_pos (by decide)
  have hsign : n * 10 ^ k < 0 ↔ n < 0 := by
    rw [← Int.not_le, ← Int.not_le, Int.mul_nonneg_iff_of_pos_right hpow]
  rw [toList_toString_int, signDigits, signDigits, Int.natAbs_mul, Int.natAbs_pow]
  simp only [hsign]
  rfl

theorem toList_decimalColumnText (precision : Nat) (scale n : Int) :
    (decimalColumnText precision scale n).toList =
      let ds := Nat.toDigits 10 n.natAbs
      let shown := signDigits n ++ ds.take precision
      if scale ≤ 0 then shown ++ List.replicate scale.natAbs '0'
      else if scale < ds.length then
        let whole := shown.length - scale.toNat
        shown.take whole ++ '.' :: shown.drop whole
      else
        signDigits n ++ '0' :: '.' :: (List.replicate (scale.toNat - ds.length) '0' ++ ds) := by
  unfold decimalColumnText
  dsimp only
  rw [Nat.toString_eq_repr, Nat.toList_repr]
  split
  · exact String.toList_ofList
  · split <;> exact String.toList_ofList

theorem decimalText_whole_eq_iff (hp : 0 < precision) (hs : scale ≤ 0)
    (ht : decimalText n scale = .ok text) :
    text = decimalColumnText precision scale n ↔
      n.natAbs < 10 ^ precision ∧ (scale < 0 → n ≠ 0) := by
  have hc : (decimalColumnText precision scale n).toList = signDigits n ++
      ((Nat.toDigits 10 n.natAbs).take precision ++ List.replicate scale.natAbs '0') := by
    rw [← List.append_assoc, toList_decimalColumnText]
    exact if_pos hs
  rw [decimalText_whole hs ht, ← String.toList_inj, hc, toList_toString_mul_pow,
    List.append_cancel_left_eq, wholeDigits_eq_iff hp]
  apply and_congr_right'
  omega

/-- What is shown of a number is split before its last digits into these parts if nothing was
dropped. -/
theorem split_eq_iff (sign ds q f : List Char) (hd : ds = q ++ f) (p : Nat) :
    (let shown := sign ++ ds.take p
     shown.take (shown.length - f.length) ++ '.' :: shown.drop (shown.length - f.length)) =
        sign ++ q ++ '.' :: f ↔ ds.take p = ds := by
  dsimp only
  constructor
  · intro h
    have hl := congrArg List.length h
    have hds := congrArg List.length hd
    rw [List.take_eq_self_iff]
    simp only [List.length_append, List.length_cons, List.length_take, List.length_drop] at hl hds
    omega
  · intro h
    have hl : (sign ++ (q ++ f)).length - f.length = (sign ++ q).length := by
      rw [← List.append_assoc, List.length_append, Nat.add_sub_cancel]
    rw [h, hd, hl, ← List.append_assoc, List.take_left, List.drop_left]

/-- The digits on both sides of the point. A number below `10 ^ s` is shown with zeros in front, the
digits of a greater one are split. -/
theorem fractionDigits_eq_iff (hs : 0 < s) (h : s ≤ precision) (n : Int) :
    (decimalColumnText precision s n).toList =
        signDigits n ++ Nat.toDigits 10 (n.natAbs / 10 ^ s) ++
          '.' :: (padded s (n.natAbs % 10 ^ s)).toList ↔
      n.natAbs < 10 ^ precision := by
  have hpow : 0 < 10 ^ s := Nat.pow_pos (by decide)
  rw [toList_decimalColumnText, if_neg (by omega)]
  simp only [Int.ofNat_lt, Int.toNat_natCast]
  by_cases hn : n.natAbs < 10 ^ s
  · have hl := (Nat.length_toDigits_le_iff (by decide) hs).2 hn
    have hm : n.natAbs < 10 ^ precision :=
      Nat.lt_of_lt_of_le hn (Nat.pow_le_pow_right (by decide) h)
    rw [if_neg (Nat.not_lt.2 hl), Nat.div_eq_of_lt hn, Nat.mod_eq_of_lt hn, toList_padded]
    simp [hm]
  · have hl : s < (Nat.toDigits 10 n.natAbs).length := by
      rw [← Nat.not_le, Nat.length_toDigits_le_iff (by decide) hs]
      exact hn
    have hd := toDigits_append_padded (Nat.div_pos (Nat.not_lt.1 hn) hpow) hs
      (Nat.mod_lt n.natAbs hpow)
    rw [Nat.div_add_mod'] at hd
    have hsplit := split_eq_iff (signDigits n) _ _ _ hd precision
    rw [length_padded hs (Nat.mod_lt n.natAbs hpow)] at hsplit
    rw [if_pos hl, ← take_toDigits_eq_iff (by omega)]
    exact hsplit

theorem decimalText_fraction_eq_iff (hs : 0 < scale) (h : scale ≤ precision)
    (ht : decimalText n scale = .ok text) :
    text = decimalColumnText precision scale n ↔ n.natAbs < 10 ^ precision := by
  obtain ⟨k, rfl⟩ := Int.eq_ofNat_of_zero_le (Int.le_of_lt hs)
  have hk : 0 < k := by omega
  rw [decimalText_fraction hs ht, ← fractionDigits_eq_iff hk (by omega) n, eq_comm,
    ← String.toList_inj]
  simp [toList_sign]

/-- A decimal has the text of an item of a decimal column exactly if its digits are within the
precision and it is not a zero to which a negative scale appends zeros. -/
theorem decimalText_eq_iff (hp : 0 < precision) (h : scale ≤ precision)
    (ht : decimalText n scale = .ok text) :
    text = decimalColumnText precision scale n ↔
      n.natAbs < 10 ^ precision ∧ (scale < 0 → n ≠ 0) := by
  by_cases hs : scale ≤ 0
  · exact decimalText_whole_eq_iff hp hs ht
  · have hno : ¬scale < 0 := by omega
    rw [decimalText_fraction_eq_iff (Int.not_le.1 hs) h ht]
    simp [hno]

end Decimal

/-! ### Reals -/

namespace Shortest

theorem onGrid?_isSome (tie tie' : Tie) (x : Point) (p : Int) :
    (onGrid? tie x p).isSome = (onGrid? tie' x p).isSome := by
  unfold onGrid?
  dsimp only
  split
  case h_1 =>
    split
    · rfl
    · split
      · rfl
      · cases tie <;> cases tie' <;> rfl
  all_goals rfl

/-- Ties are between digits of one place. -/
theorem search_place (tie tie' : Tie) (x : Point) (steps : Nat) (p : Int) :
    (search tie x steps p).map Prod.snd = (search tie' x steps p).map Prod.snd := by
  induction steps generalizing p with
  | zero => rfl
  | succ steps ih =>
    have hs := onGrid?_isSome tie tie' x p
    rw [search, search]
    cases hg : onGrid? tie x p with
    | none =>
      cases hg' : onGrid? tie' x p with
      | none => exact ih (p - 1)
      | some => rw [hg, hg'] at hs; cases hs
    | some =>
      cases hg' : onGrid? tie' x p with
      | none => rw [hg, hg'] at hs; cases hs
      | some => rfl

end Shortest

namespace RealLayout

/-- Where the digits of `k * 10 ^ p` have the point, counted from their start. -/
def pointOf (k : Nat) (p : Int) : Int := (Nat.toDigits 10 k).length + p

/-- The digits of `k * 10 ^ p` around a point among or before them. -/
def fractionDigits (k : Nat) (p : Int) : List Char :=
  let ds := Nat.toDigits 10 k
  if 0 < pointOf k p then ds.take (pointOf k p).toNat ++ '.' :: ds.drop (pointOf k p).toNat
  else '0' :: '.' :: (List.replicate (-pointOf k p).toNat '0' ++ ds)

variable {k k' : Nat} {p : Int}

theorem toList_setDigits_value :
    (value.setDigits k p).toList =
      if 0 ≤ p then Nat.toDigits 10 k ++ List.replicate p.toNat '0' else fractionDigits k p := by
  unfold setDigits value zeros fractionDigits pointOf
  dsimp only
  rw [Nat.toString_eq_repr, ← String.length_toList, Nat.toList_repr, if_pos rfl]
  split
  · simp [toList_zeros]
  · split <;> simp [toList_zeros]

theorem toList_setDigits_double (h : -5 < pointOf k p ∧ pointOf k p ≤ 16) :
    (double.setDigits k p).toList =
      if 0 ≤ p then Nat.toDigits 10 k ++ List.replicate p.toNat '0' ++ ['.', '0']
      else fractionDigits k p := by
  unfold setDigits double zeros fractionDigits pointOf
  unfold pointOf at h
  dsimp only
  rw [Nat.toString_eq_repr, ← String.length_toList, Nat.toList_repr, if_pos (by simpa using h)]
  split
  · simp [toList_zeros]
  · split <;> simp [toList_zeros]

theorem mem_setDigits_double (h : ¬(-5 < pointOf k p ∧ pointOf k p ≤ 16)) :
    'e' ∈ (double.setDigits k p).toList := by
  unfold setDigits double
  unfold pointOf at h
  dsimp only
  rw [Nat.toString_eq_repr, ← String.length_toList, Nat.toList_repr, if_neg (by simpa using h)]
  simp

theorem isDigit_of_mem_toDigits {c : Char} (hc : c ∈ Nat.toDigits 10 k) : c.isDigit :=
  Nat.isDigit_of_mem_toDigits (by decide) (by decide) hc

theorem filter_fractionDigits (k : Nat) (p : Int) :
    ∃ n, (fractionDigits k p).filter Char.isDigit = List.replicate n '0' ++ Nat.toDigits 10 k := by
  have hd : (Nat.toDigits 10 k).filter Char.isDigit = Nat.toDigits 10 k :=
    List.filter_eq_self.2 fun c => isDigit_of_mem_toDigits
  unfold fractionDigits
  dsimp only
  split
  · refine ⟨0, ?_⟩
    rw [List.filter_append, List.filter_cons_of_neg (by decide), ← List.filter_append,
      List.take_append_drop, hd]
    rfl
  · refine ⟨(-pointOf k p).toNat + 1, ?_⟩
    rw [List.filter_cons_of_pos (by decide), List.filter_cons_of_neg (by decide),
      List.filter_append, hd, List.filter_replicate_of_pos (by decide)]
    rfl

theorem fractionDigits_inj : fractionDigits k p = fractionDigits k' p ↔ k = k' := by
  constructor
  · intro h
    obtain ⟨n, hn⟩ := filter_fractionDigits k p
    obtain ⟨n', hn'⟩ := filter_fractionDigits k' p
    rw [h, hn'] at hn
    have hv := congrArg (Nat.ofDigitChars 10 · 0) hn
    simp [Nat.ofDigitChars_append, Nat.ofDigitChars_replicate_zero] at hv
    exact hv.symm
  · intro h
    rw [h]

theorem isDigit_of_mem_whole {c : Char} {n : Nat}
    (hc : c ∈ Nat.toDigits 10 k ++ List.replicate n '0') : c.isDigit := by
  rw [List.mem_append, List.mem_replicate] at hc
  obtain hc | ⟨-, rfl⟩ := hc
  · exact isDigit_of_mem_toDigits hc
  · rfl

theorem exponent_notMem : 'e' ∉ (value.setDigits k p).toList := by
  rw [toList_setDigits_value]
  intro hc
  split at hc
  · cases isDigit_of_mem_whole hc
  · have hd {ds : List Char} (h : ds ⊆ Nat.toDigits 10 k) : 'e' ∉ ds := fun hc => by
      cases isDigit_of_mem_toDigits (h hc)
    unfold fractionDigits at hc
    dsimp only at hc
    split at hc
    · simp [hd (List.take_subset _ _), hd (List.drop_subset _ _)] at hc
    · simp [hd (List.Subset.refl _)] at hc

/-- The two layouts differ for whole numbers and where columns write an exponent. -/
theorem setDigits_eq_iff :
    value.setDigits k p = double.setDigits k' p ↔
      k = k' ∧ p < 0 ∧ -5 < pointOf k p ∧ pointOf k p ≤ 16 := by
  by_cases hplain : -5 < pointOf k' p ∧ pointOf k' p ≤ 16
  · rw [← String.toList_inj, toList_setDigits_value, toList_setDigits_double hplain]
    by_cases hp : 0 ≤ p
    · rw [if_pos hp, if_pos hp]
      constructor
      · intro h
        have hc : '.' ∈ Nat.toDigits 10 k ++ List.replicate p.toNat '0' := by simp [h]
        cases isDigit_of_mem_whole hc
      · intro h
        exact absurd hp (Int.not_le.2 h.2.1)
    · rw [if_neg hp, if_neg hp, fractionDigits_inj]
      constructor
      · intro h
        subst h
        exact ⟨rfl, Int.not_le.1 hp, hplain⟩
      · intro h
        exact h.1
  · constructor
    · intro h
      have he := mem_setDigits_double hplain
      rw [← h] at he
      exact absurd he exponent_notMem
    · intro ⟨hk, hp, hplain'⟩
      subst hk
      exact absurd hplain' hplain

theorem zero_setDigits_ne : value.setDigits 0 0 ≠ double.setDigits 0 0 := by decide

end RealLayout

namespace Binary64

/-- What the search for digits knows of the number. -/
def point (x : Binary64) : Shortest.Point := ⟨x.significand, x.exponent, x.gapBelowIsHalf⟩

/-- The shortest digits of the number are the same for both ways to break ties, some stand after the
point, and columns write them without an exponent. -/
def IsPlainFraction (x : Binary64) : Prop :=
  x.significand ≠ 0 ∧ ∃ k p, Shortest.digits? .up x.point = some (k, p) ∧
    Shortest.digits? .even x.point = some (k, p) ∧
    p < 0 ∧ -5 < RealLayout.pointOf k p ∧ RealLayout.pointOf k p ≤ 16

theorem shortest_eq_iff (x : Shortest.Point) :
    (let (k, p) := (Shortest.digits? .up x).getD (0, 0)
     RealLayout.value.setDigits k p) =
        (let (k, p) := (Shortest.digits? .even x).getD (0, 0)
         RealLayout.double.setDigits k p) ↔
      ∃ k p, Shortest.digits? .up x = some (k, p) ∧ Shortest.digits? .even x = some (k, p) ∧
        p < 0 ∧ -5 < RealLayout.pointOf k p ∧ RealLayout.pointOf k p ≤ 16 := by
  have hplace : (Shortest.digits? .up x).map Prod.snd = (Shortest.digits? .even x).map Prod.snd :=
    Shortest.search_place .up .even x 24 _
  cases hu : Shortest.digits? .up x with
  | none =>
    cases he : Shortest.digits? .even x with
    | none =>
      exact iff_of_false RealLayout.zero_setDigits_ne nofun
    | some => rw [hu, he] at hplace; cases hplace
  | some d =>
    obtain ⟨k, p⟩ := d
    cases he : Shortest.digits? .even x with
    | none => rw [hu, he] at hplace; cases hplace
    | some d' =>
      obtain ⟨k', p'⟩ := d'
      rw [hu, he] at hplace
      cases hplace
      refine RealLayout.setDigits_eq_iff.trans ⟨?_, ?_⟩
      · intro ⟨hk, h⟩
        subst hk
        exact ⟨k, p, rfl, rfl, h⟩
      · intro ⟨_, _, hk, hk', h⟩
        cases hk
        cases hk'
        exact ⟨rfl, h⟩

theorem text_eq_iff (x : Binary64) :
    x.text .value = x.text .double ↔ x.isNaN ∨ x.isInfinite ∨ x.IsPlainFraction := by
  rw [text, text, RealLayout.set, RealLayout.set]
  cases x.isNaN with
  | true => simp
  | false =>
    cases x.isInfinite with
    | true => simp
    | false =>
      by_cases hs : x.significand = 0
      · simp [hs, RealLayout.zero_setDigits_ne, IsPlainFraction]
      · simp only [hs, IsPlainFraction, Bool.false_eq_true, if_false, false_or, ne_eq,
          not_false_eq_true, true_and, String.append_right_inj]
        exact shortest_eq_iff x.point

end Binary64

/-! ### Moments and durations -/

/-- Date and time are never joined in the same way. -/
theorem Moment.spacedText_ne_joinedText (m : Moment) : m.spacedText ≠ m.joinedText := by
  intro h
  have hl := congrArg String.toList h
  simp only [spacedText, joinedText, String.toList_append, List.append_assoc] at hl
  have ht := List.append_cancel_left hl
  cases ht

theorem isDigit_of_mem_padded {c : Char} (hc : c ∈ (padded width n).toList) : c.isDigit := by
  rw [toList_padded, List.mem_append, List.mem_replicate] at hc
  obtain ⟨-, rfl⟩ | hc := hc
  · rfl
  · exact RealLayout.isDigit_of_mem_toDigits hc

theorem period_mem_spanText (nanos : Int) : 'P' ∈ (spanText nanos).toList := by
  unfold spanText
  dsimp only
  rw [String.toList_append, List.mem_append]
  left
  split <;> decide

theorem period_notMem_durationText (nanos : Int) : 'P' ∉ (durationText nanos).toList := by
  have hp (width n : Nat) : 'P' ∉ (padded width n).toList := by
    intro hc
    cases isDigit_of_mem_padded hc
  unfold durationText clockText
  dsimp only
  split <;> split <;> simp [hp]

/-- A duration of a value is a time, one of a column a period. -/
theorem durationText_ne_spanText (nanos : Int) : durationText nanos ≠ spanText nanos := by
  intro h
  have hs := period_mem_spanText nanos
  rw [← h] at hs
  exact period_notMem_durationText nanos hs

end ScalarExpr
