import Mathlib.Algebra.Order.Floor.Semifield
import Mathlib.Data.Rat.Floor
import Mathlib.Tactic.Simps.Basic
import ScalarExpr.Proofs.Expr.Texts
import ScalarExpr.Proofs.Value.Texts
import ScalarExpr.Value.Conversion
/-!
Texts of decimals as numerals. A decimal that has a text is exactly the number that is written, with
as many digits after the point as its scale says.
-/
namespace ScalarExpr

set_option autoImplicit true

/-! ### Numerals -/

/-- A number in positional digits, those before the point and those after it. -/
structure DecimalNumeral where
  isNegative : Bool
  whole : List Char
  fraction : List Char
  whole_ne_nil : whole ≠ []
  isDigit_whole : ∀ c ∈ whole, c.isDigit
  isDigit_fraction : ∀ c ∈ fraction, c.isDigit

namespace DecimalNumeral

def sign (isNegative : Bool) : List Char := if isNegative then ['-'] else []

/-- There is no point without digits after it. -/
def point (fraction : List Char) : List Char := if fraction = [] then [] else '.' :: fraction

def text (d : DecimalNumeral) : String :=
  String.ofList (sign d.isNegative ++ (d.whole ++ point d.fraction))

def value (d : DecimalNumeral) : ℚ :=
  (if d.isNegative then -1 else 1) *
    (Nat.ofDigitChars 10 (d.whole ++ d.fraction) 0 / 10 ^ d.fraction.length)

theorem point_nil : point [] = [] := if_pos rfl

theorem point_of_length_pos {fraction : List Char} (h : 0 < fraction.length) :
    point fraction = '.' :: fraction :=
  if_neg (List.ne_nil_of_length_pos h)

theorem takeWhile_digits {whole : List Char} (h : ∀ c ∈ whole, c.isDigit) (fraction : List Char) :
    (whole ++ point fraction).takeWhile Char.isDigit = whole := by
  rw [List.takeWhile_append_of_pos h, point]
  split
  · rw [List.takeWhile_nil, List.append_nil]
  · rw [List.takeWhile_cons_of_neg (by decide), List.append_nil]

theorem point_inj {f f' : List Char} (h : point f = point f') : f = f' := by
  rw [point, point] at h
  split at h
  case isTrue hf =>
    split at h
    case isTrue hf' => rw [hf, hf']
    case isFalse => cases h
  case isFalse =>
    split at h
    case isTrue => cases h
    case isFalse => exact (List.cons.inj h).2

theorem head_isDigit (d : DecimalNumeral) :
    ∃ c cs, d.whole ++ point d.fraction = c :: cs ∧ c.isDigit := by
  obtain ⟨c, cs, h⟩ := List.exists_cons_of_ne_nil d.whole_ne_nil
  refine ⟨c, cs ++ point d.fraction, ?_, d.isDigit_whole c ?_⟩
  · rw [h, List.cons_append]
  · rw [h]
    exact List.mem_cons_self

theorem sign_append_inj {d d' : DecimalNumeral}
    (h : sign d.isNegative ++ (d.whole ++ point d.fraction) =
      sign d'.isNegative ++ (d'.whole ++ point d'.fraction)) :
    d.isNegative = d'.isNegative ∧
      d.whole ++ point d.fraction = d'.whole ++ point d'.fraction := by
  obtain ⟨c, cs, hc, hd⟩ := d.head_isDigit
  obtain ⟨c', cs', hc', hd'⟩ := d'.head_isDigit
  rw [hc, hc'] at h ⊢
  cases hn : d.isNegative <;> cases hn' : d'.isNegative <;> rw [hn, hn'] at h
  · exact ⟨rfl, h⟩
  · obtain rfl := (List.cons.inj h).1
    cases hd
  · obtain rfl := (List.cons.inj h).1
    cases hd'
  · exact ⟨rfl, (List.cons.inj h).2⟩

/-- A text is that of one numeral at most. -/
theorem text_inj {d d' : DecimalNumeral} (h : d.text = d'.text) : d = d' := by
  obtain ⟨hn, h⟩ := sign_append_inj (String.ofList_inj.1 h)
  have hw := congrArg (List.takeWhile Char.isDigit) h
  rw [takeWhile_digits d.isDigit_whole, takeWhile_digits d'.isDigit_whole] at hw
  rw [hw] at h
  have hf := point_inj (List.append_cancel_left h)
  cases d
  cases d'
  cases hn
  cases hw
  cases hf
  rfl

/-- The digits of a number below `10 ^ places` after the point. -/
def digitsAfter (places n : Nat) : List Char :=
  if places = 0 then [] else (padded places n).toList

theorem digitsAfter_zero (n : Nat) : digitsAfter 0 n = [] := if_pos rfl

theorem digitsAfter_of_pos (h : 0 < places) : digitsAfter places n = (padded places n).toList :=
  if_neg (Nat.ne_of_gt h)

theorem isDigit_of_mem_digitsAfter {c : Char} (hc : c ∈ digitsAfter places n) : c.isDigit := by
  rw [digitsAfter] at hc
  split at hc
  · cases hc
  · rw [toList_padded, List.mem_append, List.mem_replicate] at hc
    obtain ⟨-, rfl⟩ | hc := hc
    · rfl
    · exact Nat.isDigit_of_mem_toDigits (by decide) (by decide) hc

theorem length_digitsAfter (hn : n < 10 ^ places) : (digitsAfter places n).length = places := by
  rw [digitsAfter]
  split
  case isTrue h => rw [h, List.length_nil]
  case isFalse h => exact length_padded (Nat.pos_of_ne_zero h) hn

theorem ofDigitChars_digitsAfter (hn : n < 10 ^ places) :
    Nat.ofDigitChars 10 (digitsAfter places n) 0 = n := by
  rw [digitsAfter]
  split
  case isTrue h =>
    rw [h, pow_zero, Nat.lt_one_iff] at hn
    rw [hn, Nat.ofDigitChars_nil]
  case isFalse => exact ofDigitChars_padded places n

/-- The numeral of `size` units of the last of the places after the point. -/
@[simps]
def ofUnits (isNegative : Bool) (size places : Nat) : DecimalNumeral where
  isNegative
  whole := Nat.toDigits 10 (size / 10 ^ places)
  fraction := digitsAfter places (size % 10 ^ places)
  whole_ne_nil := Nat.toDigits_ne_nil
  isDigit_whole _ := Nat.isDigit_of_mem_toDigits (by decide) (by decide)
  isDigit_fraction _ := isDigit_of_mem_digitsAfter

theorem length_fraction_ofUnits (isNegative : Bool) (size places : Nat) :
    (ofUnits isNegative size places).fraction.length = places :=
  length_digitsAfter (Nat.mod_lt size (Nat.pow_pos (by decide)))

theorem value_ofUnits (isNegative : Bool) (size places : Nat) :
    (ofUnits isNegative size places).value = (if isNegative then -1 else 1) * (size / 10 ^ places)
    := by
  have hmod : size % 10 ^ places < 10 ^ places := Nat.mod_lt size (Nat.pow_pos (by decide))
  rw [value, length_fraction_ofUnits, Nat.ofDigitChars_append,
    Nat.ofDigitChars_eq_ofDigitChars_zero, length_fraction_ofUnits, ofUnits_whole,
    ofUnits_fraction, Nat.ofDigitChars_ten_toDigits, ofDigitChars_digitsAfter hmod, Nat.div_add_mod,
    ofUnits_isNegative]

end DecimalNumeral

/-! ### Texts of decimals -/

section Text

open DecimalNumeral

variable {n scale : Int} {text : String}

theorem sign_decide (n : Int) : sign (n < 0) = signDigits n := by
  rw [sign, signDigits]
  simp only [decide_eq_true_eq]

/-- The numeral of a decimal. A negative scale appends zeros to its digits. -/
def decimalNumeral (n scale : Int) : DecimalNumeral :=
  ofUnits (n < 0) (n.natAbs * 10 ^ (-scale).toNat) scale.toNat

theorem decimalText_eq_text (ht : decimalText n scale = .ok text) :
    text = (decimalNumeral n scale).text := by
  rw [← String.toList_inj, DecimalNumeral.text, String.toList_ofList, decimalNumeral,
    ofUnits_isNegative, ofUnits_whole, ofUnits_fraction, sign_decide]
  by_cases hs : scale ≤ 0
  · have hplaces : scale.toNat = 0 := Int.toNat_of_nonpos hs
    have hzeros : (-scale).toNat = scale.natAbs := by omega
    rw [decimalText_whole hs ht, toList_toString_mul_pow, hplaces, hzeros, pow_zero, Nat.div_one,
      digitsAfter_zero, point_nil, List.append_nil]
  · have hplaces : scale.toNat = scale.natAbs := by omega
    have hzeros : (-scale).toNat = 0 := by omega
    have hpos : 0 < scale.natAbs := by omega
    have hlen : 0 < (padded scale.natAbs (n.natAbs % 10 ^ scale.natAbs)).toList.length := by
      rw [length_padded hpos (Nat.mod_lt n.natAbs (Nat.pow_pos (by decide)))]
      exact hpos
    rw [decimalText_fraction (Int.not_le.1 hs) ht, hplaces, hzeros, pow_zero, Nat.mul_one,
      digitsAfter_of_pos hpos, point_of_length_pos hlen]
    simp [toList_sign]

end Text

/-! ### The number of a decimal -/

section Number

variable (n scale : Int)

/-- The number that a decimal stands for. -/
def decimalNumber : ℚ := n * 10 ^ (-scale)

theorem ten_zpow_neg : (10 : ℚ) ^ (-scale) = 10 ^ (-scale).toNat / 10 ^ scale.toNat := by
  have hsplit : -scale = ((-scale).toNat : Int) - scale.toNat := by omega
  rw [hsplit, zpow_sub₀ (by norm_num), zpow_natCast, zpow_natCast, ← hsplit]

theorem decimalNumber_neg_iff : decimalNumber n scale < 0 ↔ n < 0 := by
  have hpow : (0 : ℚ) < 10 ^ (-scale) := zpow_pos (by norm_num) _
  rw [← not_le, ← not_le, decimalNumber, mul_nonneg_iff_of_pos_right hpow, Int.cast_nonneg_iff]

theorem abs_decimalNumber : |decimalNumber n scale| =
    ((n.natAbs * 10 ^ (-scale).toNat : Nat) : ℚ) / ((10 ^ scale.toNat : Nat) : ℚ) := by
  have hpow : (0 : ℚ) < 10 ^ (-scale) := zpow_pos (by norm_num) _
  rw [decimalNumber, abs_mul, abs_of_pos hpow, ten_zpow_neg, ← mul_div_assoc, Nat.cast_mul,
    Nat.cast_natAbs, Int.cast_abs, Nat.cast_pow, Nat.cast_pow, Nat.cast_ofNat]

theorem value_decimalNumeral : (decimalNumeral n scale).value = decimalNumber n scale := by
  have habs := abs_decimalNumber n scale
  rw [Nat.cast_pow, Nat.cast_ofNat] at habs
  rw [decimalNumeral, DecimalNumeral.value_ofUnits, ← habs]
  by_cases hn : n < 0
  · rw [decide_eq_true hn, if_pos rfl, abs_of_neg ((decimalNumber_neg_iff n scale).2 hn),
      neg_one_mul, neg_neg]
  · have hx : 0 ≤ decimalNumber n scale := not_lt.1 (mt (decimalNumber_neg_iff n scale).1 hn)
    rw [decide_eq_false hn, if_neg Bool.false_ne_true, abs_of_nonneg hx, one_mul]

theorem isNegative_decimalNumeral :
    (decimalNumeral n scale).isNegative = decide (decimalNumber n scale < 0) :=
  decide_eq_decide.2 (decimalNumber_neg_iff n scale).symm

theorem whole_decimalNumeral :
    (decimalNumeral n scale).whole = Nat.toDigits 10 ⌊|decimalNumber n scale|⌋₊ := by
  rw [abs_decimalNumber, Nat.floor_div_eq_div]
  rfl

theorem length_fraction_decimalNumeral :
    (decimalNumeral n scale).fraction.length = scale.toNat :=
  DecimalNumeral.length_fraction_ofUnits ..

end Number

namespace Value

/-- The text of a decimal, for itself and for text functions, is one numeral of exactly its number:
with a minus if that is below zero, the digits of its whole part, and as many after the point as the
scale says. It overflows if the power of ten or a whole number do not fit. -/
theorem render_decimal (n : Int128) (scale : Int8) :
    let v := decimal n scale
    let x := decimalNumber n.toInt scale.toInt
    (HasDecimalText n.toInt scale.toInt → ∃ d : DecimalNumeral,
      v.render = .ok d.text ∧ v.asText = .ok (some d.text) ∧ (∀ d', d'.text = d.text → d' = d) ∧
        d.value = x ∧ d.isNegative = decide (x < 0) ∧ d.whole = Nat.toDigits 10 ⌊|x|⌋₊ ∧
          d.fraction.length = scale.toInt.toNat) ∧
    (¬HasDecimalText n.toInt scale.toInt →
      v.render = .error .integerOverflow ∧ v.asText = .error .integerOverflow) := by
  intro v x
  refine ⟨fun h => ?_, fun h => ?_⟩
  · obtain ⟨text, ht⟩ := exists_decimalText_iff.2 h
    have hr : v.render = .ok (decimalNumeral n.toInt scale.toInt).text :=
      decimalText_eq_text ht ▸ ht
    refine ⟨decimalNumeral n.toInt scale.toInt, hr, congrArg (Except.map some) hr,
      fun _ => DecimalNumeral.text_inj, ?_, ?_, ?_, ?_⟩
    · exact value_decimalNumeral n.toInt scale.toInt
    · exact isNegative_decimalNumeral n.toInt scale.toInt
    · exact whole_decimalNumeral n.toInt scale.toInt
    · exact length_fraction_decimalNumeral n.toInt scale.toInt
  · have hr : v.render = .error .integerOverflow := by
      cases he : v.render with
      | ok text => exact absurd (exists_decimalText_iff.1 ⟨text, he⟩) h
      | error f => rw [render_error he]
    exact ⟨hr, congrArg (Except.map some) hr⟩

/-- Less than one below zero, at the last scale that has a text, and one scale further. -/
theorem render_decimal_limit :
    (∃ d : DecimalNumeral, (decimal (-1) 38).render = .ok d.text ∧ d.isNegative ∧
      d.whole = ['0'] ∧ d.fraction.length = 38 ∧ d.value = decimalNumber (-1) 38) ∧
    (decimal (-1) 39).asText = .error .integerOverflow := by
  obtain ⟨htext, -⟩ := render_decimal (-1) 38
  obtain ⟨-, hnone⟩ := render_decimal (-1) 39
  obtain ⟨d, hr, -, -, hx, hn, hw, hf⟩ := htext (by decide)
  have hneg : decimalNumber (-1) 38 < 0 := (decimalNumber_neg_iff (-1) 38).2 (by decide)
  have hfloor : ⌊|decimalNumber (-1) 38|⌋₊ = 0 := by
    rw [abs_decimalNumber, Nat.floor_div_eq_div]
    decide
  refine ⟨⟨d, hr, hn.trans (decide_eq_true hneg), ?_, hf, hx⟩, (hnone (by decide)).2⟩
  rw [hw]
  exact (congrArg (Nat.toDigits 10) hfloor).trans (Nat.toDigits_zero 10)

/-- No text for one at a scale of 39 in either direction, nor for zero. -/
theorem render_decimal_overflow :
    (decimal 1 39).render = .error .integerOverflow ∧
      (decimal 1 (-39)).render = .error .integerOverflow ∧
        (decimal 0 39).render = .error .integerOverflow := by
  decide

end Value

end ScalarExpr
