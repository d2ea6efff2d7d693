import Mathlib.Data.Int.Log
import Mathlib.Data.Rat.Floor
import Mathlib.Tactic.FieldSimp
import Mathlib.Tactic.NormNum
import Worksheet.Number.Binary64

namespace Worksheet
namespace Binary64

/-!
# Rounding sees the value only

The nearest pattern is computed from the numerator and the denominator of a fraction.  It
depends on nothing but their quotient: the unit is read off its binary logarithm, and
counting in that unit is a quotient again.  Where the quotient is the value of a finite
pattern, that pattern is the nearest one, so nothing is lost by rounding it.
-/

/-- The magnitude that a finite pattern stands for. -/
def value (pattern : Nat) : ℚ :=
  significand pattern * 2 ^ exponent pattern

theorem pow_toNat_div (base : ℚ) (power : Int) :
    base ^ power.toNat / base ^ (-power).toNat = base ^ power := by
  obtain ⟨size, rfl | rfl⟩ := power.eq_nat_or_neg
  · rw [Int.toNat_natCast, Int.toNat_neg_natCast, pow_zero, div_one, zpow_natCast]
  · rw [neg_neg, Int.toNat_natCast, Int.toNat_neg_natCast, pow_zero, one_div, zpow_neg,
      zpow_natCast]

/-- A power of the base shifts the logarithm. -/
theorem log_mul_zpow {base : Nat} (large : 1 < base) {number : ℚ} (positive : 0 < number)
    (power : Int) : Int.log base (number * (base : ℚ) ^ power) = Int.log base number + power := by
  have nonzero : (0 : ℚ) < base := Nat.cast_pos.mpr (Nat.zero_lt_of_lt large)
  have unit : (0 : ℚ) < (base : ℚ) ^ power := zpow_pos nonzero power
  have product := mul_pos positive unit
  apply le_antisymm
  · rw [← Int.lt_add_one_iff, ← Int.lt_zpow_iff_log_lt large product, add_right_comm,
      zpow_add₀ nonzero.ne']
    exact mul_lt_mul_of_pos_right (Int.lt_zpow_succ_log_self large number) unit
  · rw [← Int.zpow_le_iff_le_log large product, zpow_add₀ nonzero.ne']
    exact mul_le_mul_of_nonneg_right (Int.zpow_log_le_self large positive) unit.le

theorem scaled_div (numerator denominator : Nat) (power : Int) :
    ((scaled numerator denominator power).1 : ℚ) / (scaled numerator denominator power).2 =
      numerator / denominator / 2 ^ power := by
  rw [← pow_toNat_div 2 power]
  simp only [scaled, Nat.pow_eq, Nat.cast_mul, Nat.cast_pow, Nat.cast_ofNat]
  field_simp

theorem scaled_snd_pos (numerator : Nat) {denominator : Nat} (positive : 0 < denominator)
    (power : Int) : 0 < (scaled numerator denominator power).2 :=
  Nat.mul_pos positive (Nat.pow_pos (by decide))

theorem toFraction_div (pattern : Nat) :
    ((toFraction pattern).1 : ℚ) / (toFraction pattern).2 = value pattern := by
  rw [value, ← pow_toNat_div 2 (exponent pattern), ← mul_div_assoc]
  simp only [toFraction, Nat.pow_eq, Nat.cast_mul, Nat.cast_pow, Nat.cast_ofNat]

theorem toFraction_snd_pos (pattern : Nat) : 0 < (toFraction pattern).2 :=
  Nat.pow_pos (by decide)

/-! ## The unit -/

/-- The binary logarithm of a quotient is known up to one. -/
theorem log_div_mem {numerator denominator : Nat} (positive : 0 < numerator)
    (nonzero : 0 < denominator) :
    (numerator.log2 : Int) - denominator.log2 - 1 ≤ Int.log 2 ((numerator : ℚ) / denominator) ∧
      Int.log 2 ((numerator : ℚ) / denominator) <
        (numerator.log2 : Int) - denominator.log2 + 1 := by
  have quotient : (0 : ℚ) < numerator / denominator :=
    div_pos (Nat.cast_pos.mpr positive) (Nat.cast_pos.mpr nonzero)
  have power : ∀ upper lower : Nat,
      ((2 : Nat) : ℚ) ^ ((upper : Int) - lower) =
        ((2 ^ upper : Nat) : ℚ) / ((2 ^ lower : Nat) : ℚ) := by
    intro upper lower
    rw [zpow_sub₀ (by decide), zpow_natCast, zpow_natCast, Nat.cast_pow, Nat.cast_pow]
  constructor
  · rw [← Int.zpow_le_iff_le_log (by decide) quotient, sub_sub, ← Nat.cast_succ, power]
    exact div_le_div₀ (Nat.cast_nonneg _) (Nat.cast_le.mpr (Nat.log2_self_le positive.ne'))
      (Nat.cast_pos.mpr nonzero) (Nat.cast_le.mpr Nat.lt_log2_self.le)
  · rw [← Int.lt_zpow_iff_log_lt (by decide) quotient, sub_add_eq_add_sub, ← Nat.cast_succ, power]
    exact div_lt_div₀ (Nat.cast_lt.mpr Nat.lt_log2_self)
      (Nat.cast_le.mpr (Nat.log2_self_le nonzero.ne')) (Nat.cast_nonneg _)
      (Nat.cast_pos.mpr (Nat.pow_pos (by decide)))

/-- The unit is read off the binary logarithm of the quotient. -/
theorem unitExponent_eq {numerator denominator : Nat} (positive : 0 < numerator)
    (nonzero : 0 < denominator) :
    unitExponent numerator denominator =
      max leastExponent (Int.log 2 ((numerator : ℚ) / denominator) - fractionBits) := by
  have quotient : (0 : ℚ) < numerator / denominator :=
    div_pos (Nat.cast_pos.mpr positive) (Nat.cast_pos.mpr nonzero)
  have leading : (leadingBit : ℚ) = ((2 : Nat) : ℚ) ^ (fractionBits : Int) := by
    norm_num [leadingBit, fractionBits]
  have short : ∀ estimate : Int,
      (scaled numerator denominator estimate).1 <
        leadingBit * (scaled numerator denominator estimate).2 ↔
      Int.log 2 ((numerator : ℚ) / denominator) < fractionBits + estimate := by
    intro estimate
    have size : (0 : ℚ) < (scaled numerator denominator estimate).2 :=
      Nat.cast_pos.mpr (scaled_snd_pos numerator nonzero estimate)
    rw [← Int.lt_zpow_iff_log_lt (by decide) quotient, zpow_add₀ (by decide), ← leading,
      ← div_lt_iff₀ (zpow_pos (by decide) estimate), Nat.cast_ofNat, ← scaled_div, div_lt_iff₀ size,
      ← Nat.cast_mul, Nat.cast_lt]
  obtain ⟨above, below⟩ := log_div_mem positive nonzero
  simp only [unitExponent, short]
  split
  · next less => congr 1; omega
  · next more => congr 1; omega

/-! ## Rounding to an integer -/

theorem roundHalfEven_mul {denominator factor : Nat} (positive : 0 < factor) (numerator : Nat) :
    roundHalfEven (numerator * factor) (denominator * factor) =
      roundHalfEven numerator denominator := by
  have twice : ∀ rest, 2 * (rest * factor) = 2 * rest * factor :=
    fun rest => (Nat.mul_assoc 2 rest factor).symm
  simp only [roundHalfEven, Nat.mul_div_mul_right _ _ positive, Nat.mul_mod_mul_right, twice,
    Nat.mul_lt_mul_right positive]

theorem cross_of_div_eq {first second third fourth : Nat} (nonzero : 0 < second)
    (positive : 0 < fourth) (same : (first : ℚ) / second = third / fourth) :
    first * fourth = third * second := by
  rw [div_eq_div_iff (Nat.cast_ne_zero.mpr nonzero.ne') (Nat.cast_ne_zero.mpr positive.ne')] at same
  exact_mod_cast same

/-- Fractions with the same quotient are rounded to the same integer. -/
theorem roundHalfEven_congr {first second third fourth : Nat} (nonzero : 0 < second)
    (positive : 0 < fourth) (same : (first : ℚ) / second = third / fourth) :
    roundHalfEven first second = roundHalfEven third fourth := by
  have crossed := cross_of_div_eq nonzero positive same
  rw [← roundHalfEven_mul positive, crossed, Nat.mul_comm second, roundHalfEven_mul nonzero]

theorem roundHalfEven_one (number : Nat) : roundHalfEven number 1 = number := by
  simp only [roundHalfEven, Nat.div_one, Nat.mod_one, Nat.mul_zero, Nat.zero_lt_one, if_true]

/-! ## Rounding to a pattern -/

/-- Fractions with the same quotient have the same nearest pattern. -/
theorem nearest_congr {first second third fourth : Nat} (nonzero : 0 < second)
    (positive : 0 < fourth) (same : (first : ℚ) / second = third / fourth) :
    nearest first second = nearest third fourth := by
  have crossed := cross_of_div_eq nonzero positive same
  have zero : first = 0 ↔ third = 0 := by
    rw [← mul_eq_zero_iff_right positive.ne', crossed, mul_eq_zero_iff_right nonzero.ne']
  simp only [nearest, zero]
  split
  · rfl
  · next other =>
    have unit : unitExponent first second = unitExponent third fourth := by
      rw [unitExponent_eq (Nat.pos_of_ne_zero (mt zero.mp other)) nonzero, same,
        unitExponent_eq (Nat.pos_of_ne_zero other) positive]
    rw [unit, roundHalfEven_congr (scaled_snd_pos _ nonzero _) (scaled_snd_pos _ positive _)
      (by rw [scaled_div, scaled_div, same])]

/-! ## The values of patterns -/

theorem significand_pos {pattern : Nat} (positive : 0 < pattern) : 0 < significand pattern := by
  unfold significand
  split
  · exact positive
  · exact Nat.add_pos_left (by decide) _

theorem significand_lt (pattern : Nat) : significand pattern < 2 * leadingBit := by
  have rest := Nat.mod_lt pattern (show 0 < leadingBit by decide)
  unfold significand
  split <;> omega

theorem value_pos {pattern : Nat} (positive : 0 < pattern) : 0 < value pattern :=
  mul_pos (Nat.cast_pos.mpr (significand_pos positive)) (zpow_pos two_pos _)

theorem log_value {pattern : Nat} (positive : 0 < pattern) :
    Int.log 2 (value pattern) = (Nat.log 2 (significand pattern) : Int) + exponent pattern := by
  rw [← Int.log_natCast (R := ℚ), value]
  exact log_mul_zpow (by decide) (Nat.cast_pos.mpr (significand_pos positive)) _

theorem leastExponent_le (pattern : Nat) : leastExponent ≤ exponent pattern := by
  unfold exponent
  split
  · exact Int.le_refl _
  · next large =>
    have full : 0 < pattern / leadingBit := Nat.div_pos (Nat.not_lt.mp large) (by decide)
    omega

theorem exponent_le {pattern : Nat} (finite : pattern < infinityPattern) :
    exponent pattern ≤ 971 := by
  have field : pattern / leadingBit < 0x7FF := Nat.div_lt_of_lt_mul (Nat.mul_comm _ _ ▸ finite)
  unfold exponent leastExponent
  split <;> omega

theorem le_value {pattern : Nat} (positive : 0 < pattern) :
    ((2 : Nat) : ℚ) ^ leastExponent ≤ value pattern := by
  rw [Int.zpow_le_iff_le_log (by decide) (value_pos positive), log_value positive]
  have least := leastExponent_le pattern
  omega

theorem value_lt {pattern : Nat} (positive : 0 < pattern) (finite : pattern < infinityPattern) :
    value pattern < ((2 : Nat) : ℚ) ^ (1024 : Int) := by
  rw [Int.lt_zpow_iff_log_lt (by decide) (value_pos positive), log_value positive]
  have short : significand pattern < 2 ^ 53 := significand_lt pattern
  have below := Nat.log_lt_of_lt_pow (significand_pos positive).ne' short
  have most := exponent_le finite
  omega

/-- The unit of a fraction whose quotient is the value of a pattern is the one in which the
pattern counts. -/
theorem unitExponent_of_value {numerator denominator pattern : Nat} (positive : 0 < pattern)
    (filled : 0 < numerator) (nonzero : 0 < denominator)
    (same : (numerator : ℚ) / denominator = value pattern) :
    unitExponent numerator denominator = exponent pattern := by
  have leading : leadingBit = 2 ^ fractionBits := rfl
  rw [unitExponent_eq filled nonzero, same, log_value positive]
  by_cases small : pattern < leadingBit
  · have below : significand pattern < 2 ^ fractionBits := by
      rwa [significand, if_pos small, ← leading]
    have least : exponent pattern = leastExponent := if_pos small
    have short := Nat.log_lt_of_lt_pow (significand_pos positive).ne' below
    rw [least]
    exact max_eq_left (by omega)
  · have above : 2 ^ fractionBits ≤ significand pattern := by
      rw [significand, if_neg small, ← leading]
      exact Nat.le_add_right _ _
    have below : significand pattern < 2 ^ (fractionBits + 1) := by
      rw [Nat.pow_succ', ← leading]
      exact significand_lt pattern
    have least := leastExponent_le pattern
    have long := Nat.le_log_of_pow_le (by decide) above
    have short := Nat.log_lt_of_lt_pow (significand_pos positive).ne' below
    rw [max_eq_right (by omega)]
    omega

/-- The place of a pattern among all patterns is told by its unit and its significand. -/
theorem unit_add_significand (pattern : Nat) :
    (exponent pattern - leastExponent).toNat * leadingBit + significand pattern = pattern := by
  have split := Nat.div_add_mod' pattern leadingBit
  unfold exponent significand
  split
  · rw [sub_self, Int.toNat_zero, Nat.zero_mul, Nat.zero_add]
  · next large =>
    have full : 0 < pattern / leadingBit := Nat.div_pos (Nat.not_lt.mp large) (by decide)
    have places : (leastExponent + (pattern / leadingBit : Nat) - 1 - leastExponent).toNat =
        pattern / leadingBit - 1 := by omega
    rw [places, ← Nat.add_assoc, ← Nat.succ_mul, Nat.succ_eq_add_one, Nat.sub_add_cancel full,
      split]

/-- A fraction whose quotient is the value of a finite pattern has this pattern. -/
theorem nearest_of_value {numerator denominator pattern : Nat} (positive : 0 < pattern)
    (finite : pattern < infinityPattern) (nonzero : 0 < denominator)
    (same : (numerator : ℚ) / denominator = value pattern) :
    nearest numerator denominator = pattern := by
  have filled : numerator ≠ 0 := by
    intro zero
    rw [zero, Nat.cast_zero, zero_div] at same
    exact (value_pos positive).ne same
  have unit := unitExponent_of_value positive (Nat.pos_of_ne_zero filled) nonzero same
  have counted : roundHalfEven (scaled numerator denominator (exponent pattern)).1
      (scaled numerator denominator (exponent pattern)).2 = significand pattern := by
    rw [← roundHalfEven_one (significand pattern)]
    refine roundHalfEven_congr (scaled_snd_pos _ nonzero _) Nat.one_pos ?_
    rw [scaled_div, same, value, Nat.cast_one, div_one,
      mul_div_cancel_right₀ _ (zpow_pos two_pos _).ne']
  rw [nearest, if_neg filled]
  dsimp only
  rw [unit, counted, unit_add_significand, Nat.min_eq_right finite.le]

end Binary64
end Worksheet
