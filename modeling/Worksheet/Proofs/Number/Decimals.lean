import Mathlib.Data.Nat.Cast.Field
import Worksheet.Number.Display
import Worksheet.Proofs.Number.Rounding

namespace Worksheet

open Text Binary64

/-!
# The decimal of a pattern reads back

A decimal is rounded by its value only, since its order, too, is a logarithm of the value.
The search for a short decimal ends with one that has been read back or with the exact one,
whose value is that of the pattern.  Removing zeros from the end changes no value.  So the
decimal that is laid out for a pattern is rounded to this pattern.
-/

namespace Text

/-- The length of a numeral is told by the decimal logarithm. -/
theorem length_decimalDigits (number : Nat) :
    (decimalDigits number).length = Nat.log 10 number + 1 := by
  apply Nat.le_antisymm
  · rw [decimalDigits, Nat.length_toDigits_le_iff (by decide) (Nat.succ_pos _)]
    exact Nat.lt_pow_succ_log_self (by decide) number
  · by_cases zero : number = 0
    · rw [zero]
      rfl
    · have positive : 0 < (decimalDigits number).length := Nat.length_toDigits_pos
      have above := (Nat.length_toDigits_le_iff (by decide) positive).mp (Nat.le_refl _)
      exact Nat.succ_le_of_lt (Nat.log_lt_of_lt_pow zero above)

end Text

namespace Decimal

variable {digits other : Nat} {exponent power : Int}

/-- The magnitude of a decimal. -/
def size (digits : Nat) (exponent : Int) : ℚ :=
  digits * 10 ^ exponent

theorem fraction_div (digits : Nat) (exponent : Int) :
    ((digits * Nat.pow 10 exponent.toNat : Nat) : ℚ) / (Nat.pow 10 (-exponent).toNat : Nat) =
      size digits exponent := by
  rw [size, ← pow_toNat_div 10 exponent, ← mul_div_assoc]
  simp only [Nat.pow_eq, Nat.cast_mul, Nat.cast_pow, Nat.cast_ofNat]

/-- The order of a decimal is told by the decimal logarithm of its value. -/
theorem order_eq (positive : 0 < digits) (exponent : Int) :
    order digits exponent = Int.log 10 (size digits exponent) + 1 := by
  have shifted := log_mul_zpow (show 1 < 10 by decide) (Nat.cast_pos.mpr positive) exponent
  rw [Int.log_natCast, Nat.cast_ofNat] at shifted
  rw [order, length_decimalDigits, size, shifted, Nat.cast_succ, add_right_comm]

theorem size_eq_zero : size digits exponent = 0 ↔ digits = 0 := by
  rw [size, mul_eq_zero_iff_right (zpow_ne_zero exponent (by decide)), Nat.cast_eq_zero]

/-- Decimals with the same magnitude are rounded to the same pattern. -/
theorem nearestPattern_congr (same : size digits exponent = size other power) :
    nearestPattern digits exponent = nearestPattern other power := by
  have zero : digits = 0 ↔ other = 0 := by
    rw [← @size_eq_zero digits exponent, same, size_eq_zero]
  by_cases nothing : digits = 0
  · rw [nearestPattern, nearestPattern, if_pos nothing, if_pos (zero.mp nothing)]
  · have orders : order digits exponent = order other power := by
      rw [order_eq (Nat.pos_of_ne_zero nothing), same,
        order_eq (Nat.pos_of_ne_zero (mt zero.mpr nothing))]
    have rounded : nearest (digits * Nat.pow 10 exponent.toNat) (Nat.pow 10 (-exponent).toNat) =
        nearest (other * Nat.pow 10 power.toNat) (Nat.pow 10 (-power).toNat) :=
      nearest_congr (Nat.pow_pos (by decide)) (Nat.pow_pos (by decide))
        (by rw [fraction_div, fraction_div, same])
    simp only [nearestPattern, zero, orders, rounded]

/-- The bounds at which decimals are not rounded any more leave room for every pattern. -/
theorem order_mem_of_size {pattern : Nat} (positive : 0 < pattern)
    (finite : pattern < infinityPattern) (nonzero : 0 < digits)
    (same : size digits exponent = value pattern) :
    -330 ≤ order digits exponent ∧ order digits exponent ≤ 310 := by
  have larger : 2 ^ 1024 < 10 ^ 310 := by decide +kernel
  have smaller : 2 ^ 1074 ≤ 10 ^ 331 := by decide +kernel
  have above : value pattern < ((10 : Nat) : ℚ) ^ (310 : Int) := by
    refine (value_lt positive finite).trans ?_
    exact_mod_cast larger
  have below : ((10 : Nat) : ℚ) ^ (-331 : Int) ≤ value pattern := by
    refine le_trans ?_ (le_value positive)
    rw [leastExponent, zpow_neg, zpow_neg]
    exact inv_anti₀ (zpow_pos (by decide) _) (by exact_mod_cast smaller)
  have least := (Int.zpow_le_iff_le_log (by decide) (value_pos positive)).mp below
  have most := (Int.lt_zpow_iff_log_lt (by decide) (value_pos positive)).mp above
  rw [order_eq nonzero, same]
  omega

/-- A decimal with the magnitude of a finite pattern is rounded to this pattern. -/
theorem nearestPattern_of_size {pattern : Nat} (positive : 0 < pattern)
    (finite : pattern < infinityPattern) (same : size digits exponent = value pattern) :
    nearestPattern digits exponent = pattern := by
  have nonzero : digits ≠ 0 := by
    intro zero
    rw [size_eq_zero.mpr zero] at same
    exact (value_pos positive).ne same
  have bounds := order_mem_of_size positive finite (Nat.pos_of_ne_zero nonzero) same
  rw [nearestPattern, if_neg nonzero, if_neg (Int.not_lt.mpr bounds.2),
    if_neg (Int.not_lt.mpr bounds.1)]
  exact nearest_of_value positive finite (Nat.pow_pos (by decide)) ((fraction_div _ _).trans same)

end Decimal

namespace Shortest

variable {pattern : Nat}

theorem size_exact (pattern : Nat) :
    Decimal.size (exact pattern).1 (exact pattern).2 = value pattern := by
  simp only [exact, Decimal.size, value, Nat.pow_eq, Nat.cast_mul, Nat.cast_pow, Nat.cast_ofNat]
  obtain ⟨power, whole | broken⟩ := (exponent pattern).eq_nat_or_neg
  · rw [whole, Int.toNat_natCast, Int.toNat_neg_natCast, min_eq_left (Int.natCast_nonneg _)]
    rw [pow_zero, mul_one, zpow_zero, mul_one, zpow_natCast]
  · rw [broken, neg_neg, Int.toNat_natCast, Int.toNat_neg_natCast,
      min_eq_right (Int.neg_nonpos_of_nonneg (Int.natCast_nonneg _)), pow_zero, mul_one,
      show (10 : ℚ) = 2 * 5 by norm_num, mul_zpow, zpow_neg, zpow_neg, zpow_natCast, zpow_natCast]
    field_simp

/-- However the search ends, it has found a decimal that reads back. -/
theorem search_reads_back (positive : 0 < pattern) (finite : pattern < infinityPattern)
    (remaining : Nat) (power : Int) :
    Decimal.nearestPattern (search pattern remaining power).1 (search pattern remaining power).2 =
      pattern := by
  induction remaining generalizing power with
  | zero => exact Decimal.nearestPattern_of_size positive finite (size_exact pattern)
  | succ remaining hypothesis =>
    rw [search]
    split
    · next digits found => exact neighbour?_reads_back found
    · exact hypothesis (power - 1)

theorem decimal_reads_back (positive : 0 < pattern) (finite : pattern < infinityPattern) :
    Decimal.nearestPattern (decimal pattern).1 (decimal pattern).2 = pattern :=
  search_reads_back positive finite digitLimit _

end Shortest

namespace Number

theorem size_dropZeros (steps digits : Nat) (power : Int) :
    Decimal.size (dropZeros steps digits power).1 (dropZeros steps digits power).2 =
      Decimal.size digits power := by
  induction steps generalizing digits power with
  | zero => rfl
  | succ steps hypothesis =>
    rw [dropZeros]
    split
    · next round =>
      have tenfold : digits = digits / 10 * 10 :=
        (Nat.div_mul_cancel (Nat.dvd_of_mod_eq_zero round.1)).symm
      rw [hypothesis, Decimal.size, Decimal.size, zpow_add_one₀ (by decide), mul_comm _ (10 : ℚ),
        ← mul_assoc]
      congr 1
      exact_mod_cast tenfold.symm
    · rfl

/-- The digits that are laid out for a pattern, and the power of ten in which they count. -/
def shownDecimal (pattern : Nat) : Nat × Int :=
  dropZeros (decimalDigits (Shortest.decimal pattern).1).length (Shortest.decimal pattern).1
    (Shortest.decimal pattern).2

theorem shownDecimal_reads_back {pattern : Nat} (positive : 0 < pattern)
    (finite : pattern < infinityPattern) :
    Decimal.nearestPattern (shownDecimal pattern).1 (shownDecimal pattern).2 = pattern := by
  rw [shownDecimal, Decimal.nearestPattern_congr (size_dropZeros _ _ _)]
  exact Shortest.decimal_reads_back positive finite

theorem writtenMagnitude_eq {pattern : Nat} (positive : 0 < pattern) :
    writtenMagnitude pattern = layout (decimalDigits (shownDecimal pattern).1)
      ((decimalDigits (shownDecimal pattern).1).length + (shownDecimal pattern).2) :=
  if_neg positive.ne'

theorem smallInteger?_zero : smallInteger? 0 = some 0 := by
  decide +kernel

/-- An integer that is shown as such is rounded to its pattern. -/
theorem smallInteger?_reads_back {pattern integer : Nat} (finite : pattern < infinityPattern)
    (found : smallInteger? pattern = some integer) :
    Decimal.nearestPattern integer 0 = pattern ∧ (integer = 0 ↔ pattern = 0) := by
  by_cases zero : pattern = 0
  · rw [zero, smallInteger?_zero, Option.some.injEq] at found
    rw [zero, ← found]
    exact ⟨rfl, Iff.rfl⟩
  · have reads : Decimal.nearestPattern integer 0 = pattern := by
      rw [smallInteger?] at found
      dsimp only at found
      split at found
      · next whole =>
        cases found
        refine Decimal.nearestPattern_of_size (Nat.pos_of_ne_zero zero) finite ?_
        rw [Decimal.size, zpow_zero, mul_one, ← toFraction_div]
        exact Nat.cast_div (Nat.dvd_of_mod_eq_zero whole.1)
          (Nat.cast_ne_zero.mpr (toFraction_snd_pos pattern).ne')
      · cases found
    refine ⟨reads, fun nothing => ?_, fun nothing => absurd nothing zero⟩
    rw [nothing] at reads
    exact reads.symm

end Number
end Worksheet
