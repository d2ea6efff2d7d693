import Mathlib
import Worksheet.Proofs.Number.Displays

namespace Worksheet

/-!
# What is seen of a number

A number is made again from its sign bit and from the pattern below it; there is only one
number that is not a number.  What a number shows is read back with the same pattern.  The
sign comes back as well, except that a zero is shown without it.
-/

namespace Binary64

open Float.Model Float.Model.UnpackedFloat

theorem toNat_toBits (number : Float) :
    (if isNegative number then signPattern + magnitude number else magnitude number) =
      number.toBits.toNat := by
  have bound := number.toBits.toNat_lt
  unfold isNegative magnitude signPattern
  by_cases negative : 0x8000000000000000 ≤ number.toBits.toNat
  · rw [if_pos (decide_eq_true negative)]
    omega
  · rw [if_neg (by rw [decide_eq_false negative]; exact Bool.false_ne_true)]
    omega

/-- A number is made again from its sign and its magnitude. -/
theorem toFloat_magnitude (number : Float) :
    toFloat (isNegative number) (magnitude number) = number := by
  rw [toFloat, toNat_toBits, UInt64.ofNat_toNat, Float.ofBits_toBits]

theorem toNat_unpackExponent (number : Float) :
    (@unpackExponent Format.binary64 number.toBits.toBitVec).toNat =
      number.toBits.toNat / 2 ^ 52 % 2 ^ 11 := by
  rw [← Nat.shiftRight_eq_div_pow]
  rfl

theorem toNat_unpackMantissa (number : Float) :
    (@unpackMantissa Format.binary64 number.toBits.toBitVec).toNat =
      number.toBits.toNat % 2 ^ 52 :=
  rfl

/-- There is only one number that is not a number. -/
theorem eq_of_infinityPattern_lt_magnitude {number : Float}
    (beyond : infinityPattern < magnitude number) :
    number = toFloat false (infinityPattern + leadingBit / 2) := by
  have parts : 0x7FF * 2 ^ 52 < number.toBits.toNat % 2 ^ 63 := beyond
  have full : @unpackExponent Format.binary64 number.toBits.toBitVec = -1#11 := by
    apply BitVec.eq_of_toNat_eq
    rw [toNat_unpackExponent]
    change _ = 2047
    omega
  have filled : @unpackMantissa Format.binary64 number.toBits.toBitVec ≠ 0#52 := by
    intro empty
    have lower := toNat_unpackMantissa number
    rw [empty] at lower
    change 0 = _ at lower
    omega
  have packed := number.toModel.valid.eq_packedNaN full filled
  have undefined : packedNaN Format.binary64 =
      (UInt64.ofNat (infinityPattern + leadingBit / 2)).toBitVec := rfl
  rw [← Float.ofBits_toBits number]
  exact congrArg Float.ofBits (UInt64.eq_of_toBitVec_eq (packed.trans undefined))

end Binary64

namespace Number

open Binary64

/-- The number that is seen where a number is shown: a zero has lost its sign. -/
def seen (number : Float) : Float :=
  if number = -0.0 then 0.0 else number

/-- Only a zero loses its sign. -/
theorem toFloat_shown_eq_seen (number : Float) :
    Binary64.toFloat (isNegative number && magnitude number != 0) (magnitude number) =
      seen number := by
  have parts := toFloat_magnitude number
  by_cases zero : magnitude number = 0
  · rw [zero] at parts
    rw [zero, bne_self_eq_false, Bool.and_false]
    cases sign : isNegative number with
    | true =>
      rw [sign] at parts
      rw [← parts]
      decide +kernel
    | false =>
      rw [sign] at parts
      rw [← parts]
      decide +kernel
  · have other : number ≠ -0.0 := by
      intro same
      rw [same] at zero
      exact zero (by decide +kernel)
    rw [bne_iff_ne.mpr zero, Bool.and_true, parts, seen, if_neg other]

/-- What a number shows reads as the number that is seen. -/
theorem ofValue_display (number : Float) : ofValue (display number) = seen number := by
  rcases lt_trichotomy (magnitude number) infinityPattern with finite | infinite | beyond
  · obtain ⟨shown, displayed, reads⟩ := exists_display finite
    rw [displayed, ofValue_signed, reads, toFloat_shown_eq_seen]
  · rw [display_of_infinite infinite, ← toFloat_shown_eq_seen, infinite]
    cases isNegative number <;> rfl
  · rw [eq_of_infinityPattern_lt_magnitude beyond]
    decide +kernel

theorem display_seen (number : Float) : display (seen number) = display number := by
  rw [seen]
  split
  · next zero =>
    rw [zero]
    decide +kernel
  · rfl

/-- Numbers are told apart by what they show, except for the two zeros. -/
theorem display_eq_display_iff {first second : Float} :
    display first = display second ↔ seen first = seen second := by
  constructor
  · intro same
    rw [← ofValue_display, same, ofValue_display]
  · intro same
    rw [← display_seen first, same, display_seen]

theorem eq_or_zeros_of_seen_eq {first second : Float} (same : seen first = seen second) :
    first = second ∨ (first ∈ [0.0, -0.0] ∧ second ∈ [0.0, -0.0]) := by
  unfold seen at same
  split at same
  · next zero =>
    right
    rw [zero]
    split at same
    · next other =>
      rw [other]
      simp
    · rw [← same]
      simp
  · split at same
    · next other =>
      right
      rw [same, other]
      simp
    · exact .inl same

end Number
end Worksheet
