import Worksheet.Number.Reading
import Worksheet.Proofs.Number.Texts

namespace Worksheet
namespace Number

open Text Binary64

/-!
# What a number shows

A finite number shows the parts of a decimal that is rounded to it, behind a sign if it is
below zero.  The sign of a zero is not shown.  Any other number shows a word.  No text of a
number holds a blank.
-/

/-- A finite number shows its sign and the parts of a decimal that is rounded to it. -/
theorem exists_display {number : Float} (finite : magnitude number < infinityPattern) :
    ∃ shown : Shown,
      display number = String.ofList
        (signed (isNegative number && magnitude number != 0) shown.chars) ∧
      Decimal.nearestPattern shown.digits shown.exponent = magnitude number := by
  rw [display, if_neg (Nat.not_lt.mpr finite.le), if_neg finite.ne]
  split
  · next integer found =>
    obtain ⟨reads, zero⟩ := smallInteger?_reads_back finite found
    have same : (integer != 0) = (magnitude number != 0) := by
      rw [Bool.eq_iff_iff, bne_iff_ne, bne_iff_ne, ne_eq, zero]
    refine ⟨.ofNat integer, ?_, ?_⟩
    · rw [same, Shown.chars_ofNat]
    · rw [Shown.digits_ofNat, Shown.exponent_ofNat, reads]
  · next missing =>
    have positive : 0 < magnitude number := by
      apply Nat.pos_of_ne_zero
      intro zero
      rw [zero, smallInteger?_zero] at missing
      cases missing
    let digits := (shownDecimal (magnitude number)).1
    have ascii : ∀ char ∈ decimalDigits digits, char.isDigit = true :=
      fun _ => isDigit_of_mem_decimalDigits
    obtain ⟨shown, laidOut, sized⟩ := Shown.exists_layout ascii (decimalDigits_ne_nil digits)
      (shownDecimal (magnitude number)).2
    refine ⟨shown, ?_, ?_⟩
    · rw [bne_iff_ne.mpr positive.ne', Bool.and_true, laidOut, writtenMagnitude_eq positive]
    · rw [numeralValue_decimalDigits] at sized
      rw [Decimal.nearestPattern_congr sized]
      exact shownDecimal_reads_back positive finite

/-- Beyond the finite numbers the display is a word. -/
theorem display_of_infinite {number : Float} (infinite : magnitude number = infinityPattern) :
    display number = String.ofList (signed (isNegative number) "Infinity".toList) := by
  rw [display, if_neg (Nat.not_lt.mpr infinite.le), if_pos infinite]

theorem display_of_undefined {number : Float} (beyond : infinityPattern < magnitude number) :
    display number = "NaN" := by
  rw [display, if_pos beyond]

theorem isBlank_of_mem_signed {chars : List Char} (solid : ∀ char ∈ chars, isBlank char = false)
    {negative : Bool} {char : Char} (member : char ∈ signed negative chars) :
    isBlank char = false := by
  cases negative with
  | false => exact solid char member
  | true =>
    rcases List.mem_cons.mp member with sign | behind
    · rw [sign]
      rfl
    · exact solid char behind

theorem isBlank_of_mem_display {number : Float} {char : Char}
    (member : char ∈ (display number).toList) : isBlank char = false := by
  rcases lt_trichotomy (magnitude number) infinityPattern with finite | infinite | beyond
  · obtain ⟨shown, displayed, _⟩ := exists_display finite
    rw [displayed, String.toList_ofList] at member
    exact isBlank_of_mem_signed (fun _ => shown.isBlank_of_mem_chars) member
  · rw [display_of_infinite infinite, String.toList_ofList] at member
    exact isBlank_of_mem_signed (fun _ => isBlank_eq_false_of_any (by decide)) member
  · rw [display_of_undefined beyond] at member
    exact isBlank_eq_false_of_any (by decide) member

/-! ## What is read back -/

theorem ofWord?_signed (shown : Shown) (negative : Bool) :
    ofWord? (signed negative shown.chars) = none := by
  have noDigit : ∀ word ∈ ["Infinity".toList, "-Infinity".toList, "NaN".toList],
      (Decimal.takeSign true word).2.head?.any Char.isDigit = false := by decide
  have apart : ∀ word ∈ ["Infinity".toList, "-Infinity".toList, "NaN".toList],
      signed negative shown.chars ≠ word := by
    intro word member same
    obtain ⟨first, rest, begins, digit⟩ := shown.exists_chars_eq_cons
    have other := noDigit word member
    rw [← same, shown.takeSign_signed, begins] at other
    exact Bool.false_ne_true (other.symm.trans digit)
  rw [ofWord?, if_neg (apart _ (by simp)), if_neg (apart _ (by simp)), if_neg (apart _ (by simp))]

theorem ofValue_signed (shown : Shown) (negative : Bool) :
    ofValue (String.ofList (signed negative shown.chars)) =
      Binary64.toFloat negative (Decimal.nearestPattern shown.digits shown.exponent) := by
  have stripped : strip (signed negative shown.chars) = signed negative shown.chars :=
    strip_eq_self fun _ => isBlank_of_mem_signed fun _ => shown.isBlank_of_mem_chars
  rw [ofValue, String.toList_ofList, stripped, ofWord?_signed, shown.read?_signed]
  rfl

end Number
end Worksheet
