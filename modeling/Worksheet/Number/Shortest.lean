import Worksheet.Number.Decimal

namespace Worksheet
namespace Shortest

open Text

/-!
# The shortest decimal that reads back

A finite magnitude is shown by as few significant digits as possible.  For each
count of digits the two neighbours of the magnitude among the decimals with
that many digits are tried; the first count at which one of them reads back as
the magnitude wins.  If both do, the nearer is taken, and at equal distance the
even one.

The exact decimal of the magnitude stands at the end of the search, so what is
chosen always reads back.
-/

/-- The most digits that are tried before the exact decimal. -/
def digitLimit : Nat := 17

/-- The exponent of the leading digit of a positive fraction. -/
def leadingExponent (numerator denominator : Nat) : Int :=
  if denominator ≤ numerator then (decimalDigits (numerator / denominator)).length - 1
  else -((decimalDigits ((denominator - 1) / numerator)).length : Int)

/-- A fraction divided by a power of ten, as a pair of natural numbers. -/
def scaledByTen (fraction : Nat × Nat) (power : Int) : Nat × Nat :=
  (fraction.1 * Nat.pow 10 (-power).toNat, fraction.2 * Nat.pow 10 power.toNat)

/-- The better of the two decimals with a given exponent that enclose the
magnitude, among those that read back as it. -/
def neighbour? (pattern : Nat) (power : Int) : Option Nat :=
  let (numerator, denominator) := scaledByTen (Binary64.toFraction pattern) power
  let below := numerator / denominator
  let readsBack := fun digits => Decimal.nearestPattern digits power == pattern
  match readsBack below, readsBack (below + 1) with
  | false, false => none
  | true, false => some below
  | false, true => some (below + 1)
  | true, true => some (Binary64.roundHalfEven numerator denominator)

/-- The exact decimal of a finite magnitude. -/
def exact (pattern : Nat) : Nat × Int :=
  let power := Binary64.exponent pattern
  (Binary64.significand pattern * Nat.pow 2 power.toNat * Nat.pow 5 (-power).toNat, min 0 power)

/-- Try `remaining` further counts of digits, the first of them with the given
exponent. -/
def search (pattern : Nat) : (remaining : Nat) → (power : Int) → Nat × Int
  | 0, _ => exact pattern
  | remaining + 1, power =>
      match neighbour? pattern power with
      | some digits => (digits, power)
      | none => search pattern remaining (power - 1)

/-- The digits and the exponent that show a positive finite magnitude. -/
def decimal (pattern : Nat) : Nat × Int :=
  let (numerator, denominator) := Binary64.toFraction pattern
  search pattern digitLimit (leadingExponent numerator denominator)

theorem neighbour?_reads_back {pattern digits : Nat} {power : Int}
    (found : neighbour? pattern power = some digits) :
    Decimal.nearestPattern digits power = pattern := by
  simp only [neighbour?] at found
  generalize scaledByTen (Binary64.toFraction pattern) power = fraction at found
  split at found
  · cases found
  · rename_i lower _
    cases found
    exact beq_iff_eq.1 lower
  · rename_i _ upper
    cases found
    exact beq_iff_eq.1 upper
  · rename_i lower upper
    cases found
    simp only [Binary64.roundHalfEven]
    split
    · exact beq_iff_eq.1 lower
    · split
      · exact beq_iff_eq.1 upper
      · rcases Nat.mod_two_eq_zero_or_one (fraction.1 / fraction.2) with even | odd
        · rw [even]
          exact beq_iff_eq.1 lower
        · rw [odd]
          exact beq_iff_eq.1 upper

end Shortest
end Worksheet
