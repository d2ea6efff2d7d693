namespace Worksheet
namespace Binary64

/-!
# Magnitudes of the binary64 format

A magnitude is given by its pattern: the number that its 63 bits below the sign
bit spell.  The pattern of a finite magnitude determines a significand and an
exponent of two, patterns are ordered as the magnitudes are, and the pattern
after the last finite one stands for infinity.

The one operation is rounding: the pattern nearest to a fraction of natural
numbers, a tie going to the even pattern.
-/

/-- The number of bits of the significand that a pattern spells out. -/
def fractionBits : Nat := 52

/-- The bit before them, which a pattern does not spell out. -/
def leadingBit : Nat := 0x10000000000000

/-- The exponent of the unit in which the smallest magnitudes are counted. -/
def leastExponent : Int := -1074

/-- The pattern of infinity. -/
def infinityPattern : Nat := 0x7FF * leadingBit

/-- The first pattern that is beyond every magnitude, the bit of the sign. -/
def signPattern : Nat := 0x8000000000000000

/-- The integer that a finite pattern multiplies by a power of two. -/
def significand (pattern : Nat) : Nat :=
  if pattern < leadingBit then pattern else leadingBit + pattern % leadingBit

/-- The power of two that belongs to `significand`. -/
def exponent (pattern : Nat) : Int :=
  if pattern < leadingBit then leastExponent
  else leastExponent + (pattern / leadingBit : Nat) - 1

/-- A fraction divided by a power of two, as a pair of natural numbers. -/
def scaled (numerator denominator : Nat) (power : Int) : Nat × Nat :=
  (numerator * Nat.pow 2 (-power).toNat, denominator * Nat.pow 2 power.toNat)

/-- The integer nearest to a fraction, a tie going to the even one. -/
def roundHalfEven (numerator denominator : Nat) : Nat :=
  let floor := numerator / denominator
  let rest := numerator % denominator
  if 2 * rest < denominator then floor
  else if denominator < 2 * rest then floor + 1
  else floor + floor % 2

/-- The exponent of the unit in which a positive fraction has a significand of
full length, or the least exponent if that unit would be too small. -/
def unitExponent (numerator denominator : Nat) : Int :=
  let estimate : Int := (numerator.log2 : Int) - denominator.log2 - fractionBits
  let counted := scaled numerator denominator estimate
  max leastExponent
    (if counted.1 < leadingBit * counted.2 then estimate - 1 else estimate)

/-- The pattern nearest to a fraction with a positive denominator.  A significand
that rounding lengthens carries into the exponent by itself. -/
def nearest (numerator denominator : Nat) : Nat :=
  if numerator = 0 then 0
  else
    let unit := unitExponent numerator denominator
    let counted := scaled numerator denominator unit
    min infinityPattern
      ((unit - leastExponent).toNat * leadingBit + roundHalfEven counted.1 counted.2)

/-- A magnitude with a sign as a number. -/
def toFloat (negative : Bool) (pattern : Nat) : Float :=
  Float.ofBits (UInt64.ofNat (if negative then signPattern + pattern else pattern))

/-- Whether the sign bit of a number is set. -/
def isNegative (number : Float) : Bool :=
  decide (signPattern ≤ number.toBits.toNat)

/-- The pattern of a number without its sign. -/
def magnitude (number : Float) : Nat :=
  number.toBits.toNat % signPattern

/-- A magnitude that is finite as a fraction of natural numbers. -/
def toFraction (pattern : Nat) : Nat × Nat :=
  (significand pattern * Nat.pow 2 (exponent pattern).toNat, Nat.pow 2 (-exponent pattern).toNat)

end Binary64
end Worksheet
