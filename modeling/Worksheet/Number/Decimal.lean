import Worksheet.Number.Binary64
import Worksheet.Text.Numeral

namespace Worksheet

open Text

/-!
# Decimal numbers

A decimal number is an integer times a power of ten, with a sign of its own so
that a negative zero can be told apart.  The module reads such numbers from
text and rounds them to binary64.

The accepted texts are digits with at most one point among or around them and
an optional exponent after the letter `e` of either case.  At least one digit
is required, before or after the point.  Signs, of the whole and of the
exponent, are admitted only where the reader is asked for them.
-/

/-- The number `± digits * 10 ^ exponent`. -/
structure Decimal where
  negative : Bool
  digits : Nat
  exponent : Int
deriving DecidableEq, Repr

namespace Decimal

/-- A leading sign, if signs are admitted, and what follows it. -/
def takeSign (signed : Bool) : List Char → Bool × List Char
  | '+' :: rest => if signed then (false, rest) else (false, '+' :: rest)
  | '-' :: rest => if signed then (true, rest) else (false, '-' :: rest)
  | chars => (false, chars)

/-- The exponent that ends a number: nothing, or the letter `e` and digits. -/
def readExponent? (signed : Bool) : List Char → Option Int
  | [] => some 0
  | mark :: rest =>
      if mark = 'e' ∨ mark = 'E' then
        let (negative, digits) := takeSign signed rest
        if digits ≠ [] ∧ digits.all isDecimalDigit then
          let size : Int := numeralValue digits
          some (if negative then -size else size)
        else none
      else none

/-- The digits before the point, the digits after it, and the rest. -/
def splitPoint (chars : List Char) : List Char × List Char × List Char :=
  let whole := chars.takeWhile isDecimalDigit
  match chars.dropWhile isDecimalDigit with
  | '.' :: rest => (whole, rest.takeWhile isDecimalDigit, rest.dropWhile isDecimalDigit)
  | rest => (whole, [], rest)

/-- Read a whole text as a decimal number. -/
def read? (signed : Bool) (chars : List Char) : Option Decimal :=
  let (negative, unsigned) := takeSign signed chars
  let (whole, fraction, rest) := splitPoint unsigned
  if whole = [] ∧ fraction = [] then none
  else
    (readExponent? signed rest).map fun power =>
      ⟨negative, numeralValue (whole ++ fraction), power - fraction.length⟩

/-- The number of decimal places before which every digit of the magnitude
stands: a positive magnitude is below ten to this power and not below a tenth
of that. -/
def order (digits : Nat) (exponent : Int) : Int :=
  (decimalDigits digits).length + exponent

/-- The pattern nearest to `digits * 10 ^ exponent`.  Magnitudes far outside
the range of the format are recognised by their order, so that no exponent
makes the computation long. -/
def nearestPattern (digits : Nat) (exponent : Int) : Nat :=
  if digits = 0 then 0
  else if 310 < order digits exponent then Binary64.infinityPattern
  else if order digits exponent < -330 then 0
  else Binary64.nearest (digits * Nat.pow 10 exponent.toNat) (Nat.pow 10 (-exponent).toNat)

/-- The binary64 number nearest to a decimal one. -/
def toFloat (decimal : Decimal) : Float :=
  Binary64.toFloat decimal.negative (nearestPattern decimal.digits decimal.exponent)

end Decimal
end Worksheet
