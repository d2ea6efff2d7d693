import Worksheet.Text.DecimalDigit

namespace Worksheet
namespace Text

/-!
# Numerals

A numeral is a text of decimal digits of any script.  It is read by the values
of its digits; it is written with the ten ASCII digits and without a leading
zero.  Hexadecimal numerals of a fixed width are only written.
-/

/-- The number that a text of decimal digits shows.  A character that is no
digit counts as a zero; callers have tested the text. -/
def numeralValue (digits : List Char) : Nat :=
  digits.foldl (fun total char => 10 * total + (digitValue? char).getD 0) 0

/-- The decimal numeral of a natural number. -/
def decimalDigits (number : Nat) : List Char :=
  Nat.toDigits 10 number

/-- The decimal numeral of an integer, with a sign only below zero. -/
def signedDigits : Int → List Char
  | .ofNat number => decimalDigits number
  | .negSucc number => '-' :: decimalDigits (number + 1)

/-- The last `width` hexadecimal digits of a number, in lower case. -/
def lowerHexadecimal : (width : Nat) → Nat → List Char
  | 0, _ => []
  | width + 1, number => lowerHexadecimal width (number / 16) ++ [Nat.digitChar (number % 16)]

/-- The last `width` hexadecimal digits of a number, in upper case. -/
def upperHexadecimal (width number : Nat) : List Char :=
  (lowerHexadecimal width number).map Char.toUpper

theorem decimalDigits_ne_nil (number : Nat) : decimalDigits number ≠ [] :=
  Nat.toDigits_ne_nil

end Text
end Worksheet
