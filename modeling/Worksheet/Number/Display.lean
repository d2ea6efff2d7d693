import Worksheet.Number.Shortest

namespace Worksheet

open Text

/-!
# The text of a number

Two texts belong to a number.  `Number.written` keeps a point or an exponent in
every finite number, so that it never looks like an integer.  `Number.display`
is what a cell shows: an integer of at most sixteen digits without a point, any
other finite number as it is written, and a word for the rest.
-/

namespace Number

/-- The digits and the exponent without trailing zeros of the digits.  The
number of steps is bounded by the first argument. -/
def dropZeros : (steps : Nat) → Nat → Int → Nat × Int
  | 0, digits, power => (digits, power)
  | steps + 1, digits, power =>
      if digits % 10 = 0 ∧ digits ≠ 0 then dropZeros steps (digits / 10) (power + 1)
      else (digits, power)

/-- The least and the greatest place of the point, counted from the first
digit, at which a number is written without an exponent. -/
def positionalPlaces : Int × Int := (-3, 16)

/-- The exponent of a number in scientific form: a sign and two digits or
more. -/
def exponentText (exponent : Int) : List Char :=
  let size := decimalDigits exponent.natAbs
  'e' :: (if exponent < 0 then '-' else '+') :: (if size.length < 2 then '0' :: size else size)

/-- Lay out significant digits whose point stands `place` digits after the
first one begins. -/
def layout (digits : List Char) (place : Int) : List Char :=
  if place < positionalPlaces.1 ∨ positionalPlaces.2 < place then
    match digits with
    | [] => []
    | [only] => only :: exponentText (place - 1)
    | first :: rest => first :: '.' :: rest ++ exponentText (place - 1)
  else if place ≤ 0 then
    '0' :: '.' :: List.replicate (-place).toNat '0' ++ digits
  else if place < digits.length then
    digits.take place.toNat ++ '.' :: digits.drop place.toNat
  else
    digits ++ List.replicate (place.toNat - digits.length) '0' ++ ['.', '0']

/-- A finite magnitude as it is written. -/
def writtenMagnitude (pattern : Nat) : List Char :=
  if pattern = 0 then ['0', '.', '0']
  else
    let (digits, power) := Shortest.decimal pattern
    let (digits, power) := dropZeros (decimalDigits digits).length digits power
    let shown := decimalDigits digits
    layout shown (shown.length + power)

def signed (negative : Bool) (chars : List Char) : List Char :=
  if negative then '-' :: chars else chars

/-- A number as it is written where a point or an exponent is kept. -/
def written (number : Float) : String :=
  let pattern := Binary64.magnitude number
  let negative := Binary64.isNegative number
  if Binary64.infinityPattern < pattern then "nan"
  else if pattern = Binary64.infinityPattern then
    String.ofList (signed negative "inf".toList)
  else String.ofList (signed negative (writtenMagnitude pattern))

/-- Integers below this bound are displayed without a point. -/
def integerBound : Nat := 10000000000000000

/-- The integer that a finite magnitude is, if it is one below the bound. -/
def smallInteger? (pattern : Nat) : Option Nat :=
  let (numerator, denominator) := Binary64.toFraction pattern
  if numerator % denominator = 0 ∧ numerator / denominator < integerBound then
    some (numerator / denominator)
  else none

/-- A number as a cell shows it. -/
def display (number : Float) : String :=
  let pattern := Binary64.magnitude number
  let negative := Binary64.isNegative number
  if Binary64.infinityPattern < pattern then "NaN"
  else if pattern = Binary64.infinityPattern then
    String.ofList (signed negative "Infinity".toList)
  else
    match smallInteger? pattern with
    | some integer => String.ofList (signed (negative && integer != 0) (decimalDigits integer))
    | none => String.ofList (signed negative (writtenMagnitude pattern))

end Number
end Worksheet
