import Worksheet.Number.Decimal
import Worksheet.Text.Blank

namespace Worksheet
namespace Number

open Text

/-!
# The number that a cell value stands for

A formula sees the value of another cell as a number.  The three words for
numbers that are not finite and every decimal number, with or without signs,
are read; any other text, the empty one included, counts as zero.  Blanks at
the ends are ignored.
-/

def infinity (negative : Bool) : Float :=
  Binary64.toFloat negative Binary64.infinityPattern

/-- The number that is not a number. -/
def undefined : Float :=
  Binary64.toFloat false (Binary64.infinityPattern + Binary64.leadingBit / 2)

/-- The word for a number that is not finite. -/
def ofWord? (chars : List Char) : Option Float :=
  if chars = "Infinity".toList then some (infinity false)
  else if chars = "-Infinity".toList then some (infinity true)
  else if chars = "NaN".toList then some undefined
  else none

/-- The number that a value stands for. -/
def ofValue (value : String) : Float :=
  let chars := strip value.toList
  match ofWord? chars with
  | some number => number
  | none =>
      match Decimal.read? true chars with
      | some decimal => decimal.toFloat
      | none => 0.0

end Number
end Worksheet
