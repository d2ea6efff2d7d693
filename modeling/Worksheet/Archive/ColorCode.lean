import Worksheet.Grid.Cell
import Worksheet.Markup.Reference
import Worksheet.Text.Blank
import Worksheet.Text.Numeral

namespace Worksheet
namespace Archive

open Text

/-!
# Color codes

A color is saved as eight hexadecimal digits in upper case.  Reading is wider: a
sign, the mark `0x` in either case and decimal digits of any script are
accepted, blanks at the ends are ignored, and single low lines may stand between
digits and behind the mark.
-/

/-- The code that a color is saved as. -/
def writeColor (color : Color) : String :=
  String.ofList (upperHexadecimal 8 color.val)

/-- A decimal digit of any script as an ASCII digit; other characters stay. -/
def asciiDigit (char : Char) : Char :=
  match digitValue? char with
  | some value => Nat.digitChar value
  | none => char

/-- Read digits that may be separated by single low lines.  The flag says
whether the character before was a digit. -/
def readSeparated (total : Nat) : (afterDigit : Bool) → List Char → Option Nat
  | afterDigit, [] => if afterDigit then some total else none
  | afterDigit, char :: rest =>
      if char = '_' then if afterDigit then readSeparated total false rest else none
      else
        match Markup.digitIn? 16 char with
        | some value => readSeparated (16 * total + value) true rest
        | none => none

/-- What follows the mark of hexadecimal numbers and one low line behind it. -/
def dropMark : List Char → List Char
  | '0' :: mark :: rest =>
      if mark = 'x' ∨ mark = 'X' then
        match rest with
        | '_' :: rest => rest
        | rest => rest
      else '0' :: mark :: rest
  | chars => chars

/-- Read a text as a hexadecimal integer. -/
def readCode? (text : String) : Option Int :=
  match (strip text.toList).map asciiDigit with
  | '-' :: rest => (readSeparated 0 false (dropMark rest)).map fun code => -(code : Int)
  | '+' :: rest => (readSeparated 0 false (dropMark rest)).map fun code => (code : Int)
  | chars => (readSeparated 0 false (dropMark chars)).map fun code => (code : Int)

end Archive
end Worksheet
