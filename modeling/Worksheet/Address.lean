import Worksheet.Text.Quoted

namespace Worksheet

open Text

/-!
# Addresses

An address names a column by one of the letters `A` to `Z` and a row by its
number, counted from one.  Rows are not bounded here; whether an address lies
in a grid is a question to the grid.

Reading is wider than writing.  A row may be spelled with decimal digits of any
script and with leading zeros, and one line feed may follow it.  Writing yields
ASCII digits without a leading zero.
-/

/-- The number of columns that letters can name. -/
def columnLimit : Nat := 26

/-- The most decimal digits that a row number is read from or written with. -/
def rowDigitLimit : Nat := 4300

/-- A column and a row, both counted from zero. -/
structure Address where
  column : Fin columnLimit
  row : Nat
deriving DecidableEq, Repr

namespace Address

/-- Why a text is no address, or a column and a row have none. -/
inductive Fault where
  | malformed (text : String)
  | rowTooLong (digits : Nat)
  | columnOutOfRange (column : Int)
  | rowNotWritable
deriving DecidableEq, Repr

def Fault.message : Fault → String
  | malformed text => "Invalid cell address: " ++ quoted text
  | rowTooLong digits =>
      "Exceeds the limit (4300 digits) for integer string conversion: value has "
        ++ String.ofList (decimalDigits digits)
        ++ " digits; use sys.set_int_max_str_digits() to increase the limit"
  | columnOutOfRange column =>
      "Column index out of range: " ++ String.ofList (signedDigits column)
  | rowNotWritable =>
      "Exceeds the limit (4300 digits) for integer string conversion; "
        ++ "use sys.set_int_max_str_digits() to increase the limit"

/-- The letter of a column. -/
def columnLetter (column : Fin columnLimit) : Char :=
  Char.ofNat ('A'.toNat + column.val)

/-- The column that a letter names. -/
def columnOfLetter? (letter : Char) : Option (Fin columnLimit) :=
  if bounds : 'A'.toNat ≤ letter.toNat ∧ letter.toNat < 'A'.toNat + columnLimit then
    some ⟨letter.toNat - 'A'.toNat, by omega⟩
  else none

theorem columnOfLetter?_columnLetter (column : Fin columnLimit) :
    columnOfLetter? (columnLetter column) = some column := by
  revert column
  decide

/-- The column of an integer, if it is in range. -/
def column? (column : Int) : Except Fault (Fin columnLimit) :=
  if bounds : 0 ≤ column ∧ column < columnLimit then .ok ⟨column.toNat, by omega⟩
  else .error (.columnOutOfRange column)

/-- The canonical spelling: the letter and the row counted from one. -/
def spelling (address : Address) : List Char :=
  columnLetter address.column :: decimalDigits (address.row + 1)

def name (address : Address) : String :=
  String.ofList address.spelling

/-- The canonical spelling of a column and a row given as integers.  The column
is examined first. -/
def nameOf (row column : Int) : Except Fault String := do
  let column ← column? column
  let digits := signedDigits (row + 1)
  if rowDigitLimit < (decimalDigits (row + 1).natAbs).length then .error .rowNotWritable
  else .ok (String.ofList (columnLetter column :: digits))

/-- The letter and the digits of a text of the shape of an address, which may
end in one line feed. -/
def parts? : List Char → Option (Fin columnLimit × List Char)
  | [] => none
  | letter :: rest =>
      match columnOfLetter? letter with
      | none => none
      | some column =>
          let digits := rest.takeWhile isDecimalDigit
          let tail := rest.dropWhile isDecimalDigit
          if digits ≠ [] ∧ (tail = [] ∨ tail = ['\n']) then some (column, digits) else none

/-- Read a whole text as an address. -/
def read (text : String) : Except Fault Address :=
  match parts? text.toList with
  | none => .error (.malformed text)
  | some (column, digits) =>
      if rowDigitLimit < digits.length then .error (.rowTooLong digits.length)
      else
        match numeralValue digits with
        | 0 => .error (.malformed text)
        | row + 1 => .ok ⟨column, row⟩

end Address
end Worksheet
