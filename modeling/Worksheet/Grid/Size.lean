import Worksheet.Address

namespace Worksheet

open Text

/-!
# Sizes and positions

A grid has at least one row and one to twenty-six columns, and the number of
every row can be written in an address.  A position of a size is a row and a
column that exist in it, so a position never needs a bounds check.  Positions
are listed row by row.
-/

/-- The dimensions of a grid. -/
structure Size where
  rows : Nat
  columns : Nat
  rows_pos : 0 < rows
  columns_pos : 0 < columns
  columns_le : columns ≤ columnLimit
  rows_writable : (decimalDigits rows).length ≤ rowDigitLimit
deriving DecidableEq

/-- A row and a column of a grid, both counted from zero. -/
structure Position (size : Size) where
  row : Fin size.rows
  column : Fin size.columns
deriving DecidableEq

namespace Size

/-- Why two integers are no dimensions. -/
inductive Fault where
  | noRows (rows : Int)
  | columnsOutOfRange (columns : Int)
  | tooManyRows
deriving DecidableEq, Repr

def Fault.message : Fault → String
  | noRows rows => "rows must be positive, got " ++ String.ofList (signedDigits rows)
  | columnsOutOfRange columns =>
      "columns must be between 1 and 26, got " ++ String.ofList (signedDigits columns)
  | tooManyRows => "rows must have at most 4300 digits"

/-- The size with the given dimensions.  The rows are examined first. -/
def ofDimensions (rows columns : Int) : Except Fault Size :=
  if rowsBound : 1 ≤ rows then
    if columnsBound : 1 ≤ columns ∧ columns ≤ columnLimit then
      if writable : (decimalDigits rows.toNat).length ≤ rowDigitLimit then
        .ok ⟨rows.toNat, columns.toNat, by omega, by omega, by omega, writable⟩
      else .error .tooManyRows
    else .error (.columnsOutOfRange columns)
  else .error (.noRows rows)

variable (size : Size)

/-- All positions, row by row. -/
def positions : List (Position size) :=
  (List.finRange size.rows).flatMap fun row =>
    (List.finRange size.columns).map fun column => ⟨row, column⟩

def cellCount : Nat := size.rows * size.columns

theorem mem_positions (position : Position size) : position ∈ size.positions := by
  simp only [positions, List.mem_flatMap, List.mem_map]
  exact ⟨position.row, List.mem_finRange position.row, position.column,
    List.mem_finRange position.column, rfl⟩

/-- The position with the given row and column, if the size has one. -/
def position? (row column : Nat) : Option (Position size) :=
  if rowBound : row < size.rows then
    if columnBound : column < size.columns then some ⟨⟨row, rowBound⟩, ⟨column, columnBound⟩⟩
    else none
  else none

/-- The position with the given row and column as integers. -/
def positionOfInts? (row column : Int) : Option (Position size) :=
  if 0 ≤ row ∧ 0 ≤ column then size.position? row.toNat column.toNat else none

/-- The position that an address names. -/
def positionOf? (address : Address) : Option (Position size) :=
  size.position? address.row address.column.val

/-- The position that a token names, if it reads as an address in the grid. -/
def resolve? (token : String) : Option (Position size) :=
  match Address.read token with
  | .ok address => size.positionOf? address
  | .error _ => none

/-- Why a text given as the key of a cell names none. -/
inductive KeyFault where
  | invalid (key : String)
  | outside (key : String)
deriving DecidableEq, Repr

def KeyFault.message : KeyFault → String
  | invalid key => "Invalid cell address " ++ quoted key
  | outside key => "Cell " ++ quoted key ++ " is outside the grid"

/-- The position that a key names. -/
def locate (key : String) : Except KeyFault (Position size) :=
  match Address.read key with
  | .error _ => .error (.invalid key)
  | .ok address =>
      match size.positionOf? address with
      | some position => .ok position
      | none => .error (.outside key)

theorem position?_val (position : Position size) :
    size.position? position.row.val position.column.val = some position := by
  simp only [position?, position.row.isLt, position.column.isLt, dite_true]

/-- A key names a cell exactly when it resolves as a token. -/
theorem locate_eq_ok_iff {key : String} {position : Position size} :
    size.locate key = .ok position ↔ size.resolve? key = some position := by
  simp only [locate, resolve?]
  cases Address.read key with
  | error fault => simp only [reduceCtorEq]
  | ok address =>
    cases found : size.positionOf? address with
    | none => simp only [found, reduceCtorEq]
    | some other => simp only [found, Except.ok.injEq, Option.some.injEq]

end Size

namespace Position

variable {size : Size}

/-- The address of a position. -/
def address (position : Position size) : Address :=
  ⟨position.column.castLE size.columns_le, position.row.val⟩

/-- The canonical name of a position. -/
def name (position : Position size) : String :=
  position.address.name

theorem positionOf?_address (position : Position size) :
    size.positionOf? position.address = some position :=
  size.position?_val position

end Position
end Worksheet
