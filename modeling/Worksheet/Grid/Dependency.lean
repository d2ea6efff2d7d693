import Worksheet.Grid.Cell
import Worksheet.Reference

namespace Worksheet

/-!
# Dependencies between cells

A cell is a formula when its text begins with an equals sign.  The tokens of
the formula name the cells it reads.  Nothing is stored about who reads whom:
both directions are computed from the texts that the grid holds.
-/

namespace Cell

def isFormula (cell : Cell) : Bool :=
  cell.text.toList.head? == some '='

/-- The text behind its first character, whatever that is. -/
def body (cell : Cell) : String :=
  String.ofList (cell.text.toList.drop 1)

/-- The tokens of a formula; other cells have none. -/
def references (cell : Cell) : List String :=
  if cell.isFormula then Reference.tokens cell.body else []

end Cell

namespace Grid

variable {size : Size} (grid : Grid size)

/-- The cells that the tokens of a cell name, as often as they are named.
Tokens that name no cell of the grid are left out. -/
def sources (position : Position size) : List (Position size) :=
  (grid.get position).references.filterMap size.resolve?

/-- Whether a cell is a formula that holds the canonical name of another. -/
def dependsOn (reader source : Position size) : Bool :=
  (grid.get reader).isFormula && Reference.mentions (grid.get reader).text source.name

/-- The formula cells that hold the canonical name of a cell, row by row. -/
def dependents (source : Position size) : List (Position size) :=
  size.positions.filter fun reader => grid.dependsOn reader source

/-- All formula cells, row by row. -/
def formulaCells : List (Position size) :=
  size.positions.filter fun position => (grid.get position).isFormula

theorem mem_dependents {source reader : Position size} :
    reader ∈ grid.dependents source ↔ grid.dependsOn reader source = true := by
  simp only [dependents, List.mem_filter, size.mem_positions, true_and]

theorem mem_formulaCells {position : Position size} :
    position ∈ grid.formulaCells ↔ (grid.get position).isFormula = true := by
  simp only [formulaCells, List.mem_filter, size.mem_positions, true_and]

end Grid
end Worksheet
