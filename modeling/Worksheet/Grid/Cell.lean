import Worksheet.Grid.Size

namespace Worksheet

/-!
# Cells and grids

A cell holds the text that was entered, the value it shows and a background
color.  A grid of a size holds one cell for every position; reading after
writing is settled by two equations, and a grid is determined by its cells.
-/

/-- A color with eight bits each of opacity, red, green and blue. -/
abbrev Color := Fin 0x100000000

/-- Opaque white. -/
def Color.white : Color := ⟨0xFFFFFFFF, by decide⟩

/-- The color with the given code, if it has at most thirty-two bits. -/
def Color.ofInt? (code : Int) : Option Color :=
  if bounds : 0 ≤ code ∧ code < 0x100000000 then some ⟨code.toNat, by omega⟩ else none

theorem Color.ofInt?_val (color : Color) : Color.ofInt? (color.val : Int) = some color := by
  have bounds : 0 ≤ (color.val : Int) ∧ (color.val : Int) < 0x100000000 := by
    constructor <;> omega
  unfold Color.ofInt?
  split
  · exact congrArg some (Fin.ext (Int.toNat_natCast color.val))
  · next outside => exact absurd bounds outside

/-- The codes of colors are those of at most thirty-two bits. -/
theorem Color.exists_ofInt?_iff {code : Int} :
    (∃ color, Color.ofInt? code = some color) ↔ 0 ≤ code ∧ code ≤ 0xFFFFFFFF := by
  unfold Color.ofInt?
  split
  · next bounds => exact ⟨fun _ => ⟨bounds.1, by omega⟩, fun _ => ⟨_, rfl⟩⟩
  · next outside =>
    constructor
    · rintro ⟨color, found⟩
      cases found
    · exact fun bounds => absurd ⟨bounds.1, by omega⟩ outside

structure Cell where
  text : String
  value : String
  color : Color
deriving DecidableEq

namespace Cell

/-- The cell of a new grid. -/
def blank : Cell := ⟨"", "", Color.white⟩

end Cell

/-- One cell for every position of a size. -/
structure Grid (size : Size) where
  rows : Vector (Vector Cell size.columns) size.rows

namespace Grid

variable {size : Size}

/-- The grid whose cells are all blank. -/
def blank (size : Size) : Grid size :=
  ⟨Vector.replicate size.rows (Vector.replicate size.columns Cell.blank)⟩

def get (grid : Grid size) (position : Position size) : Cell :=
  (grid.rows[position.row])[position.column]

def set (grid : Grid size) (position : Position size) (cell : Cell) : Grid size :=
  ⟨grid.rows.set position.row ((grid.rows[position.row]).set position.column cell)⟩

theorem get_blank (position : Position size) : (blank size).get position = Cell.blank := by
  simp only [get, blank, Fin.getElem_fin, Vector.getElem_replicate]

theorem get_set_self (grid : Grid size) (position : Position size) (cell : Cell) :
    (grid.set position cell).get position = cell := by
  simp only [get, set, Fin.getElem_fin, Vector.getElem_set_self]

theorem get_set_of_ne (grid : Grid size) {written read : Position size} (cell : Cell)
    (different : written ≠ read) : (grid.set written cell).get read = grid.get read := by
  obtain ⟨writtenRow, writtenColumn⟩ := written
  obtain ⟨readRow, readColumn⟩ := read
  simp only [get, set, Fin.getElem_fin]
  by_cases sameRow : writtenRow = readRow
  · subst readRow
    have differentColumn : writtenColumn.val ≠ readColumn.val := by
      intro same
      exact different (by rw [Fin.ext same])
    simp only [Vector.getElem_set_self, Vector.getElem_set, differentColumn, if_false]
  · have differentRow : writtenRow.val ≠ readRow.val := fun same => sameRow (Fin.ext same)
    simp only [Vector.getElem_set, differentRow, if_false]

theorem get_set (grid : Grid size) (written read : Position size) (cell : Cell) :
    (grid.set written cell).get read = if written = read then cell else grid.get read := by
  by_cases same : written = read
  · subst same
    rw [get_set_self, if_pos rfl]
  · rw [get_set_of_ne grid cell same, if_neg same]

/-- Grids with the same cells are the same. -/
theorem ext {first second : Grid size}
    (same : ∀ position, first.get position = second.get position) : first = second := by
  obtain ⟨firstRows⟩ := first
  obtain ⟨secondRows⟩ := second
  congr 1
  apply Vector.ext
  intro row rowBound
  apply Vector.ext
  intro column columnBound
  exact same ⟨⟨row, rowBound⟩, ⟨column, columnBound⟩⟩

/-- The grid after a change of the text of one cell. -/
def setText (grid : Grid size) (position : Position size) (text : String) : Grid size :=
  grid.set position { grid.get position with text := text }

/-- The grid after a change of the value of one cell. -/
def setValue (grid : Grid size) (position : Position size) (value : String) : Grid size :=
  grid.set position { grid.get position with value := value }

/-- The grid after a change of the color of one cell. -/
def setColor (grid : Grid size) (position : Position size) (color : Color) : Grid size :=
  grid.set position { grid.get position with color := color }

end Grid
end Worksheet
