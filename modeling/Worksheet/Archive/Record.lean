import Worksheet.Archive.ColorCode
import Worksheet.Archive.Fault
import Worksheet.Markup.Document
import Worksheet.Markup.Writing

namespace Worksheet
namespace Archive

/-!
# Saved worksheets

A worksheet is saved as the records of the cells that have a text or a color
other than white.  A record is an element with the name of its cell, the code of
its color and its text.  A document is read as a whole: either all its records
are found to be in order, or the first fault is reported and no record is
returned.
-/

/-- What is saved of one cell. -/
structure Record (size : Size) where
  position : Position size
  color : Color
  text : String
deriving DecidableEq

variable {size : Size}

/-- The records of a grid, row by row. -/
def recordsOf (grid : Grid size) : List (Record size) :=
  size.positions.filterMap fun position =>
    let cell := grid.get position
    if cell.text = "" ∧ cell.color = Color.white then none
    else some ⟨position, cell.color, cell.text⟩

/-! ## Writing -/

/-- The content of an element that holds nothing but a text. -/
def textContent (text : String) : List Markup.Node :=
  if text = "" then [] else [.text text]

def Record.toNode (record : Record size) : Markup.Node :=
  .element "cell" [("name", record.position.name)] [
    .element "bgcolor" [] (textContent (writeColor record.color)),
    .element "text" [] (textContent record.text)]

/-- The tree in which a grid is saved. -/
def toNode (grid : Grid size) : Markup.Node :=
  .element "spreadsheet" [] ((recordsOf grid).map Record.toNode)

/-! ## Reading -/

/-- Read the color of a cell with the given name. -/
def readColor (name raw : String) : Except Fault Color :=
  match readCode? raw with
  | none => .error (.invalidColor raw name)
  | some code =>
      match Color.ofInt? code with
      | none => .error (.colorOutOfRange name)
      | some color => .ok color

/-- The color of a record: the first that it holds, or white. -/
def colorOfNode (name : String) (node : Markup.Node) : Except Fault Color :=
  match node.children "bgcolor" with
  | [] => .ok Color.white
  | first :: _ => readColor name first.leadingText

/-- The text of a record: the first that it holds, or the empty one. -/
def textOfNode (node : Markup.Node) : String :=
  match node.children "text" with
  | [] => ""
  | first :: _ => first.leadingText

/-- Read one record. -/
def Record.ofNode (size : Size) (node : Markup.Node) : Except Fault (Record size) := do
  let name := (node.attribute? "name").getD ""
  if name = "" then .error .unnamedCell
  else
    match size.locate name with
    | .error fault => .error (.key fault)
    | .ok position => return ⟨position, ← colorOfNode name node, textOfNode node⟩

/-- Read the records of a tree. -/
def ofNode (size : Size) (root : Markup.Node) : Except Fault (List (Record size)) :=
  if root.tag = "spreadsheet" then (root.children "cell").mapM (Record.ofNode size)
  else .error (.wrongRoot root.tag)

/-- Read the records of a document, if it could be read at all. -/
def ofDocument (size : Size) : Option Markup.Node → Except Fault (List (Record size))
  | none => .error .malformed
  | some root => ofNode size root

end Archive
end Worksheet
