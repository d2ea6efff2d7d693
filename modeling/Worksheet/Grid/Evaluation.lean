import Worksheet.Formula.Outcome
import Worksheet.Formula.Reading
import Worksheet.Grid.Loop
import Worksheet.Number.Reading

namespace Worksheet
namespace Grid

open Formula

/-!
# Evaluating a formula in a grid

A formula is read, its tokens are bound to the numbers that the named cells
show, and the expression is evaluated.  A formula that cannot be read is
reported before a token that names no cell.
-/

variable {size : Size} (grid : Grid size)

/-- The number that the value of a cell stands for. -/
def numberAt (position : Position size) : Float :=
  Number.ofValue (grid.get position).value

/-- Bind tokens to numbers, or find the first one that names no cell. -/
def bind : List String → Except String Bindings
  | [] => .ok []
  | token :: later =>
      match size.resolve? token with
      | none => .error token
      | some position => (bind later).map ((token, grid.numberAt position) :: ·)

/-- The outcome of a formula text that is known to be free of loops. -/
def evaluateBody (body : String) : Outcome :=
  match Formula.read body with
  | .error fault => .failed .evaluation fault.message
  | .ok expression =>
      match grid.bind (Reference.tokens body) with
      | .error token => .failed .invalidReference token
      | .ok bindings => .number (expression.evaluate bindings)

/-- The outcome of a cell that does not name itself and is not being evaluated
already. -/
def evaluateCell (position : Position size) : Outcome :=
  if grid.leadsIntoLoop position then .failed .circularReference ""
  else grid.evaluateBody (grid.get position).body

end Grid
end Worksheet
