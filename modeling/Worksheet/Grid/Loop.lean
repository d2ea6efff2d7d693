import Worksheet.Grid.Dependency

namespace Worksheet
namespace Grid

/-!
# Reference loops

A cell leads into a loop when a chain of references from it comes back to a
cell it has passed.  The search goes depth first.  It keeps the cells on the
current branch, which close a loop when they are met again, and the cells whose
references have all been followed, which are not followed twice.  So two
branches that meet in one cell are no loop.
-/

variable {size : Size} (grid : Grid size)

/-- Follow the references of a cell.  The result is the list of finished cells,
or nothing when a loop was met.  A branch holds no cell twice, so a depth
greater than the number of cells is never used up without a loop. -/
def visit : (depth : Nat) → (branch finished : List (Position size)) → Position size →
    Option (List (Position size))
  | 0, _, _, _ => none
  | depth + 1, branch, finished, position =>
      ((grid.sources position).foldlM (fun finished source =>
        if source ∈ finished then some finished
        else if source ∈ position :: branch then none
        else visit depth (position :: branch) finished source) finished).map (position :: ·)

/-- Whether the references of a cell lead into a loop. -/
def leadsIntoLoop (position : Position size) : Bool :=
  (grid.visit (size.cellCount + 1) [] [] position).isNone

end Grid
end Worksheet
