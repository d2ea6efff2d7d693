import Worksheet.Grid.Evaluation
import Worksheet.Session.State

namespace Worksheet
namespace Engine

/-!
# Recalculation

After a text has changed, the cell itself and then, outward from it, every cell
that depends on a cell recomputed before is recomputed.  A dependent is
recomputed each time one of the cells it reads is taken from the queue, but it
enters the queue at most once.

Every announcement may run further operations, so a recalculation can begin
while another is under way.  Each keeps a log of its own; what an inner one has
touched is noted in the outer log when it ends.
-/

variable {size : Size}

/-- The outcome of the formula of a cell.  The cell is guarded while its
references are followed. -/
def evaluateFormula (position : Position size) : Engine size Formula.Outcome := do
  let cell ← cellAt position
  let guarded := (← sheet).guarded
  if Reference.mentions cell.body position.name then
    pure (.failed .selfReference "")
  else if position.name ∈ guarded then
    pure (.failed .circularReference "")
  else
    modifySheet fun sheet => { sheet with guarded := position.name :: sheet.guarded }
    let outcome := (← grid).evaluateCell position
    modifySheet fun sheet => { sheet with guarded := sheet.guarded.erase position.name }
    pure outcome

/-- Store a value and announce it, unless the cell already has it. -/
def storeValue (announce : Announcement size) (position : Position size) (value : String) :
    Engine size Unit := do
  if value = (← cellAt position).value then
    pure ()
  else
    modifyGrid fun grid => grid.setValue position value
    announce position .value

/-- Recompute the value of one cell from its text. -/
def updateValue (announce : Announcement size) (position : Position size) :
    Engine size String := do
  let cell ← cellAt position
  let value ← if cell.isFormula then Formula.Outcome.display <$> evaluateFormula position
    else pure cell.text
  touch position cell.value
  storeValue announce position value
  pure value

/-- Recompute the dependents of the queued cells and of those that enter the
queue.  The result lists the recomputed cells, each as often as it was
recomputed.  Besides the first cell no cell is taken from the queue twice, so
the number of steps is bounded by the number of cells. -/
def sweep (announce : Announcement size) : (steps : Nat) →
    (queue entered recomputed : List (Position size)) → Engine size (List (Position size))
  | 0, _, _, recomputed => pure recomputed
  | _ + 1, [], _, recomputed => pure recomputed
  | steps + 1, position :: queue, entered, recomputed => do
      let dependents := (← grid).dependents position
      dependents.forM fun dependent => do
        let _ ← updateValue announce dependent
      let fresh := dependents.filter fun dependent => !entered.contains dependent
      sweep announce steps (queue ++ fresh) (entered ++ fresh) (recomputed ++ dependents)

/-- Recompute everything that depends on a cell, directly or through others. -/
def updateDependents (announce : Announcement size) (position : Position size) :
    Engine size (List (Position size)) :=
  sweep announce (size.cellCount + 1) [position] [] []

/-- The changes that a log amounts to in a grid. -/
def deltas (grid : Grid size) (log : ChangeLog size) : List (Delta size) :=
  log.filterMap fun (position, former) =>
    let cell := grid.get position
    if former = cell.value then none else some ⟨position, former, cell.value, cell.text⟩

/-- Recompute a cell and all its dependents under a log of their own. -/
def recalculate (announce : Announcement size) (position : Position size) :
    Engine size (Recalculation size) := do
  let outer := (← sheet).log
  modifySheet fun sheet => { sheet with log := some [] }
  let restore : Engine size Unit := modifySheet fun sheet => { sheet with log := outer }
  let (recomputed, inner) ← withCleanUp (do
    let _ ← updateValue announce position
    let recomputed ← updateDependents announce position
    pure (recomputed, ((← sheet).log).getD [])) restore
  modifySheet fun sheet => { sheet with log := sheet.log.map (·.merge inner) }
  pure ⟨position, deltas (← grid) inner, recomputed.length⟩

end Engine
end Worksheet
