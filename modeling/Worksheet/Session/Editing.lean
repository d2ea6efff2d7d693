import Worksheet.Session.Recalculation

namespace Worksheet
namespace Engine

/-!
# Editing

Assigning a text announces it and recalculates; assigning a color only
announces it.  Assigning what a cell already has does nothing.  The history,
clearing the sheet and filling it from records are all made of these two.
-/

variable {size : Size}

/-- Assign a text to a cell. -/
def assignText (announce : Announcement size) (position : Position size) (text : String) :
    Engine size Unit := do
  if text = (← cellAt position).text then
    pure ()
  else
    modifyGrid fun grid => grid.setText position text
    announce position .text
    let report ← recalculate announce position
    modifySheet fun sheet => { sheet with report := some report, reports := sheet.reports + 1 }

/-- Assign a color to a cell. -/
def assignColor (announce : Announcement size) (position : Position size) (color : Color) :
    Engine size Unit := do
  if color = (← cellAt position).color then
    pure ()
  else
    modifyGrid fun grid => grid.setColor position color
    announce position .color

/-- Assign an entry as a text, if it is one. -/
def enterText (announce : Announcement size) (position : Position size) :
    Entry → Engine size Unit
  | .text text => assignText announce position text
  | entry => throw (.notText entry)

/-- Assign an entry as a color, if it is an integer in range. -/
def enterColor (announce : Announcement size) (position : Position size) :
    Entry → Engine size Unit
  | .integer code =>
      match Color.ofInt? code with
      | some color => assignColor announce position color
      | none => throw (.colorOutOfRange code)
  | entry => throw (.notColor entry)

/-- Assign an entry as what a command of the given kind changes. -/
def enter (announce : Announcement size) (kind : EditKind) (position : Position size)
    (entry : Entry) : Engine size Unit :=
  match kind with
  | .text => enterText announce position entry
  | .color => enterColor announce position entry

/-- Do what a command says. -/
def execute (announce : Announcement size) (command : Command size) : Engine size Unit :=
  enter announce command.kind command.position command.latter

/-- Go back to what was before a command. -/
def revert (announce : Announcement size) (command : Command size) : Engine size Unit :=
  enter announce command.kind command.position command.former

def modifyHistory (change : History size → History size) : Engine size Unit :=
  modifySheet fun sheet => { sheet with history := change sheet.history }

/-- Add a command to the history without executing it. -/
def addCommand (command : Command size) : Engine size Unit :=
  modifyHistory fun history => history.add command

/-- Revert the last command.  It leaves the history before it is reverted and
can be redone once that has succeeded. -/
def undo (announce : Announcement size) : Engine size Unit := do
  match (← sheet).history.undoable with
  | [] => pure ()
  | command :: earlier => do
      modifyHistory fun history => { history with undoable := earlier }
      revert announce command
      modifyHistory fun history => { history with redoable := command :: history.redoable }

/-- Execute the command that was undone last.  It leaves the history before it
is executed and can be undone again once that has succeeded. -/
def redo (announce : Announcement size) : Engine size Unit := do
  match (← sheet).history.redoable with
  | [] => pure ()
  | command :: later => do
      modifyHistory fun history => { history with redoable := later }
      execute announce command
      modifyHistory fun history => { history with undoable := command :: history.undoable }

def clearHistory : Engine size Unit :=
  modifyHistory fun _ => .empty

/-- Give every cell an empty text and a white background, row by row. -/
def clearAll (announce : Announcement size) : Engine size Unit :=
  size.positions.forM fun position => do
    assignText announce position ""
    assignColor announce position .white

/-- Recompute the given cells except those that show a loop of references, and
list the new values. -/
def evaluateEach (announce : Announcement size) :
    List (Position size) → Engine size (List (Position size × String))
  | [] => pure []
  | position :: later => do
      if (← cellAt position).value = Formula.Mishap.circularReference.title then
        evaluateEach announce later
      else
        let value ← updateValue announce position
        return (position, value) :: (← evaluateEach announce later)

/-- Recompute every cell that is a formula now, row by row.  No name stays
guarded. -/
def evaluateAll (announce : Announcement size) : Engine size (List (Position size × String)) := do
  modifySheet fun sheet => { sheet with guarded := [] }
  evaluateEach announce (← grid).formulaCells

/-- Make a command from a draft. -/
def makeCommand (draft : Draft) : Engine size (Command size) := do
  match draft.cell with
  | none => throw .cellRequired
  | some key => do
      let position ← locate key
      let cell ← cellAt position
      let current := match draft.kind with
        | .text => Entry.text cell.text
        | .color => Entry.ofColor cell.color
      pure ⟨draft.kind, position, draft.former.getD current, draft.latter⟩

end Engine
end Worksheet
