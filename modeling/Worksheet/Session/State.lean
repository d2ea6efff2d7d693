import Worksheet.Session.Fault
import Worksheet.Session.Operation

namespace Worksheet

/-!
# The state of a session

A sheet is a grid with its history, the names guarded against evaluation, the
log of the recalculation that is under way, and the report of the last complete
one.  A session adds the scripts that follow the sheet, the commands kept under
a name, a journal of every announced change, and a ledger of every recomputation.
The journal is written before any script learns of the change.  The ledger only
serves to say in which order cells are recomputed; no step reads it.
-/

variable {size : Size}

/-- A reversible edit: the entry before it and the entry after it. -/
structure Command (size : Size) where
  kind : EditKind
  position : Position size
  former : Entry
  latter : Entry
deriving DecidableEq

/-- The name under which a command is offered for undoing. -/
def Command.description (command : Command size) : String :=
  match command.kind with
  | .text => "Change cell " ++ command.position.name ++ " value"
  | .color => "Change cell " ++ command.position.name ++ " color"

/-- The commands that can be undone and those that can be done again, in both
cases the next one first. -/
structure History (size : Size) where
  undoable : List (Command size)
  redoable : List (Command size)
deriving DecidableEq

namespace History

def empty : History size := ⟨[], []⟩

/-- A new command makes it impossible to redo what was undone before. -/
def add (history : History size) (command : Command size) : History size :=
  ⟨command :: history.undoable, []⟩

/-- The name of the next command to undo, or nothing. -/
def undoDescription (history : History size) : String :=
  (history.undoable.head?.map Command.description).getD ""

/-- The name of the next command to redo, or nothing. -/
def redoDescription (history : History size) : String :=
  (history.redoable.head?.map Command.description).getD ""

end History

/-- The cells that a recalculation has touched, in the order of the first
touch, with the values they had before it. -/
abbrev ChangeLog (size : Size) := List (Position size × String)

namespace ChangeLog

/-- Note the value of a cell, unless the cell was touched before. -/
def touch (log : ChangeLog size) (position : Position size) (value : String) :
    ChangeLog size :=
  if log.any (·.1 == position) then log else log ++ [(position, value)]

/-- Note everything that an inner recalculation has touched. -/
def merge (outer inner : ChangeLog size) : ChangeLog size :=
  inner.foldl (fun log entry => log.touch entry.1 entry.2) outer

end ChangeLog

/-- The change of the value of one cell, with the text behind the new value. -/
structure Delta (size : Size) where
  position : Position size
  former : String
  latter : String
  text : String
deriving DecidableEq

/-- The report of a recalculation: where it began, which values it changed, and
how many times a dependent was recomputed. -/
structure Recalculation (size : Size) where
  position : Position size
  deltas : List (Delta size)
  recomputed : Nat
deriving DecidableEq

structure Sheet (size : Size) where
  grid : Grid size
  history : History size
  /-- The names of the cells that are being evaluated, each once. -/
  guarded : List String
  /-- The log of the innermost recalculation that is under way. -/
  log : Option (ChangeLog size)
  /-- The report of the last edit that was recalculated to the end. -/
  report : Option (Recalculation size)
  /-- The number of such edits. -/
  reports : Nat

/-- What a property of a cell holds. -/
inductive Content where
  | text (text : String)
  | value (value : String)
  | color (color : Color)
deriving DecidableEq

def Content.property : Content → Property
  | text _ => .text
  | value _ => .value
  | color _ => .color

/-- The content of one property of a cell. -/
def Cell.content (cell : Cell) : Property → Content
  | .text => .text cell.text
  | .value => .value cell.value
  | .color => .color cell.color

/-- An announced change: the cell and what the changed property held when the
change was announced. -/
structure Event (size : Size) where
  position : Position size
  content : Content
deriving DecidableEq

/-- A rule with the number of its uses so far. -/
structure ActiveRule where
  rule : Rule
  uses : Nat

/-- The reactions that the rule can still cause. -/
def ActiveRule.reactions (active : ActiveRule) : Nat :=
  active.rule.reactions active.uses

structure Session (size : Size) where
  sheet : Sheet size
  /-- The names of the subscribed scripts in the order of subscription, each as
  often as it was subscribed. -/
  subscribers : List String
  scripts : List (String × List ActiveRule)
  commands : List (String × Command size)
  /-- All announced changes, the latest first. -/
  journal : List (Event size)
  /-- The recomputed cells, the latest first, each as often as it was recomputed. -/
  ledger : List (Position size)

namespace Session

/-- A session on a blank sheet. -/
def fresh (size : Size) : Session size where
  sheet :=
    { grid := Grid.blank size
      history := .empty
      guarded := []
      log := none
      report := none
      reports := 0 }
  subscribers := []
  scripts := []
  commands := []
  journal := []
  ledger := []

/-- The reactions that all scripts together can still cause. -/
def reactions (session : Session size) : Nat :=
  (session.scripts.flatMap Prod.snd).foldr (fun active total => active.reactions + total) 0

end Session

/-- A step of a session, which keeps the state it has reached when it ends with
a fault. -/
abbrev Engine (size : Size) := ExceptT Fault (StateM (Session size))

/-- What is done when a change of a property of a cell is announced. -/
abbrev Announcement (size : Size) := Position size → Property → Engine size Unit

namespace Engine

/-- Run a step from a state. -/
def runFrom {α : Type} (step : Engine size α) (session : Session size) :
    Except Fault α × Session size :=
  StateT.run (ExceptT.run step) session

def sheet : Engine size (Sheet size) :=
  Session.sheet <$> get

def modifySheet (change : Sheet size → Sheet size) : Engine size Unit :=
  modify fun session => { session with sheet := change session.sheet }

def grid : Engine size (Grid size) :=
  Sheet.grid <$> sheet

def modifyGrid (change : Grid size → Grid size) : Engine size Unit :=
  modifySheet fun sheet => { sheet with grid := change sheet.grid }

/-- The cell at a position as it is now. -/
def cellAt (position : Position size) : Engine size Cell :=
  (Grid.get · position) <$> grid

/-- A result that may be a fault of a more special kind. -/
def lift {ε α : Type} (wrap : ε → Fault) : Except ε α → Engine size α
  | .ok result => pure result
  | .error fault => throw (wrap fault)

/-- The position that a key names. -/
def locate (key : String) : Engine size (Position size) :=
  lift Fault.key (size.locate key)

/-- Note a change in the journal. -/
def record (position : Position size) (property : Property) : Engine size Unit :=
  modify fun session =>
    { session with
      journal := ⟨position, (session.sheet.grid.get position).content property⟩ :: session.journal }

/-- Note that a cell is recomputed: in the ledger, and in the log of the
recalculation that is under way with the value that the cell has so far. -/
def touch (position : Position size) (value : String) : Engine size Unit :=
  modify fun session =>
    { session with
      sheet := { session.sheet with log := session.sheet.log.map (·.touch position value) }
      ledger := position :: session.ledger }

/-- Run a step and clean up behind it, whether it ends with a fault or not. -/
def withCleanUp {α : Type} (body : Engine size α) (cleanUp : Engine size Unit) : Engine size α := do
  let result ← tryCatch body fun fault => do
    cleanUp
    throw fault
  cleanUp
  pure result

end Engine
end Worksheet
