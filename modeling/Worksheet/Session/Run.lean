import Worksheet.Session.Restoring
import Worksheet.Session.Script

namespace Worksheet

/-!
# Running a session

Performing an operation needs to know what an announcement does, and an
announcement lets scripts perform operations.  The circle is broken by the
number of reactions that are still possible: a script reacts by using up a use of
a rule, so announcements are nested no deeper than the uses that remain.

Each operation yields a step: its answer or the fault that ended it, the changes
that were announced, the cells that differ from the step before, and the report
of the last edit that was recalculated.
-/

variable {size : Size}

/-- What an operation answers. -/
inductive Answer (size : Size) where
  | nothing
  | flag (flag : Bool)
  | text (text : String)
  | texts (texts : List String)
  | dimensions
  | cell (position : Position size) (cell : Cell)
  | records (records : List (Archive.Record size))
  | defined (description : String)
  | values (values : List (Position size × String))
  | report (report : Recalculation size)
  | outcome (outcome : Formula.Outcome)
  /-- The cells of another sheet by their names. -/
  | cells (cells : List (String × Cell))

/-- The names of some positions. -/
def namesOf (positions : List (Position size)) : Answer size :=
  .texts (positions.map Position.name)

/-- The description of a cell. -/
def Cell.describe (cell : Cell) (name : String) : String :=
  "<Cell " ++ name ++ " text=" ++ Text.quoted cell.text ++ " value=" ++ Text.quoted cell.value ++ ">"

/-- The description of a sheet of a size. -/
def Size.describe (size : Size) : String :=
  "<Spreadsheet " ++ String.ofList (Text.decimalDigits size.rows) ++ "x"
    ++ String.ofList (Text.decimalDigits size.columns) ++ ">"

/-- The cells of a grid that are not blank, row by row, with their names. -/
def Grid.inhabited (grid : Grid size) : List (String × Cell) :=
  size.positions.filterMap fun position =>
    let cell := grid.get position
    if cell = Cell.blank then none else some (position.name, cell)

namespace Engine

/-- The command that is kept under a name. -/
def commandOf (id : String) : Engine size (Command size) := do
  match (← get).commands.lookup id with
  | some command => pure command
  | none => throw (.unknownCommand id)

/-- Keep a command under a name. -/
def keepCommand (id : String) (command : Command size) : Engine size Unit :=
  modify fun session => { session with commands := (id, command) :: session.commands }

/-- Subscribe a script.  A script that is already known is subscribed once more
and keeps its rules. -/
def subscribe (id : String) (rules : List Rule) : Engine size Unit :=
  modify fun session =>
    { session with
      subscribers := session.subscribers ++ [id]
      scripts :=
        if session.scripts.any (·.1 == id) then session.scripts
        else session.scripts ++ [(id, rules.map fun rule => ⟨rule, 0⟩)] }

/-- Take back the earliest subscription of a script. -/
def unsubscribe (id : String) : Engine size Unit := do
  if (← get).subscribers.contains id then
    modify fun session => { session with subscribers := session.subscribers.erase id }
  else throw .notSubscribed

/-- Guard a name against evaluation. -/
def guardName (name : String) : Engine size Unit :=
  modifySheet fun sheet =>
    { sheet with
      guarded := if sheet.guarded.contains name then sheet.guarded else name :: sheet.guarded }

/-- Hand the content of the sheet to a fresh one of another size and list what
arrives there. -/
def transfer (rows columns : Int) (passage : Passage) : Engine size (List (String × Cell)) := do
  let other ← lift Fault.size (Size.ofDimensions rows columns)
  let document := passage.document (Archive.toNode (← grid))
  match (restore unheard document).runFrom (Session.fresh other) with
  | (.ok _, session) => pure session.sheet.grid.inhabited
  | (.error fault, _) => throw fault

/-- Perform an operation. -/
def perform (announce : Announcement size) : Operation → Engine size (Answer size)
  | .assignText key entry => do
      enterText announce (← locate key) entry
      return .nothing
  | .assignColor key entry => do
      enterColor announce (← locate key) entry
      return .nothing
  | .cellAt row column => do
      match size.positionOfInts? row column with
      | some position => return .cell position (← cellAt position)
      | none => return .nothing
  | .cell key => do
      let position ← locate key
      return .cell position (← cellAt position)
  | .describeCell key => do
      let position ← locate key
      return .text ((← cellAt position).describe position.name)
  | .describeSheet => return .text size.describe
  | .dimensions => return .dimensions
  | .records => return .records (Archive.recordsOf (← grid))
  | .names => return namesOf size.positions
  | .define id draft => do
      let command ← makeCommand draft
      keepCommand id command
      return .defined command.description
  | .add id => do
      addCommand (← commandOf id)
      return .nothing
  | .execute id => do
      execute announce (← commandOf id)
      return .nothing
  | .revert id => do
      revert announce (← commandOf id)
      return .nothing
  | .edit draft => do
      let command ← makeCommand draft
      addCommand command
      execute announce command
      return .text command.description
  | .undo => do
      undo announce
      return .nothing
  | .redo => do
      redo announce
      return .nothing
  | .clearHistory => do
      clearHistory
      return .nothing
  | .clearAll => do
      clearAll announce
      return .nothing
  | .evaluateAll => return .values (← evaluateAll announce)
  | .subscribe id rules => do
      subscribe id rules
      return .nothing
  | .unsubscribe id => do
      unsubscribe id
      return .nothing
  | .giveUp message => throw (.raised message)
  | .recalculate key => do
      return .report (← recalculate announce (← locate key))
  | .updateValue key => do
      return .text (← updateValue announce (← locate key))
  | .updateDependents key => do
      return namesOf (← updateDependents announce (← locate key))
  | .evaluateFormula key => do
      return .outcome (← evaluateFormula (← locate key))
  | .guard name => do
      guardName name
      return .nothing
  | .guarded => return .texts ((← sheet).guarded.mergeSort (· ≤ ·))
  | .resolve token =>
      match size.resolve? token with
      | some position => return .text position.name
      | none => return .nothing
  | .references key => do
      return .texts (← cellAt (← locate key)).references
  | .dependsOn key source => do
      let reader ← locate key
      let source ← locate source
      return .flag ((← grid).dependsOn reader source)
  | .leadsIntoLoop key => do
      let position ← locate key
      return .flag ((← grid).leadsIntoLoop position)
  | .dependents key => do
      let position ← locate key
      return namesOf ((← grid).dependents position)
  | .formulaCells => return namesOf (← grid).formulaCells
  | .writeText => return .text (Archive.toNode (← grid)).toText
  | .writeBytes => return .text (Archive.toNode (← grid)).toFile
  | .readText document => do
      restore announce (← lift Fault.markup (Markup.Input.text document).read)
      return .nothing
  | .readBytes bytes => do
      restore announce (← lift Fault.markup (Markup.Input.bytes bytes).read)
      return .nothing
  | .transfer rows columns passage => return .cells (← transfer rows columns passage)

/-- Announce a change: write it down, and let the scripts that are subscribed at
this moment follow it one after the other.  The first argument bounds how deep
the reactions are nested; without any left the change is only written down. -/
def announce : (reactions : Nat) → Announcement size
  | 0, position, property => record position property
  | reactions + 1, position, property => do
      record position property
      (← get).subscribers.forM (follow (fun operation => do
        let _ ← perform (announce reactions) operation) position property)

/-- Perform an operation with all reactions that are possible. -/
def run (operation : Operation) : Engine size (Answer size) := do
  perform (announce (← get).reactions) operation

end Engine

/-- What one operation of a session came to. -/
structure Step (size : Size) where
  answer : Except Fault (Answer size)
  /-- The changes that were announced, in their order. -/
  events : List (Event size)
  /-- The cells that differ from the step before, row by row. -/
  changed : List (Position size × Cell)
  history : History size
  /-- The report of the last edit, if one was recalculated to the end. -/
  report : Option (Recalculation size)

namespace Session

/-- Perform one operation and tell what it came to. -/
def step (session : Session size) (operation : Operation) : Step size × Session size :=
  let (answer, after) := (Engine.run operation).runFrom session
  ({ answer
     events := (after.journal.take (after.journal.length - session.journal.length)).reverse
     changed := size.positions.filterMap fun position =>
       let cell := after.sheet.grid.get position
       if cell = session.sheet.grid.get position then none else some (position, cell)
     history := after.sheet.history
     report := if after.sheet.reports = session.sheet.reports then none else after.sheet.report },
   after)

/-- Perform operations one after the other.  A fault ends its operation and not
the session. -/
def steps (session : Session size) : List Operation → List (Step size)
  | [] => []
  | operation :: later =>
      let (step, after) := session.step operation
      step :: after.steps later

end Session
end Worksheet
