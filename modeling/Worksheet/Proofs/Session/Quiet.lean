import Worksheet.Proofs.Recalculation.Settled
import Worksheet.Proofs.Session.Steps

namespace Worksheet

/-!
# Sessions that nobody follows

While no script is subscribed an announcement is only written down, and while no
name is guarded a formula is evaluated by its own merits.  The steps that change
cells are then plain functions of the session.  They are given here, with the
laws that running the steps amounts to them; the grid that such a step leaves is
the one of the theory of recalculation.

The log and the journal are kept exactly, so that these functions also determine
the report of an edit and the changes that were announced.
-/

variable {size : Size}

namespace Session

/-- No script is subscribed and no name is guarded. -/
structure IsQuiet (session : Session size) : Prop where
  unheard : session.subscribers = []
  unguarded : session.sheet.guarded = []

/-- Write a change down. -/
def noted (session : Session size) (position : Position size) (property : Property) :
    Session size :=
  { session with
    journal := ⟨position, (session.sheet.grid.get position).content property⟩ :: session.journal }

def withGrid (session : Session size) (grid : Grid size) : Session size :=
  { session with sheet := { session.sheet with grid := grid } }

def withLog (session : Session size) (log : Option (ChangeLog size)) : Session size :=
  { session with sheet := { session.sheet with log := log } }

/-- Keep the report of an edit. -/
def withReport (session : Session size) (report : Recalculation size) : Session size :=
  { session with sheet :=
      { session.sheet with report := some report, reports := session.sheet.reports + 1 } }

/-- Store a value and write it down, unless the cell already has it. -/
def stored (session : Session size) (position : Position size) (value : String) : Session size :=
  if value = (session.sheet.grid.get position).value then session
  else (session.withGrid (session.sheet.grid.setValue position value)).noted position .value

/-- Note that a cell is recomputed, with its value in the log, if there is one. -/
def touched (session : Session size) (position : Position size) : Session size :=
  { session.withLog
      (session.sheet.log.map (·.touch position (session.sheet.grid.get position).value)) with
    ledger := position :: session.ledger }

/-- Recompute one cell. -/
def updated (session : Session size) (position : Position size) : Session size :=
  (session.touched position).stored position (session.sheet.grid.due position)

/-- Recompute the cells of a list in its order. -/
def updatedEach (session : Session size) (positions : List (Position size)) : Session size :=
  positions.foldl updated session

/-- Recompute a cell and its dependents under a fresh log. -/
def logged (session : Session size) (start : Position size) : Session size :=
  (session.withLog (some [])).updatedEach (start :: session.sheet.grid.swept start)

/-- Recalculate from a cell. -/
def recalculated (session : Session size) (start : Position size) : Session size :=
  (session.logged start).withLog
    (session.sheet.log.map (·.merge ((session.logged start).sheet.log.getD [])))

/-- The report of a recalculation from a cell. -/
def report (session : Session size) (start : Position size) : Recalculation size :=
  ⟨start,
    Engine.deltas (session.logged start).sheet.grid ((session.logged start).sheet.log.getD []),
    (session.sheet.grid.swept start).length⟩

/-- Give a cell a text and write it down. -/
def retexted (session : Session size) (position : Position size) (text : String) : Session size :=
  (session.withGrid (session.sheet.grid.setText position text)).noted position .text

/-- Give a cell another text and recalculate. -/
def rewritten (session : Session size) (position : Position size) (text : String) : Session size :=
  ((session.retexted position text).recalculated position).withReport
    ((session.retexted position text).report position)

/-- Assign a text to a cell. -/
def assigned (session : Session size) (position : Position size) (text : String) : Session size :=
  if text = (session.sheet.grid.get position).text then session
  else session.rewritten position text

/-- Assign a color to a cell. -/
def colored (session : Session size) (position : Position size) (color : Color) : Session size :=
  if color = (session.sheet.grid.get position).color then session
  else (session.withGrid (session.sheet.grid.setColor position color)).noted position .color

end Session

/-! ## Sessions stay quiet -/

namespace Session.IsQuiet

variable {session : Session size}

theorem noted (quiet : session.IsQuiet) (position : Position size) (property : Property) :
    (session.noted position property).IsQuiet :=
  ⟨quiet.unheard, quiet.unguarded⟩

theorem withGrid (quiet : session.IsQuiet) (grid : Grid size) : (session.withGrid grid).IsQuiet :=
  ⟨quiet.unheard, quiet.unguarded⟩

theorem withLog (quiet : session.IsQuiet) (log : Option (ChangeLog size)) :
    (session.withLog log).IsQuiet :=
  ⟨quiet.unheard, quiet.unguarded⟩

theorem withReport (quiet : session.IsQuiet) (report : Recalculation size) :
    (session.withReport report).IsQuiet :=
  ⟨quiet.unheard, quiet.unguarded⟩

theorem stored (quiet : session.IsQuiet) (position : Position size) (value : String) :
    (session.stored position value).IsQuiet := by
  unfold Session.stored
  split
  · exact quiet
  · exact (quiet.withGrid _).noted position .value

theorem touched (quiet : session.IsQuiet) (position : Position size) :
    (session.touched position).IsQuiet :=
  ⟨quiet.unheard, quiet.unguarded⟩

theorem updated (quiet : session.IsQuiet) (position : Position size) :
    (session.updated position).IsQuiet :=
  (quiet.touched position).stored position _

theorem updatedEach (quiet : session.IsQuiet) (positions : List (Position size)) :
    (session.updatedEach positions).IsQuiet := by
  induction positions generalizing session with
  | nil => exact quiet
  | cons first later hypothesis => exact hypothesis (quiet.updated first)

theorem recalculated (quiet : session.IsQuiet) (start : Position size) :
    (session.recalculated start).IsQuiet := by
  have logged : (session.logged start).IsQuiet := (quiet.withLog _).updatedEach _
  exact logged.withLog _

theorem assigned (quiet : session.IsQuiet) (position : Position size) (text : String) :
    (session.assigned position text).IsQuiet := by
  unfold Session.assigned
  split
  · exact quiet
  · have retexted : (session.retexted position text).IsQuiet :=
      (quiet.withGrid _).noted position .text
    exact (retexted.recalculated position).withReport _

theorem colored (quiet : session.IsQuiet) (position : Position size) (color : Color) :
    (session.colored position color).IsQuiet := by
  unfold Session.colored
  split
  · exact quiet
  · exact (quiet.withGrid _).noted position .color

end Session.IsQuiet

namespace Session

/-! ## The grids that are left -/

theorem grid_stored (session : Session size) (position : Position size) (value : String) :
    (session.stored position value).sheet.grid = session.sheet.grid.setValue position value := by
  unfold stored
  split
  · next same => rw [Grid.setValue_eq_self _ _ same.symm]
  · rfl

theorem grid_updated (session : Session size) (position : Position size) :
    (session.updated position).sheet.grid = session.sheet.grid.recompute position :=
  grid_stored _ position _

theorem grid_updatedEach (session : Session size) (positions : List (Position size)) :
    (session.updatedEach positions).sheet.grid = session.sheet.grid.recomputeEach positions := by
  induction positions generalizing session with
  | nil => rfl
  | cons first later hypothesis =>
    rw [Grid.recomputeEach_cons, ← grid_updated]
    exact hypothesis (session.updated first)

theorem grid_logged (session : Session size) (start : Position size) :
    (session.logged start).sheet.grid = session.sheet.grid.recalculated start :=
  grid_updatedEach _ _

theorem grid_recalculated (session : Session size) (start : Position size) :
    (session.recalculated start).sheet.grid = session.sheet.grid.recalculated start :=
  session.grid_logged start

theorem grid_rewritten (session : Session size) (position : Position size) (text : String) :
    (session.rewritten position text).sheet.grid =
      (session.sheet.grid.setText position text).recalculated position := by
  rw [rewritten, withReport, grid_recalculated]
  rfl

theorem updatedEach_append (session : Session size) (earlier later : List (Position size)) :
    session.updatedEach (earlier ++ later) = (session.updatedEach earlier).updatedEach later :=
  List.foldl_append

end Session

/-! ## Running the steps -/

namespace Engine

variable {session : Session size}

/-- Nobody hears an announcement. -/
theorem runFrom_announce (unheard : session.subscribers = []) (reactions : Nat)
    (position : Position size) (property : Property) :
    (announce reactions position property).runFrom session =
      (.ok (), session.noted position property) := by
  have recorded : (record position property).runFrom session =
      (.ok (), session.noted position property) := rfl
  cases reactions with
  | zero => exact recorded
  | succ reactions =>
    rw [announce, runFrom_bind_of_ok _ recorded, runFrom_bind_of_ok _ (runFrom_get _),
      Session.noted, unheard]
    rfl

/-- The guard of an evaluation is lifted when it ends. -/
theorem runFrom_evaluateFormula (unguarded : session.sheet.guarded = [])
    (position : Position size) :
    (evaluateFormula position).runFrom session =
      (.ok (session.sheet.grid.outcome position), session) := by
  unfold evaluateFormula Grid.outcome
  simp only [runFrom_bind, runFrom_cellAt, runFrom_sheet, unguarded, List.not_mem_nil, if_false]
  split
  · rfl
  · simp only [runFrom_bind, runFrom_modifySheet, runFrom_grid, runFrom_pure, List.erase_cons_head]

/-- An evaluation has some outcome and leaves everything as it was, also if the name
of the cell is guarded. -/
theorem exists_runFrom_evaluateFormula (session : Session size) (position : Position size) :
    ∃ outcome, (evaluateFormula position).runFrom session = (.ok outcome, session) := by
  unfold evaluateFormula
  rw [runFrom_bind_of_ok _ (runFrom_cellAt _ position), runFrom_bind_of_ok _ (runFrom_sheet _)]
  dsimp only
  split
  · exact ⟨_, rfl⟩
  · split
    · exact ⟨_, rfl⟩
    · refine ⟨session.sheet.grid.evaluateCell position, ?_⟩
      simp only [runFrom_bind, runFrom_modifySheet, runFrom_grid, runFrom_pure,
        List.erase_cons_head]

theorem runFrom_storeValue (unheard : session.subscribers = []) (reactions : Nat)
    (position : Position size) (value : String) :
    (storeValue (announce reactions) position value).runFrom session =
      (.ok (), session.stored position value) := by
  unfold storeValue Session.stored
  rw [runFrom_bind_of_ok _ (runFrom_cellAt _ position)]
  split
  · rfl
  · have written : (modifyGrid fun grid => grid.setValue position value).runFrom session =
        (.ok (), session.withGrid (session.sheet.grid.setValue position value)) := rfl
    have unheardStill : (session.withGrid (session.sheet.grid.setValue position value)).subscribers =
        [] := unheard
    rw [runFrom_bind_of_ok _ written]
    exact runFrom_announce unheardStill reactions position .value

/-- The end of an update, whichever value has been computed. -/
theorem runFrom_touch_storeValue (unheard : session.subscribers = []) (reactions : Nat)
    (position : Position size) (value : String) :
    (do
      touch position (session.sheet.grid.get position).value
      storeValue (announce reactions) position value
      pure value : Engine size String).runFrom session =
        (.ok value, (session.touched position).stored position value) := by
  have touched : (touch position (session.sheet.grid.get position).value).runFrom session =
      (.ok (), session.touched position) := rfl
  have unheardStill : (session.touched position).subscribers = [] := unheard
  rw [runFrom_bind_of_ok _ touched]
  exact runFrom_bind_of_ok _ (runFrom_storeValue unheardStill reactions position value)

theorem runFrom_updateValue (quiet : session.IsQuiet) (reactions : Nat)
    (position : Position size) :
    (updateValue (announce reactions) position).runFrom session =
      (.ok (session.sheet.grid.due position), session.updated position) := by
  have finish := runFrom_touch_storeValue quiet.unheard reactions position
  unfold updateValue Session.updated Grid.due
  rw [runFrom_bind_of_ok _ (runFrom_cellAt _ position)]
  split
  · have evaluated : (Formula.Outcome.display <$> evaluateFormula position).runFrom session =
        (.ok (session.sheet.grid.outcome position).display, session) := by
      rw [runFrom_map, runFrom_evaluateFormula quiet.unguarded]
    exact (runFrom_bind_of_ok _ evaluated).trans (finish _)
  · exact finish _

/-- Recomputing cells one after the other. -/
theorem runFrom_forM_updateValue (quiet : session.IsQuiet) (reactions : Nat)
    (positions : List (Position size)) :
    (positions.forM fun position => do
      let _ ← updateValue (announce reactions) position : Engine size PUnit).runFrom session =
      (.ok ⟨⟩, session.updatedEach positions) := by
  induction positions generalizing session with
  | nil => rfl
  | cons first later hypothesis =>
    have head : (do let _ ← updateValue (announce reactions) first : Engine size PUnit).runFrom
        session = (.ok ⟨⟩, session.updated first) :=
      runFrom_bind_of_ok _ (runFrom_updateValue quiet reactions first)
    exact (runFrom_bind_of_ok _ head).trans (hypothesis (quiet.updated first))

/-- The texts stay as they are during a sweep, so it keeps to the schedule it had
at its beginning. -/
theorem runFrom_sweep (quiet : session.IsQuiet) (reactions steps : Nat)
    (queue entered recomputed : List (Position size)) :
    (sweep (announce reactions) steps queue entered recomputed).runFrom session =
      (.ok (recomputed ++
          (Grid.schedule session.sheet.grid.dependents steps queue entered).flatMap
            session.sheet.grid.dependents),
        session.updatedEach
          ((Grid.schedule session.sheet.grid.dependents steps queue entered).flatMap
            session.sheet.grid.dependents)) := by
  induction steps generalizing session queue entered recomputed with
  | zero => rw [sweep, Grid.schedule, List.flatMap_nil, List.append_nil]; rfl
  | succ steps hypothesis =>
    cases queue with
    | nil => rw [sweep, Grid.schedule, List.flatMap_nil, List.append_nil]; rfl
    | cons position queue =>
      have texts : ∀ cell,
          ((session.updatedEach (session.sheet.grid.dependents position)).sheet.grid.get cell).text =
            (session.sheet.grid.get cell).text := by
        intro cell
        rw [Session.grid_updatedEach, Grid.text_recomputeEach]
      rw [sweep, runFrom_bind_of_ok _ (runFrom_grid _),
        runFrom_bind_of_ok _ (runFrom_forM_updateValue quiet reactions _),
        hypothesis (quiet.updatedEach _), Grid.dependents_congr texts,
        Grid.schedule, List.flatMap_cons, Session.updatedEach_append, List.append_assoc]

theorem runFrom_updateDependents (quiet : session.IsQuiet) (reactions : Nat)
    (start : Position size) :
    (updateDependents (announce reactions) start).runFrom session =
      (.ok (session.sheet.grid.swept start),
        session.updatedEach (session.sheet.grid.swept start)) :=
  runFrom_sweep quiet reactions _ [start] [] []

theorem runFrom_recalculate (quiet : session.IsQuiet) (reactions : Nat) (start : Position size) :
    (recalculate (announce reactions) start).runFrom session =
      (.ok (session.report start), session.recalculated start) := by
  have fresh : (modifySheet fun sheet => { sheet with log := some [] }).runFrom session =
      (.ok (), session.withLog (some [])) := rfl
  have texts : ∀ cell, (((session.withLog (some [])).updated start).sheet.grid.get cell).text =
      (session.sheet.grid.get cell).text := by
    intro cell
    rw [Session.grid_updated, Grid.text_recompute]
    rfl
  have swept : ((session.withLog (some [])).updated start).sheet.grid.swept start =
      session.sheet.grid.swept start := by
    rw [Grid.swept, Grid.swept, Grid.turns, Grid.turns, Grid.dependents_congr texts]
  have body : (do
      let _ ← updateValue (announce reactions) start
      let recomputed ← updateDependents (announce reactions) start
      pure (recomputed, ((← sheet).log).getD []) : Engine size _).runFrom
        (session.withLog (some [])) =
      (.ok (session.sheet.grid.swept start, (session.logged start).sheet.log.getD []),
        session.logged start) := by
    rw [runFrom_bind_of_ok _ (runFrom_updateValue (quiet.withLog _) reactions start),
      runFrom_bind_of_ok _ (runFrom_updateDependents ((quiet.withLog _).updated start) reactions
        start), swept]
    rfl
  have restored : (modifySheet fun other => { other with log := session.sheet.log }).runFrom
      (session.logged start) = (.ok (), (session.logged start).withLog session.sheet.log) := rfl
  rw [recalculate, runFrom_bind_of_ok _ (runFrom_sheet _), runFrom_bind_of_ok _ fresh,
    runFrom_bind_of_ok _ (runFrom_withCleanUp_of_ok _ body restored)]
  rfl

theorem runFrom_assignText (quiet : session.IsQuiet) (reactions : Nat) (position : Position size)
    (text : String) :
    (assignText (announce reactions) position text).runFrom session =
      (.ok (), session.assigned position text) := by
  unfold assignText Session.assigned
  rw [runFrom_bind_of_ok _ (runFrom_cellAt _ position)]
  split
  · rfl
  · have written : (modifyGrid fun grid => grid.setText position text).runFrom session =
        (.ok (), session.withGrid (session.sheet.grid.setText position text)) := rfl
    have retexted : (session.retexted position text).IsQuiet :=
      (quiet.withGrid _).noted position .text
    rw [runFrom_bind_of_ok _ written,
      runFrom_bind_of_ok _ (runFrom_announce (quiet.withGrid _).unheard reactions position .text)]
    exact runFrom_bind_of_ok _ (runFrom_recalculate retexted reactions position)

theorem runFrom_assignColor (quiet : session.IsQuiet) (reactions : Nat) (position : Position size)
    (color : Color) :
    (assignColor (announce reactions) position color).runFrom session =
      (.ok (), session.colored position color) := by
  unfold assignColor Session.colored
  rw [runFrom_bind_of_ok _ (runFrom_cellAt _ position)]
  split
  · rfl
  · have written : (modifyGrid fun grid => grid.setColor position color).runFrom session =
        (.ok (), session.withGrid (session.sheet.grid.setColor position color)) := rfl
    rw [runFrom_bind_of_ok _ written]
    exact runFrom_announce (quiet.withGrid _).unheard reactions position .color

end Engine
end Worksheet
