import Worksheet.Proofs.Recalculation.Restored
import Worksheet.Proofs.Session.Loading
import Worksheet.Proofs.Session.Status

namespace Worksheet

/-!
# Values after a reload

Values are not saved.  A load enters the records row by row, each entry
recalculates what depends on it at that time, and in the end all formulas are
recomputed once more, again row by row.  The sheet is sound before this last
pass, whichever values the sweeps have left behind, so the pass gives the restored
cells the values that they have in a settled sheet of the same texts.

The other cells may be left with a number that is out of date.  One pass does not
suffice for a chain of references that point forward if the sweeps have missed
its end.
-/

variable {size : Size}

/-! ## The last pass -/

namespace Grid

variable {grid : Grid size} {position : Position size}

/-- What a pass skips is settled. -/
theorem IsSound.isSettled_of_circularReference (sound : grid.IsSound) (plain : grid.IsPlain)
    (shown : (grid.get position).value = Formula.Mishap.circularReference.title) :
    grid.IsSettled position := by
  have status := sound.status position (plain.isPlainFrom position)
  apply status.isSettled
  intro formula noMishap
  have title : (grid.get position).value =
      (Formula.Outcome.failed .circularReference "").display := shown
  obtain ⟨_, dictated, _⟩ := status.mishap?_of_value_eq formula title
  rw [noMishap] at dictated
  cases dictated

/-- Recompute the given cells except those that show a loop of references. -/
def evaluatedEach (grid : Grid size) : List (Position size) → Grid size
  | [] => grid
  | position :: later =>
      if (grid.get position).value = Formula.Mishap.circularReference.title then
        grid.evaluatedEach later
      else (grid.recompute position).evaluatedEach later

/-- Cells in a loop are skipped, but they would not change either. -/
theorem IsSound.evaluatedEach_eq (sound : grid.IsSound) (plain : grid.IsPlain)
    (positions : List (Position size)) :
    grid.evaluatedEach positions = grid.recomputeEach positions := by
  induction positions generalizing grid with
  | nil => rfl
  | cons first later hypothesis =>
    rw [evaluatedEach, recomputeEach_cons]
    split
    · next shown =>
      rw [recompute_eq_self (sound.isSettled_of_circularReference plain shown)]
      exact hypothesis sound plain
    · exact hypothesis (sound.recompute first) (plain.congr fun _ => (text_recompute _).symm)

/-- The grid is what a pass over its formulas makes of a sound grid with the same
inscriptions as another one. -/
def IsReloadOf (grid source : Grid size) : Prop :=
  ∃ former : Grid size, former.IsSound ∧ former.inscriptions = source.inscriptions ∧
    grid = former.recomputeEach former.formulaCells

/-- In a reload of a settled grid the restored cells have the values they had. -/
theorem IsReloadOf.value_eq {source : Grid size} (reloaded : grid.IsReloadOf source)
    (plain : source.IsPlain) (settled : ∀ position, source.IsSettled position)
    (restored : source.IsRestored position) :
    (grid.get position).value = (source.get position).value := by
  obtain ⟨former, sound, same, rfl⟩ := reloaded
  have texts := text_eq_of_inscriptions_eq same
  have plainBefore : former.IsPlain := plain.congr fun position => (texts position).symm
  have restoredBefore : former.IsRestored position :=
    restored.congr fun position => (texts position).symm
  exact IsRestored.value_eq sound plainBefore texts settled restoredBefore

end Grid

/-- The session is sound and shows the given grid. -/
structure Session.Shows (grid : Grid size) (session : Session size) : Prop where
  sound : session.IsSound
  grid_eq : session.sheet.grid = grid

namespace Engine
namespace Ends

variable {α : Type} {before after kept : Session size → Prop} {grid : Grid size} {reactions : Nat}

/-- A step that ends well also keeps what it keeps however it ends. -/
theorem keeping {step : Engine size α} (ends : Ends before step after) (keeps : Keeps kept step) :
    Ends (fun session => before session ∧ kept session) step
      (fun session => after session ∧ kept session) := by
  rintro session ⟨holds, keptBefore⟩
  obtain ⟨result, later, ran, holdsLater⟩ := ends session holds
  have keptLater := keeps session keptBefore
  rw [ran] at keptLater
  exact ⟨result, later, ran, holdsLater, keptLater⟩

theorem updateValue_showing (position : Position size) :
    Ends (Session.Shows grid) (Engine.updateValue (Engine.announce reactions) position)
      (Session.Shows (grid.recompute position)) := by
  rintro session ⟨sound, rfl⟩
  refine ⟨_, _, runFrom_updateValue sound.quiet reactions position, ?_, ?_⟩
  · refine ⟨sound.quiet.updated position, ?_⟩
    rw [Session.grid_updated]
    exact sound.sound.recompute position
  · exact Session.grid_updated session position

theorem evaluateEach_showing (positions : List (Position size)) :
    Ends (Session.Shows grid) (Engine.evaluateEach (Engine.announce reactions) positions)
      (Session.Shows (grid.evaluatedEach positions)) := by
  induction positions generalizing grid with
  | nil => exact pure _
  | cons position later hypothesis =>
    rintro session ⟨sound, rfl⟩
    rw [Engine.evaluateEach, runFrom_bind_of_ok _ (runFrom_cellAt _ position), Grid.evaluatedEach]
    split
    · exact hypothesis session ⟨sound, rfl⟩
    · exact bind (updateValue_showing position) (fun _ => bind hypothesis fun _ => pure _)
        session ⟨sound, rfl⟩

theorem evaluateAll_showing :
    Ends (Session.Shows grid) (Engine.evaluateAll (Engine.announce reactions) : Engine size _)
      (Session.Shows (grid.evaluatedEach grid.formulaCells)) := by
  rintro session ⟨sound, rfl⟩
  let cleared : Session size := { session with sheet := { session.sheet with guarded := [] } }
  have soundAfter : cleared.IsSound := ⟨⟨sound.quiet.unheard, rfl⟩, sound.sound⟩
  exact evaluateEach_showing session.sheet.grid.formulaCells cleared ⟨soundAfter, rfl⟩

/-- Entering the records of a plain grid makes a sound sheet a reload of it. -/
theorem enterRecords_reloading {source : Grid size} (plain : source.IsPlain) :
    Ends Session.IsSound
      (Engine.enterRecords (Engine.announce reactions) (Archive.recordsOf source))
      fun later => later.sheet.grid.IsReloadOf source := by
  intro session sound
  let entered (inscriptions : Inscriptions size) (history : History size) :=
    fun session : Session size => session.Holds inscriptions history ∧ session.IsSound
  have clearing : Ends (entered session.sheet.grid.inscriptions session.sheet.history)
      (Engine.clearAll (Engine.announce reactions)) (entered (.blank size) session.sheet.history) :=
    keeping clearAll Keeps.clearAll
  have forgetting : Ends (entered (.blank size) session.sheet.history) Engine.clearHistory
      (entered (.blank size) .empty) :=
    keeping (modifyHistory _) (Keeps.modifyHistory _)
  have entering : Ends (entered (.blank size) .empty)
      ((Archive.recordsOf source).forM (Engine.enterRecord (Engine.announce reactions)))
      (entered (Inscriptions.ofRecords (Archive.recordsOf source)) .empty) :=
    keeping (forM (fun inscriptions => Session.Holds inscriptions .empty) _
      (fun _ record _ => enterRecord record) _) (Keeps.forM fun record _ => Keeps.enterRecord record)
  have passing : Ends (entered (Inscriptions.ofRecords (Archive.recordsOf source)) .empty)
      (Engine.evaluateAll (Engine.announce reactions))
      fun later => later.sheet.grid.IsReloadOf source := by
    rintro session ⟨holds, sound⟩
    have same : session.sheet.grid.inscriptions = source.inscriptions :=
      holds.entered.trans (Inscriptions.ofRecords_recordsOf source)
    have plainNow : session.sheet.grid.IsPlain :=
      plain.congr fun position => (Grid.text_eq_of_inscriptions_eq same position).symm
    obtain ⟨results, later, ran, shows⟩ := evaluateAll_showing session ⟨sound, rfl⟩
    have grid := shows.grid_eq.trans (sound.sound.evaluatedEach_eq plainNow _)
    exact ⟨results, later, ran, session.sheet.grid, sound.sound, same, grid⟩
  exact bind clearing (fun _ => bind forgetting fun _ => bind entering fun _ =>
    bind passing fun _ => pure _) session ⟨⟨sound.quiet.unheard, rfl, rfl⟩, sound⟩

end Ends
end Engine

namespace Session

/-- Loading what a plain sheet was saved as, into a sound sheet, reloads it. -/
theorem IsSound.isReloadOf_of_saved {source target : Session size} (sound : target.IsSound)
    (plain : source.sheet.grid.IsPlain)
    (kept : ∀ position, Archive.IsKept (source.sheet.grid.get position).text) :
    ∃ document file, (source.step .writeText).1.answer = .ok (.text document) ∧
      (source.step .writeBytes).1.answer = .ok (.text file) ∧
      ∀ load ∈ [Operation.readText document, .readBytes (Markup.bytesOfText file)],
        (target.step load).1.answer = .ok .nothing ∧
          (target.step load).2.sheet.grid.IsReloadOf source.sheet.grid := by
  obtain ⟨⟨⟩, later, entered, reloaded⟩ := Engine.Ends.enterRecords_reloading plain target sound
  obtain ⟨document, file, written, saved, loaded⟩ := step_of_saved kept entered
  refine ⟨document, file, written, saved, fun load member => ?_⟩
  obtain ⟨answered, same⟩ := loaded load member
  exact ⟨answered, same ▸ reloaded⟩

/-- A settled formula of a sound session shows what it evaluates to. -/
theorem IsSound.exists_outcome_of_isSettled {session : Session size} (sound : session.IsSound)
    {position : Position size} (settled : session.sheet.grid.IsSettled position)
    (formula : (session.sheet.grid.get position).isFormula = true) :
    ∃ outcome, (Engine.evaluateFormula position).runFrom session = (.ok outcome, session) ∧
      (session.sheet.grid.get position).value = outcome.display := by
  refine ⟨_, Engine.runFrom_evaluateFormula sound.quiet.unguarded position, ?_⟩
  rwa [Grid.IsSettled, Grid.due, if_pos formula] at settled

/-- Let a sheet have come from a blank one without scripts and guarded names, and
let all its formulas show what they evaluate to.  Loading what it is saved as into
a blank sheet gives every restored cell the value it had. -/
theorem value_eq_after_load (size : Size) {operations : List Operation} {saved : Session size}
    (reached : (fresh size).after operations = saved)
    (quiet : ∀ operation ∈ operations, operation.staysQuiet = true)
    (plain : saved.sheet.grid.IsPlain)
    (kept : ∀ position, Archive.IsKept (saved.sheet.grid.get position).text)
    (shown : ∀ position, (saved.sheet.grid.get position).isFormula = true →
      ∃ outcome, (Engine.evaluateFormula position).runFrom saved = (.ok outcome, saved) ∧
        (saved.sheet.grid.get position).value = outcome.display) :
    ∃ document file, (saved.step .writeText).1.answer = .ok (.text document) ∧
      (saved.step .writeBytes).1.answer = .ok (.text file) ∧
      ∀ load ∈ [Operation.readText document, .readBytes (Markup.bytesOfText file)],
        ((fresh size).step load).1.answer = .ok .nothing ∧
          ∀ position, saved.sheet.grid.IsRestored position →
            (((fresh size).step load).2.sheet.grid.get position).value =
              (saved.sheet.grid.get position).value := by
  have sound : saved.IsSound := reached ▸ (isSound_fresh size).after quiet
  have settled : ∀ position, saved.sheet.grid.IsSettled position := by
    intro position
    cases formula : (saved.sheet.grid.get position).isFormula with
    | false =>
      apply (sound.sound.status position (plain.isPlainFrom position)).isSettled
      intro isFormula
      rw [formula] at isFormula
      cases isFormula
    | true =>
      obtain ⟨outcome, evaluated, value⟩ := shown position formula
      rw [Engine.runFrom_evaluateFormula sound.quiet.unguarded] at evaluated
      have outcomeEq := Except.ok.inj (Prod.mk.inj evaluated).1
      rw [Grid.IsSettled, value, ← outcomeEq, Grid.due, if_pos formula]
  obtain ⟨document, file, written, filed, loaded⟩ :=
    (isSound_fresh size).isReloadOf_of_saved plain kept
  refine ⟨document, file, written, filed, fun load member => ?_⟩
  obtain ⟨answered, reloaded⟩ := loaded load member
  exact ⟨answered, fun position restored => reloaded.value_eq plain settled restored⟩

/-- The first cell reads the last one, which is a number, and the second reads
both. -/
def forwardInput : List Operation :=
  [.assignText "C1" (.text "4"), .assignText "A1" (.text "=C1+1"),
    .assignText "B1" (.text "=A1*C1")]

theorem value_eq_after_load_of_forwardInput :
    ∃ document file,
      (((fresh .threeCells).after forwardInput).step .writeText).1.answer =
        .ok (.text document) ∧
      (((fresh .threeCells).after forwardInput).step .writeBytes).1.answer = .ok (.text file) ∧
      ∀ load ∈ [Operation.readText document, .readBytes (Markup.bytesOfText file)],
        ((fresh .threeCells).step load).1.answer = .ok .nothing ∧ ∀ position,
          (((fresh .threeCells).step load).2.sheet.grid.get position).value =
            (((fresh .threeCells).after forwardInput).sheet.grid.get position).value := by
  have plain : ((fresh .threeCells).after forwardInput).sheet.grid.IsPlain := by decide +kernel
  have kept : ∀ position ∈ Size.threeCells.positions,
      Archive.IsKept (((fresh .threeCells).after forwardInput).sheet.grid.get position).text := by
    decide +kernel
  have shown : ∀ position ∈ Size.threeCells.positions,
      ((fresh .threeCells).after forwardInput).sheet.grid.IsSettled position := by decide +kernel
  have back : ∀ reader ∈ Size.threeCells.positions,
      ∀ source ∈ ((fresh .threeCells).after forwardInput).sheet.grid.sources reader,
        (((fresh .threeCells).after forwardInput).sheet.grid.get source).isFormula = false ∨
          source.Precedes reader := by decide +kernel
  have quiet : ∀ operation ∈ forwardInput, operation.staysQuiet = true := by decide
  have sound := (isSound_fresh .threeCells).after quiet
  obtain ⟨document, file, written, filed, loaded⟩ := value_eq_after_load .threeCells rfl quiet plain
    (fun position => kept position (Size.mem_positions _ position))
    fun position =>
      sound.exists_outcome_of_isSettled (shown position (Size.mem_positions _ position))
  refine ⟨document, file, written, filed, fun load member => ?_⟩
  obtain ⟨answered, values⟩ := loaded load member
  refine ⟨answered, fun position => values position ?_⟩
  exact Grid.isRestored_of_pointsBack
    (fun reader => back reader (Size.mem_positions _ reader)) position

/-- Every formula stands before the cells that it reads.  When the texts are entered
row by row, the sweep from the last cell has the turn of the third cell before the
turn of the fourth. -/
def forwardChain : List Operation :=
  [.assignText "E1" (.text "1"), .assignText "D1" (.text "=E1"),
    .assignText "C1" (.text "=E1+D1"), .assignText "B1" (.text "=C1"),
    .assignText "A1" (.text "=B1")]

/-- Every formula shows what it evaluates to, but the first cell comes back with
another value. -/
theorem stale_after_load_of_forwardChain :
    (∀ operation ∈ forwardChain, operation.staysQuiet = true) ∧
    ((fresh .fiveCells).after forwardChain).sheet.grid.IsPlain ∧
    (∀ position,
      Archive.IsKept (((fresh .fiveCells).after forwardChain).sheet.grid.get position).text) ∧
    (∀ position,
      (((fresh .fiveCells).after forwardChain).sheet.grid.get position).isFormula = true →
        ∃ outcome, (Engine.evaluateFormula position).runFrom
            ((fresh .fiveCells).after forwardChain) =
              (.ok outcome, (fresh .fiveCells).after forwardChain) ∧
          (((fresh .fiveCells).after forwardChain).sheet.grid.get position).value =
            outcome.display) ∧
    (((fresh .fiveCells).after forwardChain).sheet.grid.get
      ⟨⟨0, by decide⟩, ⟨0, by decide⟩⟩).value = "2" ∧
    ∃ document file,
      (((fresh .fiveCells).after forwardChain).step .writeText).1.answer = .ok (.text document) ∧
      (((fresh .fiveCells).after forwardChain).step .writeBytes).1.answer = .ok (.text file) ∧
      ∀ load ∈ [Operation.readText document, .readBytes (Markup.bytesOfText file)],
        ((fresh .fiveCells).step load).1.answer = .ok .nothing ∧
          (((fresh .fiveCells).step load).2.sheet.grid.get
            ⟨⟨0, by decide⟩, ⟨0, by decide⟩⟩).value = "1" := by
  have quiet : ∀ operation ∈ forwardChain, operation.staysQuiet = true := by decide
  have sound := (isSound_fresh .fiveCells).after quiet
  have kept : ∀ position ∈ Size.fiveCells.positions,
      Archive.IsKept (((fresh .fiveCells).after forwardChain).sheet.grid.get position).text := by
    decide +kernel
  have shown : ∀ position ∈ Size.fiveCells.positions,
      ((fresh .fiveCells).after forwardChain).sheet.grid.IsSettled position := by decide +kernel
  have keptAll : ∀ position,
      Archive.IsKept (((fresh .fiveCells).after forwardChain).sheet.grid.get position).text :=
    fun position => kept position (Size.mem_positions _ position)
  refine ⟨quiet, by decide +kernel, keptAll, fun position => ?_, by decide +kernel, ?_⟩
  · exact sound.exists_outcome_of_isSettled (shown position (Size.mem_positions _ position))
  · have computed : (((Engine.enterRecords (Engine.announce (fresh .fiveCells).reactions)
        (Archive.recordsOf ((fresh .fiveCells).after forwardChain).sheet.grid)).runFrom
          (fresh .fiveCells)).2.sheet.grid.get ⟨⟨0, by decide⟩, ⟨0, by decide⟩⟩).value = "1" := by
      decide +kernel
    obtain ⟨later, entered, _⟩ := Engine.runFrom_enterRecords
      (Archive.recordsOf ((fresh .fiveCells).after forwardChain).sheet.grid)
      (fresh .fiveCells).reactions (isSound_fresh .fiveCells).quiet.unheard
    obtain ⟨document, file, written, filed, loaded⟩ := step_of_saved keptAll entered
    refine ⟨document, file, written, filed, fun load member => ?_⟩
    obtain ⟨answered, same⟩ := loaded load member
    rw [entered] at computed
    exact ⟨answered, same ▸ computed⟩

end Session
end Worksheet
