import Worksheet.Proofs.Recalculation.Passes
import Worksheet.Proofs.Session.Completeness
import Worksheet.Proofs.Session.Reloading
import Worksheet.Proofs.Session.Repair

namespace Worksheet

/-!
# Evaluating all formulas again and again

Evaluating all formulas is a pass over the formulas that show no loop.  In a session
that nobody follows a loop is never shown by mistake, so it makes no difference that
the others are left out.  After as many passes as there are formulas all cells are up
to date.  From then on a pass finds nothing to change and only lists the values.
-/

variable {size : Size}

namespace Session

/-- The formulas that show no loop, row by row, with the values they show. -/
def shownValues (session : Session size) : List (Position size × String) :=
  (session.sheet.grid.formulaCells.filter fun position =>
      (session.sheet.grid.get position).value ≠ Formula.Mishap.circularReference.title).map
    fun position => (position, (session.sheet.grid.get position).value)

/-- Recomputing a settled cell is only noted. -/
theorem updated_of_isSettled {session : Session size} {position : Position size}
    (settled : session.sheet.grid.IsSettled position) :
    session.updated position = session.touched position := by
  rw [updated, stored]
  exact if_pos settled.symm

end Session

namespace Engine

/-- Where all cells are settled their evaluation lists the values and changes nothing. -/
theorem exists_runFrom_evaluateEach {session : Session size} (quiet : session.IsQuiet)
    (reactions : Nat) {positions : List (Position size)}
    (settled : ∀ position ∈ positions, session.sheet.grid.IsSettled position) :
    ∃ later,
      (evaluateEach (announce reactions) positions).runFrom session =
        (.ok ((positions.filter fun position => (session.sheet.grid.get position).value ≠
            Formula.Mishap.circularReference.title).map
          fun position => (position, (session.sheet.grid.get position).value)), later) ∧
      later.sheet.grid = session.sheet.grid ∧ later.journal = session.journal := by
  induction positions generalizing session with
  | nil => exact ⟨session, rfl, rfl, rfl⟩
  | cons first positions hypothesis =>
    have rest : ∀ position ∈ positions, session.sheet.grid.IsSettled position :=
      fun position member => settled position (List.mem_cons_of_mem first member)
    rw [evaluateEach, runFrom_bind_of_ok _ (runFrom_cellAt _ first)]
    split
    · next shown =>
      rw [List.filter_cons_of_neg (by simp [shown])]
      exact hypothesis quiet rest
    · next shown =>
      have here := settled first List.mem_cons_self
      have updated := runFrom_updateValue quiet reactions first
      rw [Session.updated_of_isSettled here, ← here] at updated
      obtain ⟨later, ran, grid, journal⟩ := @hypothesis (session.touched first)
        (quiet.touched first) rest
      rw [List.filter_cons_of_pos (by simp [shown]), List.map_cons,
        runFrom_bind_of_ok _ updated, runFrom_bind_of_ok _ ran]
      exact ⟨later, rfl, grid, journal⟩

end Engine

namespace Session

variable {session : Session size}

/-- What a step makes of the run of a pass. -/
theorem step_of_evaluateAll {values : List (Position size × String)} {later : Session size}
    (ran : (Engine.evaluateAll (Engine.announce session.reactions)).runFrom session =
      (.ok values, later)) :
    (session.step .evaluateAll).1.answer = .ok (.values values) ∧
      (session.step .evaluateAll).1.events =
        (later.journal.take (later.journal.length - session.journal.length)).reverse ∧
      (session.step .evaluateAll).2 = later :=
  step_of_performed (Engine.runFrom_bind_of_ok session ran)

/-- A pass over a settled session lists the shown values and announces nothing. -/
theorem IsSound.step_evaluateAll_of_isSettled (sound : session.IsSound)
    (settled : ∀ position, session.sheet.grid.IsSettled position) :
    (session.step .evaluateAll).1.answer = .ok (.values session.shownValues) ∧
      (session.step .evaluateAll).1.events = [] := by
  let cleared : Session size := { session with sheet := { session.sheet with guarded := [] } }
  have quiet : cleared.IsQuiet := ⟨sound.quiet.unheard, rfl⟩
  obtain ⟨later, ran, -, journal⟩ := Engine.exists_runFrom_evaluateEach quiet session.reactions
    fun position (_ : position ∈ session.sheet.grid.formulaCells) => settled position
  obtain ⟨answered, events, -⟩ := step_of_evaluateAll ran
  refine ⟨answered, ?_⟩
  rw [events, journal, Nat.sub_self, List.take_zero, List.reverse_nil]

/-- A pass leaves the inscriptions and the history, and it is one for the grid. -/
theorem IsSound.step_evaluateAll (sound : session.IsSound) (plain : session.sheet.grid.IsPlain) :
    (∃ values, (session.step .evaluateAll).1.answer = .ok (.values values)) ∧
      (session.step .evaluateAll).2.Holds session.sheet.grid.inscriptions session.sheet.history ∧
      (session.step .evaluateAll).2.sheet.grid =
        session.sheet.grid.recomputeEach session.sheet.grid.formulaCells := by
  obtain ⟨values, later, ran, holds⟩ :=
    Engine.Ends.evaluateAll session ⟨sound.quiet.unheard, rfl, rfl⟩
  obtain ⟨_, _, again, shows⟩ := Engine.Ends.evaluateAll_showing session ⟨sound, rfl⟩
  rw [ran, Prod.mk.injEq] at again
  obtain ⟨-, rfl⟩ := again
  obtain ⟨answered, -, stepped⟩ := step_of_evaluateAll ran
  rw [stepped]
  exact ⟨⟨values, answered⟩, holds, shows.grid_eq.trans (sound.sound.evaluatedEach_eq plain _)⟩

theorem IsSound.after_evaluateAll (sound : session.IsSound) (plain : session.sheet.grid.IsPlain)
    (calls : Nat) :
    (session.after (List.replicate calls .evaluateAll)).Holds session.sheet.grid.inscriptions
        session.sheet.history ∧
      (session.after (List.replicate calls .evaluateAll)).sheet.grid =
        session.sheet.grid.passed calls := by
  induction calls generalizing session with
  | zero => exact ⟨⟨sound.quiet.unheard, rfl, rfl⟩, rfl⟩
  | succ calls hypothesis =>
    obtain ⟨-, holds, grid⟩ := sound.step_evaluateAll plain
    have plainAfter : (session.step .evaluateAll).2.sheet.grid.IsPlain :=
      grid ▸ plain.recomputeEach _
    have rest := hypothesis (sound.step rfl) plainAfter
    rw [holds.entered, holds.history_eq, grid] at rest
    exact rest

/-- Let a session have come from a blank sheet without scripts and guarded names, and let
all tokens be plain.  However often all formulas are evaluated, the inscriptions and the
history stay.  As soon as this has been done as many times as there are formulas, every
cell is up to date; one more time announces nothing and yields exactly the values of the
formulas that show no loop. -/
theorem isUpToDate_after_evaluateAll (size : Size) {operations : List Operation}
    {session later : Session size} (reached : (fresh size).after operations = session)
    (quiet : ∀ operation ∈ operations, operation.staysQuiet = true)
    (plain : session.sheet.grid.IsPlain) {calls : Nat}
    (called : session.after (List.replicate calls .evaluateAll) = later) :
    later.sheet.grid.inscriptions = session.sheet.grid.inscriptions ∧
      later.sheet.history = session.sheet.history ∧
      (∃ values, (later.step .evaluateAll).1.answer = .ok (.values values)) ∧
      (session.sheet.grid.formulaCells.length ≤ calls →
        (∀ position, later.IsUpToDate position) ∧
        (later.step .evaluateAll).1.answer = .ok (.values later.shownValues) ∧
        (later.step .evaluateAll).1.events = []) := by
  have sound : session.IsSound := reached ▸ (isSound_fresh size).after quiet
  have soundLater : later.IsSound :=
    called ▸ sound.after fun operation member => (List.eq_of_mem_replicate member) ▸ rfl
  obtain ⟨holds, grid⟩ := sound.after_evaluateAll plain calls
  rw [called] at holds grid
  have plainLater : later.sheet.grid.IsPlain :=
    plain.congr fun position => (Grid.text_eq_of_inscriptions_eq holds.entered position).symm
  have answers := (soundLater.step_evaluateAll plainLater).1
  refine ⟨holds.entered, holds.history_eq, answers, fun enough => ?_⟩
  have settled : ∀ position, later.sheet.grid.IsSettled position := by
    rw [grid]
    exact sound.sound.isSettled_passed plain enough
  refine ⟨fun position => ?_, soundLater.step_evaluateAll_of_isSettled settled⟩
  exact (isUpToDate_iff soundLater.quiet.unguarded).mpr (settled position)

/-- A sheet with a formula that is left behind, and a loop beside it. -/
def unevenPathsAndLoop : List Operation :=
  unevenPaths ++ [.assignText "E1" (.text "=F1"), .assignText "F1" (.text "=E1")]

theorem isUpToDate_after_evaluateAll_of_unevenPathsAndLoop :
    ¬ ((fresh .sixCells).after unevenPathsAndLoop).IsUpToDate
        ⟨⟨0, by decide⟩, ⟨3, by decide⟩⟩ ∧
      ((fresh .sixCells).after unevenPathsAndLoop).sheet.grid.formulaCells.length = 5 ∧
      ∃ later, ((fresh .sixCells).after unevenPathsAndLoop).after
          (List.replicate 5 .evaluateAll) = later ∧
        (∀ position, later.IsUpToDate position) ∧
        (later.step .evaluateAll).1.answer = .ok (.values later.shownValues) ∧
        later.shownValues.map Prod.snd = ["2", "1", "2"] ∧
        (later.step .evaluateAll).1.events = [] := by
  have quiet : ∀ operation ∈ unevenPathsAndLoop, operation.staysQuiet = true := by decide
  have plain : ((fresh .sixCells).after unevenPathsAndLoop).sheet.grid.IsPlain := by
    decide +kernel
  have formulas : ((fresh .sixCells).after unevenPathsAndLoop).sheet.grid.formulaCells.length =
      5 := by decide +kernel
  have stale : ¬ ((fresh .sixCells).after unevenPathsAndLoop).sheet.grid.IsSettled
      ⟨⟨0, by decide⟩, ⟨3, by decide⟩⟩ := by decide +kernel
  have sound := (isSound_fresh .sixCells).after quiet
  obtain ⟨-, -, -, settling⟩ := isUpToDate_after_evaluateAll .sixCells rfl quiet plain rfl
  obtain ⟨current, answered, events⟩ := settling (Nat.le_of_eq formulas)
  refine ⟨fun shown => stale ((isUpToDate_iff sound.quiet.unguarded).mp shown), formulas,
    _, rfl, current, answered, ?_, events⟩
  decide +kernel

end Session
end Worksheet
