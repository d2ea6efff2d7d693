import Worksheet.Proofs.Session.Invariant

namespace Worksheet

open Formula

/-!
# How complete recalculation is

In a session that nobody follows a formula shows what its evaluation yields
now, if that is a mishap or if the formula depends on timely cells only.  The
condition is on the texts alone.  It holds for chains and trees and wherever the
rows and columns are laid out in the direction of the references.

Without the condition a formula may be left with a number that is out of date.
That happens when a cell it reads is taken from the queue of a sweep before one
of the inputs of that cell: the cell changes again behind its only turn.
-/

variable {size : Size}

namespace Grid

variable {grid : Grid size} {position : Position size}

/-- A cell that shows its status is settled if its evaluation ends in a mishap. -/
theorem ShowsStatus.isSettled_of_mishap (status : grid.ShowsStatus position)
    (failed : (grid.outcome position).mishap?.isSome = true) : grid.IsSettled position := by
  apply status.isSettled
  intro _ noMishap
  rcases grid.outcome_eq position with ⟨mishap, detail, dictated, _⟩ | ⟨_, number, ended⟩
  · rw [noMishap] at dictated
    cases dictated
  · rw [ended] at failed
    cases failed

instance (grid : Grid size) (position : Position size) : Decidable (grid.IsTimely position) :=
  decidable_of_iff (∀ source ∈ size.positions, grid.dependsOn position source = true →
      source ≠ position ∧ ∀ start ∈ size.positions, ¬ [position, source].Sublist (grid.turns start))
    ⟨fun timely source depends =>
        have both := timely source (size.mem_positions source) (grid.mem_dependents.mp depends)
        ⟨both.1, fun start => both.2 start (size.mem_positions start)⟩,
      fun timely source _ depends =>
        have both := timely source (grid.mem_dependents.mpr depends)
        ⟨both.1, fun start _ => both.2 start⟩⟩

end Grid

namespace Session

/-- In a session that has come from a blank sheet without scripts and guarded
names, a formula can be evaluated, and it shows the result if that is a mishap or
if the formula reads timely cells only. -/
theorem value_eq_display_after_fresh (size : Size) {operations : List Operation}
    (quiet : ∀ operation ∈ operations, operation.staysQuiet = true)
    (plain : ((fresh size).after operations).sheet.grid.IsPlain) {position : Position size}
    (formula : (((fresh size).after operations).sheet.grid.get position).isFormula = true) :
    ∃ outcome, (Engine.evaluateFormula position).runFrom ((fresh size).after operations) =
        (.ok outcome, (fresh size).after operations) ∧
      (outcome.mishap?.isSome = true ∨
          ((fresh size).after operations).sheet.grid.ReadsTimely position →
        (((fresh size).after operations).sheet.grid.get position).value = outcome.display) := by
  have sound := (isSound_fresh size).after quiet
  have plainFrom := plain.isPlainFrom position
  refine ⟨_, Engine.runFrom_evaluateFormula sound.quiet.unguarded position, ?_⟩
  intro condition
  have settled : ((fresh size).after operations).sheet.grid.IsSettled position := by
    rcases condition with failed | timely
    · exact (sound.sound.status position plainFrom).isSettled_of_mishap failed
    · exact sound.sound.settled position plainFrom timely
  rwa [Grid.IsSettled, Grid.due, if_pos formula] at settled

/-- A number, its tenfold, and the sum of both; then the number is changed. -/
def changedInput : List Operation :=
  [.assignText "A1" (.text "1"), .assignText "B1" (.text "=A1*10"),
    .assignText "C1" (.text "=B1+A1"), .assignText "A1" (.text "2")]

theorem value_eq_display_after_changedInput :
    ∃ outcome, (Engine.evaluateFormula ⟨⟨0, by decide⟩, ⟨2, by decide⟩⟩).runFrom
        ((fresh .threeCells).after changedInput) =
          (.ok outcome, (fresh .threeCells).after changedInput) ∧
      (((fresh .threeCells).after changedInput).sheet.grid.get
        ⟨⟨0, by decide⟩, ⟨2, by decide⟩⟩).value = outcome.display := by
  have quiet : ∀ operation ∈ changedInput, operation.staysQuiet = true := by decide
  have plain : ((fresh .threeCells).after changedInput).sheet.grid.IsPlain := by decide +kernel
  have formula : (((fresh .threeCells).after changedInput).sheet.grid.get
      ⟨⟨0, by decide⟩, ⟨2, by decide⟩⟩).isFormula = true := by decide +kernel
  have timely : ∀ source ∈ Size.threeCells.positions,
      ((fresh .threeCells).after changedInput).sheet.grid.IsTimely source := by decide +kernel
  rcases value_eq_display_after_fresh .threeCells quiet plain formula with
    ⟨outcome, evaluated, shown⟩
  refine ⟨outcome, evaluated, shown (.inr ?_)⟩
  exact fun source _ => timely source (Size.mem_positions _ source)

/-- The second and the third cell read the first one, the second also reads the
third, and the last reads the second.  In the sweep from the first cell the second
has its turn before the third. -/
def unevenPaths : List Operation :=
  [.assignText "D1" (.text "=B1"), .assignText "B1" (.text "=A1+C1"),
    .assignText "C1" (.text "=A1"), .assignText "A1" (.text "1")]

/-- The last cell is left behind. -/
theorem stale_after_unevenPaths :
    ((fresh .fourCells).after unevenPaths).sheet.grid.IsPlain ∧
      (((fresh .fourCells).after unevenPaths).sheet.grid.get
        ⟨⟨0, by decide⟩, ⟨3, by decide⟩⟩).isFormula = true ∧
      (((fresh .fourCells).after unevenPaths).sheet.grid.get
        ⟨⟨0, by decide⟩, ⟨3, by decide⟩⟩).value = "1" ∧
      ((Engine.evaluateFormula ⟨⟨0, by decide⟩, ⟨3, by decide⟩⟩).runFrom
        ((fresh .fourCells).after unevenPaths)).1.map Outcome.display = .ok "2" := by
  decide +kernel

end Session
end Worksheet
