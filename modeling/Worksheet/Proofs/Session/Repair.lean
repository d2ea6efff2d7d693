import Worksheet.Proofs.Recalculation.Levels
import Worksheet.Proofs.Session.Invariant

namespace Worksheet

/-!
# Repair by one recalculation

A cell is up to date when it shows what its evaluation yields now.  Values that are
not up to date, wherever they come from, are repaired by a single recalculation if
they stand in the start and in the cells that it spreads to, and if these cells form
levels.
-/

variable {size : Size}

namespace Session

/-- A formula can be evaluated and shows the outcome; any other cell shows its text. -/
structure IsUpToDate (session : Session size) (position : Position size) : Prop where
  formula : (session.sheet.grid.get position).isFormula = true →
    ∃ outcome, (Engine.evaluateFormula position).runFrom session = (.ok outcome, session) ∧
      (session.sheet.grid.get position).value = outcome.display
  literal : (session.sheet.grid.get position).isFormula = false →
    (session.sheet.grid.get position).value = (session.sheet.grid.get position).text

/-- While no name is guarded, to be up to date is to be settled. -/
theorem isUpToDate_iff {session : Session size} (unguarded : session.sheet.guarded = [])
    {position : Position size} :
    session.IsUpToDate position ↔ session.sheet.grid.IsSettled position := by
  have evaluated := Engine.runFrom_evaluateFormula unguarded position
  rw [Grid.IsSettled, Grid.due]
  cases kind : (session.sheet.grid.get position).isFormula with
  | false =>
    rw [if_neg Bool.false_ne_true]
    refine ⟨fun current => current.literal kind, fun value => ⟨fun formula => ?_, fun _ => value⟩⟩
    rw [kind] at formula
    cases formula
  | true =>
    rw [if_pos rfl]
    constructor
    · intro current
      obtain ⟨outcome, again, value⟩ := current.formula kind
      rw [evaluated, Prod.mk.injEq, Except.ok.injEq] at again
      rw [value, again.1]
    · refine fun value => ⟨fun _ => ⟨_, evaluated, value⟩, fun literal => ?_⟩
      rw [kind] at literal
      cases literal

/-- Let a session be quiet, however it has come about, and let all tokens be plain.  If
the cells that the start spreads to form levels, and if every cell apart from them and the
start is up to date, then a recalculation leaves all cells up to date. -/
theorem isUpToDate_after_recalculate {session : Session size} (quiet : session.IsQuiet)
    (plain : session.sheet.grid.IsPlain) (reactions : Nat) {start : Position size}
    (levelled : session.sheet.grid.IsLevelledFrom start)
    (others : ∀ position, position ≠ start → ¬ session.sheet.grid.Spreads start position →
      session.IsUpToDate position) :
    ∃ report later,
      (Engine.recalculate (Engine.announce reactions) start).runFrom session =
        (.ok report, later) ∧
      (∀ position, (later.sheet.grid.get position).text =
        (session.sheet.grid.get position).text) ∧
      ∀ position, later.IsUpToDate position := by
  refine ⟨_, _, Engine.runFrom_recalculate quiet reactions start, fun position => ?_,
    fun position => ?_⟩
  · rw [grid_recalculated, Grid.recalculated, Grid.text_recomputeEach]
  · rw [isUpToDate_iff (quiet.recalculated start).unguarded, grid_recalculated]
    refine levelled.isSettled_recalculated plain (fun other different outside => ?_) position
    exact (isUpToDate_iff quiet.unguarded).mp (others other different outside)

/-- Two cells read the first one, and the fourth reads both of them.  One of the two
divides by zero.  Wrong values have been put into these four cells; the last cell has
nothing to do with them. -/
def spoiled : Session .fiveCells :=
  let entered := (fresh .fiveCells).after
    [.assignText "A1" (.text "2"), .assignText "B1" (.text "=A1/0"),
      .assignText "C1" (.text "=A1*10"), .assignText "D1" (.text "=B1+C1"),
      .assignText "E1" (.text "=6*7")]
  entered.withGrid ((Size.fiveCells.positions.take 4).foldl (·.setValue · "?") entered.sheet.grid)

theorem isUpToDate_after_recalculate_of_spoiled :
    spoiled.IsQuiet ∧ spoiled.sheet.grid.IsPlain ∧
      spoiled.sheet.grid.IsLevelledFrom ⟨⟨0, by decide⟩, ⟨0, by decide⟩⟩ ∧
      (∀ position, spoiled.IsUpToDate position ↔ position = ⟨⟨0, by decide⟩, ⟨4, by decide⟩⟩) ∧
      ∃ report later,
        (Engine.recalculate (Engine.announce 0) ⟨⟨0, by decide⟩, ⟨0, by decide⟩⟩).runFrom spoiled =
          (.ok report, later) ∧
        ∀ position, later.IsUpToDate position := by
  have quiet : spoiled.IsQuiet := ⟨by decide +kernel, by decide +kernel⟩
  have plain : spoiled.sheet.grid.IsPlain := by decide +kernel
  let level : Position .fiveCells → Nat := fun position => [0, 1, 1, 2].getD position.column 0
  have grows : ∀ source ∈ Size.fiveCells.positions, ∀ reader ∈ spoiled.sheet.grid.dependents source,
      level reader = level source + 1 := by decide +kernel
  have levelled : spoiled.sheet.grid.IsLevelledFrom ⟨⟨0, by decide⟩, ⟨0, by decide⟩⟩ :=
    Grid.isLevelledFrom_of_level fun source reader _ =>
      grows source (Size.mem_positions _ source) reader
  have settled : ∀ position ∈ Size.fiveCells.positions, spoiled.sheet.grid.IsSettled position ↔
      position = ⟨⟨0, by decide⟩, ⟨4, by decide⟩⟩ := by decide +kernel
  have current : ∀ position, spoiled.IsUpToDate position ↔
      position = ⟨⟨0, by decide⟩, ⟨4, by decide⟩⟩ := fun position =>
    (isUpToDate_iff quiet.unguarded).trans (settled position (Size.mem_positions _ position))
  have others : ∀ position ∈ Size.fiveCells.positions,
      position ≠ ⟨⟨0, by decide⟩, ⟨0, by decide⟩⟩ →
        ¬ spoiled.sheet.grid.Spreads ⟨⟨0, by decide⟩, ⟨0, by decide⟩⟩ position →
          position = ⟨⟨0, by decide⟩, ⟨4, by decide⟩⟩ := by decide +kernel
  obtain ⟨report, later, ran, -, repaired⟩ := isUpToDate_after_recalculate quiet plain 0 levelled
    fun position different outside =>
      (current position).mpr (others position (Size.mem_positions _ position) different outside)
  exact ⟨quiet, plain, levelled, current, report, later, ran, repaired⟩

end Session
end Worksheet
