import Worksheet.Proofs.Recalculation.Settled

namespace Worksheet

/-!
# What every edit keeps

A grid is sound when every cell shows the status that the texts dictate and
every cell is settled that reads, directly or through others, only timely cells.

Both are only asked of cells that reach nothing but plain tokens.  Then soundness
is kept by every recomputation of a single cell, at whatever time, and by every
edit that is followed by a recalculation.  Nothing is claimed for cells that
depend on a cell that is not timely: those may be left with a number that is out
of date.
-/

variable {size : Size}

namespace Grid

/-- Where all tokens are plain, every cell shows its status, and what reads timely
cells is settled. -/
structure IsSound (grid : Grid size) : Prop where
  status : ∀ position, grid.IsPlainFrom position → grid.ShowsStatus position
  settled : ∀ position, grid.IsPlainFrom position → grid.ReadsTimely position →
    grid.IsSettled position

variable {grid other : Grid size} {position : Position size}

theorem IsPlainFrom.congr (plain : grid.IsPlainFrom position)
    (agree : SameTextsFrom grid other position) : other.IsPlainFrom position := by
  intro cell reaches
  have reachesBefore := agree.reaches_iff.mpr reaches
  rw [Cell.isPlain, ← Cell.references_congr (agree cell reachesBefore)]
  exact plain cell reachesBefore

/-! ## Soundness is kept -/

theorem isSound_blank (size : Size) : (blank size).IsSound := by
  have literal : ∀ position, ((blank size).get position).isFormula = false := by
    intro position
    rw [get_blank]
    rfl
  constructor
  · intro position _
    refine ⟨fun _ => by rw [get_blank, Cell.blank], ?_, ?_⟩
    · intro formula
      rw [literal] at formula
      cases formula
    · intro formula
      rw [literal] at formula
      cases formula
  · intro position _ _
    rw [IsSettled, due, literal, get_blank]
    rfl

/-- Grids with the same texts and values are sound together. -/
theorem IsSound.congr (sound : grid.IsSound)
    (texts : ∀ position, (grid.get position).text = (other.get position).text)
    (values : ∀ position, (grid.get position).value = (other.get position).value) :
    other.IsSound := by
  constructor
  · intro position plain
    have plainBefore : grid.IsPlainFrom position := plain.congr (.of_forall fun _ => (texts _).symm)
    exact (sound.status position plainBefore).congr (.of_forall texts) (values position).symm
  · intro position plain timely
    have plainBefore : grid.IsPlainFrom position := plain.congr (.of_forall fun _ => (texts _).symm)
    have timelyBefore : grid.ReadsTimely position :=
      timely.congr (.of_forall fun _ => (texts _).symm)
    apply (sound.settled position plainBefore timelyBefore).congr
    · exact .of_forall texts
    · exact fun source _ => values source
    · exact values position

/-- Recomputing one cell keeps a grid sound.  If a cell that reads timely cells
reads the recomputed one, that is settled itself and does not change. -/
theorem IsSound.recompute (sound : grid.IsSound) (position : Position size) :
    (grid.recompute position).IsSound := by
  constructor
  · intro reader plain
    have plainBefore : grid.IsPlainFrom reader := plain.congr (.of_forall fun _ => text_recompute _)
    exact (sound.status reader plainBefore).recompute position
  · intro reader plain timely
    have plainBefore : grid.IsPlainFrom reader := plain.congr (.of_forall fun _ => text_recompute _)
    have timelyBefore : grid.ReadsTimely reader :=
      timely.congr (.of_forall fun _ => text_recompute _)
    have settledBefore := sound.settled reader plainBefore timelyBefore
    by_cases touched : position = reader ∨ position ∈ grid.sources reader
    · have settled : grid.IsSettled position := by
        rcases touched with same | member
        · exact same ▸ settledBefore
        · exact sound.settled position (plainBefore.of_reads member) (timelyBefore.of_reads member)
      rw [recompute_eq_self settled]
      exact settledBefore
    · rw [not_or] at touched
      have kept : ∀ cell, position ≠ cell → (grid.get cell).value =
          ((grid.recompute position).get cell).value := by
        intro cell different
        rw [Grid.recompute, grid.get_setValue_of_ne _ different]
      apply settledBefore.congr (.of_forall fun _ => (text_recompute _).symm)
      · intro source member
        exact kept source fun same => touched.2 (same ▸ member)
      · exact kept reader touched.1

theorem IsSound.recomputeEach (sound : grid.IsSound) (positions : List (Position size)) :
    (grid.recomputeEach positions).IsSound := by
  induction positions generalizing grid with
  | nil => exact sound
  | cons first later hypothesis => exact hypothesis (sound.recompute first)

theorem text_recalculated (start position : Position size) :
    ((grid.recalculated start).get position).text = (grid.get position).text :=
  text_recomputeEach _ position

/-- Assigning a text and recalculating keeps a grid sound.  What reaches the
assigned cell through plain tokens is visited by the recalculation.  All else
keeps its value, its sources keep theirs, and the texts in its reach are the old
ones. -/
theorem IsSound.recalculated_setText (sound : grid.IsSound) (start : Position size)
    (text : String) : ((grid.setText start text).recalculated start).IsSound := by
  generalize written : grid.setText start text = changed
  have textsAfter : ∀ position, (changed.get position).text =
      ((changed.recalculated start).get position).text :=
    fun position => (text_recalculated start position).symm
  have agree : ∀ position, ¬ changed.Reaches position start →
      SameTextsFrom grid (changed.recalculated start) position := by
    intro position distant
    apply SameTextsFrom.symm
    intro cell reaches
    rw [← textsAfter, ← written]
    rw [← (SameTextsFrom.of_forall textsAfter).reaches_iff] at reaches
    rw [get_setText_of_ne]
    intro same
    exact distant (same ▸ reaches)
  have kept : ∀ position, ¬ changed.Reaches position start →
      (grid.get position).value = ((changed.recalculated start).get position).value := by
    intro position distant
    rw [get_recalculated_of_not_reaches distant, ← written, value_setText]
  constructor
  · intro position plain
    by_cases reaches : changed.Reaches position start
    · exact showsStatus_recalculated (plain.congr (.of_forall fun _ => (textsAfter _).symm)) reaches
    · have same := agree position reaches
      exact (sound.status position (plain.congr same.symm)).congr same (kept position reaches).symm
  · intro position plain timely
    by_cases reaches : changed.Reaches position start
    · apply isSettled_recalculated (plain.congr (.of_forall fun _ => (textsAfter _).symm)) _ reaches
      have timelyBefore : changed.ReadsTimely position :=
        timely.congr (.of_forall fun _ => (textsAfter _).symm)
      exact fun source member => (timelyBefore source (.single member)).isTimelyFrom start
    · have same := agree position reaches
      apply (sound.settled position (plain.congr same.symm) (timely.congr same.symm)).congr same
      · intro source member
        apply kept source
        intro onward
        apply reaches
        have reads : changed.Reads position source := by
          rw [(SameTextsFrom.of_forall textsAfter).reads_iff, ← same.reads_iff]
          exact member
        exact .head reads onward
      · exact kept position reaches

end Grid
end Worksheet
