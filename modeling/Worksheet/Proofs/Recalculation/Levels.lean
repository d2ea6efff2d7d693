import Worksheet.Proofs.Recalculation.Settled
import Worksheet.Proofs.Recalculation.Spread

namespace Worksheet

/-!
# Sweeps over levels

If all walks from the start to a cell have one length, for every cell that the
start spreads to, then these cells form levels, and a sweep finishes one level
before it begins with the next.  A cell may be recomputed several times in between
from values that are out of date, but at its own turn it has its final value.  So
it does not matter which values the cells had before.

There is no loop among such cells, since a walk around it could be repeated.
-/

variable {size : Size}

namespace Grid

/-- All walks from the start to a cell that it spreads to have one length. -/
def IsLevelledFrom (grid : Grid size) (start : Position size) : Prop :=
  ∀ position, grid.Spreads start position → ∀ shorter longer,
    grid.Walk start shorter position → grid.Walk start longer position → shorter = longer

variable {grid : Grid size} {start position : Position size}

/-- What a walk leads to is the start, or the start spreads to it. -/
theorem Walk.eq_or_spreads {length : Nat} (walk : grid.Walk start length position) :
    position = start ∨ grid.Spreads start position := by
  induction walk with
  | start => exact .inl rfl
  | step _ depends hypothesis =>
    rcases hypothesis with rfl | spreads
    · exact .inr (.single depends)
    · exact .inr (spreads.tail depends)

/-- Numbers that grow by one with every dependent are levels. -/
theorem isLevelledFrom_of_level {level : Position size → Nat}
    (grows : ∀ source reader, source = start ∨ grid.Spreads start source →
      reader ∈ grid.dependents source → level reader = level source + 1) :
    grid.IsLevelledFrom start := by
  have along : ∀ {length : Nat} {position : Position size}, grid.Walk start length position →
      level position = level start + length := by
    intro length position walk
    induction walk with
    | start => rfl
    | step before depends hypothesis =>
      rw [grows _ _ before.eq_or_spreads depends, hypothesis, Nat.add_assoc]
  intro position _ shorter longer first second
  have same := (along first).symm.trans (along second)
  omega

namespace IsLevelledFrom

/-- Every cell has its turn in time.  One that the start does not spread to is no
dependent of a turn. -/
theorem isTimelyFrom (levelled : grid.IsLevelledFrom start) (position : Position size) :
    grid.IsTimelyFrom start position := by
  intro source turn depends
  have spreads := mem_swept_iff.mp (mem_swept_of_mem_dependents turn depends)
  exact isTimelyFrom_of_walks (levelled position spreads) source turn depends

/-- If all other cells are settled, a recalculation settles every cell. -/
theorem isSettled_recalculated (levelled : grid.IsLevelledFrom start) (plain : grid.IsPlain)
    (others : ∀ position, position ≠ start → ¬ grid.Spreads start position →
      grid.IsSettled position) (position : Position size) :
    (grid.recalculated start).IsSettled position := by
  by_cases spreads : grid.Spreads start position
  · exact isSettled_of_mem_swept (plain position) (fun source _ => levelled.isTimelyFrom source)
      (mem_swept_iff.mpr spreads)
  · by_cases same : position = start
    · subst position
      exact isSettled_start (plain start) fun swept => spreads (mem_swept_iff.mp swept)
    · have kept : ∀ other, other ≠ start → ¬ grid.Spreads start other →
          (grid.get other).value = ((grid.recalculated start).get other).value := by
        intro other different outside
        rw [recalculated, get_recomputeEach_of_not_mem]
        rw [List.mem_cons, mem_swept_iff]
        exact fun member => member.elim different outside
      apply (others position same spreads).congr
        (.of_forall fun other => (text_recomputeEach _ other).symm) _ (kept position same spreads)
      -- A source that is recomputed would spread to the cell.
      intro source member
      have depends := (mem_sources_iff_mem_dependents (plain position)).mp member
      apply kept source
      · exact fun here => spreads (here ▸ .single depends)
      · exact fun inside => spreads (inside.tail depends)

end IsLevelledFrom
end Grid
end Worksheet
