import Worksheet.Proofs.Recalculation.Recompute
import Worksheet.Proofs.Recalculation.Timely

namespace Worksheet

/-!
# What a recalculation settles

A recalculation recomputes a cell and then everything that its sweep visits.
Every cell that can have been affected shows its status afterwards, since the
status does not depend on the order.

For numbers the order matters.  A dependent is recomputed whenever one of its
sources has its turn, but it has only one turn itself; if it changes after its
turn, its own dependents are not told.  A cell is settled if its sources are
timely: then every source has changed for the last time before it has its turn.
-/

variable {size : Size}

namespace Grid

/-- Recompute a cell and what depends on it, in the order of the sweep. -/
def recalculated (grid : Grid size) (start : Position size) : Grid size :=
  grid.recomputeEach (start :: grid.swept start)

variable {grid : Grid size} {start position : Position size}

/-- A list with an element of some kind has a last one. -/
private theorem exists_last {α : Type} {kind : α → Prop} {elements : List α}
    (present : ∃ element ∈ elements, kind element) :
    ∃ earlier last later, elements = earlier ++ last :: later ∧ kind last ∧
      ∀ element ∈ later, ¬ kind element := by
  classical
  induction elements with
  | nil =>
    rcases present with ⟨_, member, _⟩
    cases member
  | cons first rest hypothesis =>
    by_cases behind : ∃ element ∈ rest, kind element
    · rcases hypothesis behind with ⟨earlier, last, later, same, isKind, noMore⟩
      exact ⟨first :: earlier, last, later, by rw [same, List.cons_append], isKind, noMore⟩
    · rcases present with ⟨element, member, isKind⟩
      rcases List.mem_cons.mp member with here | later
      · subst element
        exact ⟨[], first, rest, rfl, isKind, fun other listed also => behind ⟨other, listed, also⟩⟩
      · exact absurd ⟨element, later, isKind⟩ behind

/-- A cell that the sweep recomputes is settled if its sources are timely.  It is
recomputed for the last time with the last turn of a source.  A source that was
recomputed behind that would depend on a cell with a turn behind its own. -/
theorem isSettled_of_mem_swept (plain : (grid.get position).isPlain = true)
    (timely : ∀ source ∈ grid.sources position, grid.IsTimelyFrom start source)
    (swept : position ∈ grid.swept start) : (grid.recalculated start).IsSettled position := by
  rcases exists_last (mem_swept.mp swept) with ⟨earlier, last, later, split, depends, noMore⟩
  rcases List.append_of_mem depends with ⟨front, back, dependents⟩
  have distinct := grid.nodup_dependents last
  rw [dependents, List.nodup_append, List.nodup_cons] at distinct
  have order : start :: grid.swept start =
      (start :: earlier.flatMap grid.dependents ++ front) ++
        position :: (back ++ later.flatMap grid.dependents) := by
    simp only [Grid.swept, split, List.flatMap_append, List.flatMap_cons, dependents,
      List.append_assoc, List.cons_append]
  have reads : ∀ source ∈ grid.sources position, position ∈ grid.dependents source :=
    fun source member => (mem_sources_iff_mem_dependents plain).mp member
  rw [recalculated, order]
  apply isSettled_recomputeEach
  · intro member
    rcases List.mem_append.mp member with same | behind
    · exact distinct.2.1.1 same
    · rcases List.mem_flatMap.mp behind with ⟨turn, isLater, again⟩
      exact noMore turn isLater again
  · intro source member
    -- A turn of the source comes no later than the last turn of a source.
    have inTime : source ∈ grid.turns start → source ∈ earlier ∨ source = last := by
      intro turn
      rw [split] at turn
      rcases List.mem_append.mp turn with before | rest
      · exact .inl before
      · rcases List.mem_cons.mp rest with here | behind
        · exact .inr here
        · exact absurd (reads source member) (noMore source behind)
    have notFrom : ∀ turn, (turn = last ∨ turn ∈ later) → source ∉ grid.dependents turn := by
      intro turn after onTurn
      have turnMember : turn ∈ grid.turns start := by
        rw [split]
        exact List.mem_append_right _ (List.mem_cons.mpr after)
      have sourceTurn := mem_turns_of_mem_dependents turnMember onTurn
      exact (timely source member).not_mem_dependents split (inTime sourceTurn) after onTurn
    constructor
    · intro same
      exact notFrom last (.inl rfl) (same ▸ depends)
    · intro recomputed
      rcases List.mem_append.mp recomputed with same | behind
      · apply notFrom last (.inl rfl)
        rw [dependents]
        exact List.mem_append_right _ (List.mem_cons_of_mem _ same)
      · rcases List.mem_flatMap.mp behind with ⟨turn, isLater, onTurn⟩
        exact notFrom turn (.inr isLater) onTurn

/-- The start is settled if the sweep does not come back to it. -/
theorem isSettled_start (plain : (grid.get start).isPlain = true)
    (notSwept : start ∉ grid.swept start) : (grid.recalculated start).IsSettled start := by
  rw [recalculated, ← List.nil_append (start :: grid.swept start)]
  apply isSettled_recomputeEach notSwept
  intro source member
  have depends := (mem_sources_iff_mem_dependents plain).mp member
  constructor
  · intro same
    exact notSwept (mem_swept_of_mem_dependents (start_mem_turns start) (same ▸ depends))
  · intro swept
    exact notSwept (mem_swept_of_mem_dependents (mem_turns_of_mem_swept swept) depends)

/-- A recalculation settles every cell that reaches its start and whose sources
are timely. -/
theorem isSettled_recalculated (plain : grid.IsPlainFrom position)
    (timely : ∀ source ∈ grid.sources position, grid.IsTimelyFrom start source)
    (reaches : grid.Reaches position start) : (grid.recalculated start).IsSettled position := by
  by_cases swept : position ∈ grid.swept start
  · exact isSettled_of_mem_swept plain.here timely swept
  · rcases eq_or_mem_swept_of_reaches plain reaches with same | member
    · subst position
      exact isSettled_start plain.here swept
    · exact absurd member swept

/-- What a walk of dependents leads to reaches its start. -/
theorem Walk.reaches {length : Nat} (walk : grid.Walk start length position) :
    grid.Reaches position start := by
  induction walk with
  | start => exact .refl
  | step _ depends hypothesis => exact .head (mem_sources_of_mem_dependents depends) hypothesis

/-- A recalculation leaves a cell alone that does not reach its start. -/
theorem get_recalculated_of_not_reaches (distant : ¬ grid.Reaches position start) :
    (grid.recalculated start).get position = grid.get position := by
  apply get_recomputeEach_of_not_mem
  intro member
  apply distant
  rcases List.mem_cons.mp member with same | swept
  · exact same ▸ .refl
  · rcases mem_swept.mp swept with ⟨source, turn, depends⟩
    rcases exists_walk_of_mem_turns turn with ⟨length, walk⟩
    exact (walk.step depends).reaches

/-- Every cell that reaches the start shows its status after the recalculation. -/
theorem showsStatus_recalculated (plain : grid.IsPlainFrom position)
    (reaches : grid.Reaches position start) : (grid.recalculated start).ShowsStatus position := by
  apply showsStatus_recomputeEach_of_mem
  exact List.mem_cons.mpr (eq_or_mem_swept_of_reaches plain reaches)

end Grid
end Worksheet
