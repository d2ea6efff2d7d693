import Worksheet.Proofs.Session.Invariant

namespace Worksheet

/-!
# What a sweep covers

Evaluation follows the tokens of a formula to the cells that they resolve to; a
sweep follows the dependents of a cell.  The two relations agree on plain tokens,
and only there: a token with a leading zero or with digits of another script
resolves, but nobody depends on a cell by it.

So a sweep recomputes every formula that holds a plain token for its start or for
a cell that it has changed.  A formula that reads such a cell by another
spelling is left alone.
-/

variable {size : Size}

namespace Session

/-- The dependents of a cell are the formulas with a plain token for it, so where
the tokens of a formula are plain it depends on exactly what it reads.  Unless the
session is followed, a sweep recomputes the dependents of its start and of every
cell that it changes. -/
theorem dependents_agree (session : Session size) (reader source : Position size) :
    (reader ∈ session.sheet.grid.dependents source ↔
      ∃ token ∈ (session.sheet.grid.get reader).references,
        Reference.isPlain token = true ∧ size.resolve? token = some source) ∧
    ((session.sheet.grid.get reader).isPlain = true →
      ((∃ token ∈ (session.sheet.grid.get reader).references,
          size.resolve? token = some source) ↔
        reader ∈ session.sheet.grid.dependents source)) ∧
    (session.IsQuiet → ∀ reactions start, ∃ recomputed after,
      (Engine.updateDependents (Engine.announce reactions) start).runFrom session =
          (.ok recomputed, after) ∧
        (source = start ∨
            (after.sheet.grid.get source).value ≠ (session.sheet.grid.get source).value →
          (∃ token ∈ (session.sheet.grid.get reader).references,
              Reference.isPlain token = true ∧ size.resolve? token = some source) →
            reader ∈ recomputed)) := by
  refine ⟨Grid.mem_dependents_iff_plain, ?_, ?_⟩
  · intro plain
    rw [← Grid.mem_sources]
    exact Grid.mem_sources_iff_mem_dependents plain
  · intro quiet reactions start
    refine ⟨_, _, Engine.runFrom_updateDependents quiet reactions start, ?_⟩
    intro changed reads
    have depends := Grid.mem_dependents_iff_plain.mpr reads
    apply Grid.mem_swept_of_mem_dependents _ depends
    rcases changed with same | changed
    · subst source
      exact Grid.start_mem_turns start
    · apply Grid.mem_turns_of_mem_swept
      by_contra absent
      apply changed
      rw [grid_updatedEach, Grid.get_recomputeEach_of_not_mem absent]

/-- A formula with the plain name of the first cell. -/
def plainReader : List Operation :=
  [.assignText "A1" (.text "1"), .assignText "B1" (.text "=A1")]

theorem dependents_agree_after_plainReader :
    ∃ recomputed after,
      (Engine.updateDependents (Engine.announce 0) ⟨⟨0, by decide⟩, ⟨0, by decide⟩⟩).runFrom
          ((fresh .twoCells).after plainReader) = (.ok recomputed, after) ∧
        ⟨⟨0, by decide⟩, ⟨1, by decide⟩⟩ ∈ recomputed := by
  have quiet := ((isSound_fresh .twoCells).after
    (by decide : ∀ operation ∈ plainReader, operation.staysQuiet = true)).quiet
  rcases dependents_agree ((fresh .twoCells).after plainReader)
      ⟨⟨0, by decide⟩, ⟨1, by decide⟩⟩ ⟨⟨0, by decide⟩, ⟨0, by decide⟩⟩ with ⟨_, _, covered⟩
  rcases covered quiet 0 ⟨⟨0, by decide⟩, ⟨0, by decide⟩⟩ with ⟨recomputed, after, ran, member⟩
  refine ⟨recomputed, after, ran, member (.inl rfl) ?_⟩
  decide +kernel

/-- A formula that spells the first row with a leading zero. -/
def paddedReader : List Operation :=
  [.assignText "B1" (.text "=A01")]

theorem not_dependent_after_paddedReader :
    (∃ token ∈ (((fresh .twoCells).after paddedReader).sheet.grid.get
        ⟨⟨0, by decide⟩, ⟨1, by decide⟩⟩).references,
      Size.twoCells.resolve? token = some ⟨⟨0, by decide⟩, ⟨0, by decide⟩⟩) ∧
    ⟨⟨0, by decide⟩, ⟨1, by decide⟩⟩ ∉
      ((fresh .twoCells).after paddedReader).sheet.grid.dependents
        ⟨⟨0, by decide⟩, ⟨0, by decide⟩⟩ := by
  decide +kernel

end Session
end Worksheet
