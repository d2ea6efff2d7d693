import Mathlib.Data.List.Nodup
import Mathlib.Data.List.Perm.Subperm
import Mathlib.Logic.Relation
import Worksheet.Grid.Loop

namespace Worksheet

/-!
# The search for loops is exact

The search answers yes exactly when some cell that can be reached from the start
lies on a loop of references.  No spelling of the tokens is assumed: a reference
is whatever a token resolves to.

An answer of yes comes from a cell that is met again on its own branch, so the
branch closes a loop; the depth is never exhausted, because a branch holds no
cell twice.  An answer of no leaves a list of finished cells none of which meets
a loop, and a cell is only finished when all its sources are.
-/

variable {size : Size}

namespace Size

theorem length_positions (size : Size) : size.positions.length = size.cellCount := by
  simp only [positions, List.length_flatMap, List.length_map, List.length_finRange,
    List.map_const', List.sum_replicate_nat, cellCount]

/-- No list of different positions is longer than the number of cells. -/
theorem length_le_cellCount {positions : List (Position size)} (distinct : positions.Nodup) :
    positions.length ≤ size.cellCount := by
  rw [← size.length_positions]
  exact (distinct.subperm fun position _ => size.mem_positions position).length_le

end Size

namespace Grid

/-- One cell reads another when a token of it resolves to the other. -/
def Reads (grid : Grid size) (reader source : Position size) : Prop :=
  source ∈ grid.sources reader

/-- A cell reaches those that chains of references from it lead to, and itself. -/
def Reaches (grid : Grid size) : Position size → Position size → Prop :=
  Relation.ReflTransGen grid.Reads

/-- A chain of one or more references leads from the cell back to it. -/
def OnLoop (grid : Grid size) (position : Position size) : Prop :=
  Relation.TransGen grid.Reads position position

/-- The cell reaches a loop of references. -/
def MeetsLoop (grid : Grid size) (position : Position size) : Prop :=
  ∃ passed, grid.Reaches position passed ∧ grid.OnLoop passed

variable {grid : Grid size}

/-- What leads into a loop does so through one of its sources. -/
theorem MeetsLoop.exists_source {position : Position size} (meets : grid.MeetsLoop position) :
    ∃ source, grid.Reads position source ∧ grid.MeetsLoop source := by
  rcases meets with ⟨passed, reaches, loop⟩
  rcases Relation.ReflTransGen.cases_head reaches with same | ⟨source, reads, rest⟩
  · subst passed
    rcases Relation.TransGen.head'_iff.mp loop with ⟨source, reads, back⟩
    exact ⟨source, reads, position, back, loop⟩
  · exact ⟨source, reads, passed, rest, loop⟩

theorem MeetsLoop.of_reads {reader source : Position size} (reads : grid.Reads reader source)
    (meets : grid.MeetsLoop source) : grid.MeetsLoop reader := by
  rcases meets with ⟨passed, reaches, loop⟩
  exact ⟨passed, Relation.ReflTransGen.head reads reaches, loop⟩

/-- How the search goes on from a cell to one of its sources. -/
private def visitSource (grid : Grid size) (depth : Nat) (branch : List (Position size))
    (finished : List (Position size)) (source : Position size) : Option (List (Position size)) :=
  if finished.contains source then some finished
  else if branch.contains source then none
  else grid.visit depth branch finished source

private theorem visit_succ (depth : Nat) (branch finished : List (Position size))
    (position : Position size) :
    grid.visit (depth + 1) branch finished position =
      ((grid.sources position).foldlM (visitSource grid depth (position :: branch))
        finished).map (position :: ·) := by
  rw [visit]
  congr 2
  funext before source
  simp only [visitSource, List.contains_iff_mem]

/-- A fold that gives up does so at one of the elements. -/
private theorem exists_of_foldlM_eq_none {α β : Type} {step : β → α → Option β} {elements : List α}
    {start : β} (failed : elements.foldlM step start = none) :
    ∃ element ∈ elements, ∃ state, step state element = none := by
  induction elements generalizing start with
  | nil => cases failed
  | cons element later hypothesis =>
    rw [List.foldlM_cons] at failed
    cases next : step start element with
    | none => exact ⟨element, List.mem_cons_self, start, next⟩
    | some state =>
      rw [next] at failed
      rcases hypothesis failed with ⟨found, member, at_⟩
      exact ⟨found, List.mem_cons_of_mem element member, at_⟩

/-- A search that gives up has met a loop.  The branch holds cells that lead to
the present one, no cell twice, and the depth that is left covers all others. -/
theorem meetsLoop_of_visit_eq_none {depth : Nat} {branch finished : List (Position size)}
    {position : Position size} (distinct : (position :: branch).Nodup)
    (deep : size.cellCount < depth + branch.length)
    (passed : ∀ earlier ∈ branch, Relation.TransGen grid.Reads earlier position)
    (failed : grid.visit depth branch finished position = none) : grid.MeetsLoop position := by
  induction depth generalizing branch finished position with
  | zero =>
    have bound := Size.length_le_cellCount distinct
    rw [List.length_cons] at bound
    omega
  | succ depth hypothesis =>
    rw [visit_succ, Option.map_eq_none_iff] at failed
    rcases exists_of_foldlM_eq_none failed with ⟨source, reads, state, gaveUp⟩
    have leads : ∀ earlier ∈ position :: branch, Relation.TransGen grid.Reads earlier source := by
      intro earlier member
      rcases List.mem_cons.mp member with same | before
      · subst earlier
        exact .single reads
      · exact .tail (passed earlier before) reads
    simp only [visitSource, List.contains_iff_mem] at gaveUp
    split at gaveUp
    · cases gaveUp
    · split at gaveUp
      · next again => exact .of_reads reads ⟨source, .refl, leads source again⟩
      · next fresh =>
        refine .of_reads reads (hypothesis (List.nodup_cons.mpr ⟨fresh, distinct⟩) ?_ leads gaveUp)
        rw [List.length_cons]
        omega

/-- A fold whose steps keep a property and note their element notes them all. -/
private theorem all_mem_of_foldlM_eq_some {α : Type} {keeps : List α → Prop}
    {step : List α → α → Option (List α)}
    (noted : ∀ state element next, keeps state → step state element = some next →
      keeps next ∧ state ⊆ next ∧ element ∈ next)
    {elements start result : List α} (initial : keeps start)
    (ended : elements.foldlM step start = some result) :
    keeps result ∧ start ⊆ result ∧ ∀ element ∈ elements, element ∈ result := by
  induction elements generalizing start with
  | nil =>
    cases ended
    exact ⟨initial, fun _ member => member, fun _ member => nomatch member⟩
  | cons element later hypothesis =>
    rw [List.foldlM_cons] at ended
    cases next : step start element with
    | none => rw [next] at ended; cases ended
    | some state =>
      rw [next] at ended
      rcases noted start element state initial next with ⟨kept, grown, member⟩
      rcases hypothesis kept ended with ⟨last, more, rest⟩
      refine ⟨last, fun _ old => more (grown old), ?_⟩
      intro other listed
      rcases List.mem_cons.mp listed with same | behind
      · subst other
        exact more member
      · exact rest other behind

/-- No finished cell meets a loop, if that was so before the visit. -/
theorem not_meetsLoop_of_visit_eq_some {depth : Nat} {branch finished result : List (Position size)}
    {position : Position size} (sound : ∀ earlier ∈ finished, ¬ grid.MeetsLoop earlier)
    (ended : grid.visit depth branch finished position = some result) :
    (∀ earlier ∈ result, ¬ grid.MeetsLoop earlier) ∧ finished ⊆ result ∧ position ∈ result := by
  induction depth generalizing branch finished position result with
  | zero => cases ended
  | succ depth hypothesis =>
    rw [visit_succ, Option.map_eq_some_iff] at ended
    rcases ended with ⟨state, folded, same⟩
    subst result
    have noted : ∀ before source after,
        (∀ earlier ∈ before, ¬ grid.MeetsLoop earlier) →
        visitSource grid depth (position :: branch) before source = some after →
        (∀ earlier ∈ after, ¬ grid.MeetsLoop earlier) ∧ before ⊆ after ∧ source ∈ after := by
      intro before source after soundBefore visited
      simp only [visitSource, List.contains_iff_mem] at visited
      split at visited
      · next member =>
        cases visited
        exact ⟨soundBefore, fun _ old => old, member⟩
      · split at visited
        · cases visited
        · exact hypothesis soundBefore visited
    rcases all_mem_of_foldlM_eq_some noted sound folded with ⟨soundState, grown, all⟩
    refine ⟨?_, fun _ old => List.mem_cons_of_mem position (grown old), List.mem_cons_self⟩
    intro earlier member
    rcases List.mem_cons.mp member with same | before
    · subst earlier
      intro meets
      rcases meets.exists_source with ⟨source, reads, further⟩
      exact soundState source (all source reads) further
    · exact soundState earlier before

/-- The search says yes exactly when a loop can be reached. -/
theorem leadsIntoLoop_eq_true_iff {position : Position size} :
    grid.leadsIntoLoop position = true ↔ grid.MeetsLoop position := by
  rw [leadsIntoLoop, Option.isNone_iff_eq_none]
  constructor
  · exact meetsLoop_of_visit_eq_none (List.nodup_singleton position) (by simp) (by simp)
  · intro meets
    cases ended : grid.visit (size.cellCount + 1) [] [] position with
    | none => rfl
    | some result =>
      rcases not_meetsLoop_of_visit_eq_some (by simp) ended with ⟨sound, _, member⟩
      exact absurd meets (sound position member)

end Grid
end Worksheet
