import Mathlib.Data.Set.Card
import Worksheet.Proofs.Recalculation.Restored

namespace Worksheet

/-!
# Repeated passes over all formulas

A pass recomputes the formulas row by row, whatever they refer to.  It corrects every
formula whose sources are correct before the pass, and it does no harm to a region of
settled cells that the cells outside do not feed.  So with every pass such a region
grows.

In a sound grid it begins with the literals and the formulas with a mishap.  The rank
of a cell is the number of formulas that it reaches.  A formula without a mishap has a
greater rank than its sources, so after as many passes as there are formulas the
region is the whole grid.
-/

variable {size : Size}

namespace Grid

variable {grid other : Grid size} {position source : Position size}

/-! ## The rank of a cell -/

/-- The cell is a formula without a mishap, so a number is due. -/
def HasNumber (grid : Grid size) (position : Position size) : Prop :=
  (grid.get position).isFormula = true ∧ grid.mishap? position = none

/-- The number of formulas that the cell reaches, itself included. -/
noncomputable def rank (grid : Grid size) (position : Position size) : Nat :=
  {formula | (grid.get formula).isFormula = true ∧ grid.Reaches position formula}.ncard

theorem HasNumber.congr (number : grid.HasNumber position)
    (texts : ∀ position, (grid.get position).text = (other.get position).text) :
    other.HasNumber position :=
  ⟨(Cell.isFormula_congr (texts position)).symm.trans number.1,
    (SameTextsFrom.of_forall texts).mishap?_eq.symm.trans number.2⟩

theorem rank_congr (texts : ∀ position, (grid.get position).text = (other.get position).text) :
    grid.rank position = other.rank position := by
  unfold rank
  congr 1
  ext formula
  rw [Set.mem_ofPred_eq, Set.mem_ofPred_eq, Cell.isFormula_congr (texts formula),
    (SameTextsFrom.of_forall texts).reaches_iff]

/-- What a formula without a mishap reads does not lead back to it. -/
theorem HasNumber.rank_lt (number : grid.HasNumber position)
    (reads : grid.Reads position source) : grid.rank source < grid.rank position := by
  have noLoop := not_meetsLoop_of_mishap?_eq_none number.2
  apply Set.ncard_lt_ncard ⟨fun formula member => ?_, fun all => ?_⟩ (Set.toFinite _)
  · exact ⟨member.1, .head reads member.2⟩
  · have itself := all (show position ∈ _ from ⟨number.1, .refl⟩)
    exact noLoop ⟨position, .refl, .head' reads itself.2⟩

theorem rank_le_length (grid : Grid size) (position : Position size) :
    grid.rank position ≤ grid.formulaCells.length := by
  have among : {formula | (grid.get formula).isFormula = true ∧ grid.Reaches position formula} ⊆
      (grid.formulaCells.toFinset : Set (Position size)) := by
    intro formula member
    exact Finset.mem_coe.mpr (List.mem_toFinset.mpr (grid.mem_formulaCells.mpr member.1))
  calc grid.rank position
    _ ≤ (grid.formulaCells.toFinset : Set (Position size)).ncard :=
      Set.ncard_le_ncard among (Set.toFinite _)
    _ = grid.formulaCells.toFinset.card := Set.ncard_coe_finset _
    _ ≤ grid.formulaCells.length := List.toFinset_card_le _

/-! ## Regions that stand -/

/-- The cells of the region are settled, and whatever numbers they are due depend only
on the region. -/
structure Stands (grid : Grid size) (region : Position size → Prop) : Prop where
  settled : ∀ position, region position → grid.IsSettled position
  closed : ∀ position, region position → grid.HasNumber position →
    ∀ source ∈ grid.sources position, region source

theorem IsPlain.recomputeEach (plain : grid.IsPlain) (positions : List (Position size)) :
    (grid.recomputeEach positions).IsPlain :=
  plain.congr fun cell => (text_recomputeEach positions cell).symm

/-- Where no number is due, a sound grid is settled. -/
theorem IsSound.isSettled_of_not_hasNumber (sound : grid.IsSound) (plain : grid.IsPlain)
    (without : ¬ grid.HasNumber position) : grid.IsSettled position := by
  apply (sound.status position (plain.isPlainFrom position)).isSettled
  exact fun formula noMishap => without ⟨formula, noMishap⟩

namespace Stands

variable {region : Position size → Prop} (sound : grid.IsSound) (plain : grid.IsPlain)
  (stands : grid.Stands region)
include sound plain stands

/-- Recomputing any cell does no harm to the region.  If the cell is in it, nothing
changes; otherwise the region does not read it. -/
theorem recompute (position : Position size) : (grid.recompute position).Stands region := by
  by_cases inside : region position
  · rw [recompute_eq_self (stands.settled position inside)]
    exact stands
  · have texts : ∀ cell, ((grid.recompute position).get cell).text = (grid.get cell).text :=
      fun _ => text_recompute _
    have kept : ∀ cell, region cell →
        (grid.get cell).value = ((grid.recompute position).get cell).value := by
      intro cell member
      have different : position ≠ cell := by
        rintro rfl
        exact inside member
      rw [Grid.recompute, get_setValue_of_ne grid _ different]
    constructor
    · intro cell member
      by_cases number : grid.HasNumber cell
      · apply (stands.settled cell member).congr (.of_forall fun cell => (texts cell).symm)
        · exact fun source reads => kept source (stands.closed cell member number source reads)
        · exact kept cell member
      · apply (sound.recompute position).isSettled_of_not_hasNumber (plain.recomputeEach [position])
        exact fun numberAfter => number (numberAfter.congr texts)
    · intro cell member number source reads
      rw [sources_congr (texts cell)] at reads
      exact stands.closed cell member (number.congr texts) source reads

theorem recomputeEach (positions : List (Position size)) :
    (grid.recomputeEach positions).Stands region := by
  induction positions generalizing grid with
  | nil => exact stands
  | cons first later hypothesis =>
    exact hypothesis (sound.recompute first) (plain.recomputeEach [first])
      (stands.recompute sound plain first)

/-- A recomputed cell joins the region if it is due a number and reads nothing else. -/
theorem recompute_joining (number : grid.HasNumber position)
    (reads : ∀ source ∈ grid.sources position, region source) :
    (grid.recompute position).Stands fun cell => region cell ∨ cell = position := by
  have texts : ∀ cell, ((grid.recompute position).get cell).text = (grid.get cell).text :=
    fun _ => text_recompute _
  have before := stands.recompute sound plain position
  constructor
  · intro cell member
    rcases member with inside | same
    · exact before.settled cell inside
    · subst cell
      rw [IsSettled, value_recompute_self]
      apply due_congr (.of_forall fun cell => (texts cell).symm)
      intro source member
      have different : position ≠ source := by
        rintro rfl
        exact not_meetsLoop_of_mishap?_eq_none number.2 ⟨position, .refl, .single member⟩
      rw [Grid.recompute, get_setValue_of_ne grid _ different]
  · intro cell member numberAfter source fed
    left
    rcases member with inside | same
    · exact before.closed cell inside numberAfter source fed
    · subst cell
      rw [sources_congr (texts position)] at fed
      exact reads source fed

/-- A pass extends the region by all cells whose numbers depend on nothing else. -/
theorem pass {wider : Position size → Prop}
    (within : ∀ position, region position → wider position)
    (reads : ∀ position, wider position → grid.HasNumber position →
      ∀ source ∈ grid.sources position, region source) :
    (grid.recomputeEach grid.formulaCells).Stands wider := by
  have texts : ∀ positions cell, ((grid.recomputeEach positions).get cell).text =
      (grid.get cell).text := text_recomputeEach
  constructor
  · intro position member
    by_cases number : grid.HasNumber position
    · obtain ⟨front, later, split⟩ := List.append_of_mem (grid.mem_formulaCells.mpr number.1)
      have numberThen : (grid.recomputeEach front).HasNumber position :=
        number.congr fun cell => (texts front cell).symm
      have readsThen : ∀ source ∈ (grid.recomputeEach front).sources position, region source := by
        rw [sources_congr (texts front position)]
        exact reads position member number
      have joined := (stands.recomputeEach sound plain front).recompute_joining
        (sound.recomputeEach front) (plain.recomputeEach front) numberThen readsThen
      have kept := joined.recomputeEach ((sound.recomputeEach front).recompute position)
        ((plain.recomputeEach front).recomputeEach [position]) later
      rw [split, recomputeEach_append, recomputeEach_cons]
      exact kept.settled position (.inr rfl)
    · apply (sound.recomputeEach _).isSettled_of_not_hasNumber (plain.recomputeEach _)
      exact fun numberAfter => number (numberAfter.congr (texts _))
  · intro position member numberAfter source fed
    rw [sources_congr (texts _ position)] at fed
    exact within source (reads position member (numberAfter.congr (texts _)) source fed)

end Stands

/-! ## Repeating the pass -/

/-- The grid after the given number of passes. -/
def passed (grid : Grid size) : Nat → Grid size
  | 0 => grid
  | count + 1 => (grid.recomputeEach grid.formulaCells).passed count

/-- If the cell is due a number, its rank is within the bound. -/
def IsWithin (grid : Grid size) (bound : Nat) (position : Position size) : Prop :=
  grid.HasNumber position → grid.rank position ≤ bound

theorem isWithin_congr (texts : ∀ position, (grid.get position).text = (other.get position).text) :
    grid.IsWithin = other.IsWithin := by
  funext bound position
  have number : grid.HasNumber position ↔ other.HasNumber position :=
    ⟨fun number => number.congr texts, fun number => number.congr fun cell => (texts cell).symm⟩
  rw [IsWithin, IsWithin, rank_congr texts, number]

/-- In a sound grid the cells that are due no number stand; every other cell reaches
itself and has a rank. -/
theorem IsSound.stands_isWithin_zero (sound : grid.IsSound) (plain : grid.IsPlain) :
    grid.Stands (grid.IsWithin 0) := by
  have noNumber : ∀ position, grid.IsWithin 0 position → ¬ grid.HasNumber position := by
    intro position within number
    have positive : 0 < grid.rank position :=
      (Set.ncard_pos (Set.toFinite _)).mpr ⟨position, number.1, .refl⟩
    exact absurd (within number) (Nat.not_le.mpr positive)
  constructor
  · exact fun position within => sound.isSettled_of_not_hasNumber plain (noNumber position within)
  · exact fun position within number => absurd number (noNumber position within)

theorem IsSound.stands_passed (sound : grid.IsSound) (plain : grid.IsPlain) {bound : Nat}
    (stands : grid.Stands (grid.IsWithin bound)) (count : Nat) :
    (grid.passed count).Stands (grid.IsWithin (bound + count)) := by
  induction count generalizing grid bound with
  | zero => exact stands
  | succ count hypothesis =>
    have texts : ∀ position, ((grid.recomputeEach grid.formulaCells).get position).text =
        (grid.get position).text := text_recomputeEach _
    have onward : (grid.recomputeEach grid.formulaCells).Stands (grid.IsWithin (bound + 1)) := by
      refine stands.pass sound plain (fun position within number => ?_)
        fun position within number source reads _ => ?_
      · exact Nat.le_succ_of_le (within number)
      · exact Nat.le_of_lt_succ (Nat.lt_of_lt_of_le (number.rank_lt reads) (within number))
    rw [← isWithin_congr texts] at onward ⊢
    have reached := hypothesis (sound.recomputeEach _) (plain.recomputeEach _) onward
    rwa [Nat.add_right_comm, Nat.add_assoc] at reached

/-- As many passes as there are formulas settle a sound grid. -/
theorem IsSound.isSettled_passed (sound : grid.IsSound) (plain : grid.IsPlain) {count : Nat}
    (enough : grid.formulaCells.length ≤ count) (position : Position size) :
    (grid.passed count).IsSettled position := by
  apply (sound.stands_passed plain (sound.stands_isWithin_zero plain) count).settled
  intro _
  rw [Nat.zero_add]
  exact (grid.rank_le_length position).trans enough

end Grid
end Worksheet
