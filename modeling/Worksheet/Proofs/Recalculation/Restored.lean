import Mathlib.Data.Fintype.Card
import Mathlib.Data.Fintype.Prod
import Worksheet.Proofs.Recalculation.Soundness

namespace Worksheet

/-!
# One pass over all formulas

A sound grid need not be settled everywhere, since some cells may be left with a
number that is out of date.  Here such a grid is compared with a settled one of
the same texts.  Its steady cells, whose texts alone keep them up to date, already
show the same values.  Then all formulas are recomputed once, row by row.

In this pass a cell is recomputed after the cells that precede it and before
those that follow it.  So it comes to show the right value if each of its sources
is steady or both precedes it and comes to show the right value itself.  A source
that follows the cell and is not steady may be corrected by the pass too late.
-/

variable {size : Size}

/-! ## The order of a pass -/

namespace Position

/-- Row by row, one position comes before the other. -/
def Precedes (first second : Position size) : Prop :=
  first.row < second.row ∨ (first.row = second.row ∧ first.column < second.column)

theorem Precedes.asymm {first second : Position size} (before : first.Precedes second) :
    ¬ second.Precedes first := by
  rintro (row | ⟨sameRow, column⟩)
  · rcases before with other | ⟨same, _⟩ <;> omega
  · rcases before with other | ⟨same, otherColumn⟩ <;> omega

instance (first second : Position size) : Decidable (first.Precedes second) :=
  inferInstanceAs (Decidable (_ ∨ _))

instance : IsTrans (Position size) Precedes := by
  constructor
  rintro first second third (row | ⟨sameRow, column⟩) (row' | ⟨sameRow', column'⟩)
  · exact .inl (by omega)
  · exact .inl (by omega)
  · exact .inl (by omega)
  · exact .inr ⟨by omega, by omega⟩

instance : Finite (Position size) :=
  Finite.of_injective (fun position => (position.row, position.column))
    fun first second same => by
      cases first
      cases second
      cases same
      rfl

theorem wellFounded_precedes (size : Size) :
    WellFounded (Precedes : Position size → Position size → Prop) := by
  have irreflexive : Std.Irrefl (Precedes : Position size → Position size → Prop) :=
    ⟨fun _ before => before.asymm before⟩
  exact Finite.wellFounded_of_trans_of_irrefl _

end Position

theorem Size.pairwise_positions (size : Size) : size.positions.Pairwise Position.Precedes := by
  rw [positions, List.pairwise_flatMap]
  constructor
  · intro row _
    rw [List.pairwise_map]
    exact (List.pairwise_lt_finRange size.columns).imp fun before => .inr ⟨rfl, before⟩
  · refine (List.pairwise_lt_finRange size.rows).imp fun {first second} before => ?_
    intro here inFirst there inSecond
    obtain ⟨_, _, sameHere⟩ := List.mem_map.mp inFirst
    obtain ⟨_, _, sameThere⟩ := List.mem_map.mp inSecond
    subst here there
    exact .inl before

namespace Grid

variable {grid other : Grid size} {position source : Position size}

/-! ## Following references ends -/

/-- The cell reads the source and meets no loop. -/
def Feeds (grid : Grid size) (source position : Position size) : Prop :=
  grid.Reads position source ∧ ¬ grid.MeetsLoop position

/-- Without a loop, references lead on only finitely often. -/
theorem wellFounded_feeds (grid : Grid size) : WellFounded grid.Feeds := by
  have irreflexive : Std.Irrefl (Relation.TransGen grid.Feeds) := by
    constructor
    intro position chain
    have reads : Relation.TransGen (Function.swap grid.Reads) position position :=
      Relation.TransGen.mono (fun _ _ step => step.1) _ _ chain
    have loop : grid.MeetsLoop position := ⟨position, .refl, Relation.transGen_swap.mp reads⟩
    cases chain with
    | single step => exact step.2 loop
    | tail _ step => exact step.2 loop
  have chains : WellFounded (Relation.TransGen grid.Feeds) :=
    Finite.wellFounded_of_trans_of_irrefl _
  exact Subrelation.wf (fun step => Relation.TransGen.single step) chains

theorem not_meetsLoop_of_mishap?_eq_none (noMishap : grid.mishap? position = none) :
    ¬ grid.MeetsLoop position := by
  rw [← leadsIntoLoop_eq_true_iff]
  intro loop
  unfold mishap? at noMishap
  dsimp only at noMishap
  rw [if_pos loop] at noMishap
  split at noMishap <;> cases noMishap

theorem IsPlain.congr (plain : grid.IsPlain)
    (texts : ∀ position, (grid.get position).text = (other.get position).text) : other.IsPlain := by
  intro position
  rw [Cell.isPlain, ← Cell.references_congr (texts position)]
  exact plain position

/-! ## Steady cells -/

/-- The texts make sure that the cell is settled: its evaluation ends in a mishap,
or it reads timely cells only. -/
def IsSteady (grid : Grid size) (position : Position size) : Prop :=
  (grid.mishap? position).isSome = true ∨ grid.ReadsTimely position

theorem isSteady_of_literal (literal : (grid.get position).isFormula = false) :
    grid.IsSteady position := by
  right
  intro source chain
  obtain ⟨first, reads, _⟩ := Relation.TransGen.head'_iff.mp chain
  rw [Reads, sources, Cell.references, literal] at reads
  cases reads

theorem IsSteady.congr (steady : grid.IsSteady position)
    (agree : SameTextsFrom grid other position) : other.IsSteady position := by
  rcases steady with failed | timely
  · left
    rwa [← agree.mishap?_eq]
  · exact .inr (timely.congr agree)

/-- A cell that is settled in two grids of the same texts shows the same value, if
its sources do so or do not matter. -/
theorem value_eq_of_isSettled
    (texts : ∀ position, (grid.get position).text = (other.get position).text)
    (settled : grid.IsSettled position) (settledOther : other.IsSettled position)
    (values : (grid.get position).isFormula = true → grid.mishap? position = none →
      ∀ source ∈ grid.sources position, (grid.get source).value = (other.get source).value) :
    (grid.get position).value = (other.get position).value := by
  have agree : SameTextsFrom grid other position := .of_forall texts
  rw [settled, settledOther]
  cases formula : (grid.get position).isFormula with
  | false =>
    rw [due, due, ← Cell.isFormula_congr agree.here, formula]
    exact agree.here
  | true =>
    cases dictated : grid.mishap? position with
    | some both =>
      have formulaOther := (Cell.isFormula_congr agree.here).symm.trans formula
      rw [due_of_mishap? formula dictated,
        due_of_mishap? formulaOther (agree.mishap?_eq.symm.trans dictated)]
    | none => exact due_congr agree (values formula dictated)

section Comparing

variable (sound : grid.IsSound) (plain : grid.IsPlain)
  (texts : ∀ position, (grid.get position).text = (other.get position).text)
  (settledOther : ∀ position, other.IsSettled position)

include sound plain in
theorem IsSteady.isSettled (steady : grid.IsSteady position) : grid.IsSettled position := by
  rcases steady with failed | timely
  · apply (sound.status position (plain.isPlainFrom position)).isSettled
    intro _ noMishap
    rw [noMishap] at failed
    cases failed
  · exact sound.settled position (plain.isPlainFrom position) timely

include sound plain texts settledOther

/-- Steady cells of a sound grid are as in a settled grid of the same texts. -/
theorem IsSteady.value_eq (steady : grid.IsSteady position) :
    (grid.get position).value = (other.get position).value := by
  have readsTimely : ∀ position, grid.ReadsTimely position →
      (grid.get position).value = (other.get position).value := by
    intro position
    -- What a formula without a mishap reads meets no loop.
    induction position using grid.wellFounded_feeds.induction with
    | _ position hypothesis =>
      intro timely
      have settled := IsSteady.isSettled sound plain (.inr timely)
      apply value_eq_of_isSettled texts settled (settledOther position)
      intro _ noMishap source reads
      exact hypothesis source ⟨reads, not_meetsLoop_of_mishap?_eq_none noMishap⟩
        (timely.of_reads reads)
  rcases steady with failed | timely
  · apply value_eq_of_isSettled texts (IsSteady.isSettled sound plain (.inl failed))
      (settledOther position)
    intro _ noMishap
    rw [noMishap] at failed
    cases failed
  · exact readsTimely position timely

end Comparing

/-! ## Restored cells -/

/-- The cell is steady, or all its sources are restored, and those that are not
steady precede it. -/
inductive IsRestored (grid : Grid size) : Position size → Prop
  | steady {position : Position size} (steady : grid.IsSteady position) : IsRestored grid position
  | sources {position : Position size}
      (before : ∀ source ∈ grid.sources position,
        grid.IsSteady source ∨ source.Precedes position)
      (each : ∀ source ∈ grid.sources position, IsRestored grid source) : IsRestored grid position

/-- Where every reference to a formula points back, all cells are restored. -/
theorem isRestored_of_pointsBack
    (back : ∀ reader, ∀ source ∈ grid.sources reader,
      (grid.get source).isFormula = false ∨ source.Precedes reader)
    (position : Position size) : grid.IsRestored position := by
  induction position using (Position.wellFounded_precedes size).induction with
  | _ position hypothesis =>
    apply IsRestored.sources
    · intro source reads
      exact (back position source reads).imp_left isSteady_of_literal
    · intro source reads
      rcases back position source reads with literal | precedes
      · exact .steady (isSteady_of_literal literal)
      · exact hypothesis source precedes

theorem IsRestored.congr (restored : grid.IsRestored position)
    (texts : ∀ position, (grid.get position).text = (other.get position).text) :
    other.IsRestored position := by
  induction restored with
  | steady steady => exact .steady (steady.congr (.of_forall texts))
  | @sources position before _ hypothesis =>
    rw [sources_congr (texts position)] at before hypothesis
    exact .sources (fun source reads => (before source reads).imp_left
      fun steady => steady.congr (.of_forall texts)) hypothesis

section Pass

variable (sound : grid.IsSound) (plain : grid.IsPlain)
  (texts : ∀ position, (grid.get position).text = (other.get position).text)
  (settledOther : ∀ position, other.IsSettled position)

include sound plain texts settledOther

/-- Steady cells are as they should be at every time of a pass. -/
theorem IsSteady.value_eq_recomputeEach (steady : grid.IsSteady position)
    (positions : List (Position size)) :
    ((grid.recomputeEach positions).get position).value = (other.get position).value := by
  have textsAfter : ∀ position, ((grid.recomputeEach positions).get position).text =
      (grid.get position).text := text_recomputeEach positions
  have plainAfter := plain.congr fun position => (textsAfter position).symm
  have steadyAfter := steady.congr (.of_forall fun position => (textsAfter position).symm)
  exact IsSteady.value_eq (sound.recomputeEach positions) plainAfter
    (fun position => (textsAfter position).trans (texts position)) settledOther steadyAfter

/-- Recomputing all formulas of a sound grid gives every restored cell the value
that it has in a settled grid of the same texts. -/
theorem IsRestored.value_eq (restored : grid.IsRestored position) :
    ((grid.recomputeEach grid.formulaCells).get position).value = (other.get position).value := by
  have steadyAfter : ∀ {position}, grid.IsSteady position → ∀ positions,
      ((grid.recomputeEach positions).get position).value = (other.get position).value :=
    fun steady => IsSteady.value_eq_recomputeEach sound plain texts settledOther steady
  induction restored with
  | steady steady => exact steadyAfter steady grid.formulaCells
  | @sources position before _ hypothesis =>
    cases formula : (grid.get position).isFormula with
    | false => exact steadyAfter (isSteady_of_literal formula) grid.formulaCells
    | true =>
      obtain ⟨front, later, split⟩ := List.append_of_mem (grid.mem_formulaCells.mpr formula)
      have ordered : grid.formulaCells.Pairwise Position.Precedes :=
        size.pairwise_positions.filter _
      rw [split, List.pairwise_append, List.pairwise_cons] at ordered
      have behind := ordered.2.1.1
      have last : position ∉ later := fun member =>
        (behind position member).asymm (behind position member)
      rw [split, recomputeEach_append, recomputeEach_cons] at hypothesis ⊢
      -- What precedes the cell has had its turn, and keeps its value from then on.
      have values : ∀ source ∈ grid.sources position,
          ((grid.recomputeEach front).get source).value = (other.get source).value := by
        intro source reads
        rcases before source reads with steady | precedes
        · exact steadyAfter steady front
        · have notLater : source ∉ later := fun member => precedes.asymm (behind source member)
          have different : position ≠ source := by
            rintro rfl
            exact precedes.asymm precedes
          have shown := hypothesis source reads
          rwa [get_recomputeEach_of_not_mem notLater, recompute,
            get_setValue_of_ne _ _ different] at shown
      have texts' : ∀ position, ((grid.recomputeEach front).get position).text =
          (other.get position).text :=
        fun position => (text_recomputeEach front position).trans (texts position)
      rw [get_recomputeEach_of_not_mem last, value_recompute_self, settledOther position]
      apply due_congr (.of_forall texts')
      intro source reads
      rw [sources_congr (text_recomputeEach front position)] at reads
      exact values source reads

end Pass

end Grid
end Worksheet
