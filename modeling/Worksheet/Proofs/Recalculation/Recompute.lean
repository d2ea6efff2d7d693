import Mathlib.Data.List.Basic
import Mathlib.Data.List.Induction
import Worksheet.Proofs.Recalculation.Outcome

namespace Worksheet

open Formula

/-!
# Recomputing cells one after the other

Recomputing a cell stores its due value and leaves all texts alone.  After any
list of cells has been recomputed, every cell of the list shows the status that
the texts dictate; a cell is settled, that is, it shows what it is due, if
neither it nor one of its sources is recomputed after its last turn.
-/

variable {size : Size}

namespace Grid

/-- Store the due value of a cell. -/
def recompute (grid : Grid size) (position : Position size) : Grid size :=
  grid.setValue position (grid.due position)

/-- Recompute the cells of a list in its order. -/
def recomputeEach (grid : Grid size) (positions : List (Position size)) : Grid size :=
  positions.foldl recompute grid

/-- The cell shows the value that it is due. -/
def IsSettled (grid : Grid size) (position : Position size) : Prop :=
  (grid.get position).value = grid.due position

instance (grid : Grid size) (position : Position size) : Decidable (grid.IsSettled position) :=
  inferInstanceAs (Decidable (_ = _))

/-- The cell shows its text, the mishap that the texts dictate, or some number. -/
structure ShowsStatus (grid : Grid size) (position : Position size) : Prop where
  literal : (grid.get position).isFormula = false →
    (grid.get position).value = (grid.get position).text
  failed : (grid.get position).isFormula = true → ∀ mishap detail,
    grid.mishap? position = some (mishap, detail) →
      (grid.get position).value = (Outcome.failed mishap detail).display
  number : (grid.get position).isFormula = true → grid.mishap? position = none →
    ∃ number, (grid.get position).value = Number.display number

variable {grid : Grid size} {position : Position size}

@[simp] theorem recomputeEach_nil : grid.recomputeEach [] = grid := rfl

@[simp] theorem recomputeEach_cons (later : List (Position size)) :
    grid.recomputeEach (position :: later) = (grid.recompute position).recomputeEach later := rfl

theorem recomputeEach_append (earlier later : List (Position size)) :
    grid.recomputeEach (earlier ++ later) = (grid.recomputeEach earlier).recomputeEach later :=
  List.foldl_append

@[simp] theorem text_recompute (other : Position size) :
    ((grid.recompute position).get other).text = (grid.get other).text :=
  grid.text_setValue position other _

@[simp] theorem text_recomputeEach (positions : List (Position size)) (other : Position size) :
    ((grid.recomputeEach positions).get other).text = (grid.get other).text := by
  induction positions generalizing grid with
  | nil => rfl
  | cons first later hypothesis => rw [recomputeEach_cons, hypothesis, text_recompute]

theorem value_recompute_self :
    ((grid.recompute position).get position).value = grid.due position :=
  grid.value_setValue_self position _

/-- Only the cells of the list change. -/
theorem get_recomputeEach_of_not_mem {positions : List (Position size)}
    (absent : position ∉ positions) :
    (grid.recomputeEach positions).get position = grid.get position := by
  induction positions generalizing grid with
  | nil => rfl
  | cons first later hypothesis =>
    rw [List.mem_cons, not_or] at absent
    rw [recomputeEach_cons, hypothesis absent.2]
    exact grid.get_setValue_of_ne _ (Ne.symm absent.1)

/-- Recomputing a settled cell changes nothing. -/
theorem recompute_eq_self (settled : grid.IsSettled position) : grid.recompute position = grid :=
  grid.setValue_eq_self position settled

/-! ## Status -/

/-- A value that was due while the texts were what they are shows the status. -/
theorem showsStatus_of_due {former : Grid size}
    (agree : SameTextsFrom former grid position)
    (value : (grid.get position).value = former.due position) : grid.ShowsStatus position := by
  have formulaEq := Cell.isFormula_congr agree.here
  constructor
  · intro literal
    rw [value, due, formulaEq, literal, ← agree.here]
    exact if_neg Bool.false_ne_true
  · intro formula mishap detail dictated
    rw [value]
    exact due_of_mishap? (formulaEq.trans formula) (agree.mishap?_eq.trans dictated)
  · intro formula noMishap
    rw [← agree.mishap?_eq] at noMishap
    rw [value, due, if_pos (formulaEq.trans formula)]
    rcases former.outcome_eq position with ⟨mishap, detail, found, _⟩ | ⟨_, number, ended⟩
    · rw [noMishap] at found
      cases found
    · exact ⟨number, by rw [ended, Outcome.display]⟩

/-- The status is a matter of the texts in reach and of the value of the cell. -/
theorem ShowsStatus.congr {other : Grid size} (status : grid.ShowsStatus position)
    (agree : SameTextsFrom grid other position)
    (value : (other.get position).value = (grid.get position).value) :
    other.ShowsStatus position := by
  rcases status with ⟨literal, failed, number⟩
  constructor
  · rwa [← Cell.isFormula_congr agree.here, value, ← agree.here]
  · rwa [← Cell.isFormula_congr agree.here, value, ← agree.mishap?_eq]
  · rwa [← Cell.isFormula_congr agree.here, value, ← agree.mishap?_eq]

theorem showsStatus_recompute_self : (grid.recompute position).ShowsStatus position :=
  showsStatus_of_due (.of_forall fun _ => (text_recompute _).symm) value_recompute_self

/-- Recomputing any cell keeps the status of every cell. -/
theorem ShowsStatus.recompute (status : grid.ShowsStatus position) (other : Position size) :
    (grid.recompute other).ShowsStatus position := by
  by_cases same : other = position
  · subst other
    exact showsStatus_recompute_self
  · apply status.congr (.of_forall fun _ => (text_recompute _).symm)
    rw [Grid.recompute, grid.get_setValue_of_ne _ same]

/-- Every recomputed cell shows its status afterwards. -/
theorem showsStatus_recomputeEach_of_mem {positions : List (Position size)}
    (member : position ∈ positions) : (grid.recomputeEach positions).ShowsStatus position := by
  induction positions using List.reverseRecOn with
  | nil => cases member
  | append_singleton earlier last hypothesis =>
    rw [recomputeEach_append, recomputeEach_cons, recomputeEach_nil]
    rcases List.mem_append.mp member with before | final
    · exact (hypothesis before).recompute last
    · rw [List.mem_singleton.mp final]
      exact showsStatus_recompute_self

/-- A cell that shows its status is settled unless a number is due. -/
theorem ShowsStatus.isSettled (status : grid.ShowsStatus position)
    (noNumber : (grid.get position).isFormula = true → grid.mishap? position ≠ none) :
    grid.IsSettled position := by
  cases formula : (grid.get position).isFormula with
  | false =>
    rw [IsSettled, status.literal formula, due, formula]
    exact (if_neg Bool.false_ne_true).symm
  | true =>
    cases dictated : grid.mishap? position with
    | none => exact absurd dictated (noNumber formula)
    | some both =>
      rw [IsSettled, status.failed formula both.1 both.2 dictated, due_of_mishap? formula dictated]

/-! ## Settled cells -/

/-- Being settled is a matter of the texts in reach, of the values of the sources
and of the value of the cell. -/
theorem IsSettled.congr {other : Grid size} (settled : grid.IsSettled position)
    (agree : SameTextsFrom grid other position)
    (values : ∀ source ∈ grid.sources position,
      (grid.get source).value = (other.get source).value)
    (value : (grid.get position).value = (other.get position).value) :
    other.IsSettled position := by
  rw [IsSettled, ← value, ← due_congr agree values]
  exact settled

/-- A cell is settled if its sources do not change after its last turn. -/
theorem isSettled_recomputeEach {earlier later : List (Position size)}
    (last : position ∉ later)
    (rest : ∀ source ∈ grid.sources position, source ≠ position ∧ source ∉ later) :
    (grid.recomputeEach (earlier ++ position :: later)).IsSettled position := by
  rw [recomputeEach_append, recomputeEach_cons]
  generalize reached : grid.recomputeEach earlier = before
  have texts : ∀ other, (grid.get other).text = (before.get other).text := by
    intro other
    rw [← reached, text_recomputeEach]
  have kept : ∀ source ∈ grid.sources position,
      ((before.recompute position).recomputeEach later).get source = before.get source := by
    intro source member
    rw [get_recomputeEach_of_not_mem (rest source member).2]
    exact before.get_setValue_of_ne _ (Ne.symm (rest source member).1)
  rw [IsSettled, get_recomputeEach_of_not_mem last, value_recompute_self]
  apply due_congr (.of_forall fun _ => by rw [text_recomputeEach, text_recompute])
  intro source member
  rw [kept source (by rwa [sources_congr (texts position)])]

end Grid
end Worksheet
