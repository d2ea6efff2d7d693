import Worksheet.Proofs.Recalculation.Outcome
import Worksheet.Proofs.Recalculation.Schedule

namespace Worksheet

/-!
# Cells that have their turn in time

In a sweep a cell is recomputed with every turn of a cell that it depends on, but
it has one turn of its own, at which its dependents are recomputed.  It is timely
if, in the sweep from any start, none of the cells that it depends on has a turn
behind its own.  A timely cell therefore does not change any more after its
dependents were recomputed for the last time.

Whether a cell is timely is a matter of the texts that it reaches.  Only these
bring a cell in its reach into the queue, so the order in which the cells in its
reach have their turns is not affected by the rest of the grid.

Distances are a sufficient criterion.  A cell is timely in the sweep from a start
if all walks from there to it have the same length.  The criterion is not necessary:
where the lengths differ the order of the rows and columns may help.
-/

variable {size : Size}

namespace Grid

/-! ## The turns within a region -/

/-- What enters the queue within a region are the followers in it that have not
entered before. -/
theorem filter_fresh (region : Position size → Bool) (followers entered : List (Position size)) :
    (followers.filter fun follower => !entered.contains follower).filter region =
      (followers.filter region).filter fun follower =>
        !(entered.filter region).contains follower := by
  rw [List.filter_filter, List.filter_filter]
  apply List.filter_congr
  intro follower _
  cases within : region follower with
  | false => simp
  | true => simp [within]

/-- A region that is only entered from within has a schedule of its own. -/
theorem filter_schedule {followers : Position size → List (Position size)}
    {region : Position size → Bool} (distinct : ∀ source, (followers source).Nodup)
    (closed : ∀ source, region source = false → (followers source).filter region = [])
    {steps stepsWithin : Nat} {queue entered : List (Position size)}
    (enough : IsEnough steps queue entered)
    (enoughWithin : IsEnough stepsWithin (queue.filter region) (entered.filter region)) :
    (schedule followers steps queue entered).filter region =
      schedule (fun source => (followers source).filter region) stepsWithin
        (queue.filter region) (entered.filter region) := by
  induction steps generalizing stepsWithin queue entered with
  | zero =>
    rw [enough.queue_eq_nil]
    cases stepsWithin <;> rfl
  | succ steps hypothesis =>
    cases queue with
    | nil => cases stepsWithin <;> rfl
    | cons position queue =>
      have next := enough.next (distinct position)
      rw [schedule]
      cases within : region position with
      | false =>
        have noFresh : ((followers position).filter fun follower =>
            !entered.contains follower).filter region = [] := by
          rw [filter_fresh, closed position within, List.filter_nil]
        have onward := @hypothesis stepsWithin _ _ next
        rw [List.filter_append, List.filter_append, noFresh, List.append_nil,
          List.append_nil] at onward
        rw [List.filter_cons_of_neg (by simp [within])] at enoughWithin
        rw [List.filter_cons_of_neg (by simp [within]), List.filter_cons_of_neg (by simp [within])]
        exact onward enoughWithin
      | true =>
        rw [List.filter_cons_of_pos within] at enoughWithin
        rw [List.filter_cons_of_pos within, List.filter_cons_of_pos within]
        cases stepsWithin with
        | zero => cases enoughWithin.queue_eq_nil
        | succ stepsWithin =>
          have nextWithin := enoughWithin.next ((distinct position).filter region)
          rw [← filter_fresh, ← List.filter_append, ← List.filter_append] at nextWithin
          rw [schedule, hypothesis next nextWithin]
          simp only [List.filter_append, filter_fresh]

/-- The turns within a region depend only on the dependents within it. -/
theorem filter_turns_congr {grid other : Grid size} {region : Position size → Bool}
    (closed : ∀ source, region source = false → (grid.dependents source).filter region = [])
    (same : ∀ source, (grid.dependents source).filter region =
      (other.dependents source).filter region) (start : Position size) :
    (grid.turns start).filter region = (other.turns start).filter region := by
  have enough : IsEnough (size.cellCount + 1) ([start].filter region) ([].filter region) := by
    refine ⟨List.nodup_nil, ?_⟩
    have bound := List.length_filter_le region [start]
    rw [List.length_singleton] at bound
    rw [List.filter_nil, List.length_nil]
    omega
  have closedOther : ∀ source, region source = false →
      (other.dependents source).filter region = [] :=
    fun source outside => (same source).symm.trans (closed source outside)
  rw [turns, turns, filter_schedule nodup_dependents closed (.initial start) enough,
    filter_schedule nodup_dependents closedOther (.initial start) enough, funext same]

/-! ## Timely cells -/

/-- In no sweep has a cell that this one depends on a turn behind it. -/
def IsTimely (grid : Grid size) (position : Position size) : Prop :=
  ∀ source, position ∈ grid.dependents source →
    source ≠ position ∧ ∀ start, ¬ [position, source].Sublist (grid.turns start)

/-- In the sweep from the start no cell that this one depends on has a turn behind
it. -/
def IsTimelyFrom (grid : Grid size) (start position : Position size) : Prop :=
  ∀ source ∈ grid.turns start, position ∈ grid.dependents source →
    source ≠ position ∧ ¬ [position, source].Sublist (grid.turns start)

/-- All cells that the cell reads, directly or through others, are timely. -/
def ReadsTimely (grid : Grid size) (position : Position size) : Prop :=
  ∀ source, Relation.TransGen grid.Reads position source → grid.IsTimely source

variable {grid other : Grid size} {position : Position size}

theorem mem_dependents_congr {source reader : Position size}
    (same : (grid.get reader).text = (other.get reader).text) :
    reader ∈ grid.dependents source ↔ reader ∈ other.dependents source := by
  rw [mem_dependents_iff_name_mem, mem_dependents_iff_name_mem, Cell.references_congr same]

theorem IsTimely.isTimelyFrom (timely : grid.IsTimely position) (start : Position size) :
    grid.IsTimelyFrom start position :=
  fun source _ depends => ⟨(timely source depends).1, (timely source depends).2 start⟩

/-- A timely cell whose turn has come is not a dependent of any later turn. -/
theorem IsTimelyFrom.not_mem_dependents {start last turn : Position size}
    {earlier later : List (Position size)} (timely : grid.IsTimelyFrom start position)
    (split : grid.turns start = earlier ++ last :: later)
    (before : position ∈ earlier ∨ position = last) (after : turn = last ∨ turn ∈ later) :
    position ∉ grid.dependents turn := by
  intro depends
  have hasTurn : turn ∈ grid.turns start := by
    rw [split]
    exact List.mem_append_right _ (List.mem_cons.mpr after)
  rcases timely turn hasTurn depends with ⟨different, inOrder⟩
  apply inOrder
  rw [split]
  rcases before with earlierTurn | same
  · exact (List.singleton_sublist.mpr earlierTurn).append
      (List.singleton_sublist.mpr (List.mem_cons.mpr after))
  · subst last
    rcases after with same | laterTurn
    · exact absurd same different
    · exact ((List.singleton_sublist.mpr laterTurn).cons_cons position).trans
        (List.sublist_append_right earlier _)

theorem IsTimely.congr (timely : grid.IsTimely position)
    (agree : SameTextsFrom grid other position) : other.IsTimely position := by
  classical
  let region : Position size → Bool := fun cell => decide (grid.Reaches position cell)
  have closed : ∀ source, region source = false → (grid.dependents source).filter region = [] := by
    intro source outside
    rw [List.filter_eq_nil_iff]
    intro reader depends within
    have reads : grid.Reads reader source := mem_sources_of_mem_dependents depends
    exact of_decide_eq_false outside ((of_decide_eq_true within).tail reads)
  have same : ∀ source, (grid.dependents source).filter region =
      (other.dependents source).filter region := by
    intro source
    rw [dependents, dependents, List.filter_filter, List.filter_filter]
    apply List.filter_congr
    intro reader _
    cases within : region reader with
    | false => rfl
    | true =>
      have text := agree reader (of_decide_eq_true within)
      rw [dependsOn, dependsOn, Cell.isFormula_congr text, text]
  intro source depends
  have dependsBefore := (mem_dependents_congr agree.here).mpr depends
  refine ⟨(timely source dependsBefore).1, fun start behind => ?_⟩
  apply (timely source dependsBefore).2 start
  have here : region position = true := decide_eq_true .refl
  have there : region source = true :=
    decide_eq_true (.single (mem_sources_of_mem_dependents dependsBefore))
  have pair : [position, source].filter region = [position, source] := by
    rw [List.filter_cons_of_pos here, List.filter_cons_of_pos there, List.filter_nil]
  have within := behind.filter region
  rw [pair, ← filter_turns_congr closed same] at within
  exact within.trans List.filter_sublist

theorem ReadsTimely.of_reads {source : Position size} (timely : grid.ReadsTimely position)
    (reads : grid.Reads position source) : grid.ReadsTimely source :=
  fun further chain => timely further (.head reads chain)

theorem ReadsTimely.congr (timely : grid.ReadsTimely position)
    (agree : SameTextsFrom grid other position) : other.ReadsTimely position := by
  intro source chain
  rcases Relation.TransGen.head'_iff.mp chain with ⟨first, reads, rest⟩
  have readsBefore := agree.reads_iff.mpr reads
  have agreeThere := agree.of_reaches (.single readsBefore)
  have restBefore := agreeThere.reaches_iff.mpr rest
  exact (timely source (.head' readsBefore restBefore)).congr (agreeThere.of_reaches restBefore)

/-! ## Distances -/

/-- The turns come in the order of distance, so a cell at one distance from the start
has its turn behind the cells it depends on. -/
theorem isTimelyFrom_of_walks {start : Position size}
    (level : ∀ shorter longer, grid.Walk start shorter position →
      grid.Walk start longer position → shorter = longer) : grid.IsTimelyFrom start position := by
  intro source turn depends
  constructor
  · intro same
    subst source
    obtain ⟨length, walk⟩ := exists_walk_of_mem_turns turn
    have same := level length (length + 1) walk (walk.step depends)
    omega
  · intro behind
    have order := (grid.pairwise_turns start).sublist behind
    rw [List.pairwise_cons] at order
    rcases order.1 source List.mem_cons_self with ⟨shorter, longer, near, far, le⟩
    have same := level shorter (longer + 1) near (far.step depends)
    omega

end Grid
end Worksheet
