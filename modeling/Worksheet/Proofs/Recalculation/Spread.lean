import Mathlib.Algebra.BigOperators.Group.Finset.Basic
import Mathlib.Logic.Relation
import Worksheet.Proofs.Recalculation.Schedule

namespace Worksheet

/-!
# How far and how often a sweep goes

The turns of a sweep are the start and, each exactly once, the cells that a chain
of one or more dependents leads to.  The start is not noted as entered, so it has
a second turn if it is in a loop.  Every turn recomputes all dependents of its
cell, so a cell is recomputed once for every cell it depends on that has a turn of
the second kind, and once more if it depends on the start.

Nothing is assumed about the texts.  Loops may be nested in any way.
-/

variable {size : Size}

namespace Grid

/-- A chain of one or more dependents leads from one cell to another. -/
def Spreads (grid : Grid size) : Position size → Position size → Prop :=
  Relation.TransGen fun source reader => reader ∈ grid.dependents source

variable {grid : Grid size}

/-! ## The turns behind the first -/

/-- What is queued has some property that is handed on to followers; so has every
cell that gets a turn. -/
theorem forall_mem_schedule {followers : Position size → List (Position size)}
    {kind : Position size → Prop}
    (closed : ∀ source, kind source → ∀ follower ∈ followers source, kind follower)
    {steps : Nat} {queue entered : List (Position size)}
    (queued : ∀ position ∈ queue, kind position) :
    ∀ position ∈ schedule followers steps queue entered, kind position := by
  induction steps generalizing queue entered with
  | zero => exact fun _ member => nomatch member
  | succ steps hypothesis =>
    cases queue with
    | nil => exact fun _ member => nomatch member
    | cons first queue =>
      rw [schedule]
      intro position member
      rcases List.mem_cons.mp member with here | later
      · exact queued position (here ▸ List.mem_cons_self)
      · refine hypothesis ?_ position later
        intro waiting member
        rcases List.mem_append.mp member with before | fresh
        · exact queued waiting (List.mem_cons_of_mem first before)
        · exact closed first (queued first List.mem_cons_self) waiting (mem_fresh.mp fresh).1

/-- If what has entered are the cells that had their turn and those that wait for
it, each once, then no cell has a turn twice. -/
theorem nodup_schedule {followers : Position size → List (Position size)}
    (distinct : ∀ source, (followers source).Nodup) {steps : Nat}
    {former queue : List (Position size)} (once : (former ++ queue).Nodup) :
    (former ++ schedule followers steps queue (former ++ queue)).Nodup := by
  induction steps generalizing former queue with
  | zero =>
    rw [schedule, List.append_nil]
    exact once.sublist (List.sublist_append_left former queue)
  | succ steps hypothesis =>
    cases queue with
    | nil => exact once
    | cons first queue =>
      rw [schedule]
      generalize fresh : (followers first).filter
        (fun follower => !(former ++ first :: queue).contains follower) = news
      have onward : ((former ++ [first]) ++ (queue ++ news)).Nodup := by
        rw [← List.append_assoc, List.append_assoc former, List.singleton_append]
        apply once.append (fresh ▸ (distinct first).filter _)
        apply List.disjoint_left.mpr
        intro follower before now
        rw [← fresh] at now
        exact (mem_fresh.mp now).2 before
      have rest := hypothesis onward
      simpa only [List.append_assoc, List.cons_append, List.nil_append] using rest

/-- The turns are the start and, each once, the cells that it spreads to. -/
theorem exists_turns_eq_cons (grid : Grid size) (start : Position size) :
    ∃ others, grid.turns start = start :: others ∧ others.Nodup ∧
      ∀ position, position ∈ others ↔ grid.Spreads start position := by
  have unfolded : grid.turns start = start ::
      schedule grid.dependents size.cellCount (grid.dependents start) (grid.dependents start) := by
    have all : ((grid.dependents start).filter fun follower =>
        !([] : List (Position size)).contains follower) = grid.dependents start := by simp
    rw [turns, schedule, all]
    rfl
  refine ⟨_, unfolded, ?_, fun position => ⟨?_, fun spreads => ?_⟩⟩
  · have once : ([] ++ grid.dependents start).Nodup := nodup_dependents start
    exact nodup_schedule nodup_dependents once
  · refine forall_mem_schedule ?_ (fun reader depends => .single depends) position
    exact fun source spreads reader depends => spreads.tail depends
  · have enough : IsEnough size.cellCount (grid.dependents start) (grid.dependents start) :=
      ⟨nodup_dependents start, by omega⟩
    obtain ⟨queued, closed⟩ := grid.schedule_complete enough
    induction spreads with
    | single depends => exact queued depends
    | tail _ depends hypothesis =>
      exact (closed _ hypothesis _ depends).elim (fun before => queued before) id

/-- A cell has a turn if it is the start or the start spreads to it. -/
theorem mem_turns_iff {start position : Position size} :
    position ∈ grid.turns start ↔ position = start ∨ grid.Spreads start position := by
  obtain ⟨others, same, _, members⟩ := grid.exists_turns_eq_cons start
  rw [same, List.mem_cons, members]

/-- A sweep recomputes exactly the cells that its start spreads to. -/
theorem mem_swept_iff {start reader : Position size} :
    reader ∈ grid.swept start ↔ grid.Spreads start reader := by
  rw [mem_swept]
  constructor
  · rintro ⟨source, turn, depends⟩
    rcases mem_turns_iff.mp turn with rfl | spreads
    · exact .single depends
    · exact spreads.tail depends
  · intro spreads
    obtain ⟨source, before, depends⟩ := Relation.TransGen.tail'_iff.mp spreads
    refine ⟨source, mem_turns_iff.mpr ?_, depends⟩
    exact (Relation.reflTransGen_iff_eq_or_transGen.mp before)

instance (grid : Grid size) (start position : Position size) :
    Decidable (grid.Spreads start position) :=
  decidable_of_iff ((grid.swept start).contains position = true)
    (List.contains_iff_mem.trans mem_swept_iff)

/-! ## How often a cell is recomputed -/

/-- The number of cells among those that the start spreads to on which a cell
depends, with one more if it depends on the start. -/
def multiplicity (grid : Grid size) (start reader : Position size) : Nat :=
  (size.positions.countP fun source =>
      grid.Spreads start source ∧ grid.dependsOn reader source) +
    if grid.dependsOn reader start then 1 else 0

/-- A cell occurs once for every source that it depends on. -/
theorem count_flatMap_dependents (sources : List (Position size)) (reader : Position size) :
    (sources.flatMap grid.dependents).count reader =
      sources.countP (grid.dependsOn reader) := by
  induction sources with
  | nil => rfl
  | cons first later hypothesis =>
    rw [List.flatMap_cons, List.count_append, hypothesis, List.countP_cons,
      (nodup_dependents first).count, Nat.add_comm]
    simp only [mem_dependents]

theorem count_swept (grid : Grid size) (start reader : Position size) :
    (grid.swept start).count reader = grid.multiplicity start reader := by
  obtain ⟨others, same, distinct, members⟩ := grid.exists_turns_eq_cons start
  have once : others.Perm (size.positions.filter fun source => grid.Spreads start source) := by
    apply (List.perm_ext_iff_of_nodup distinct (size.nodup_positions.filter _)).mpr
    intro position
    rw [members, List.mem_filter, decide_eq_true_eq, and_iff_right (size.mem_positions position)]
  rw [swept, count_flatMap_dependents, same, List.countP_cons, once.countP_eq, List.countP_filter,
    multiplicity]
  simp only [Bool.decide_and, Bool.decide_eq_true, Bool.and_comm]

/-- The number of recomputations is the sum over all cells. -/
theorem length_swept (grid : Grid size) (start : Position size) :
    (grid.swept start).length =
      ∑ reader ∈ size.positions.toFinset, grid.multiplicity start reader := by
  have covered : ∀ reader ∈ (grid.swept start : Multiset (Position size)),
      reader ∈ size.positions.toFinset :=
    fun reader _ => List.mem_toFinset.mpr (size.mem_positions reader)
  rw [← Multiset.coe_card, ← Multiset.sum_count_eq_card covered]
  refine Finset.sum_congr rfl fun reader _ => ?_
  rw [Multiset.coe_count, count_swept]

end Grid
end Worksheet
