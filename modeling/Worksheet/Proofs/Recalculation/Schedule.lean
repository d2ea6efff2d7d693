import Mathlib.Data.List.Nodup
import Worksheet.Proofs.Dependency.Loop
import Worksheet.Proofs.Dependency.Readers

namespace Worksheet

/-!
# The order of a sweep

Which cells a sweep takes from its queue, and in which order, is determined by
the texts: the values play no part.  This module studies that order by itself,
as the list of turns.

The turns contain the start and with every cell all its dependents.  They come
in the order of distance: every turn has a walk of dependents from the start,
and the lengths of these walks never decrease along the list.  For cells whose
walks from the start all have one length this is the usual order by levels.
-/

variable {size : Size}

namespace Size

theorem nodup_positions (size : Size) : size.positions.Nodup := by
  apply List.nodup_flatMap.mpr
  constructor
  · intro row _
    apply (List.nodup_finRange size.columns).map
    intro first second same
    exact (Position.mk.inj same).2
  · apply (List.nodup_finRange size.rows).imp
    intro first second different
    apply List.disjoint_left.mpr
    intro position inFirst inSecond
    rcases List.mem_map.mp inFirst with ⟨_, _, here⟩
    rcases List.mem_map.mp inSecond with ⟨_, _, there⟩
    exact different ((Position.mk.inj (here.trans there.symm)).1)

end Size

namespace Grid

/-- A chain of dependents with the given number of steps leads from the start to
the cell.  Cells may occur in it more than once. -/
inductive Walk (grid : Grid size) (start : Position size) : Nat → Position size → Prop
  | start : Walk grid start 0 start
  | step {length : Nat} {source reader : Position size} :
      Walk grid start length source → reader ∈ grid.dependents source →
      Walk grid start (length + 1) reader

/-- The cells that a sweep takes from its queue, if every cell is followed by the
given ones. -/
def schedule (followers : Position size → List (Position size)) :
    (steps : Nat) → (queue entered : List (Position size)) → List (Position size)
  | 0, _, _ => []
  | _ + 1, [], _ => []
  | steps + 1, position :: queue, entered =>
      let fresh := (followers position).filter fun follower => !entered.contains follower
      position :: schedule followers steps (queue ++ fresh) (entered ++ fresh)

/-- The cells that a sweep from a cell takes from its queue. -/
def turns (grid : Grid size) (start : Position size) : List (Position size) :=
  schedule grid.dependents (size.cellCount + 1) [start] []

/-- The cells that a sweep from a cell recomputes, in its order. -/
def swept (grid : Grid size) (start : Position size) : List (Position size) :=
  (grid.turns start).flatMap grid.dependents

variable {grid : Grid size}

theorem nodup_dependents (source : Position size) : (grid.dependents source).Nodup :=
  size.nodup_positions.filter _

/-- Who depends on whom is a matter of the texts. -/
theorem dependents_congr {other : Grid size}
    (texts : ∀ position, (grid.get position).text = (other.get position).text) :
    grid.dependents = other.dependents := by
  funext source
  unfold dependents
  congr 1
  funext reader
  rw [dependsOn, dependsOn, Cell.isFormula_congr (texts reader), texts reader]

/-- What enters the queue are the followers that have not entered before. -/
theorem mem_fresh {followers entered : List (Position size)} {follower : Position size} :
    follower ∈ followers.filter (fun follower => !entered.contains follower) ↔
      follower ∈ followers ∧ follower ∉ entered := by
  rw [List.mem_filter, Bool.not_eq_true', ← Bool.not_eq_true, List.contains_iff_mem]

/-- The steps that are left cover the queue and the cells that have not entered
it yet. -/
structure IsEnough (steps : Nat) (queue entered : List (Position size)) : Prop where
  distinct : entered.Nodup
  bound : queue.length + size.cellCount ≤ steps + entered.length

namespace IsEnough

variable {steps : Nat} {queue entered : List (Position size)}

theorem initial (start : Position size) : IsEnough (size.cellCount + 1) [start] [] where
  distinct := List.nodup_nil
  bound := by simp [Nat.add_comm]

theorem queue_eq_nil (enough : IsEnough 0 queue entered) : queue = [] := by
  have filled := Size.length_le_cellCount enough.distinct
  have bound := enough.bound
  exact List.eq_nil_of_length_eq_zero (by omega)

theorem next {position : Position size} {followers : List (Position size)}
    (distinct : followers.Nodup) (enough : IsEnough (steps + 1) (position :: queue) entered) :
    IsEnough steps (queue ++ followers.filter fun follower => !entered.contains follower)
      (entered ++ followers.filter fun follower => !entered.contains follower) := by
  constructor
  · apply enough.distinct.append (distinct.filter _)
    apply List.disjoint_left.mpr
    intro follower before now
    exact (mem_fresh.mp now).2 before
  · have bound := enough.bound
    rw [List.length_cons] at bound
    rw [List.length_append, List.length_append]
    omega

end IsEnough

/-- Every queued cell has its turn, and what depends on a turn has entered before
or has a turn itself. -/
theorem schedule_complete (grid : Grid size) {steps : Nat} {queue entered : List (Position size)}
    (enough : IsEnough steps queue entered) :
    queue ⊆ schedule grid.dependents steps queue entered ∧
      ∀ source ∈ schedule grid.dependents steps queue entered, ∀ reader ∈ grid.dependents source,
        reader ∈ entered ∨ reader ∈ schedule grid.dependents steps queue entered := by
  induction steps generalizing queue entered with
  | zero =>
    rw [enough.queue_eq_nil]
    exact ⟨fun _ member => member, fun _ member => nomatch member⟩
  | succ steps hypothesis =>
    cases queue with
    | nil => exact ⟨fun _ member => member, fun _ member => nomatch member⟩
    | cons position queue =>
      rw [schedule]
      have stillEnough := enough.next (grid.nodup_dependents position)
      generalize same : (grid.dependents position).filter
        (fun follower => !entered.contains follower) = fresh at stillEnough
      have freshIff : ∀ dependent, dependent ∈ fresh ↔
          dependent ∈ grid.dependents position ∧ dependent ∉ entered := by
        intro dependent
        rw [← same, mem_fresh]
      rcases hypothesis stillEnough with ⟨queued, closed⟩
      have freshTurn : ∀ reader ∈ entered ++ fresh, reader ∈ entered ∨
          reader ∈ schedule grid.dependents steps (queue ++ fresh) (entered ++ fresh) := by
        intro reader member
        rcases List.mem_append.mp member with before | now
        · exact .inl before
        · exact .inr (queued (List.mem_append_right queue now))
      constructor
      · intro other member
        rcases List.mem_cons.mp member with here | later
        · exact here ▸ List.mem_cons_self
        · exact List.mem_cons_of_mem _ (queued (List.mem_append_left fresh later))
      · intro source turn reader depends
        have noted : reader ∈ entered ++ fresh ∨
            reader ∈ schedule grid.dependents steps (queue ++ fresh) (entered ++ fresh) := by
          rcases List.mem_cons.mp turn with here | later
          · subst source
            by_cases before : reader ∈ entered
            · exact .inl (List.mem_append_left fresh before)
            · exact .inl (List.mem_append_right entered ((freshIff reader).mpr ⟨depends, before⟩))
          · exact closed source later reader depends
        rcases noted with before | turn
        · exact (freshTurn reader before).imp_right (List.mem_cons_of_mem _)
        · exact .inr (List.mem_cons_of_mem _ turn)

theorem start_mem_turns (start : Position size) : start ∈ grid.turns start :=
  (grid.schedule_complete (.initial start)).1 List.mem_cons_self

/-- The dependents of a turn have turns. -/
theorem mem_turns_of_mem_dependents {start source reader : Position size}
    (turn : source ∈ grid.turns start) (depends : reader ∈ grid.dependents source) :
    reader ∈ grid.turns start := by
  rcases (grid.schedule_complete (.initial start)).2 source turn reader depends with
    impossible | member
  · cases impossible
  · exact member

theorem mem_swept {start reader : Position size} :
    reader ∈ grid.swept start ↔ ∃ source ∈ grid.turns start, reader ∈ grid.dependents source :=
  List.mem_flatMap

theorem mem_swept_of_mem_dependents {start source reader : Position size}
    (turn : source ∈ grid.turns start) (depends : reader ∈ grid.dependents source) :
    reader ∈ grid.swept start :=
  mem_swept.mpr ⟨source, turn, depends⟩

theorem mem_turns_of_mem_swept {start reader : Position size}
    (member : reader ∈ grid.swept start) : reader ∈ grid.turns start := by
  rcases mem_swept.mp member with ⟨source, turn, depends⟩
  exact mem_turns_of_mem_dependents turn depends

/-- All tokens of a cell and of the cells that it reaches are plain. -/
def IsPlainFrom (grid : Grid size) (position : Position size) : Prop :=
  ∀ other, grid.Reaches position other → (grid.get other).isPlain = true

theorem IsPlain.isPlainFrom (plain : grid.IsPlain) (position : Position size) :
    grid.IsPlainFrom position :=
  fun other _ => plain other

theorem IsPlainFrom.here {position : Position size} (plain : grid.IsPlainFrom position) :
    (grid.get position).isPlain = true :=
  plain position .refl

theorem IsPlainFrom.of_reads {reader source : Position size} (plain : grid.IsPlainFrom reader)
    (reads : grid.Reads reader source) : grid.IsPlainFrom source :=
  fun other reaches => plain other (.head reads reaches)

/-- Where all tokens are plain, a cell that reaches the start is the start or is
recomputed by the sweep. -/
theorem eq_or_mem_swept_of_reaches {start reader : Position size}
    (plain : grid.IsPlainFrom reader) (reaches : grid.Reaches reader start) :
    reader = start ∨ reader ∈ grid.swept start := by
  induction reaches using Relation.ReflTransGen.head_induction_on with
  | refl => exact .inl rfl
  | @head first second reads _ hypothesis =>
    right
    have depends := (mem_sources_iff_mem_dependents plain.here).mp reads
    rcases hypothesis (plain.of_reads reads) with same | member
    · subst second
      exact mem_swept_of_mem_dependents (start_mem_turns start) depends
    · exact mem_swept_of_mem_dependents (mem_turns_of_mem_swept member) depends

/-! ## Turns come in the order of distance -/

/-- A queue with levels that do not decrease and are lengths of walks.  No two of
them differ by more than one. -/
structure IsLevelled (grid : Grid size) (start : Position size) (level : Nat)
    (queue : List (Position size × Nat)) : Prop where
  sorted : queue.Pairwise fun earlier later => earlier.2 ≤ later.2
  bounds : ∀ entry ∈ queue, level ≤ entry.2 ∧ entry.2 ≤ level + 1
  walks : ∀ entry ∈ queue, grid.Walk start entry.2 entry.1

namespace IsLevelled

variable {start position : Position size} {level here : Nat}
  {queue : List (Position size × Nat)}

theorem initial (grid : Grid size) (start : Position size) :
    grid.IsLevelled start 0 [(start, 0)] where
  sorted := List.pairwise_singleton _ _
  bounds := by simp
  walks := by simp [Walk.start]

/-- Dependents of the first cell go behind everything that is there. -/
theorem next {followers : List (Position size)}
    (levelled : grid.IsLevelled start level ((position, here) :: queue))
    (depends : ∀ reader ∈ followers, reader ∈ grid.dependents position) :
    grid.IsLevelled start here (queue ++ followers.map fun reader => (reader, here + 1)) := by
  have sorted := List.pairwise_cons.mp levelled.sorted
  have first := levelled.bounds (position, here) List.mem_cons_self
  have walk := levelled.walks (position, here) List.mem_cons_self
  have upper : ∀ entry ∈ queue, entry.2 ≤ here + 1 := by
    intro entry member
    have bound := (levelled.bounds entry (List.mem_cons_of_mem _ member)).2
    exact Nat.le_trans bound (Nat.succ_le_succ first.1)
  constructor
  · rw [List.pairwise_append]
    refine ⟨sorted.2, ?_, ?_⟩
    · exact List.pairwise_map.mpr (List.pairwise_of_forall fun _ _ => Nat.le_refl _)
    · intro earlier before later after
      rcases List.mem_map.mp after with ⟨reader, _, equal⟩
      rw [← equal]
      exact upper earlier before
  · intro entry member
    rcases List.mem_append.mp member with before | after
    · exact ⟨sorted.1 entry before, upper entry before⟩
    · rcases List.mem_map.mp after with ⟨reader, _, equal⟩
      rw [← equal]
      exact ⟨Nat.le_succ here, Nat.le_refl _⟩
  · intro entry member
    rcases List.mem_append.mp member with before | after
    · exact levelled.walks entry (List.mem_cons_of_mem _ before)
    · rcases List.mem_map.mp after with ⟨reader, member, equal⟩
      rw [← equal]
      exact walk.step (depends reader member)

end IsLevelled

/-- The turns of a levelled queue can be given levels as well. -/
theorem exists_levels {start : Position size} (steps level : Nat)
    (queue : List (Position size × Nat)) (entered : List (Position size))
    (levelled : grid.IsLevelled start level queue) :
    ∃ levels : List (Position size × Nat),
      levels.map Prod.fst = schedule grid.dependents steps (queue.map Prod.fst) entered ∧
      levels.Pairwise (fun earlier later => earlier.2 ≤ later.2) ∧
      ∀ entry ∈ levels, level ≤ entry.2 ∧ grid.Walk start entry.2 entry.1 := by
  induction steps generalizing level queue entered with
  | zero => exact ⟨[], rfl, .nil, fun _ member => nomatch member⟩
  | succ steps hypothesis =>
    cases queue with
    | nil => exact ⟨[], rfl, .nil, fun _ member => nomatch member⟩
    | cons first queue =>
      rcases first with ⟨position, here⟩
      have lower := (levelled.bounds (position, here) List.mem_cons_self).1
      have walk := levelled.walks (position, here) List.mem_cons_self
      rw [List.map_cons, schedule]
      generalize same : (grid.dependents position).filter
        (fun follower => !entered.contains follower) = fresh
      have depends : ∀ reader ∈ fresh, reader ∈ grid.dependents position := by
        intro reader member
        rw [← same] at member
        exact (mem_fresh.mp member).1
      have mapped : queue.map Prod.fst ++ fresh =
          (queue ++ fresh.map fun reader => (reader, here + 1)).map Prod.fst := by
        rw [List.map_append, List.map_map]
        congr 1
        exact (List.map_id fresh).symm
      rcases hypothesis here _ (entered ++ fresh) (levelled.next depends) with
        ⟨levels, names, sortedLevels, found⟩
      refine ⟨(position, here) :: levels, ?_, ?_, ?_⟩
      · rw [List.map_cons, names, mapped]
      · exact List.pairwise_cons.mpr ⟨fun entry member => (found entry member).1, sortedLevels⟩
      · intro entry member
        rcases List.mem_cons.mp member with equal | later
        · rw [equal]
          exact ⟨lower, walk⟩
        · exact ⟨Nat.le_trans lower (found entry later).1, (found entry later).2⟩

theorem exists_turn_levels (grid : Grid size) (start : Position size) :
    ∃ levels : List (Position size × Nat), levels.map Prod.fst = grid.turns start ∧
      levels.Pairwise (fun earlier later => earlier.2 ≤ later.2) ∧
      ∀ entry ∈ levels, grid.Walk start entry.2 entry.1 := by
  rcases exists_levels (size.cellCount + 1) 0 [(start, 0)] [] (.initial grid start) with
    ⟨levels, names, sorted, found⟩
  exact ⟨levels, names, sorted, fun entry member => (found entry member).2⟩

/-- Every turn is at the end of a walk. -/
theorem exists_walk_of_mem_turns {start position : Position size}
    (turn : position ∈ grid.turns start) : ∃ length, grid.Walk start length position := by
  rcases grid.exists_turn_levels start with ⟨levels, names, _, walks⟩
  rw [← names] at turn
  rcases List.mem_map.mp turn with ⟨entry, member, same⟩
  exact ⟨entry.2, same ▸ walks entry member⟩

/-- One cell is no farther from the start than another, by some walk to each. -/
def NotFarther (grid : Grid size) (start near far : Position size) : Prop :=
  ∃ shorter longer, grid.Walk start shorter near ∧ grid.Walk start longer far ∧ shorter ≤ longer

theorem pairwise_turns (start : Position size) :
    (grid.turns start).Pairwise (grid.NotFarther start) := by
  rcases grid.exists_turn_levels start with ⟨levels, names, sorted, walks⟩
  rw [← names, List.pairwise_map]
  apply sorted.imp_of_mem
  intro earlier later before after le
  exact ⟨earlier.2, later.2, walks earlier before, walks later after, le⟩

end Grid
end Worksheet
