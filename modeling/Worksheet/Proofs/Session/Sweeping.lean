import Worksheet.Proofs.Recalculation.Spread
import Worksheet.Proofs.Session.Invariant
import Worksheet.Proofs.Session.Unheard

namespace Worksheet

/-!
# What a sweep touches

While no script is subscribed a sweep ends.  It recomputes the cells that its start
spreads to, each as often as the theory of the schedule says, and it changes
nothing but their values.  This is so whatever the texts are and whichever names
are guarded, since a guarded name only changes the value that is computed.

That the sweep ends is said of the loop without a bound on its steps.
-/

variable {size : Size}

/-- The later session differs from the earlier one at most in the values of some
cells and in what is noted about changes: the log, the journal and the ledger. -/
structure Session.ChangesOnly (cells : Position size → Prop) (earlier later : Session size) :
    Prop where
  inscriptions : later.sheet.grid.inscriptions = earlier.sheet.grid.inscriptions
  values : ∀ position, ¬ cells position →
    (later.sheet.grid.get position).value = (earlier.sheet.grid.get position).value
  rest : later = { earlier with
    sheet := { earlier.sheet with grid := later.sheet.grid, log := later.sheet.log }
    journal := later.journal
    ledger := later.ledger }

namespace Session.ChangesOnly

variable {cells others : Position size → Prop} {earlier middle later : Session size}

theorem refl (cells : Position size → Prop) (session : Session size) :
    session.ChangesOnly cells session :=
  ⟨rfl, fun _ _ => rfl, rfl⟩

theorem trans (first : earlier.ChangesOnly cells middle) (second : middle.ChangesOnly cells later) :
    earlier.ChangesOnly cells later where
  inscriptions := second.inscriptions.trans first.inscriptions
  values position outside := (second.values position outside).trans (first.values position outside)
  rest := by
    rw [second.rest, first.rest]

theorem mono (changes : earlier.ChangesOnly cells later)
    (wider : ∀ position, cells position → others position) : earlier.ChangesOnly others later where
  inscriptions := changes.inscriptions
  values position outside := changes.values position fun inside => outside (wider position inside)
  rest := changes.rest

theorem unheard (changes : earlier.ChangesOnly cells later) (unheard : earlier.subscribers = []) :
    later.subscribers = [] := by
  rw [changes.rest]
  exact unheard

theorem guarded_eq (changes : earlier.ChangesOnly cells later) :
    later.sheet.guarded = earlier.sheet.guarded := by
  rw [changes.rest]

/-- A sweep after the change has the dependents of before. -/
theorem dependents_eq (changes : earlier.ChangesOnly cells later) :
    later.sheet.grid.dependents = earlier.sheet.grid.dependents :=
  Grid.dependents_congr (Grid.text_eq_of_inscriptions_eq changes.inscriptions)

/-- Storing a value for a cell changes only that cell. -/
theorem stored (session : Session size) (position : Position size) (value : String) :
    session.ChangesOnly (· = position) ((session.touched position).stored position value) := by
  have grid := (session.touched position).grid_stored position value
  constructor
  · rw [grid]
    exact Grid.inscriptions_setValue _ position value
  · intro other different
    rw [grid, Grid.get_setValue_of_ne _ value (Ne.symm different)]
    rfl
  · unfold Session.stored
    split <;> rfl

end Session.ChangesOnly

namespace Engine

/-- The loop of a sweep.  It goes on until the queue is empty. -/
inductive Sweeps (announce : Announcement size) :
    Session size → (queue entered recomputed : List (Position size)) →
      List (Position size) → Session size → Prop
  | done {session : Session size} {entered recomputed : List (Position size)} :
      Sweeps announce session [] entered recomputed recomputed session
  | turn {session between later : Session size} {position : Position size}
      {queue entered recomputed fresh result : List (Position size)}
      (fresh_eq : fresh = (session.sheet.grid.dependents position).filter
        fun dependent => !entered.contains dependent)
      (updated : ((session.sheet.grid.dependents position).forM fun dependent => do
        let _ ← updateValue announce dependent : Engine size PUnit).runFrom session =
          (.ok ⟨⟩, between))
      (rest : Sweeps announce between (queue ++ fresh) (entered ++ fresh)
        (recomputed ++ session.sheet.grid.dependents position) result later) :
      Sweeps announce session (position :: queue) entered recomputed result later

variable {session : Session size}

theorem exists_runFrom_updateValue (unheard : session.subscribers = []) (reactions : Nat)
    (position : Position size) :
    ∃ value later, (updateValue (announce reactions) position).runFrom session =
        (.ok value, later) ∧ session.ChangesOnly (· = position) later := by
  have finish := runFrom_touch_storeValue unheard reactions position
  unfold updateValue
  rw [runFrom_bind_of_ok _ (runFrom_cellAt _ position)]
  split
  · obtain ⟨outcome, evaluated⟩ := exists_runFrom_evaluateFormula session position
    have displayed : (Formula.Outcome.display <$> evaluateFormula position).runFrom session =
        (.ok outcome.display, session) := by
      rw [runFrom_map, evaluated]
    exact ⟨_, _, (runFrom_bind_of_ok _ displayed).trans (finish _), .stored session position _⟩
  · exact ⟨_, _, finish _, .stored session position _⟩

theorem exists_runFrom_forM_updateValue (unheard : session.subscribers = []) (reactions : Nat)
    (positions : List (Position size)) :
    ∃ later, (positions.forM fun position => do
        let _ ← updateValue (announce reactions) position : Engine size PUnit).runFrom session =
          (.ok ⟨⟩, later) ∧ session.ChangesOnly (· ∈ positions) later := by
  induction positions generalizing session with
  | nil => exact ⟨session, rfl, .refl _ session⟩
  | cons first positions hypothesis =>
    obtain ⟨value, middle, updated, changesFirst⟩ :=
      exists_runFrom_updateValue unheard reactions first
    obtain ⟨later, ran, changesRest⟩ := hypothesis (changesFirst.unheard unheard)
    have head : (do let _ ← updateValue (announce reactions) first : Engine size PUnit).runFrom
        session = (.ok ⟨⟩, middle) := runFrom_bind_of_ok _ updated
    refine ⟨later, (runFrom_bind_of_ok _ head).trans ran, ?_⟩
    exact (changesFirst.mono fun _ same => same ▸ List.mem_cons_self).trans
      (changesRest.mono fun _ member => List.mem_cons_of_mem first member)

/-- The loop keeps to the schedule that the texts determine.  The steps that are left
suffice, so the queue is empty in the end. -/
theorem exists_runFrom_sweep (unheard : session.subscribers = []) (reactions : Nat)
    {followers : Position size → List (Position size)}
    (same : session.sheet.grid.dependents = followers) {steps : Nat}
    {queue entered : List (Position size)} (enough : Grid.IsEnough steps queue entered)
    (recomputed : List (Position size)) :
    ∃ later,
      (sweep (announce reactions) steps queue entered recomputed).runFrom session =
        (.ok (recomputed ++ (Grid.schedule followers steps queue entered).flatMap followers),
          later) ∧
      Sweeps (announce reactions) session queue entered recomputed
        (recomputed ++ (Grid.schedule followers steps queue entered).flatMap followers) later ∧
      session.ChangesOnly (· ∈ (Grid.schedule followers steps queue entered).flatMap followers)
        later := by
  induction steps generalizing session queue entered recomputed with
  | zero =>
    obtain rfl := enough.queue_eq_nil
    rw [sweep, Grid.schedule, List.flatMap_nil, List.append_nil]
    exact ⟨session, rfl, .done, .refl _ session⟩
  | succ steps hypothesis =>
    cases queue with
    | nil =>
      rw [sweep, Grid.schedule, List.flatMap_nil, List.append_nil]
      exact ⟨session, rfl, .done, .refl _ session⟩
    | cons position queue =>
      subst same
      obtain ⟨middle, updated, changesNow⟩ :=
        exists_runFrom_forM_updateValue unheard reactions (session.sheet.grid.dependents position)
      have distinct : (session.sheet.grid.dependents position).Nodup :=
        Grid.nodup_dependents position
      obtain ⟨later, ran, sweeps, changesLater⟩ := hypothesis (changesNow.unheard unheard)
        changesNow.dependents_eq (enough.next distinct)
        (recomputed ++ session.sheet.grid.dependents position)
      rw [List.append_assoc, ← List.flatMap_cons] at ran sweeps
      refine ⟨later, ?_, .turn rfl updated sweeps, ?_⟩
      · rw [sweep, runFrom_bind_of_ok _ (runFrom_grid _), runFrom_bind_of_ok _ updated]
        exact ran
      · rw [Grid.schedule, List.flatMap_cons]
        exact (changesNow.mono fun _ member => List.mem_append_left _ member).trans
          (changesLater.mono fun _ member => List.mem_append_right _ member)

/-- While nobody follows the session the sweep from a cell ends.  It recomputes every
cell as often as the cell depends on one that the start spreads to, and once more if it
depends on the start; so these are exactly the cells that the start spreads to.  All
other values stay, and so do the texts, the colors, the history and the guarded names. -/
theorem updateDependents_spreading (unheard : session.subscribers = []) (reactions : Nat)
    (start : Position size) :
    ∃ recomputed later,
      (updateDependents (announce reactions) start).runFrom session = (.ok recomputed, later) ∧
      Sweeps (announce reactions) session [start] [] [] recomputed later ∧
      (∀ reader, recomputed.count reader = session.sheet.grid.multiplicity start reader) ∧
      recomputed.length =
        ∑ reader ∈ size.positions.toFinset, session.sheet.grid.multiplicity start reader ∧
      (∀ reader, reader ∈ recomputed ↔ session.sheet.grid.Spreads start reader) ∧
      session.ChangesOnly (session.sheet.grid.Spreads start) later := by
  obtain ⟨later, ran, sweeps, changes⟩ :=
    exists_runFrom_sweep unheard reactions rfl (.initial start) []
  refine ⟨session.sheet.grid.swept start, later, ran, sweeps, ?_, ?_, ?_, ?_⟩
  · exact session.sheet.grid.count_swept start
  · exact session.sheet.grid.length_swept start
  · exact fun _ => Grid.mem_swept_iff
  · exact changes.mono fun _ member => Grid.mem_swept_iff.mp member

/-- Two loops that share a cell, and one cell that names itself.  The name of
the shared cell is guarded. -/
def interlocked : Session .fourCells :=
  (Session.fresh .fourCells).after
    [.assignText "D1" (.text "7"), .assignText "A1" (.text "=B1"),
      .assignText "B1" (.text "=A1+C1*D1"), .assignText "C1" (.text "=B1+C1"), .guard "B1"]

theorem updateDependents_spreading_of_interlocked :
    interlocked.subscribers = [] ∧ interlocked.sheet.guarded = ["B1"] ∧
      ∃ recomputed later,
        (updateDependents (announce 0) ⟨⟨0, by decide⟩, ⟨0, by decide⟩⟩).runFrom interlocked =
          (.ok recomputed, later) ∧
        Size.fourCells.positions.map (recomputed.count ·) = [1, 3, 2, 0] ∧
        recomputed.length = 6 ∧
        (later.sheet.grid.get ⟨⟨0, by decide⟩, ⟨3, by decide⟩⟩).value = "7" ∧
        later.sheet.guarded = ["B1"] := by
  have unheard : interlocked.subscribers = [] := by decide +kernel
  have guarded : interlocked.sheet.guarded = ["B1"] := by decide +kernel
  obtain ⟨recomputed, later, ran, -, count, length, -, changes⟩ :=
    updateDependents_spreading unheard 0 ⟨⟨0, by decide⟩, ⟨0, by decide⟩⟩
  refine ⟨unheard, guarded, recomputed, later, ran, ?_, ?_, ?_, ?_⟩
  · rw [funext count]
    decide +kernel
  · rw [length]
    decide +kernel
  · rw [changes.values _ (by decide +kernel)]
    decide +kernel
  · rw [changes.guarded_eq, guarded]

end Engine
end Worksheet
