import Worksheet.Session.Run

namespace Worksheet
namespace Engine

/-!
# Laws of steps

A step is run from a session and ends with a result or a fault, in either case
in a session.  The first laws say how the steps that others are made of run.

The second half is about properties of sessions that a step keeps, however it
ends.  A property that is kept by the parts of a step is kept by the step.
-/

variable {size : Size} {α β : Type}

section Running

variable (session : Session size)

theorem runFrom_pure (result : α) :
    (pure result : Engine size α).runFrom session = (.ok result, session) := rfl

theorem runFrom_get : (get : Engine size (Session size)).runFrom session = (.ok session, session) :=
  rfl

theorem runFrom_sheet : (sheet : Engine size _).runFrom session = (.ok session.sheet, session) :=
  rfl

theorem runFrom_grid : (grid : Engine size _).runFrom session = (.ok session.sheet.grid, session) :=
  rfl

theorem runFrom_cellAt (position : Position size) :
    (cellAt position).runFrom session = (.ok (session.sheet.grid.get position), session) := rfl

theorem runFrom_modifySheet (change : Sheet size → Sheet size) :
    (modifySheet change).runFrom session =
      (.ok (), { session with sheet := change session.sheet }) := rfl

/-- What follows a step runs from where the step ended, if it ended well. -/
theorem runFrom_bind (step : Engine size α) (next : α → Engine size β) :
    (step >>= next).runFrom session =
      match step.runFrom session with
      | (.ok result, after) => (next result).runFrom after
      | (.error fault, after) => (.error fault, after) := by
  unfold runFrom
  rw [ExceptT.run_bind, StateT.run_bind]
  change (match StateT.run (ExceptT.run step) session with | (_, _) => _) = _
  rcases StateT.run (ExceptT.run step) session with ⟨fault | result, after⟩ <;> rfl

theorem runFrom_bind_of_ok {step : Engine size α} {next : α → Engine size β} {result : α}
    {after : Session size} (ended : step.runFrom session = (.ok result, after)) :
    (step >>= next).runFrom session = (next result).runFrom after := by
  rw [runFrom_bind, ended]

/-- A sequence that ends well has gone through its first step. -/
theorem exists_of_runFrom_bind_eq_ok {step : Engine size α} {next : α → Engine size β} {last : β}
    {later : Session size} (ran : (step >>= next).runFrom session = (.ok last, later)) :
    ∃ result between, step.runFrom session = (.ok result, between) ∧
      (next result).runFrom between = (.ok last, later) := by
  rw [runFrom_bind] at ran
  cases ended : step.runFrom session with
  | mk outcome between =>
    rw [ended] at ran
    cases outcome with
    | error fault => cases ran
    | ok result => exact ⟨result, between, rfl, ran⟩

/-- What is done for its effect only answers that it is done. -/
theorem runFrom_done (body : Engine size Unit) :
    (body >>= fun _ => pure (.nothing : Answer size)).runFrom session =
      ((body.runFrom session).1.map fun _ => .nothing, (body.runFrom session).2) := by
  rw [runFrom_bind]
  cases body.runFrom session with
  | mk outcome later => cases outcome <;> rfl

theorem runFrom_map (change : α → β) (step : Engine size α) :
    (change <$> step).runFrom session =
      match step.runFrom session with
      | (.ok result, after) => (.ok (change result), after)
      | (.error fault, after) => (.error fault, after) := by
  rw [← bind_pure_comp, runFrom_bind]
  rfl

theorem runFrom_tryCatch (body : Engine size α) (handle : Fault → Engine size α) :
    (tryCatch body handle).runFrom session =
      match body.runFrom session with
      | (.ok result, after) => (.ok result, after)
      | (.error fault, after) => (handle fault).runFrom after := by
  unfold runFrom
  rw [ExceptT.run_tryCatch, StateT.run_bind]
  change (match StateT.run (ExceptT.run body) session with | (_, _) => _) = _
  rcases StateT.run (ExceptT.run body) session with ⟨fault | result, after⟩ <;> rfl

/-- A step that ends well is followed by its cleaning up. -/
theorem runFrom_withCleanUp_of_ok {body : Engine size α} {cleanUp : Engine size Unit} {result : α}
    {after last : Session size} (ended : body.runFrom session = (.ok result, after))
    (cleaned : cleanUp.runFrom after = (.ok (), last)) :
    (withCleanUp body cleanUp).runFrom session = (.ok result, last) := by
  rw [withCleanUp, runFrom_bind, runFrom_tryCatch, ended]
  simp only [runFrom_bind, cleaned, runFrom_pure]

/-- A fault is passed on once what is left behind has been cleaned up. -/
theorem runFrom_withCleanUp_of_error {body : Engine size α} {cleanUp : Engine size Unit}
    {fault : Fault} {after last : Session size}
    (ended : body.runFrom session = (.error fault, after))
    (cleaned : cleanUp.runFrom after = (.ok (), last)) :
    (withCleanUp body cleanUp).runFrom session = (.error fault, last) := by
  rw [withCleanUp, runFrom_bind, runFrom_tryCatch, ended]
  simp only [runFrom_bind, cleaned]
  rfl

/-- However a step ends, what is left behind is cleaned up. -/
theorem runFrom_withCleanUp {cleanUp : Engine size Unit} {update : Session size → Session size}
    (cleaned : ∀ after, cleanUp.runFrom after = (.ok (), update after)) (body : Engine size α) :
    (withCleanUp body cleanUp).runFrom session =
      ((body.runFrom session).1, update (body.runFrom session).2) := by
  cases ended : body.runFrom session with
  | mk outcome after =>
    cases outcome with
    | ok result => exact runFrom_withCleanUp_of_ok session ended (cleaned after)
    | error fault => exact runFrom_withCleanUp_of_error session ended (cleaned after)

/-- What has been cleaned up and ended well is a step that ended well. -/
theorem exists_of_runFrom_withCleanUp_eq_ok {body : Engine size α}
    {update : Session size → Session size} {result : α} {later : Session size}
    (ran : (withCleanUp body (modify update)).runFrom session = (.ok result, later)) :
    ∃ between, body.runFrom session = (.ok result, between) ∧ later = update between := by
  have cleaned : ∀ between, (modify update : Engine size PUnit).runFrom between =
      (.ok ⟨⟩, update between) := fun _ => rfl
  rw [runFrom_withCleanUp session cleaned, Prod.mk.injEq] at ran
  exact ⟨(body.runFrom session).2, Prod.ext ran.1 rfl, ran.2.symm⟩

end Running

/-! ## Kept properties -/

/-- However the step ends, it keeps a property of sessions. -/
def Keeps (kept : Session size → Prop) (step : Engine size α) : Prop :=
  ∀ session, kept session → kept (step.runFrom session).2

namespace Keeps

variable {kept : Session size → Prop}

theorem pure (result : α) : Keeps kept (Pure.pure result : Engine size α) :=
  fun _ holds => holds

theorem throw (fault : Fault) : Keeps kept (MonadExcept.throw fault : Engine size α) :=
  fun _ holds => holds

theorem get : Keeps kept (MonadState.get : Engine size (Session size)) :=
  fun _ holds => holds

theorem bind {step : Engine size α} {next : α → Engine size β} (first : Keeps kept step)
    (onward : ∀ result, Keeps kept (next result)) : Keeps kept (step >>= next) := by
  intro session holds
  have holdsAfter := first session holds
  rw [runFrom_bind]
  cases ended : step.runFrom session with
  | mk outcome after =>
    rw [ended] at holdsAfter
    cases outcome with
    | error fault => exact holdsAfter
    | ok result => exact onward result after holdsAfter

theorem change {update : Session size → Session size}
    (step : ∀ session, kept session → kept (update session)) :
    Keeps kept (modify update : Engine size PUnit) :=
  step

/-- Cleaning up is done in any case, so it has to keep the property as well. -/
theorem withCleanUp {body : Engine size α} {cleanUp : Engine size Unit} (first : Keeps kept body)
    (cleaned : Keeps kept cleanUp) : Keeps kept (Engine.withCleanUp body cleanUp) := by
  refine bind (fun session holds => ?_) fun result => bind cleaned fun _ => pure result
  have holdsAfter := first session holds
  rw [runFrom_tryCatch]
  cases ended : body.runFrom session with
  | mk outcome after =>
    rw [ended] at holdsAfter
    cases outcome with
    | ok result => exact holdsAfter
    | error fault => exact bind cleaned (fun _ => throw fault) after holdsAfter

theorem forM {elements : List α} {step : α → Engine size PUnit}
    (each : ∀ element ∈ elements, Keeps kept (step element)) : Keeps kept (elements.forM step) := by
  induction elements with
  | nil => exact pure _
  | cons first later hypothesis =>
    change Keeps kept (step first >>= fun _ => later.forM step)
    refine bind (each first List.mem_cons_self) fun _ => hypothesis ?_
    exact fun element member => each element (List.mem_cons_of_mem first member)

end Keeps
end Engine

/-- A step tells how its operation ended. -/
theorem Session.step_of_performed {session after : Session size} {operation : Operation}
    {outcome : Except Fault (Answer size)}
    (performed : (Engine.perform (Engine.announce session.reactions) operation).runFrom session =
      (outcome, after)) :
    (session.step operation).1.answer = outcome ∧
      (session.step operation).1.events =
        (after.journal.take (after.journal.length - session.journal.length)).reverse ∧
      (session.step operation).2 = after := by
  have ran : (Engine.run operation).runFrom session = (outcome, after) :=
    (Engine.runFrom_bind_of_ok session (Engine.runFrom_get session)).trans performed
  rw [Session.step, ran]
  exact ⟨rfl, rfl, rfl⟩

end Worksheet
