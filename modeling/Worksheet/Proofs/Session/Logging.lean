import Worksheet.Proofs.Session.Invariant

namespace Worksheet

/-!
# The log of a recalculation

A recalculation puts a log of its own in the place of the one outside and gives that one
back when it ends, also when it ends with a fault.  Scripts follow the changes in the
middle of it and may begin further recalculations.  They find the log of the one that is
under way, and all that they leave behind are more entries at its end.

So the nesting of recalculations, however deep, is never lost: inside, each has the log
it began with, and outside there is none.
-/

variable {size : Size} {α β : Type}

namespace Engine

/-! ## A recalculation gives the log back -/

/-- A recalculation that ends well notes in the log outside what its own log holds, and one
that is given up leaves the log outside as it was. -/
theorem log_recalculate (announce : Announcement size) (position : Position size)
    (session : Session size) :
    match (recalculate announce position).runFrom session with
    | (.ok report, later) => ∃ inner,
        later.sheet.log = session.sheet.log.map (·.merge inner) ∧
          report.deltas = deltas later.sheet.grid inner
    | (.error _, later) => later.sheet.log = session.sheet.log := by
  have opened : (modifySheet fun sheet => { sheet with log := some [] }).runFrom session =
      (.ok (), session.withLog (some [])) := rfl
  have closed : ∀ ended : Session size,
      (modifySheet fun sheet => { sheet with log := session.sheet.log }).runFrom ended =
        (.ok (), ended.withLog session.sheet.log) := fun _ => rfl
  rw [recalculate, runFrom_bind_of_ok _ (runFrom_sheet session), runFrom_bind_of_ok _ opened]
  dsimp only
  rw [runFrom_bind, runFrom_withCleanUp _ closed]
  rcases runFrom _ (session.withLog (some [])) with ⟨fault | ⟨recomputed, inner⟩, ended⟩
  · rfl
  · exact ⟨inner, rfl, rfl⟩

/-- However the step ends, the log is the one that it found, with some entries added. -/
def ExtendsLog ⦃α : Type⦄ (step : Engine size α) : Prop :=
  ∀ session, ∃ more, (step.runFrom session).2.sheet.log = session.sheet.log.map (· ++ more)

def ExtendsLogAnnouncing (announce : Announcement size) : Prop :=
  ∀ position property, ExtendsLog (announce position property)

end Engine

namespace ChangeLog

variable (log inner : ChangeLog size)

theorem exists_touch (position : Position size) (value : String) :
    ∃ more, log.touch position value = log ++ more := by
  rw [touch]
  split
  · exact ⟨[], (List.append_nil log).symm⟩
  · exact ⟨_, rfl⟩

theorem exists_merge : ∃ more, log.merge inner = log ++ more := by
  induction inner generalizing log with
  | nil => exact ⟨[], (List.append_nil log).symm⟩
  | cons entry inner hypothesis =>
    rcases log.exists_touch entry.1 entry.2 with ⟨first, touched⟩
    rcases hypothesis (log.touch entry.1 entry.2) with ⟨more, merged⟩
    exact ⟨first ++ more, merged.trans (by rw [touched, List.append_assoc])⟩

/-- What adds entries to every log does so to one that may be missing. -/
theorem exists_map {update : ChangeLog size → ChangeLog size}
    (extends_ : ∀ log, ∃ more, update log = log ++ more) (log : Option (ChangeLog size)) :
    ∃ more, log.map update = log.map (· ++ more) := by
  cases log with
  | none => exact ⟨[], rfl⟩
  | some log =>
    rcases extends_ log with ⟨more, same⟩
    exact ⟨more, congrArg some same⟩

end ChangeLog

namespace Engine
namespace ExtendsLog

theorem bind {step : Engine size α} {next : α → Engine size β} (first : ExtendsLog step)
    (onward : ∀ result, ExtendsLog (next result)) : ExtendsLog (step >>= next) := by
  intro session
  rcases first session with ⟨earlier, before⟩
  rw [runFrom_bind]
  cases ended : step.runFrom session with
  | mk outcome between =>
    rw [ended] at before
    cases outcome with
    | error fault => exact ⟨earlier, before⟩
    | ok result =>
      rcases onward result between with ⟨later, behind⟩
      refine ⟨earlier ++ later, behind.trans ?_⟩
      rw [before, Option.map_map]
      congr 1
      funext log
      exact List.append_assoc log earlier later

theorem map {step : Engine size α} (extends_ : ExtendsLog step) (change : α → β) :
    ExtendsLog (change <$> step) := by
  rw [← bind_pure_comp]
  exact bind extends_ fun result session => ⟨[], by simp [runFrom_pure]⟩

/-- The log is not touched. -/
theorem change {update : Session size → Session size}
    (log : ∀ session, (update session).sheet.log = session.sheet.log) :
    ExtendsLog (modify update : Engine size PUnit) := by
  intro session
  exact ⟨[], (log session).trans (by simp)⟩

theorem touch (position : Position size) (value : String) :
    ExtendsLog (Engine.touch position value) :=
  fun session => ChangeLog.exists_map (fun log => log.exists_touch position value) session.sheet.log

theorem recalculate (announce : Announcement size) (position : Position size) :
    ExtendsLog (Engine.recalculate announce position) := by
  intro session
  have given := log_recalculate announce position session
  cases ended : (Engine.recalculate announce position).runFrom session with
  | mk outcome later =>
    rw [ended] at given
    cases outcome with
    | error fault => exact ⟨[], given.trans (by simp)⟩
    | ok report =>
      rcases given with ⟨inner, merged, _⟩
      rcases ChangeLog.exists_map (fun log => log.exists_merge inner) session.sheet.log with
        ⟨more, same⟩
      exact ⟨more, merged.trans same⟩

end ExtendsLog

theorem sequencing_extendsLog (size : Size) :
    Sequencing fun _ (step _ : Engine size _) => ExtendsLog step where
  pure _ session := ⟨[], by simp [runFrom_pure]⟩
  throw _ session := ⟨[], Eq.symm (by simp; rfl)⟩
  get session := ⟨[], by simp [runFrom_get]⟩
  bind first onward := .bind first onward
  aside standing := .change standing.log

section Log

variable {announce : Announcement size} (announces : ExtendsLogAnnouncing announce)
include announces

theorem extendsLog_updateValue (position : Position size) :
    ExtendsLog (updateValue announce position) := by
  have rules := sequencing_extendsLog size
  have finish : ∀ (cell : Cell) (value : String), ExtendsLog (do
      touch position cell.value
      storeValue announce position value
      pure value : Engine size String) := by
    intro cell value
    refine .bind (.touch position cell.value) fun _ => .bind ?_ fun _ => rules.pure value
    refine .bind (rules.cellAt position) fun cell => ?_
    split
    · exact rules.pure _
    · exact .bind (.change fun _ => rfl) fun _ => announces position .value
  refine .bind (rules.cellAt position) fun cell => ?_
  dsimp only
  split
  · exact .bind (.map (rules.evaluateFormula position) _) fun value => finish cell value
  · exact .bind (rules.pure _) fun value => finish cell value

theorem extendsLog_assignText (position : Position size) (text : String) :
    ExtendsLog (assignText announce position text) := by
  have rules := sequencing_extendsLog size
  refine .bind (rules.cellAt position) fun cell => ?_
  split
  · exact rules.pure _
  · refine .bind (.change fun _ => rfl) fun _ => .bind (announces position .text) fun _ => ?_
    exact .bind (.recalculate announce position) fun _ => .change fun _ => rfl

theorem extendsLog_assignColor (position : Position size) (color : Color) :
    ExtendsLog (assignColor announce position color) := by
  have rules := sequencing_extendsLog size
  refine .bind (rules.cellAt position) fun cell => ?_
  split
  · exact rules.pure _
  · exact .bind (.change fun _ => rfl) fun _ => announces position .color

omit announces in
theorem rules_extendsLog (size : Size) :
    Rules (fun _ (step _ : Engine size _) => ExtendsLog step)
      fun announce _ => ExtendsLogAnnouncing announce :=
  { sequencing_extendsLog size with
    updateValue := extendsLog_updateValue
    recalculate := fun _ position _ => .recalculate _ position
    assignText := fun announces position text _ => extendsLog_assignText announces position text
    assignColor := extendsLog_assignColor }

end Log

/-- Whatever the scripts do, they leave the log of a recalculation that is under way. -/
theorem extendsLog_announce (reactions : Nat) :
    ExtendsLogAnnouncing (announce reactions : Announcement size) := by
  apply (rules_extendsLog size).announce
  exact fun _ _ => .change fun _ => rfl

theorem extendsLog_perform (reactions : Nat) (operation : Operation) :
    ExtendsLog (perform (Engine.announce reactions : Announcement size) operation) :=
  @Rules.perform _ _ _ _ (Engine.announce reactions) (rules_extendsLog size)
    (extendsLog_announce reactions) operation

end Engine

namespace Session

theorem log_after {session : Session size} (unlogged : session.sheet.log = none)
    (operations : List Operation) : (session.after operations).sheet.log = none := by
  induction operations generalizing session with
  | nil => exact unlogged
  | cons first later hypothesis =>
    apply hypothesis
    rcases Engine.extendsLog_perform session.reactions first session with ⟨more, left⟩
    rw [unlogged] at left
    exact left

end Session
end Worksheet
