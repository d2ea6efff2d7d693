import Worksheet.Proofs.Recalculation.Soundness
import Worksheet.Proofs.Session.Quiet
import Worksheet.Proofs.Session.Rules

namespace Worksheet

/-!
# What every operation keeps

A session is sound when nobody follows it, no name is guarded, and its grid is
sound.  Every operation keeps this, however it ends, except the two that
subscribe a script or guard a name.  It therefore holds whenever a session has
come from a blank sheet by other operations, in whatever order.

Operations that fail half-way are included: a document that is refused, an entry
of the wrong kind, or a key that names no cell leaves a sound session as well.
-/

variable {size : Size}

/-- Nobody follows the session and its grid is sound. -/
structure Session.IsSound (session : Session size) : Prop where
  quiet : session.IsQuiet
  sound : session.sheet.grid.IsSound

/-- The session after some operations. -/
def Session.after (session : Session size) (operations : List Operation) : Session size :=
  operations.foldl (fun session operation => (session.step operation).2) session

theorem Session.isSound_fresh (size : Size) : (Session.fresh size).IsSound :=
  ⟨⟨rfl, rfl⟩, Grid.isSound_blank size⟩

namespace Engine
namespace Keeps

variable {reactions : Nat}

/-! ## Steps that write -/

theorem updateValue (position : Position size) :
    Keeps Session.IsSound (Engine.updateValue (announce reactions) position) := by
  intro session holds
  rw [runFrom_updateValue holds.quiet]
  refine ⟨holds.quiet.updated position, ?_⟩
  rw [Session.grid_updated]
  exact holds.sound.recompute position

theorem recalculate (position : Position size) :
    Keeps Session.IsSound (Engine.recalculate (announce reactions) position) := by
  intro session holds
  rw [runFrom_recalculate holds.quiet]
  refine ⟨holds.quiet.recalculated position, ?_⟩
  rw [Session.grid_recalculated]
  exact holds.sound.recomputeEach _

theorem assignText (position : Position size) (text : String) :
    Keeps Session.IsSound (Engine.assignText (announce reactions) position text) := by
  intro session holds
  rw [runFrom_assignText holds.quiet]
  refine ⟨holds.quiet.assigned position text, ?_⟩
  unfold Session.assigned
  split
  · exact holds.sound
  · rw [Session.grid_rewritten]
    exact holds.sound.recalculated_setText position text

theorem assignColor (position : Position size) (color : Color) :
    Keeps Session.IsSound (Engine.assignColor (announce reactions) position color) := by
  intro session holds
  rw [runFrom_assignColor holds.quiet]
  refine ⟨holds.quiet.colored position color, ?_⟩
  unfold Session.colored
  split
  · exact holds.sound
  · apply holds.sound.congr
    · exact fun cell => (Grid.text_setColor _ position cell color).symm
    · exact fun cell => (Grid.value_setColor _ position cell color).symm

/-! ## Steps aside -/

theorem evaluateFormula (position : Position size) :
    Keeps Session.IsSound (Engine.evaluateFormula position) := by
  intro session holds
  rw [runFrom_evaluateFormula holds.quiet.unguarded]
  exact holds

theorem modifyHistory (update : History size → History size) :
    Keeps Session.IsSound (Engine.modifyHistory update) :=
  change fun _ holds => ⟨⟨holds.quiet.unheard, holds.quiet.unguarded⟩, holds.sound⟩

/-- Nobody is subscribed, so nobody can be unsubscribed. -/
theorem unsubscribe (id : String) :
    Keeps Session.IsSound (Engine.unsubscribe id : Engine size _) := by
  intro session holds
  rw [Engine.unsubscribe, runFrom_bind_of_ok _ (runFrom_get _), holds.quiet.unheard]
  exact holds

/-! ## Operations -/

/-- That a step keeps a session sound is a judgement about steps with the announcements
of a session. -/
theorem ruling_isSound (size : Size) (reactions : Nat) :
    Ruling (fun _ (step _ : Engine size _) => Keeps Session.IsSound step)
      fun first _ => first = announce reactions where
  pure := pure
  throw := throw
  get := get
  bind := bind
  updateValue := by
    rintro _ _ rfl position
    exact updateValue position
  recalculate := by
    rintro _ _ rfl position _
    exact recalculate position
  assignText := by
    rintro _ _ rfl position text _
    exact assignText position text
  assignColor := by
    rintro _ _ rfl position color
    exact assignColor position color
  detached standing := change fun session holds => by
    refine ⟨⟨?_, ?_⟩, ?_⟩
    · rw [standing.subscribers, holds.quiet.unheard]
    · rw [standing.guarded, holds.quiet.unguarded]
    · rw [standing.grid]
      exact holds.sound
  evaluateFormula := evaluateFormula
  unguard := change fun _ holds => ⟨⟨holds.quiet.unheard, rfl⟩, holds.sound⟩
  modifyHistory := modifyHistory
  unsubscribe := unsubscribe

theorem clearAll :
    Keeps Session.IsSound (Engine.clearAll (announce reactions) : Engine size Unit) :=
  @Governing.clearAll _ _ _ (announce reactions) (announce reactions)
    (ruling_isSound size reactions).toGoverning rfl

theorem enterRecord (record : Archive.Record size) :
    Keeps Session.IsSound (Engine.enterRecord (announce reactions) record) :=
  bind (assignColor record.position record.color) fun _ => assignText record.position record.text

/-- Every operation that subscribes no script and guards no name keeps a session
sound. -/
theorem perform (operation : Operation) (quiet : operation.staysQuiet = true) :
    Keeps Session.IsSound (Engine.perform (announce reactions) operation : Engine size _) := by
  apply @Ruling.perform _ _ _ (announce reactions) (announce reactions)
    (ruling_isSound size reactions) rfl operation
  intro loud
  rw [quiet] at loud
  cases loud

end Keeps
end Engine

namespace Session

theorem IsSound.step {session : Session size} (sound : session.IsSound) {operation : Operation}
    (quiet : operation.staysQuiet = true) : (session.step operation).2.IsSound :=
  Engine.Keeps.perform operation quiet session sound

/-- A session is sound after operations that subscribe no script and guard no
name. -/
theorem IsSound.after {session : Session size} (sound : session.IsSound)
    {operations : List Operation} (quiet : ∀ operation ∈ operations, operation.staysQuiet = true) :
    (session.after operations).IsSound := by
  induction operations generalizing session with
  | nil => exact sound
  | cons first later hypothesis =>
    exact hypothesis (sound.step (quiet first List.mem_cons_self))
      fun operation member => quiet operation (List.mem_cons_of_mem first member)

end Session

/-! ## Small sheets

One row is enough for the sessions that show what can happen. -/

namespace Size

def twoCells : Size :=
  ⟨1, 2, by decide, by decide, by decide, by decide⟩

def threeCells : Size :=
  ⟨1, 3, by decide, by decide, by decide, by decide⟩

def fourCells : Size :=
  ⟨1, 4, by decide, by decide, by decide, by decide⟩

def fiveCells : Size :=
  ⟨1, 5, by decide, by decide, by decide, by decide⟩

def sixCells : Size :=
  ⟨1, 6, by decide, by decide, by decide, by decide⟩

end Size
end Worksheet
