import Worksheet.Proofs.Session.Obedience

namespace Worksheet

/-!
# Undo and redo that fail

A command leaves its stack before it is reverted or executed, and it enters the other
stack only behind that.  In between cells are written and recalculated, and the scripts
that follow may edit, recalculate and give up themselves.  As long as they leave the
history to others, the two stacks stand still meanwhile, so whatever makes an undo fail
costs the one command that was to be undone, and no other.
-/

variable {size : Size}

/-- Whether the operation leaves the history to others. -/
def Operation.leavesHistory (operation : Operation) : Bool :=
  !operation.changesHistory

theorem Operation.leavesHistory_fill (name value : String) (operation : Operation) :
    (operation.fill name value).leavesHistory = operation.leavesHistory := by
  cases operation <;> rfl

/-! ## Commands that change their stack -/

/-- A way for commands from one stack of the history to the other.  A command is taken from
its stack, what it holds is entered, and it is put on the other stack. -/
structure Shift (size : Size) where
  stack : History size → List (Command size)
  other : History size → List (Command size)
  /-- Leave only the rest of the stack. -/
  take : List (Command size) → History size → History size
  put : Command size → History size → History size
  entry : Command size → Entry
  taken : ∀ rest history, stack (take rest history) = rest ∧
    other (take rest history) = other history
  placed : ∀ command history, stack (put command history) = stack history ∧
    other (put command history) = command :: other history

namespace Shift

/-- Undone commands can be redone. -/
def backward : Shift size where
  stack := History.undoable
  other := History.redoable
  take rest history := { history with undoable := rest }
  put command history := { history with redoable := command :: history.redoable }
  entry := Command.former
  taken _ _ := ⟨rfl, rfl⟩
  placed _ _ := ⟨rfl, rfl⟩

/-- Redone commands can be undone. -/
def forward : Shift size where
  stack := History.redoable
  other := History.undoable
  take rest history := { history with redoable := rest }
  put command history := { history with undoable := command :: history.undoable }
  entry := Command.latter
  taken _ _ := ⟨rfl, rfl⟩
  placed _ _ := ⟨rfl, rfl⟩

/-- Shift the first command of the stack, behind which the rest remains. -/
def make (shift : Shift size) (announce : Announcement size) (command : Command size)
    (rest : List (Command size)) : Engine size Unit := do
  Engine.modifyHistory (shift.take rest)
  Engine.enter announce command.kind command.position (shift.entry command)
  Engine.modifyHistory (shift.put command)

theorem runFrom_take (shift : Shift size) (rest : List (Command size)) (session : Session size) :
    (Engine.modifyHistory (shift.take rest)).runFrom session = (.ok (), { session with
      sheet := { session.sheet with history := shift.take rest session.sheet.history } }) := rfl

/-- The operation shifts the next command, if there is one, and does nothing else. -/
structure IsMadeBy (shift : Shift size) (operation : Operation) : Prop where
  empty : ∀ (announce : Announcement size) (session : Session size),
    shift.stack session.sheet.history = [] →
      (Engine.perform announce operation).runFrom session = (.ok .nothing, session)
  full : ∀ (announce : Announcement size) (session : Session size) command rest,
    shift.stack session.sheet.history = command :: rest →
      (Engine.perform announce operation).runFrom session =
        (((shift.make announce command rest).runFrom session).1.map fun _ => .nothing,
          ((shift.make announce command rest).runFrom session).2)

theorem isMadeBy_undo : (backward : Shift size).IsMadeBy .undo where
  empty announce session empty := by
    replace empty : session.sheet.history.undoable = [] := empty
    rw [Engine.perform, Engine.runFrom_done, Engine.undo,
      Engine.runFrom_bind_of_ok _ (Engine.runFrom_sheet session), empty]
    rfl
  full announce session command rest chosen := by
    replace chosen : session.sheet.history.undoable = command :: rest := chosen
    rw [Engine.perform, Engine.runFrom_done, Engine.undo,
      Engine.runFrom_bind_of_ok _ (Engine.runFrom_sheet session), chosen]
    rfl

theorem isMadeBy_redo : (forward : Shift size).IsMadeBy .redo where
  empty announce session empty := by
    replace empty : session.sheet.history.redoable = [] := empty
    rw [Engine.perform, Engine.runFrom_done, Engine.redo,
      Engine.runFrom_bind_of_ok _ (Engine.runFrom_sheet session), empty]
    rfl
  full announce session command rest chosen := by
    replace chosen : session.sheet.history.redoable = command :: rest := chosen
    rw [Engine.perform, Engine.runFrom_done, Engine.redo,
      Engine.runFrom_bind_of_ok _ (Engine.runFrom_sheet session), chosen]
    rfl

end Shift

/-! ## What a failure costs -/

namespace Engine

variable {trusted : String → Bool} {session : Session size}

/-- While all scripts leave the history to others, announcements keep it. -/
theorem keeps_announce_leaving (trusted : String → Bool) (held : History size → Prop)
    (reactions : Nat) (position : Position size) (property : Property) :
    Keeps (Session.HeedsWith Operation.leavesHistory trusted held)
      (announce reactions position property) := by
  refine keeps_announce Operation.leavesHistory_fill (fun _ _ operation changes leaves => ?_)
    reactions position property
  rw [Operation.leavesHistory, changes] at leaves
  cases leaves

/-- Entering what a command holds leaves the history as it is, however it ends. -/
theorem history_enter (heeds : session.Heeds Operation.leavesHistory trusted) (reactions : Nat)
    (kind : EditKind) (position : Position size) (entry : Entry) :
    ((enter (announce reactions) kind position entry).runFrom session).2.sheet.history =
      session.sheet.history := by
  let held : History size → Prop := (· = session.sheet.history)
  have rules := (heeding_keeps Operation.leavesHistory trusted held).governing
  have keeps := @Governing.enter _ _ _ (announce reactions) (announce reactions) rules
    (keeps_announce_leaving trusted held reactions) kind position entry
  exact (keeps session ⟨heeds, rfl⟩).history

/-- A shift of which the entering ends well is completed, and one that fails stops behind
the taking. -/
theorem history_shift (heeds : session.Heeds Operation.leavesHistory trusted) (reactions : Nat)
    (shift : Shift size) (command : Command size) (rest : List (Command size)) :
    match (shift.make (announce reactions) command rest).runFrom session with
    | (.ok _, later) =>
        later.sheet.history = shift.put command (shift.take rest session.sheet.history)
    | (.error _, later) => later.sheet.history = shift.take rest session.sheet.history := by
  let taken : Session size := { session with
    sheet := { session.sheet with history := shift.take rest session.sheet.history } }
  have heedsTaken : taken.Heeds Operation.leavesHistory trusted := ⟨heeds.trusts, heeds.obeys⟩
  have kept := history_enter heedsTaken reactions command.kind command.position
    (shift.entry command)
  rw [Shift.make, runFrom_bind_of_ok _ (shift.runFrom_take rest session), runFrom_bind]
  cases ended : (enter (announce reactions) command.kind command.position
    (shift.entry command)).runFrom taken with
  | mk outcome later =>
    rw [ended] at kept
    cases outcome with
    | error fault => exact kept
    | ok result => exact congrArg (shift.put command) kept

end Engine

namespace Session

variable {trusted : String → Bool} {session : Session size}

/-- A shift that ends well answers nothing else. -/
theorem answer_of_isMadeBy {shift : Shift size} {operation : Operation}
    (made : shift.IsMadeBy operation) (ended : (session.step operation).1.answer.toBool = true) :
    (session.step operation).1.answer = .ok .nothing := by
  cases chosen : shift.stack session.sheet.history with
  | nil => exact (step_of_performed (made.empty _ session chosen)).1
  | cons command rest =>
    rw [(step_of_performed (made.full _ session command rest chosen)).1] at ended ⊢
    cases ran : ((shift.make (Engine.announce session.reactions) command rest).runFrom
      session).1 with
    | error fault =>
      rw [ran] at ended
      cases ended
    | ok result => rfl

/-- The step takes the next command from one stack of the history, if there is one.  The
command is put on the other stack if the step ends well, and that stack stays as it is if
the step fails. -/
def TakesOne (stack other : History size → List (Command size)) (operation : Operation)
    (session : Session size) : Prop :=
  match stack session.sheet.history with
  | [] => (session.step operation).1.answer = .ok .nothing ∧ (session.step operation).2 = session
  | command :: rest =>
      stack (session.step operation).2.sheet.history = rest ∧
        match (session.step operation).1.answer with
        | .ok _ => other (session.step operation).2.sheet.history =
            command :: other session.sheet.history
        | .error _ => other (session.step operation).2.sheet.history = other session.sheet.history

/-- A step that makes a shift. -/
theorem takesOne_of_isMadeBy (heeds : session.Heeds Operation.leavesHistory trusted)
    {shift : Shift size} {operation : Operation} (made : shift.IsMadeBy operation) :
    session.TakesOne shift.stack shift.other operation := by
  rw [TakesOne]
  cases chosen : shift.stack session.sheet.history with
  | nil =>
    obtain ⟨answered, _, left⟩ := step_of_performed (made.empty _ session chosen)
    exact ⟨answered, left⟩
  | cons command rest =>
    obtain ⟨answered, _, left⟩ := step_of_performed (made.full _ session command rest chosen)
    have history := Engine.history_shift heeds session.reactions shift command rest
    obtain ⟨first, second⟩ := shift.taken rest session.sheet.history
    rw [answered, left]
    generalize (shift.make (Engine.announce session.reactions) command rest).runFrom session = ran
      at history
    obtain ⟨fault | result, later⟩ := ran
    · replace history : later.sheet.history = shift.take rest session.sheet.history := history
      dsimp only [Except.map]
      rw [history]
      exact ⟨first, second⟩
    · replace history : later.sheet.history =
          shift.put command (shift.take rest session.sheet.history) := history
      obtain ⟨same, more⟩ := shift.placed command (shift.take rest session.sheet.history)
      dsimp only [Except.map]
      rw [history, same, more, second]
      exact ⟨first, rfl⟩

/-- A step that fails has taken one command, and the other stack is untouched. -/
theorem TakesOne.of_error {stack other : History size → List (Command size)}
    {operation : Operation} {fault : Fault} (takes : session.TakesOne stack other operation)
    (failed : (session.step operation).1.answer = .error fault) :
    (∃ command, stack session.sheet.history =
        command :: stack (session.step operation).2.sheet.history) ∧
      other (session.step operation).2.sheet.history = other session.sheet.history := by
  rw [TakesOne, failed] at takes
  cases chosen : stack session.sheet.history with
  | nil =>
    rw [chosen] at takes
    cases takes.1
  | cons command rest =>
    rw [chosen] at takes
    exact ⟨⟨command, by rw [takes.1]⟩, takes.2⟩

/-- Let the scripts that follow a session leave the history to others.  If an undo fails, for
whatever reason, one command is lost, namely the next one to be undone: it is taken from its
stack and not put on the other, which is as before.  If a redo fails, the same is true of the
next command to be redone.  If they end well, the command has changed its stack, and
without a command they do nothing. -/
theorem one_lost_of_failure (heeds : session.Heeds Operation.leavesHistory trusted) :
    (∀ fault, (session.step .undo).1.answer = .error fault →
      (∃ command, session.sheet.history.undoable =
          command :: (session.step .undo).2.sheet.history.undoable) ∧
        (session.step .undo).2.sheet.history.redoable = session.sheet.history.redoable) ∧
    (∀ fault, (session.step .redo).1.answer = .error fault →
      (∃ command, session.sheet.history.redoable =
          command :: (session.step .redo).2.sheet.history.redoable) ∧
        (session.step .redo).2.sheet.history.undoable = session.sheet.history.undoable) ∧
    session.TakesOne History.undoable History.redoable .undo ∧
    session.TakesOne History.redoable History.undoable .redo := by
  have undone : session.TakesOne History.undoable History.redoable .undo :=
    takesOne_of_isMadeBy heeds Shift.isMadeBy_undo
  have redone : session.TakesOne History.redoable History.undoable .redo :=
    takesOne_of_isMadeBy heeds Shift.isMadeBy_redo
  exact ⟨fun _ => undone.of_error, fun _ => redone.of_error, undone, redone⟩

/-- A text has been changed twice and one change undone.  A script gives up when the second
cell, which reads the first one, gets another value; before that it edits a third cell and
subscribes a script that evaluates. -/
def followed : Session .threeCells :=
  (fresh .threeCells).after
    [.assignText "B1" (.text "=A1+1"), .edit ⟨.text, some "A1", none, .text "1"⟩,
      .edit ⟨.text, some "A1", none, .text "2"⟩, .edit ⟨.text, some "A1", none, .text "3"⟩, .undo,
      .subscribe "s" [.mk (some "B1") (some "value") 2
        [.assignText "C1" (.text "seen"),
          .subscribe "t" [.mk none none 1 [.evaluateFormula "B1"]], .giveUp "no"]]]

theorem one_lost_of_failure_of_followed :
    followed.Heeds Operation.leavesHistory (fun _ => true) ∧
      followed.sheet.history.undoable.length = 2 ∧ followed.sheet.history.redoable.length = 1 ∧
      (followed.step .undo).1.answer = .error (.raised "no") ∧
      (∃ command, followed.sheet.history.undoable =
        command :: (followed.step .undo).2.sheet.history.undoable) ∧
      (followed.step .undo).2.sheet.history.redoable = followed.sheet.history.redoable := by
  have obeys : ∀ script ∈ followed.scripts, ∀ active ∈ script.2,
      active.rule.obeys Operation.leavesHistory (fun _ => true) = true := by decide +kernel
  have heeds : followed.Heeds Operation.leavesHistory (fun _ => true) :=
    ⟨fun _ _ => rfl, fun script member active among _ => obeys script member active among⟩
  have mapped : (followed.step .undo).1.answer.map (fun _ => ()) = .error (.raised "no") := by
    decide +kernel
  have failed : (followed.step .undo).1.answer = .error (.raised "no") := by
    cases answered : (followed.step .undo).1.answer with
    | error fault =>
      rw [answered] at mapped
      exact congrArg Except.error (Except.error.inj mapped)
    | ok answer =>
      rw [answered] at mapped
      cases mapped
  refine ⟨heeds, by decide +kernel, by decide +kernel, failed, ?_⟩
  exact (one_lost_of_failure heeds).1 _ failed

/-- An undo to a color that is out of range fails, and the command is in neither stack. -/
theorem lost_after_undo_of_outsideColor :
    ((fresh .twoCells).after [.edit ⟨.color, some "A1", some (.integer (-1)), .integer 0⟩]
      ).sheet.history.undoable.length = 1 ∧
    (((fresh .twoCells).after [.edit ⟨.color, some "A1", some (.integer (-1)), .integer 0⟩]
      ).step .undo).1.answer = .error (.colorOutOfRange (-1)) ∧
    (((fresh .twoCells).after [.edit ⟨.color, some "A1", some (.integer (-1)), .integer 0⟩]
      ).step .undo).2.sheet.history = .empty := by
  refine ⟨?_, ?_, ?_⟩
  · decide +kernel
  · rfl
  · decide +kernel

end Session
end Worksheet
