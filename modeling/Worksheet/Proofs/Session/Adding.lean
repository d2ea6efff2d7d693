import Worksheet.Proofs.Session.Undoing

namespace Worksheet

/-!
# Commands that scripts add

A command that is added makes it impossible to redo what was undone before.  A script may add
one while another command is reverted or executed, so between the moment at which that command
has left its stack and the moment at which it enters the other one.  Then nothing is left of
what could be redone before.  A redo adds to the commands to undo only, so nothing remains to
be redone behind it; but an undo puts its own command on the stack that has just been cleared.

Whether scripts add commands is asked of a second run, in which an alarm is raised where a
script is about to add one.  Both runs come to the same as long as no command is added, and
an alarm is not caught by anything.
-/

variable {size : Size} {α β : Type}

/-- Whether the operation does not change the history except by adding commands. -/
def Operation.onlyAdds : Operation → Bool
  | .add _ | .edit _ => true
  | operation => operation.leavesHistory

theorem Operation.onlyAdds_fill (name value : String) (operation : Operation) :
    (operation.fill name value).onlyAdds = operation.onlyAdds := by
  cases operation <;> rfl

namespace Engine

/-- Perform an operation like `perform` does, but raise an alarm where it adds a command. -/
def performBarred (alarm : Fault) (announce : Announcement size) :
    Operation → Engine size (Answer size)
  | .add id => do
      let _ ← (commandOf id : Engine size _)
      throw alarm
  | .edit draft => do
      let _ ← (makeCommand draft : Engine size _)
      throw alarm
  | operation => perform announce operation

/-- Announce a change like `announce` does, but raise an alarm where a script adds a
command. -/
def announceBarred (alarm : Fault) : (reactions : Nat) → Announcement size
  | 0, position, property => record position property
  | reactions + 1, position, property => do
      record position property
      (← get).subscribers.forM (follow (fun operation => do
        let _ ← performBarred alarm (announceBarred alarm reactions) operation) position property)

/-! ## Two runs that part where a command is added -/

/-- Two runs come to the same and leave the history as it was before; or commands have been
added in the second one, and the first one has ended with the alarm. -/
inductive Parts (alarm : Fault) (before : History size) :
    Except Fault α × Session size → Except Fault α × Session size → Prop
  | alike (outcome : Except Fault α) (after : Session size)
      (kept : after.sheet.history = before) : Parts alarm before (outcome, after) (outcome, after)
  | barred (stopped : Session size) (outcome : Except Fault α) (after : Session size)
      (added : List (Command size)) (some_added : added ≠ [])
      (grown : after.sheet.history = ⟨added ++ before.undoable, []⟩) :
      Parts alarm before (.error alarm, stopped) (outcome, after)

/-- Where the first step raises an alarm, the second one adds commands; nothing else happens to
the history, and the sessions go on heeding that scripts only add commands. -/
def Bars (trusted : String → Bool) (alarm : Fault) ⦃α : Type⦄ (first second : Engine size α) :
    Prop :=
  ∀ session, session.Heeds Operation.onlyAdds trusted →
    (second.runFrom session).2.Heeds Operation.onlyAdds trusted ∧
      Parts alarm session.sheet.history (first.runFrom session) (second.runFrom session)

variable {trusted : String → Bool} {alarm : Fault}

/-- What is added behind other commands comes on top of them. -/
theorem Parts.on_top {before middle : History size} {added : List (Command size)}
    {first second : Except Fault α × Session size} (parts : Parts alarm middle first second)
    (some_added : added ≠ []) (grown : middle = ⟨added ++ before.undoable, []⟩) :
    ∃ more, more ≠ [] ∧ second.2.sheet.history = ⟨more ++ before.undoable, []⟩ := by
  subst grown
  cases parts with
  | alike outcome after kept => exact ⟨added, some_added, kept⟩
  | barred stopped outcome after later _ grown =>
    refine ⟨later ++ added, List.append_ne_nil_of_right_ne_nil later some_added, ?_⟩
    rw [grown, List.append_assoc]

namespace Bars

/-- A step parts from itself nowhere if it keeps the history. -/
theorem of_keeps {step : Engine size α}
    (keeps : ∀ held, Keeps (Session.HeedsWith Operation.onlyAdds trusted held) step) :
    Bars trusted alarm step step := by
  intro session heeds
  have kept := keeps (· = session.sheet.history) session ⟨heeds, rfl⟩
  exact ⟨kept.toHeeds, .alike _ _ kept.history⟩

/-- Behind the first addition the second run goes on alone. -/
theorem bind {first second : Engine size α} {next other : α → Engine size β}
    (begun : Bars trusted alarm first second)
    (onward : ∀ result, Bars trusted alarm (next result) (other result)) :
    Bars trusted alarm (first >>= next) (second >>= other) := by
  intro session heeds
  obtain ⟨heedsAfter, parts⟩ := begun session heeds
  rw [runFrom_bind, runFrom_bind]
  generalize first.runFrom session = one, second.runFrom session = two at heedsAfter parts
  cases parts with
  | alike outcome after kept =>
    cases outcome with
    | error fault => exact ⟨heedsAfter, .alike _ _ kept⟩
    | ok result =>
      have behind := onward result after heedsAfter
      rw [kept] at behind
      exact behind
  | barred stopped outcome after added some_added grown =>
    cases outcome with
    | error fault => exact ⟨heedsAfter, .barred _ _ _ added some_added grown⟩
    | ok result =>
      obtain ⟨heedsLast, partsLast⟩ := onward result after heedsAfter
      obtain ⟨more, some_more, grownLast⟩ := partsLast.on_top some_added grown
      exact ⟨heedsLast, .barred stopped _ _ more some_more grownLast⟩

theorem withCleanUp {first second : Engine size α} {update : Session size → Session size}
    (beneath : Session.IsBeneath update) (bars : Bars trusted alarm first second) :
    Bars trusted alarm (Engine.withCleanUp first (modify update))
      (Engine.withCleanUp second (modify update)) := by
  have cleaned : ∀ after, (modify update : Engine size PUnit).runFrom after =
      (.ok ⟨⟩, update after) := fun _ => rfl
  intro session heeds
  obtain ⟨heedsAfter, parts⟩ := bars session heeds
  rw [runFrom_withCleanUp session cleaned, runFrom_withCleanUp session cleaned]
  generalize first.runFrom session = one, second.runFrom session = two at heedsAfter parts
  refine ⟨heedsAfter.beneath beneath, ?_⟩
  cases parts with
  | alike outcome after kept => exact .alike _ _ ((beneath.history after).trans kept)
  | barred stopped outcome after added some_added grown =>
    exact .barred _ _ _ added some_added ((beneath.history after).trans grown)

/-- An addition is where the runs part. -/
theorem adding {next other : Engine size α} (onward : Bars trusted alarm next other)
    (command : Command size) :
    Bars trusted alarm (throw alarm) (addCommand command >>= fun _ => other) := by
  intro session heeds
  let added : Session size :=
    { session with sheet := { session.sheet with history := session.sheet.history.add command } }
  have ran : (addCommand command).runFrom session = (.ok (), added) := rfl
  obtain ⟨heedsLast, parts⟩ := onward added ⟨heeds.trusts, heeds.obeys⟩
  obtain ⟨more, some_more, grown⟩ := parts.on_top (List.cons_ne_nil command []) rfl
  rw [runFrom_bind_of_ok _ ran]
  exact ⟨heedsLast, .barred session _ _ more some_more grown⟩

end Bars

/-- That additions are where two steps part is a judgement about sessions whose scripts only
add commands. -/
theorem heeding_bars (trusted : String → Bool) (alarm : Fault) :
    Heeding Operation.onlyAdds trusted (@Bars size trusted alarm) where
  pure result := .of_keeps fun _ => .pure result
  throw fault := .of_keeps fun _ => .throw fault
  get := .of_keeps fun _ => .get
  bind := .bind
  overlooked beneath := .of_keeps fun _ => keeps_beneath beneath
  cleaned beneath := .withCleanUp beneath
  looking := by
    intro α id first second trusts onward session heeds
    have found : (scriptOf id).runFrom session =
        (.ok ((session.scripts.lookup id).getD []), session) := rfl
    rw [runFrom_bind_of_ok _ found, runFrom_bind_of_ok _ found]
    refine onward _ (fun one member => ?_) session heeds
    obtain ⟨index, among⟩ := List.mem_iff_getElem?.mp member
    exact heeds.obeys.of_lookup among trusts
  telling := by
    intro α first second onward session heeds
    have got := runFrom_get session
    rw [runFrom_bind_of_ok _ got, runFrom_bind_of_ok _ got]
    exact onward session.subscribers heeds.trusts session heeds
  countUse id index := .of_keeps fun held => (heeding_keeps _ trusted held).countUse id index
  subscribe trusts obey := .of_keeps fun held =>
    (heeding_keeps _ trusted held).subscribe trusts obey
  unsubscribe id := .of_keeps fun held => (heeding_keeps _ trusted held).unsubscribe id

/-- The runs of an operation that obeys part where it adds a command. -/
theorem bars_performBarred {first second : Announcement size}
    (heard : ∀ position property,
      Bars trusted alarm (first position property) (second position property))
    {operation : Operation} (obeys : operation.obeys Operation.onlyAdds trusted = true) :
    Bars trusted alarm (performBarred alarm first operation) (perform second operation) := by
  have heeding : Heeding Operation.onlyAdds trusted (@Bars size trusted alarm) :=
    heeding_bars trusted alarm
  cases operation with
  | add id =>
    exact heeding.bind (heeding.commandOf id) fun command => .adding (heeding.pure _) command
  | edit draft =>
    refine heeding.bind (heeding.makeCommand draft) fun command => ?_
    have onward := heeding.governing.execute heard command
    exact .adding (heeding.bind onward fun _ => heeding.pure _) command
  | undo => exact heeding.perform heard obeys fun _ only => nomatch only
  | redo => exact heeding.perform heard obeys fun _ only => nomatch only
  | clearHistory => exact heeding.perform heard obeys fun _ only => nomatch only
  | readText document => exact heeding.perform heard obeys fun _ only => nomatch only
  | readBytes bytes => exact heeding.perform heard obeys fun _ only => nomatch only
  | _ => exact heeding.perform heard obeys fun changes _ => nomatch changes

theorem bars_announce (trusted : String → Bool) (alarm : Fault) (reactions : Nat)
    (position : Position size) (property : Property) :
    Bars trusted alarm (announceBarred alarm reactions position property)
      (announce reactions position property) := by
  have heeding : Heeding Operation.onlyAdds trusted (@Bars size trusted alarm) :=
    heeding_bars trusted alarm
  induction reactions generalizing position property with
  | zero => exact heeding.record position property
  | succ reactions hypothesis =>
    let barred : Operation → Engine size Unit := fun operation => do
      let _ ← performBarred alarm (announceBarred alarm reactions) operation
    let performing : Operation → Engine size Unit := fun operation => do
      let _ ← perform (announce reactions) operation
    have each : ∀ operation : Operation, operation.obeys Operation.onlyAdds trusted = true →
        Bars trusted alarm (barred operation) (performing operation) :=
      fun operation obeys =>
        heeding.bind (bars_performBarred hypothesis obeys) fun _ => heeding.pure ()
    exact @Heeding.announcement _ _ _ _ heeding barred performing Operation.onlyAdds_fill each
      position property

/-- Commands that scripts add during a shift stand on top of those that remain to be undone. -/
theorem added_during_shift {session later : Session size}
    (heeds : session.Heeds Operation.onlyAdds trusted) (reactions : Nat) (shift : Shift size)
    (command : Command size) (rest : List (Command size))
    (ended : (shift.make (announce reactions) command rest).runFrom session = (.ok (), later)) :
    (((shift.make (announceBarred alarm reactions) command rest).runFrom session).1 = .ok () ∧
      later.sheet.history = shift.put command (shift.take rest session.sheet.history)) ∨
    (((shift.make (announceBarred alarm reactions) command rest).runFrom session).1 =
        .error alarm ∧
      ∃ added, added ≠ [] ∧ later.sheet.history =
        shift.put command ⟨added ++ (shift.take rest session.sheet.history).undoable, []⟩) := by
  let taken : Session size := { session with
    sheet := { session.sheet with history := shift.take rest session.sheet.history } }
  have heedsTaken : taken.Heeds Operation.onlyAdds trusted := ⟨heeds.trusts, heeds.obeys⟩
  have rules := (@heeding_bars size trusted alarm).governing
  have bars := rules.enter (bars_announce trusted alarm reactions) command.kind command.position
    (shift.entry command)
  rcases bars taken heedsTaken with ⟨_, parts⟩
  have took := shift.runFrom_take rest session
  rw [Shift.make, runFrom_bind_of_ok _ took, runFrom_bind] at ended
  rw [Shift.make, runFrom_bind_of_ok _ took, runFrom_bind]
  generalize (enter (announceBarred alarm reactions) command.kind command.position
      (shift.entry command)).runFrom taken = one,
    (enter (announce reactions) command.kind command.position
      (shift.entry command)).runFrom taken = two at parts ended
  cases parts with
  | alike outcome after kept =>
    cases outcome with
    | error fault => cases ended
    | ok result =>
      cases ended
      exact .inl ⟨rfl, congrArg (shift.put command) kept⟩
  | barred stopped outcome after added some_added grown =>
    cases outcome with
    | error fault => cases ended
    | ok result =>
      cases ended
      exact .inr ⟨rfl, added, some_added, congrArg (shift.put command) grown⟩

end Engine

namespace Session

variable {trusted : String → Bool} {session : Session size}

/-- While the operation is performed, a script comes to add a command: with an alarm raised
where that happens, the operation ends with this alarm. -/
def AddsWithin (session : Session size) (operation : Operation) : Prop :=
  ∀ alarm, ((Engine.perform (Engine.announceBarred alarm session.reactions) operation).runFrom
    session).1 = .error alarm

/-- With an alarm raised where scripts add commands, an operation that makes a shift and ends
well comes to the same, or it ends with the alarm. -/
theorem moved_or_barred (heeds : session.Heeds Operation.onlyAdds trusted) {shift : Shift size}
    {operation : Operation} (made : shift.IsMadeBy operation) {answer : Answer size}
    (ended : (session.step operation).1.answer = .ok answer) {command : Command size}
    {rest : List (Command size)} (chosen : shift.stack session.sheet.history = command :: rest)
    (alarm : Fault) :
    (((Engine.perform (Engine.announceBarred alarm session.reactions) operation).runFrom
          session).1 = .ok .nothing ∧
      (session.step operation).2.sheet.history =
        shift.put command (shift.take rest session.sheet.history)) ∨
    (((Engine.perform (Engine.announceBarred alarm session.reactions) operation).runFrom
          session).1 = .error alarm ∧
      ∃ added, added ≠ [] ∧ (session.step operation).2.sheet.history =
        shift.put command ⟨added ++ (shift.take rest session.sheet.history).undoable, []⟩) := by
  rcases step_of_performed (made.full _ session command rest chosen) with ⟨answered, _, left⟩
  rw [answered] at ended
  rw [left, made.full _ session command rest chosen]
  cases ran : (shift.make (Engine.announce session.reactions) command rest).runFrom session with
  | mk outcome later =>
    rw [ran] at ended
    cases outcome with
    | error fault => cases ended
    | ok result =>
      have either := @Engine.added_during_shift _ _ alarm _ _ heeds session.reactions shift command
        rest ran
      rcases either with ⟨plain, history⟩ | ⟨stopped, grown⟩
      · rw [plain]
        exact .inl ⟨rfl, history⟩
      · rw [stopped]
        exact .inr ⟨rfl, grown⟩

/-- What is left of the history behind a shift that ends well.  The command has only moved, or
commands have been added meanwhile, on top of those that remain to be undone. -/
structure MovesOrAdds (shift : Shift size) (operation : Operation) (session : Session size) :
    Prop where
  moved : ¬ session.AddsWithin operation → ∀ command rest,
    shift.stack session.sheet.history = command :: rest →
      (session.step operation).2.sheet.history =
        shift.put command (shift.take rest session.sheet.history)
  grown : session.AddsWithin operation → ∃ command rest added,
    shift.stack session.sheet.history = command :: rest ∧ added ≠ [] ∧
      (session.step operation).2.sheet.history =
        shift.put command ⟨added ++ (shift.take rest session.sheet.history).undoable, []⟩

theorem movesOrAdds_of_isMadeBy (heeds : session.Heeds Operation.onlyAdds trusted)
    {shift : Shift size} {operation : Operation} (made : shift.IsMadeBy operation)
    {answer : Answer size} (ended : (session.step operation).1.answer = .ok answer) :
    session.MovesOrAdds shift operation where
  moved spares command rest chosen := by
    rcases not_forall.mp spares with ⟨alarm, other⟩
    rcases moved_or_barred heeds made ended chosen alarm with ⟨_, history⟩ | ⟨stopped, _⟩
    · exact history
    · exact absurd stopped other
  grown adds := by
    have alarmed := adds (.raised "")
    cases chosen : shift.stack session.sheet.history with
    | nil =>
      rw [made.empty _ session chosen] at alarmed
      cases alarmed
    | cons command rest =>
      rcases moved_or_barred heeds made ended chosen (.raised "") with
        ⟨plain, _⟩ | ⟨_, added, some_added, history⟩
      · cases plain.symm.trans alarmed
      · exact ⟨command, rest, added, rfl, some_added, history⟩

/-- A command that only moves makes the other stack longer by one. -/
theorem MovesOrAdds.addsWithin {shift : Shift size} {operation : Operation}
    (either : session.MovesOrAdds shift operation)
    (nonempty : shift.stack session.sheet.history ≠ [])
    (differs : (shift.other (session.step operation).2.sheet.history).length ≠
      (shift.other session.sheet.history).length + 1) : session.AddsWithin operation := by
  rcases List.exists_cons_of_ne_nil nonempty with ⟨command, rest, chosen⟩
  by_contra spares
  apply differs
  rw [either.moved spares command rest chosen, (shift.placed command _).2, List.length_cons,
    (shift.taken rest _).2]

theorem history_of_add {id : String} {answer : Answer size}
    (ended : (session.step (.add id)).1.answer = .ok answer) :
    ∃ command, session.commands.lookup id = some command ∧
      (session.step (.add id)).2.sheet.history = session.sheet.history.add command := by
  have performed : Engine.perform (Engine.announce session.reactions) (.add id) =
      ((Engine.commandOf id >>= Engine.addCommand : Engine size Unit) >>= fun _ => pure .nothing) :=
    (bind_assoc _ _ _).symm
  rcases step_of_performed ((congrArg (Engine.runFrom · session) performed).trans
    (Engine.runFrom_done session _)) with ⟨answered, _, left⟩
  rw [answered] at ended
  rw [left]
  cases named : session.commands.lookup id with
  | some command =>
    have found : (Engine.commandOf id).runFrom session = (.ok command, session) := by
      rw [Engine.commandOf, Engine.runFrom_bind_of_ok _ (Engine.runFrom_get session), named]
      rfl
    rw [Engine.runFrom_bind_of_ok _ found]
    exact ⟨command, rfl, rfl⟩
  | none =>
    have missing : (Engine.commandOf id : Engine size _).runFrom session =
        (.error (.unknownCommand id), session) := by
      rw [Engine.commandOf, Engine.runFrom_bind_of_ok _ (Engine.runFrom_get session), named]
      rfl
    rw [Engine.runFrom_bind, missing] at ended
    cases ended

/-- Let the scripts that follow a session leave the history to others except for adding
commands.  After a command is added nothing can be redone.  After a redo that ends well and
during which scripts have added commands, nothing can be redone either.  After such an undo
its own command, and only this one, can be redone, although commands have been added since. -/
theorem redoable_of_additions (heeds : session.Heeds Operation.onlyAdds trusted) :
    (∀ id answer, (session.step (.add id)).1.answer = .ok answer →
      (session.step (.add id)).2.sheet.history.redoable = []) ∧
    (∀ answer, (session.step .redo).1.answer = .ok answer → session.AddsWithin .redo →
      ∃ command later added, session.sheet.history.redoable = command :: later ∧ added ≠ [] ∧
        (session.step .redo).2.sheet.history =
          ⟨command :: (added ++ session.sheet.history.undoable), []⟩) ∧
    (∀ answer, (session.step .undo).1.answer = .ok answer → session.AddsWithin .undo →
      ∃ command earlier added, session.sheet.history.undoable = command :: earlier ∧ added ≠ [] ∧
        (session.step .undo).2.sheet.history = ⟨added ++ earlier, [command]⟩) := by
  refine ⟨fun id answer ended => ?_, fun answer ended adds => ?_, fun answer ended adds => ?_⟩
  · rcases history_of_add ended with ⟨command, _, history⟩
    rw [history, History.add]
  · exact (movesOrAdds_of_isMadeBy heeds Shift.isMadeBy_redo ended).grown adds
  · exact (movesOrAdds_of_isMadeBy heeds Shift.isMadeBy_undo ended).grown adds

/-- The text of a cell has been changed twice and one change undone.  When the text changes
again, a script adds a command. -/
def answered : Session .twoCells :=
  (fresh .twoCells).after
    [.define "c" ⟨.text, some "B1", none, .text "x"⟩, .edit ⟨.text, some "A1", none, .text "1"⟩,
      .edit ⟨.text, some "A1", none, .text "2"⟩, .undo,
      .subscribe "s" [.mk (some "A1") (some "text") 1 [.add "c"]]]

theorem heeds_answered : answered.Heeds Operation.onlyAdds (fun _ => true) := by
  have obeys : ∀ script ∈ answered.scripts, ∀ active ∈ script.2,
      active.rule.obeys Operation.onlyAdds (fun _ => true) = true := by decide +kernel
  exact ⟨fun _ _ => rfl, fun script member active among _ => obeys script member active among⟩

/-- A shift for which the script adds a command.  The other stack has one command both before
and afterwards, or it grows by two. -/
theorem addsWithin_answered {shift : Shift .twoCells} {operation : Operation}
    (made : shift.IsMadeBy operation) (ended : (answered.step operation).1.answer.toBool = true)
    (nonempty : shift.stack answered.sheet.history ≠ [])
    (differs : (shift.other (answered.step operation).2.sheet.history).length ≠
      (shift.other answered.sheet.history).length + 1) :
    (answered.step operation).1.answer = .ok .nothing ∧ answered.AddsWithin operation := by
  have done := answer_of_isMadeBy made ended
  exact ⟨done, (movesOrAdds_of_isMadeBy heeds_answered made done).addsWithin nonempty differs⟩

theorem addsWithin_undo_answered :
    (answered.step .undo).1.answer = .ok .nothing ∧ answered.AddsWithin .undo :=
  addsWithin_answered Shift.isMadeBy_undo (by decide +kernel) (by decide +kernel)
    (by decide +kernel)

theorem addsWithin_redo_answered :
    (answered.step .redo).1.answer = .ok .nothing ∧ answered.AddsWithin .redo :=
  addsWithin_answered Shift.isMadeBy_redo (by decide +kernel) (by decide +kernel)
    (by decide +kernel)

theorem redoable_of_additions_of_answered :
    answered.Heeds Operation.onlyAdds (fun _ => true) ∧
      ((answered.step (.add "c")).1.answer = .ok .nothing ∧
        (answered.step (.add "c")).2.sheet.history.redoable = []) ∧
      ((answered.step .redo).1.answer = .ok .nothing ∧ answered.AddsWithin .redo ∧
        (answered.step .redo).2.sheet.history.redoable = []) ∧
      (answered.step .undo).1.answer = .ok .nothing ∧ answered.AddsWithin .undo ∧
        ∃ command earlier added, answered.sheet.history.undoable = command :: earlier ∧
          added ≠ [] ∧ (answered.step .undo).2.sheet.history = ⟨added ++ earlier, [command]⟩ := by
  rcases redoable_of_additions heeds_answered with ⟨ofAdd, ofRedo, ofUndo⟩
  rcases addsWithin_undo_answered with ⟨undone, addsUndoing⟩
  rcases addsWithin_redo_answered with ⟨redone, addsRedoing⟩
  have added : (answered.step (.add "c")).1.answer = .ok .nothing := rfl
  refine ⟨heeds_answered, ⟨added, ofAdd "c" .nothing added⟩, ⟨redone, addsRedoing, ?_⟩, undone,
    addsUndoing, ofUndo .nothing undone addsUndoing⟩
  rcases ofRedo .nothing redone addsRedoing with ⟨command, later, more, _, _, history⟩
  rw [history]

/-- The undo ends well, a script has added a command meanwhile, and something can be redone. -/
theorem redoable_after_undo_of_answered :
    answered.Heeds Operation.onlyAdds (fun _ => true) ∧ answered.AddsWithin .undo ∧
      (answered.step .undo).1.answer = .ok .nothing ∧
      (answered.step .undo).2.sheet.history.redoable ≠ [] :=
  ⟨heeds_answered, addsWithin_undo_answered.2, addsWithin_undo_answered.1, by decide +kernel⟩

end Session
end Worksheet
