import Worksheet.Proofs.Session.Invariant
import Worksheet.Proofs.Session.Unheard

namespace Worksheet

/-!
# The history as a timeline

A command that was made from the present entry of a cell records a way between
two states of the sheet: its new entry leads forth, its former one leads back.
Editing, undoing and redoing move along these ways.  The commands that can be
undone always lead from the start of the session to the present, and those that
can be redone lead on from there.

Only texts and colors are restored.  Values are recomputed on the way, and no more
is claimed of them here than elsewhere.
-/

variable {size : Size}

/-! ## Ways between states -/

/-- What a kind of command would take for the former entry. -/
def Inscription.entry (inscription : Inscription) : EditKind → Entry
  | .text => .text inscription.text
  | .color => .ofColor inscription.color

/-- The former entry of a cell leads back. -/
theorem Inscriptions.enter?_entry {inscriptions others : Inscriptions size}
    {position : Position size} {kind : EditKind} {entry : Entry}
    (suits : inscriptions.enter? position kind entry = some others) :
    others.enter? position kind ((inscriptions position).entry kind) = some inscriptions := by
  unfold Inscriptions.enter? at suits
  split at suits
  · cases suits
    simp only [Inscription.entry, enter?, enterText, Function.update_idem, Function.update_self]
    exact congrArg some (Function.update_eq_self position inscriptions)
  · next code =>
    obtain ⟨color, found, same⟩ := Option.map_eq_some_iff.mp suits
    subst others
    simp only [Inscription.entry, Entry.ofColor, enter?, Color.ofInt?_val, Option.map_some,
      enterColor, Function.update_idem, Function.update_self]
    exact congrArg some (Function.update_eq_self position inscriptions)
  · cases suits

/-- The latter entry of the command leads from one state to another, and its
former entry leads back. -/
structure Command.Leads (command : Command size) (earlier later : Inscriptions size) : Prop where
  forth : earlier.enter? command.position command.kind command.latter = some later
  back : later.enter? command.position command.kind command.former = some earlier

/-- Commands lead from one state to another, one after the other. -/
inductive Inscriptions.Passes : Inscriptions size → List (Command size) → Inscriptions size → Prop
  | nil {here : Inscriptions size} : Passes here [] here
  | cons {first second last : Inscriptions size} {command : Command size}
      {later : List (Command size)} (leads : command.Leads first second)
      (onward : Passes second later last) : Passes first (command :: later) last

namespace Inscriptions.Passes

variable {first middle last : Inscriptions size} {earlier later : List (Command size)}

theorem append (passes : Passes first earlier middle) (onward : Passes middle later last) :
    Passes first (earlier ++ later) last := by
  induction passes with
  | nil => exact onward
  | cons leads _ hypothesis => exact .cons leads (hypothesis onward)

theorem exists_of_append (passes : Passes first (earlier ++ later) last) :
    ∃ middle, Passes first earlier middle ∧ Passes middle later last := by
  induction earlier generalizing first with
  | nil => exact ⟨first, .nil, passes⟩
  | cons command rest hypothesis =>
    cases passes with
    | cons leads onward =>
      obtain ⟨middle, before, behind⟩ := hypothesis onward
      exact ⟨middle, .cons leads before, behind⟩

/-- The last command leads to the last state. -/
theorem exists_of_concat {command : Command size}
    (passes : Passes first (earlier ++ [command]) last) :
    ∃ middle, Passes first earlier middle ∧ command.Leads middle last := by
  obtain ⟨middle, before, behind⟩ := exists_of_append passes
  cases behind with
  | cons leads onward =>
    cases onward
    exact ⟨middle, before, leads⟩

end Inscriptions.Passes

/-! ## Moving along the ways -/

namespace Engine.Ends

variable {first second last : Inscriptions size} {command : Command size} {reactions : Nat}

/-- Executing commands that lead somewhere leads there. -/
theorem replay {commands : List (Command size)} {history : History size}
    (passes : first.Passes commands last) :
    Ends (Session.Holds first history) (commands.forM (Engine.execute (Engine.announce reactions)))
      (Session.Holds last history) := by
  induction passes with
  | nil => exact pure _
  | cons leads _ hypothesis => exact bind (enter leads.forth) fun _ => hypothesis

variable {undoable redoable : List (Command size)}

theorem undo (leads : command.Leads first second) :
    Ends (Session.Holds second ⟨command :: undoable, redoable⟩)
      (Engine.undo (Engine.announce reactions))
      (Session.Holds first ⟨undoable, command :: redoable⟩) := by
  have back : Ends (Session.Holds second ⟨command :: undoable, redoable⟩) (do
      Engine.modifyHistory fun history => { history with undoable := undoable }
      revert (Engine.announce reactions) command
      Engine.modifyHistory fun history => { history with redoable := command :: history.redoable })
      (Session.Holds first ⟨undoable, command :: redoable⟩) :=
    bind (modifyHistory _) fun _ => bind (enter leads.back) fun _ => modifyHistory _
  intro session holds
  rw [Engine.undo, runFrom_bind_of_ok _ (runFrom_sheet _), holds.history_eq]
  exact back session holds

theorem redo (leads : command.Leads first second) :
    Ends (Session.Holds first ⟨undoable, command :: redoable⟩)
      (Engine.redo (Engine.announce reactions))
      (Session.Holds second ⟨command :: undoable, redoable⟩) := by
  have forth : Ends (Session.Holds first ⟨undoable, command :: redoable⟩) (do
      Engine.modifyHistory fun history => { history with redoable := redoable }
      execute (Engine.announce reactions) command
      Engine.modifyHistory fun history => { history with undoable := command :: history.undoable })
      (Session.Holds second ⟨command :: undoable, redoable⟩) :=
    bind (modifyHistory _) fun _ => bind (enter leads.forth) fun _ => modifyHistory _
  intro session holds
  rw [Engine.redo, runFrom_bind_of_ok _ (runFrom_sheet _), holds.history_eq]
  exact forth session holds

theorem undo_nil :
    Ends (Session.Holds first ⟨[], redoable⟩) (Engine.undo (Engine.announce reactions))
      (Session.Holds first ⟨[], redoable⟩) := by
  intro session holds
  rw [Engine.undo, runFrom_bind_of_ok _ (runFrom_sheet _), holds.history_eq]
  exact pure () session holds

theorem redo_nil :
    Ends (Session.Holds first ⟨undoable, []⟩) (Engine.redo (Engine.announce reactions))
      (Session.Holds first ⟨undoable, []⟩) := by
  intro session holds
  rw [Engine.redo, runFrom_bind_of_ok _ (runFrom_sheet _), holds.history_eq]
  exact pure () session holds

end Engine.Ends

/-- The former entry is left to be taken from the cell, and the latter one suits:
a text, or a code in range. -/
def Draft.suits (draft : Draft) : Bool :=
  draft.former.isNone &&
    match draft.kind, draft.latter with
    | .text, .text _ => true
    | .color, .integer code => 0 ≤ code && code ≤ 0xFFFFFFFF
    | _, _ => false

/-- Whether the operation moves along the timeline: an edit that suits, or a step
back or forth. -/
def Operation.movesInTime : Operation → Bool
  | edit draft => draft.suits
  | undo | redo => true
  | _ => false

/-- The commands that can be undone lead from the origin to the present state,
and those that can be redone lead on. -/
structure Session.OnTimeline (origin : Inscriptions size) (session : Session size) : Prop where
  unheard : session.subscribers = []
  past : origin.Passes session.sheet.history.undoable.reverse session.sheet.grid.inscriptions
  future : ∃ last, session.sheet.grid.inscriptions.Passes session.sheet.history.redoable last

/-- A suitable entry can be entered, and the command that is made of it leads
somewhere. -/
theorem Draft.exists_leads {draft : Draft} (suits : draft.suits = true)
    (inscriptions : Inscriptions size) (position : Position size) :
    ∃ others, (Command.mk draft.kind position ((inscriptions position).entry draft.kind)
      draft.latter).Leads inscriptions others := by
  have entered : ∃ others, inscriptions.enter? position draft.kind draft.latter = some others := by
    rw [Draft.suits, Bool.and_eq_true] at suits
    have fits := suits.2
    split at fits
    · next kind text isKind isEntry =>
      rw [isKind, isEntry]
      exact ⟨_, rfl⟩
    · next kind code isKind isEntry =>
      rw [Bool.and_eq_true, decide_eq_true_iff, decide_eq_true_iff] at fits
      obtain ⟨color, found⟩ := Color.exists_ofInt?_iff.mpr fits
      rw [isKind, isEntry]
      exact ⟨_, congrArg (Option.map (inscriptions.enterColor position)) found⟩
    · cases fits
  obtain ⟨others, forth⟩ := entered
  exact ⟨others, forth, Inscriptions.enter?_entry forth⟩

namespace Session

variable {origin : Inscriptions size} {session : Session size}

theorem OnTimeline.holds (timeline : session.OnTimeline origin) :
    session.Holds session.sheet.grid.inscriptions session.sheet.history :=
  ⟨timeline.unheard, rfl, rfl⟩

theorem Holds.onTimeline {present : Inscriptions size} {undoable redoable : List (Command size)}
    (holds : session.Holds present ⟨undoable, redoable⟩) (past : origin.Passes undoable.reverse present)
    (future : ∃ last, present.Passes redoable last) : session.OnTimeline origin := by
  refine ⟨holds.unheard, ?_, ?_⟩
  · rw [holds.history_eq, holds.entered]
    exact past
  · rw [holds.history_eq, holds.entered]
    exact future

theorem Holds.undo {first second : Inscriptions size} {command : Command size}
    {undoable redoable : List (Command size)}
    (holds : session.Holds second ⟨command :: undoable, redoable⟩)
    (leads : command.Leads first second) :
    (session.step .undo).2.Holds first ⟨undoable, command :: redoable⟩ :=
  (Engine.Ends.step (fun _ => .bind (.undo leads) fun _ => .pure _) holds).2

theorem Holds.redo {first second : Inscriptions size} {command : Command size}
    {undoable redoable : List (Command size)}
    (holds : session.Holds first ⟨undoable, command :: redoable⟩)
    (leads : command.Leads first second) :
    (session.step .redo).2.Holds second ⟨command :: undoable, redoable⟩ :=
  (Engine.Ends.step (fun _ => .bind (.redo leads) fun _ => .pure _) holds).2

theorem Holds.undo_nil {present : Inscriptions size} {redoable : List (Command size)}
    (holds : session.Holds present ⟨[], redoable⟩) :
    (session.step .undo).2.Holds present ⟨[], redoable⟩ :=
  (Engine.Ends.step (fun _ => .bind .undo_nil fun _ => .pure _) holds).2

theorem Holds.redo_nil {present : Inscriptions size} {undoable : List (Command size)}
    (holds : session.Holds present ⟨undoable, []⟩) :
    (session.step .redo).2.Holds present ⟨undoable, []⟩ :=
  (Engine.Ends.step (fun _ => .bind .redo_nil fun _ => .pure _) holds).2

/-- The command that a draft makes, unless its key names no cell. -/
theorem runFrom_makeCommand {draft : Draft} (left : draft.former = none) (session : Session size) :
    (∃ fault, (Engine.makeCommand draft).runFrom session = (.error fault, session)) ∨
      ∃ position, (Engine.makeCommand draft).runFrom session =
        (.ok ⟨draft.kind, position, (session.sheet.grid.inscriptions position).entry draft.kind,
          draft.latter⟩, session) := by
  rw [Engine.makeCommand]
  cases draft.cell with
  | none => exact .inl ⟨.cellRequired, rfl⟩
  | some key =>
    dsimp only
    rw [Engine.locate, Engine.runFrom_bind]
    cases size.locate key with
    | error fault => exact .inl ⟨.key fault, rfl⟩
    | ok position =>
      refine .inr ⟨position, ?_⟩
      rw [left]
      cases draft.kind <;> rfl

theorem OnTimeline.edit (timeline : session.OnTimeline origin) {draft : Draft}
    (suits : draft.suits = true) : (session.step (.edit draft)).2.OnTimeline origin := by
  have left : draft.former = none := by
    rw [Draft.suits, Bool.and_eq_true, Option.isNone_iff_eq_none] at suits
    exact suits.1
  have stepped : (session.step (.edit draft)).2 =
      ((Engine.perform (Engine.announce session.reactions) (.edit draft)).runFrom session).2 := rfl
  rw [stepped, Engine.perform]
  rcases runFrom_makeCommand left session with ⟨fault, failed⟩ | ⟨position, made⟩
  · rw [Engine.runFrom_bind, failed]
    exact timeline
  · obtain ⟨present, leads⟩ := Draft.exists_leads suits session.sheet.grid.inscriptions position
    rw [Engine.runFrom_bind_of_ok _ made]
    generalize Command.mk draft.kind position _ draft.latter = command at leads
    have added : Engine.Ends (Holds session.sheet.grid.inscriptions session.sheet.history) (do
        Engine.addCommand command
        Engine.execute (Engine.announce session.reactions) command
        return Answer.text command.description : Engine size (Answer size))
        (Holds present (session.sheet.history.add command)) :=
      .bind (.modifyHistory _) fun _ => .bind (.enter leads.forth) fun _ => .pure _
    obtain ⟨answer, later, ran, holds⟩ := added session timeline.holds
    rw [ran]
    refine holds.onTimeline ?_ ⟨present, .nil⟩
    rw [List.reverse_cons]
    exact timeline.past.append (.cons leads .nil)

/-- Every operation that moves in time stays on the timeline. -/
theorem OnTimeline.step (timeline : session.OnTimeline origin) {operation : Operation}
    (moves : operation.movesInTime = true) : (session.step operation).2.OnTimeline origin := by
  obtain ⟨last, future⟩ := timeline.future
  have holds := timeline.holds
  have past := timeline.past
  generalize session.sheet.grid.inscriptions = present at holds past future
  generalize session.sheet.history = history at holds past future
  obtain ⟨undoable, redoable⟩ := history
  cases operation with
  | edit draft => exact timeline.edit moves
  | undo =>
    cases undoable with
    | nil => exact holds.undo_nil.onTimeline past ⟨last, future⟩
    | cons command earlier =>
      rw [List.reverse_cons] at past
      obtain ⟨before, past, leads⟩ := past.exists_of_concat
      exact (holds.undo leads).onTimeline past ⟨last, .cons leads future⟩
  | redo =>
    cases redoable with
    | nil => exact holds.redo_nil.onTimeline past ⟨last, future⟩
    | cons command later =>
      cases future with
      | cons leads onward =>
        refine (holds.redo leads).onTimeline ?_ ⟨last, onward⟩
        rw [List.reverse_cons]
        exact past.append (.cons leads .nil)
  | _ => cases moves

theorem OnTimeline.after (timeline : session.OnTimeline origin) {operations : List Operation}
    (moves : ∀ operation ∈ operations, operation.movesInTime = true) :
    (session.after operations).OnTimeline origin := by
  induction operations generalizing session with
  | nil => exact timeline
  | cons first later hypothesis =>
    exact hypothesis (timeline.step (moves first List.mem_cons_self))
      fun operation member => moves operation (List.mem_cons_of_mem first member)

/-! ## Going back and forth -/

theorem after_append (session : Session size) (earlier later : List Operation) :
    session.after (earlier ++ later) = (session.after earlier).after later :=
  List.foldl_append

/-- Redoing follows the commands that can be redone. -/
theorem Holds.after_redos {present last : Inscriptions size} {undoable redoable : List (Command size)}
    (holds : session.Holds present ⟨undoable, redoable⟩) (future : present.Passes redoable last)
    {count : Nat} (enough : count ≤ redoable.length) :
    present.Passes (redoable.take count)
      (session.after (List.replicate count .redo)).sheet.grid.inscriptions := by
  induction count generalizing session present undoable redoable with
  | zero =>
    rw [List.take_zero, List.replicate_zero, Session.after, List.foldl_nil, holds.entered]
    exact .nil
  | succ count hypothesis =>
    cases future with
    | nil => cases enough
    | cons leads onward =>
      exact .cons leads (hypothesis (holds.redo leads) onward (Nat.le_of_succ_le_succ enough))

/-- As many steps back as forth restore everything that is entered, and the
history. -/
theorem OnTimeline.holds_after_undos_redos (timeline : session.OnTimeline origin) {count : Nat}
    (enough : count ≤ session.sheet.history.undoable.length) :
    (session.after (List.replicate count .undo ++ List.replicate count .redo)).Holds
      session.sheet.grid.inscriptions session.sheet.history := by
  induction count generalizing session with
  | zero => exact timeline.holds
  | succ count hypothesis =>
    have holds := timeline.holds
    have past := timeline.past
    generalize present : session.sheet.grid.inscriptions = inscriptions at holds past ⊢
    generalize session.sheet.history = history at holds past enough ⊢
    obtain ⟨_ | ⟨command, earlier⟩, redoable⟩ := history
    · cases enough
    · rw [List.reverse_cons] at past
      obtain ⟨before, _, leads⟩ := past.exists_of_concat
      have back := holds.undo leads
      -- The outermost step back and the outermost step forth enclose the others.
      have order : List.replicate (count + 1) Operation.undo ++ List.replicate (count + 1) .redo =
          .undo :: ((List.replicate count .undo ++ List.replicate count .redo) ++ [.redo]) := by
        rw [List.replicate_succ, List.replicate_succ', List.cons_append, List.append_assoc]
      rw [order, Session.after, List.foldl_cons, ← Session.after, after_append]
      have within := hypothesis (timeline.step rfl) (by
        rw [back.history_eq]
        exact Nat.le_of_succ_le_succ enough)
      rw [back.entered, back.history_eq] at within
      exact within.redo leads

/-- The history tells how a session came from its beginning, and how it can go
on. -/
structure TellsHistory (start now : Session size) (reactions : Nat) : Prop where
  /-- What can be undone, done again from the beginning, leads to the present. -/
  past : ∃ later, (now.sheet.history.undoable.reverse.forM
      (Engine.execute (Engine.announce reactions))).runFrom start = (.ok (), later) ∧
    later.sheet.grid.inscriptions = now.sheet.grid.inscriptions
  /-- What can be redone leads from there to what redoing yields. -/
  future : ∀ count ≤ now.sheet.history.redoable.length, ∃ later,
    ((now.sheet.history.undoable.reverse ++ now.sheet.history.redoable.take count).forM
      (Engine.execute (Engine.announce reactions))).runFrom start = (.ok (), later) ∧
    later.sheet.grid.inscriptions =
      (now.after (List.replicate count .redo)).sheet.grid.inscriptions
  /-- Going back and forth restores what is entered and the history. -/
  restored : ∀ count ≤ now.sheet.history.undoable.length, ∀ later,
    later = now.after (List.replicate count .undo ++ List.replicate count .redo) →
      later.sheet.grid.inscriptions = now.sheet.grid.inscriptions ∧
        later.sheet.history = now.sheet.history

theorem OnTimeline.tellsHistory {start now : Session size} (unheard : start.subscribers = [])
    (timeline : now.OnTimeline start.sheet.grid.inscriptions) (reactions : Nat) :
    start.TellsHistory now reactions := by
  have replayed : ∀ {commands last}, start.sheet.grid.inscriptions.Passes commands last →
      ∃ later, (commands.forM (Engine.execute (Engine.announce reactions))).runFrom start =
        (.ok (), later) ∧ later.sheet.grid.inscriptions = last := by
    intro commands last passes
    have replays : Engine.Ends (Holds start.sheet.grid.inscriptions start.sheet.history)
        (commands.forM (Engine.execute (Engine.announce reactions)))
        (Holds last start.sheet.history) := .replay passes
    obtain ⟨⟨⟩, later, ran, holds⟩ := replays start ⟨unheard, rfl, rfl⟩
    exact ⟨later, ran, holds.entered⟩
  obtain ⟨last, future⟩ := timeline.future
  refine ⟨replayed timeline.past, ?_, ?_⟩
  · intro count enough
    exact replayed (timeline.past.append (timeline.holds.after_redos future enough))
  · rintro count enough _ rfl
    have restored := timeline.holds_after_undos_redos enough
    exact ⟨restored.entered, restored.history_eq⟩

/-- A session that began with an empty history and that nobody follows tells its
history, whatever was edited, undone and redone in between. -/
theorem tellsHistory_after {start : Session size} (unheard : start.subscribers = [])
    (blank : start.sheet.history = .empty) {operations : List Operation}
    (moves : ∀ operation ∈ operations, operation.movesInTime = true) (reactions : Nat) :
    start.TellsHistory (start.after operations) reactions := by
  have beginning : start.OnTimeline start.sheet.grid.inscriptions := by
    refine ⟨unheard, ?_, start.sheet.grid.inscriptions, ?_⟩ <;> rw [blank] <;> exact .nil
  exact (beginning.after moves).tellsHistory unheard reactions

/-- Two commands on one cell, of which the second is taken back and replaced. -/
def changeOfMind : List Operation :=
  [.edit ⟨.text, some "A1", none, .text "=B1"⟩, .edit ⟨.color, some "A1", none, .integer 0⟩,
    .undo, .undo, .redo, .edit ⟨.text, some "A1", none, .text "2"⟩, .undo]

theorem tellsHistory_after_changeOfMind :
    (fresh .twoCells).TellsHistory ((fresh .twoCells).after changeOfMind) 0 :=
  tellsHistory_after rfl rfl (by decide) 0

end Session
end Worksheet
