import Worksheet.Proofs.Session.Checking

namespace Worksheet

/-!
# The journal mirrors the cells

The journal is what a script would write down that is subscribed first and only
looks at each change: the cell, the property, and what that holds at this moment.
Making all changes of the journal on a blank grid gives the grid of the session, so
nothing changes silently, and every change of the journal is one, so nothing is
announced that was like that before.

This holds after every operation, also one that was given up half-way, and whenever
a script is told of a change.  Nothing is assumed of the scripts.  A cell is written
and its change noted before anybody else learns of it, and these are the only two
moments between which the journal lags behind.
-/

variable {size : Size}

/-! ## Replaying a journal -/

namespace Grid

instance : DecidableEq (Grid size) := fun first second =>
  decidable_of_iff (first.rows = second.rows)
    ⟨fun same => by cases first; cases second; exact congrArg Grid.mk same, congrArg Grid.rows⟩

/-- Give one property of a cell a content. -/
def write (grid : Grid size) (position : Position size) : Content → Grid size
  | .text text => grid.setText position text
  | .value value => grid.setValue position value
  | .color color => grid.setColor position color

/-- Make the changes of a journal on a blank grid. -/
def replay : List (Event size) → Grid size
  | [] => blank size
  | event :: earlier => (replay earlier).write event.position event.content

theorem content_get_write (grid : Grid size) (written read : Position size) (content : Content)
    (property : Property) :
    ((grid.write written content).get read).content property =
      if written = read ∧ content.property = property then content
      else (grid.get read).content property := by
  cases content <;> cases property <;>
    simp only [write, setText, setValue, setColor, get_set, Content.property, reduceCtorEq,
      and_true, and_false, if_false] <;>
    split <;> simp_all [Cell.content]

end Grid

namespace Event

/-- What a property of a cell held last according to a journal. -/
def lastContent (journal : List (Event size)) (position : Position size) (property : Property) :
    Content :=
  match journal.find? fun event => event.position = position ∧ event.content.property = property with
  | some event => event.content
  | none => Cell.blank.content property

/-- Every change of the journal is to a content that the property of the cell did
not hold before. -/
def AreChanges : List (Event size) → Prop
  | [] => True
  | event :: earlier =>
      event.content ≠ lastContent earlier event.position event.content.property ∧
        AreChanges earlier

instance decidableAreChanges : (journal : List (Event size)) → Decidable (AreChanges journal)
  | [] => .isTrue trivial
  | _ :: earlier =>
      have := decidableAreChanges earlier
      inferInstanceAs (Decidable (_ ∧ _))

/-- The last note of a property is what a replay leaves in the cell. -/
theorem content_replay (journal : List (Event size)) (position : Position size)
    (property : Property) :
    ((Grid.replay journal).get position).content property =
      lastContent journal position property := by
  induction journal with
  | nil => rw [Grid.replay, Grid.get_blank]; rfl
  | cons event earlier hypothesis =>
    rw [Grid.replay, Grid.content_get_write, hypothesis, lastContent, lastContent, List.find?_cons]
    by_cases concerned : event.position = position ∧ event.content.property = property
    · simp only [concerned, and_self, if_true, decide_true]
    · simp only [concerned, if_false, decide_false]

end Event

/-- The journal tells the whole content of the grid, and nothing but changes. -/
structure Session.IsMirrored (session : Session size) : Prop where
  replays : Grid.replay session.journal = session.sheet.grid
  changes : Event.AreChanges session.journal

namespace Session

instance : DecidablePred (IsMirrored : Session size → Prop) := fun session =>
  decidable_of_iff
    (Grid.replay session.journal = session.sheet.grid ∧ Event.AreChanges session.journal)
    ⟨fun both => ⟨both.1, both.2⟩, fun mirrored => ⟨mirrored.replays, mirrored.changes⟩⟩

theorem isMirrored_fresh (size : Size) : (fresh size).IsMirrored :=
  ⟨rfl, trivial⟩

namespace IsMirrored

variable {session : Session size} (mirrored : session.IsMirrored)
include mirrored

theorem congr {other : Session size} (grid : other.sheet.grid = session.sheet.grid)
    (journal : other.journal = session.journal) : other.IsMirrored :=
  ⟨by rw [grid, journal, mirrored.replays], journal ▸ mirrored.changes⟩

/-- Writing a new content and noting it keeps the mirror. -/
theorem written {position : Position size} {content : Content}
    (new : content ≠ (session.sheet.grid.get position).content content.property) :
    ((session.withGrid (session.sheet.grid.write position content)).noted position
      content.property).IsMirrored := by
  have noted : ((session.sheet.grid.write position content).get position).content content.property =
      content := by
    rw [Grid.content_get_write, if_pos ⟨rfl, rfl⟩]
  constructor
  · change (Grid.replay session.journal).write position
      (((session.sheet.grid.write position content).get position).content content.property) =
        session.sheet.grid.write position content
    rw [noted, mirrored.replays]
  · refine ⟨?_, mirrored.changes⟩
    change ((session.sheet.grid.write position content).get position).content content.property ≠
      Event.lastContent session.journal position
        (((session.sheet.grid.write position content).get position).content
          content.property).property
    rwa [noted, ← Event.content_replay, mirrored.replays]

end IsMirrored
end Session

namespace Engine

/-! ## The steps that write cells -/

variable {first second : Announcement size} {session : Session size} {α : Type}

theorem sequencing_mirrored (size : Size) :
    Sequencing (Agree (Session.IsMirrored : Session size → Prop)) :=
  sequencing_agree fun aside session mirrored =>
    mirrored.congr (aside.grid session) (aside.journal session)

/-- Logs and reports are no matter of the mirror. -/
theorem agree_change {update : Session size → Session size}
    (grid : ∀ session, (update session).sheet.grid = session.sheet.grid)
    (journal : ∀ session, (update session).journal = session.journal) :
    Agree Session.IsMirrored (modify update : Engine size PUnit) (modify update) :=
  .change fun session mirrored => mirrored.congr (grid session) (journal session)

variable (alike : AnnounceAlike Session.IsMirrored first second)
include alike

theorem agree_storeValue (position : Position size) (value : String) :
    Agree Session.IsMirrored (storeValue first position value)
      (storeValue second position value) :=
  fun _ mirrored => AgreeFrom.storeValue alike mirrored fun new =>
    mirrored.written fun same => new (Content.value.inj same)

theorem agree_updateValue (position : Position size) :
    Agree Session.IsMirrored (updateValue first position) (updateValue second position) := by
  have rules := sequencing_mirrored size
  have finish : ∀ (cell : Cell) (value : String), Agree Session.IsMirrored
      (do
        touch position cell.value
        storeValue first position value
        pure value : Engine size String)
      (do
        touch position cell.value
        storeValue second position value
        pure value) :=
    fun cell value => rules.bind (agree_change (fun _ => rfl) fun _ => rfl) fun _ =>
      rules.bind (agree_storeValue alike position value) fun _ => rules.pure value
  refine rules.bind (rules.cellAt position) fun cell => ?_
  dsimp only
  split
  · exact rules.bind (rules.map (rules.evaluateFormula position) _) fun value => finish cell value
  · exact rules.bind (rules.pure _) fun value => finish cell value

theorem agree_recalculate (position : Position size)
    (sweeps : Agree Session.IsMirrored (updateDependents first position)
      (updateDependents second position)) :
    Agree Session.IsMirrored (recalculate first position) (recalculate second position) :=
  Agree.recalculate (fun _ _ mirrored => mirrored.congr rfl rfl)
    (agree_updateValue alike position) sweeps

theorem agree_assignText (position : Position size) (text : String)
    (recalculates : Agree Session.IsMirrored (recalculate first position)
      (recalculate second position)) :
    Agree Session.IsMirrored (assignText first position text)
      (assignText second position text) :=
  Agree.assignText alike
    (fun _ mirrored new => mirrored.written fun same => new (Content.text.inj same))
    (fun _ _ mirrored => mirrored.congr rfl rfl) recalculates

theorem agree_assignColor (position : Position size) (color : Color) :
    Agree Session.IsMirrored (assignColor first position color)
      (assignColor second position color) :=
  Agree.assignColor alike fun _ mirrored new =>
    mirrored.written fun same => new (Content.color.inj same)

omit alike in
/-- Every step that writes cells keeps the mirror. -/
theorem rules_mirrored :
    Rules (Agree (Session.IsMirrored : Session size → Prop)) (AnnounceAlike Session.IsMirrored) :=
  { sequencing_mirrored size with
    updateValue := agree_updateValue
    recalculate := agree_recalculate
    assignText := agree_assignText
    assignColor := agree_assignColor }

end Engine

namespace Session

/-- After any operations on a blank sheet, however they ended and whatever scripts
took part in them, the journal mirrors the cells.  It does so whenever a script is
told of a change during a further operation, and behind each operation of a script:
if the session is checked at all these moments, the operation runs as if it were
not. -/
theorem isMirrored_after (size : Size) (operations : List Operation) :
    ((fresh size).after operations).IsMirrored ∧
    ∀ (operation : Operation) (alarm : Fault),
      (Engine.performChecked IsMirrored alarm
          (Engine.announceChecked IsMirrored alarm ((fresh size).after operations).reactions)
          operation).runFrom ((fresh size).after operations) =
        (Engine.run operation).runFrom ((fresh size).after operations) := by
  have mirrored := ordered_after Engine.rules_mirrored (isMirrored_fresh size) operations
  exact ⟨mirrored, fun operation alarm =>
    (agree_run Engine.rules_mirrored alarm operation mirrored).same⟩

end Session
end Worksheet
