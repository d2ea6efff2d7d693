import Mathlib.Logic.Function.Basic
import Worksheet.Proofs.Session.Quiet

namespace Worksheet

/-!
# Entering without being heard

What is entered into a cell is a text and a color; its value is computed.  While
no script is subscribed, every step that enters something ends well, and what the
cells hold afterwards is what they held before with the new entry put in.
Recomputing changes values only, whichever names are guarded and whatever the
values were.

This is weaker than the laws of quiet sessions, which determine the whole session
after a step, and it needs less: names may be guarded here.  The history is
followed as well, since undoing and redoing depend on it.
-/

variable {size : Size}

/-- What is entered into a cell: all of it but its value. -/
structure Inscription where
  text : String
  color : Color
deriving DecidableEq

/-- The inscriptions of all cells. -/
abbrev Inscriptions (size : Size) := Position size → Inscription

def Cell.inscription (cell : Cell) : Inscription := ⟨cell.text, cell.color⟩

/-- What has been entered into the cells of a grid. -/
def Grid.inscriptions (grid : Grid size) : Inscriptions size :=
  fun position => (grid.get position).inscription

namespace Inscriptions

/-- What a blank grid holds. -/
def blank (size : Size) : Inscriptions size := fun _ => Cell.blank.inscription

def enterText (inscriptions : Inscriptions size) (position : Position size) (text : String) :
    Inscriptions size :=
  Function.update inscriptions position { inscriptions position with text := text }

def enterColor (inscriptions : Inscriptions size) (position : Position size) (color : Color) :
    Inscriptions size :=
  Function.update inscriptions position { inscriptions position with color := color }

theorem enterColor_enterText (inscriptions : Inscriptions size) (position : Position size)
    (text : String) (color : Color) :
    (inscriptions.enterText position text).enterColor position color =
      Function.update inscriptions position ⟨text, color⟩ := by
  rw [enterColor, enterText, Function.update_idem, Function.update_self]

theorem enterText_enterColor (inscriptions : Inscriptions size) (position : Position size)
    (text : String) (color : Color) :
    (inscriptions.enterColor position color).enterText position text =
      Function.update inscriptions position ⟨text, color⟩ := by
  rw [enterColor, enterText, Function.update_idem, Function.update_self]

/-- If every cell is written as it is wanted or was like that already, all cells
are as they are wanted. -/
theorem foldl_update_eq {α : Type} {elements : List α} {inscriptions : Inscriptions size}
    (place : α → Position size) (wanted : Inscriptions size)
    (covered : ∀ position, position ∈ elements.map place ∨ inscriptions position = wanted position) :
    elements.foldl (fun inscriptions element =>
      Function.update inscriptions (place element) (wanted (place element))) inscriptions =
        wanted := by
  induction elements generalizing inscriptions with
  | nil =>
    funext position
    exact (covered position).resolve_left List.not_mem_nil
  | cons first later hypothesis =>
    refine hypothesis fun position => ?_
    dsimp only
    rw [Function.update_apply]
    split
    · next same =>
      subst position
      exact .inr rfl
    · next other =>
      rcases covered position with member | already
      · exact .inl ((List.mem_cons.mp member).resolve_left other)
      · exact .inr already

/-- What records make of a blank sheet. -/
def ofRecords (records : List (Archive.Record size)) : Inscriptions size :=
  records.foldl (fun inscriptions record =>
    Function.update inscriptions record.position ⟨record.text, record.color⟩) (blank size)

/-- The inscriptions after an entry of a kind, if it suits. -/
def enter? (inscriptions : Inscriptions size) (position : Position size) :
    EditKind → Entry → Option (Inscriptions size)
  | .text, .text text => some (inscriptions.enterText position text)
  | .color, .integer code => (Color.ofInt? code).map (inscriptions.enterColor position)
  | _, _ => none

end Inscriptions

namespace Grid

variable (grid : Grid size) (position : Position size)

theorem inscriptions_set (cell : Cell) :
    (grid.set position cell).inscriptions =
      Function.update grid.inscriptions position cell.inscription := by
  funext read
  rw [inscriptions, get_set, Function.update_apply]
  by_cases same : position = read
  · rw [if_pos same, if_pos same.symm]
  · rw [if_neg same, if_neg (Ne.symm same)]
    rfl

theorem inscriptions_setValue (value : String) :
    (grid.setValue position value).inscriptions = grid.inscriptions := by
  rw [setValue, inscriptions_set]
  exact Function.update_eq_self position grid.inscriptions

theorem inscriptions_setText (text : String) :
    (grid.setText position text).inscriptions = grid.inscriptions.enterText position text :=
  inscriptions_set grid position _

theorem inscriptions_setColor (color : Color) :
    (grid.setColor position color).inscriptions = grid.inscriptions.enterColor position color :=
  inscriptions_set grid position _

theorem text_eq_of_inscriptions_eq {first second : Grid size}
    (same : first.inscriptions = second.inscriptions) (position : Position size) :
    (first.get position).text = (second.get position).text :=
  congrArg Inscription.text (congrFun same position)

end Grid

/-- Nobody follows the session, and it holds the given inscriptions and history. -/
structure Session.Holds (inscriptions : Inscriptions size) (history : History size)
    (session : Session size) : Prop where
  unheard : session.subscribers = []
  entered : session.sheet.grid.inscriptions = inscriptions
  history_eq : session.sheet.history = history

namespace Engine

variable {α β : Type}

/-- From every session of some kind the step ends with a result, in a session of
another kind. -/
def Ends (before : Session size → Prop) (step : Engine size α) (after : Session size → Prop) :
    Prop :=
  ∀ session, before session → ∃ result later, step.runFrom session = (.ok result, later) ∧
    after later

namespace Ends

variable {before middle after : Session size → Prop}

theorem pure (result : α) : Ends before (Pure.pure result : Engine size α) before :=
  fun session holds => ⟨result, session, rfl, holds⟩

theorem sheet : Ends before (Engine.sheet : Engine size _) before :=
  fun session holds => ⟨session.sheet, session, rfl, holds⟩

theorem grid : Ends before (Engine.grid : Engine size _) before :=
  fun session holds => ⟨session.sheet.grid, session, rfl, holds⟩

theorem cellAt (position : Position size) : Ends before (Engine.cellAt position) before :=
  fun session holds => ⟨session.sheet.grid.get position, session, rfl, holds⟩

theorem change {update : Session size → Session size}
    (step : ∀ session, before session → after (update session)) :
    Ends before (modify update : Engine size PUnit) after :=
  fun session holds => ⟨⟨⟩, update session, rfl, step session holds⟩

theorem bind {step : Engine size α} {next : α → Engine size β} (first : Ends before step middle)
    (onward : ∀ result, Ends middle (next result) after) : Ends before (step >>= next) after := by
  intro session holds
  obtain ⟨result, between, ran, holdsBetween⟩ := first session holds
  obtain ⟨last, later, ranLater, holdsLater⟩ := onward result between holdsBetween
  exact ⟨last, later, (runFrom_bind_of_ok session ran).trans ranLater, holdsLater⟩

theorem map (change : α → β) {step : Engine size α} (ends : Ends before step after) :
    Ends before (change <$> step) after := by
  rw [← bind_pure_comp]
  exact bind ends fun _ => pure _

/-- A step that ends well is followed by its cleaning up. -/
theorem withCleanUp {body : Engine size α} {cleanUp : Engine size Unit}
    (first : Ends before body middle) (cleaned : Ends middle cleanUp after) :
    Ends before (Engine.withCleanUp body cleanUp) after := by
  intro session holds
  obtain ⟨result, between, ran, holdsBetween⟩ := first session holds
  obtain ⟨⟨⟩, later, ranLater, holdsLater⟩ := cleaned between holdsBetween
  exact ⟨result, later, runFrom_withCleanUp_of_ok session ran ranLater, holdsLater⟩

/-- A step for every element of a list moves through kinds of sessions. -/
theorem forM {State : Type} (kind : State → Session size → Prop) (move : State → α → State)
    {elements : List α} {step : α → Engine size PUnit}
    (each : ∀ state, ∀ element ∈ elements,
      Ends (kind state) (step element) (kind (move state element)))
    (state : State) :
    Ends (kind state) (elements.forM step) (kind (elements.foldl move state)) := by
  induction elements generalizing state with
  | nil => exact pure _
  | cons first later hypothesis =>
    refine bind (each state first List.mem_cons_self) fun _ => hypothesis ?_ (move state first)
    exact fun state element member => each state element (List.mem_cons_of_mem first member)

/-- A step for every element of a list stays within a kind of sessions. -/
theorem forM_staying {elements : List α} {step : α → Engine size PUnit}
    (each : ∀ element ∈ elements, Ends before (step element) before) :
    Ends before (elements.forM step) before :=
  forM (fun (_ : Unit) => before) (fun _ _ => ()) (fun _ => each) ()

variable {inscriptions others : Inscriptions size} {history : History size} {reactions : Nat}

/-! ## Recomputing -/

theorem announce (position : Position size) (property : Property) :
    Ends (Session.Holds inscriptions history) (Engine.announce reactions position property)
      (Session.Holds inscriptions history) := by
  intro session holds
  exact ⟨(), _, runFrom_announce holds.unheard reactions position property,
    holds.unheard, holds.entered, holds.history_eq⟩

/-- Guards, logs and reports are no matter of the inscriptions. -/
theorem aside {update : Sheet size → Sheet size} (sameGrid : ∀ sheet, (update sheet).grid = sheet.grid)
    (sameHistory : ∀ sheet, (update sheet).history = sheet.history) :
    Ends (Session.Holds inscriptions history) (modifySheet update)
      (Session.Holds inscriptions history) :=
  change fun session holds => ⟨holds.unheard,
    (congrArg Grid.inscriptions (sameGrid session.sheet)).trans holds.entered,
    (sameHistory session.sheet).trans holds.history_eq⟩

/-- Writing to the grid, as far as inscriptions are changed by it. -/
theorem writing {update : Grid size → Grid size}
    (changes : ∀ grid, grid.inscriptions = inscriptions → (update grid).inscriptions = others) :
    Ends (Session.Holds inscriptions history) (modifyGrid update) (Session.Holds others history) :=
  change fun session holds => ⟨holds.unheard, changes session.sheet.grid holds.entered,
    holds.history_eq⟩

/-- A property of a cell is changed unless the cell already has it. -/
theorem unlessKept {Content : Type} [DecidableEq Content] (position : Position size)
    (content : Content) (property : Cell → Content) {step : Engine size Unit}
    (kept : ∀ grid : Grid size, grid.inscriptions = inscriptions →
      content = property (grid.get position) → inscriptions = others)
    (changes : Ends (Session.Holds inscriptions history) step (Session.Holds others history)) :
    Ends (Session.Holds inscriptions history) (do
      if content = property (← Engine.cellAt position) then Pure.pure ()
      else step) (Session.Holds others history) := by
  intro session holds
  rw [runFrom_bind_of_ok _ (runFrom_cellAt _ position)]
  split
  · next same =>
    have unchanged := kept session.sheet.grid holds.entered same
    exact ⟨(), session, rfl, unchanged ▸ holds⟩
  · exact changes session holds

theorem evaluateFormula (position : Position size) :
    Ends (Session.Holds inscriptions history) (Engine.evaluateFormula position)
      (Session.Holds inscriptions history) := by
  refine bind (cellAt position) fun cell => bind sheet fun sheet => ?_
  split
  · exact pure _
  · dsimp only
    split
    · exact pure _
    · exact bind (aside (fun _ => rfl) fun _ => rfl) fun _ => bind grid fun _ =>
        bind (aside (fun _ => rfl) fun _ => rfl) fun _ => pure _

theorem storeValue (position : Position size) (value : String) :
    Ends (Session.Holds inscriptions history)
      (Engine.storeValue (Engine.announce reactions) position value)
      (Session.Holds inscriptions history) := by
  apply unlessKept position value Cell.value
  · exact fun _ _ _ => rfl
  · refine bind (writing fun grid same => ?_) fun _ => announce position .value
    exact (Grid.inscriptions_setValue grid position value).trans same

theorem touch (position : Position size) (value : String) :
    Ends (Session.Holds inscriptions history) (Engine.touch position value)
      (Session.Holds inscriptions history) :=
  change fun _ holds => ⟨holds.unheard, holds.entered, holds.history_eq⟩

theorem updateValue (position : Position size) :
    Ends (Session.Holds inscriptions history)
      (Engine.updateValue (Engine.announce reactions) position)
      (Session.Holds inscriptions history) := by
  have finish : ∀ (cell : Cell) (value : String), Ends (Session.Holds inscriptions history) (do
      Engine.touch position cell.value
      Engine.storeValue (Engine.announce reactions) position value
      Pure.pure value : Engine size String) (Session.Holds inscriptions history) :=
    fun cell value => bind (touch position cell.value) fun _ =>
      bind (storeValue position value) fun _ => pure _
  refine bind (cellAt position) fun cell => ?_
  dsimp only
  split
  · exact bind (map _ (evaluateFormula position)) fun value => finish cell value
  · exact bind (pure _) fun value => finish cell value

theorem sweep (steps : Nat) (queue entered recomputed : List (Position size)) :
    Ends (Session.Holds inscriptions history)
      (Engine.sweep (Engine.announce reactions) steps queue entered recomputed)
      (Session.Holds inscriptions history) := by
  induction steps generalizing queue entered recomputed with
  | zero => exact pure _
  | succ steps hypothesis =>
    cases queue with
    | nil => exact pure _
    | cons position queue =>
      refine bind grid fun grid => bind (forM_staying fun dependent _ => ?_) fun _ =>
        hypothesis _ _ _
      exact bind (updateValue dependent) fun _ => pure _

theorem updateDependents (position : Position size) :
    Ends (Session.Holds inscriptions history)
      (Engine.updateDependents (Engine.announce reactions) position)
      (Session.Holds inscriptions history) :=
  sweep _ [position] [] []

theorem recalculate (position : Position size) :
    Ends (Session.Holds inscriptions history)
      (Engine.recalculate (Engine.announce reactions) position)
      (Session.Holds inscriptions history) := by
  have body : Ends (Session.Holds inscriptions history) (do
      let _ ← Engine.updateValue (Engine.announce reactions) position
      let recomputed ← Engine.updateDependents (Engine.announce reactions) position
      Pure.pure (recomputed, ((← Engine.sheet).log).getD []) : Engine size _)
      (Session.Holds inscriptions history) :=
    bind (updateValue position) fun _ => bind (updateDependents position) fun _ =>
      bind sheet fun _ => pure _
  refine bind sheet fun sheet => bind (aside (fun _ => rfl) fun _ => rfl) fun _ => ?_
  refine bind (withCleanUp body (aside (fun _ => rfl) fun _ => rfl)) fun _ => ?_
  exact bind (aside (fun _ => rfl) fun _ => rfl) fun _ => bind grid fun _ => pure _

theorem evaluateEach (positions : List (Position size)) :
    Ends (Session.Holds inscriptions history)
      (Engine.evaluateEach (Engine.announce reactions) positions)
      (Session.Holds inscriptions history) := by
  induction positions with
  | nil => exact pure _
  | cons first later hypothesis =>
    refine bind (cellAt first) fun cell => ?_
    split
    · exact hypothesis
    · exact bind (updateValue first) fun _ => bind hypothesis fun _ => pure _

theorem evaluateAll :
    Ends (Session.Holds inscriptions history)
      (Engine.evaluateAll (Engine.announce reactions) : Engine size _)
      (Session.Holds inscriptions history) :=
  bind (aside (fun _ => rfl) fun _ => rfl) fun _ => bind grid fun _ => evaluateEach _

/-! ## Entering -/

theorem assignText (position : Position size) (text : String) :
    Ends (Session.Holds inscriptions history)
      (Engine.assignText (Engine.announce reactions) position text)
      (Session.Holds (inscriptions.enterText position text) history) := by
  apply unlessKept position text Cell.text
  · rintro grid rfl same
    rw [eq_comm, Inscriptions.enterText, Function.update_eq_self_iff, same]
    rfl
  · refine bind (writing fun grid same => ?_) fun _ => bind (announce position .text) fun _ =>
      bind (recalculate position) fun _ => aside (fun _ => rfl) fun _ => rfl
    rw [← same]
    exact Grid.inscriptions_setText grid position text

theorem assignColor (position : Position size) (color : Color) :
    Ends (Session.Holds inscriptions history)
      (Engine.assignColor (Engine.announce reactions) position color)
      (Session.Holds (inscriptions.enterColor position color) history) := by
  apply unlessKept position color Cell.color
  · rintro grid rfl same
    rw [eq_comm, Inscriptions.enterColor, Function.update_eq_self_iff, same]
    rfl
  · refine bind (writing fun grid same => ?_) fun _ => announce position .color
    rw [← same]
    exact Grid.inscriptions_setColor grid position color

/-- An entry that suits is entered. -/
theorem enter {kind : EditKind} {position : Position size} {entry : Entry}
    (suits : inscriptions.enter? position kind entry = some others) :
    Ends (Session.Holds inscriptions history)
      (Engine.enter (Engine.announce reactions) kind position entry)
      (Session.Holds others history) := by
  unfold Inscriptions.enter? at suits
  split at suits
  · cases suits
    exact assignText position _
  · next code =>
    obtain ⟨color, found, same⟩ := Option.map_eq_some_iff.mp suits
    subst others
    simp only [Engine.enter, Engine.enterColor, found]
    exact assignColor position color
  · cases suits

theorem clearAll :
    Ends (Session.Holds inscriptions history)
      (Engine.clearAll (Engine.announce reactions) : Engine size Unit)
      (Session.Holds (Inscriptions.blank size) history) := by
  have each : ∀ inscriptions : Inscriptions size, ∀ position ∈ size.positions,
      Ends (Session.Holds inscriptions history) (do
        Engine.assignText (Engine.announce reactions) position ""
        Engine.assignColor (Engine.announce reactions) position .white)
      (Session.Holds (Function.update inscriptions position (Inscriptions.blank size position))
        history) := by
    intro inscriptions position _
    rw [Inscriptions.blank, Cell.inscription, Cell.blank, ← Inscriptions.enterColor_enterText]
    exact bind (assignText position "") fun _ => assignColor position .white
  have all := forM (fun inscriptions => Session.Holds inscriptions history) _ each inscriptions
  rwa [Inscriptions.foldl_update_eq (fun position => position)] at all
  exact fun position => .inl (by rw [List.map_id']; exact size.mem_positions position)

theorem modifyHistory (update : History size → History size) :
    Ends (Session.Holds inscriptions history) (Engine.modifyHistory update)
      (Session.Holds inscriptions (update history)) :=
  change fun _ holds => ⟨holds.unheard, holds.entered, congrArg update holds.history_eq⟩

/-! ## Restoring -/

theorem enterRecord (record : Archive.Record size) :
    Ends (Session.Holds inscriptions history)
      (Engine.enterRecord (Engine.announce reactions) record)
      (Session.Holds
        (Function.update inscriptions record.position ⟨record.text, record.color⟩) history) := by
  rw [← Inscriptions.enterText_enterColor]
  exact bind (assignColor record.position record.color) fun _ =>
    assignText record.position record.text

/-- Whatever a sheet held, records become its whole content. -/
theorem enterRecords (records : List (Archive.Record size)) :
    Ends (Session.Holds inscriptions history)
      (Engine.enterRecords (Engine.announce reactions) records)
      (Session.Holds (Inscriptions.ofRecords records) .empty) := by
  refine bind clearAll fun _ => bind (modifyHistory _) fun _ => ?_
  refine bind (forM (fun inscriptions => Session.Holds inscriptions .empty) _
    (fun _ record _ => enterRecord record) (Inscriptions.blank size)) fun _ => ?_
  exact bind evaluateAll fun _ => pure _

/-! ## Operations -/

/-- What holds after an operation that is performed holds after its step. -/
theorem step {operation : Operation}
    (ends : ∀ reactions, Ends before (perform (Engine.announce reactions) operation) after)
    {session : Session size} (holds : before session) :
    (∃ answer, (session.step operation).1.answer = .ok answer) ∧
      after (session.step operation).2 := by
  obtain ⟨answer, later, ran, holdsLater⟩ := ends session.reactions session holds
  obtain ⟨answered, _, left⟩ := Session.step_of_performed ran
  rw [answered, left]
  exact ⟨⟨answer, rfl⟩, holdsLater⟩

end Ends
end Engine
end Worksheet
