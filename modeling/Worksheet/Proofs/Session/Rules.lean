import Worksheet.Proofs.Session.Steps

namespace Worksheet

/-!
# Judgements about every operation

All operations are put together from a few steps: cells are recomputed, texts and
colors are assigned, and what is not in the cells is changed aside.  A judgement
about steps that holds of these and respects sequences holds of every operation,
whatever its scripts do.  This is shown once, so that a judgement has to be looked
at only where cells are written.

A judgement compares two steps that are made in the same way but with two
announcements.  A property of single steps is a judgement that ignores one of the
two.
-/

variable {size : Size}

/-- The change does not touch the cells, nor what is noted about them. -/
structure Session.IsAside (update : Session size → Session size) : Prop where
  grid : ∀ session, (update session).sheet.grid = session.sheet.grid
  log : ∀ session, (update session).sheet.log = session.sheet.log
  journal : ∀ session, (update session).journal = session.journal
  ledger : ∀ session, (update session).ledger = session.ledger

/-- The change does not touch the guarded names and the scripts either. -/
structure Session.IsApart (update : Session size → Session size) : Prop extends
    Session.IsAside update where
  guarded : ∀ session, (update session).sheet.guarded = session.sheet.guarded
  scripts : ∀ session, (update session).scripts = session.scripts

/-- The change does not touch the history and the subscriptions either. -/
structure Session.IsDetached (update : Session size → Session size) : Prop extends
    Session.IsApart update where
  history : ∀ session, (update session).sheet.history = session.sheet.history
  subscribers : ∀ session, (update session).subscribers = session.subscribers

/-- Whether the operation leaves a session without scripts and guarded names. -/
def Operation.staysQuiet : Operation → Bool
  | .subscribe _ _ | .guard _ => false
  | _ => true

/-- Whether the operation changes the history by itself.  A load clears it. -/
def Operation.changesHistory : Operation → Bool
  | .add _ | .edit _ | .undo | .redo | .clearHistory | .readText _ | .readBytes _ => true
  | _ => false

/-- Whether the operation leaves it to others to guard names for longer than an
evaluation, and to change the history, the subscriptions and the scripts. -/
def Operation.staysDetached : Operation → Bool
  | .subscribe _ _ | .unsubscribe _ | .guard _ => false
  | operation => !operation.changesHistory

namespace Engine

/-- The judgement respects how steps are put together, and it holds of the steps that
only look. -/
structure Composing (judge : ∀ ⦃α : Type⦄, Engine size α → Engine size α → Prop) : Prop where
  pure : ∀ {α : Type} (result : α), judge (Pure.pure result : Engine size α) (Pure.pure result)
  throw : ∀ {α : Type} (fault : Fault),
    judge (MonadExcept.throw fault : Engine size α) (MonadExcept.throw fault)
  get : judge (MonadState.get : Engine size (Session size)) MonadState.get
  bind : ∀ {α β : Type} {first second : Engine size α} {next other : α → Engine size β},
    judge first second → (∀ result, judge (next result) (other result)) →
      judge (first >>= next) (second >>= other)

/-- The judgement also holds of the steps that write no cell. -/
structure Sequencing (judge : ∀ ⦃α : Type⦄, Engine size α → Engine size α → Prop) : Prop extends
    Composing judge where
  aside : ∀ {update : Session size → Session size}, Session.IsAside update →
    judge (modify update : Engine size PUnit) (modify update)

/-- The judgement holds of the steps that write cells, if their announcements are heard
alike.  Longer ones are judged by their parts. -/
structure Writing (judge : ∀ ⦃α : Type⦄, Engine size α → Engine size α → Prop)
    (alike : Announcement size → Announcement size → Prop) : Prop where
  updateValue : ∀ {first second : Announcement size}, alike first second → ∀ position,
    judge (Engine.updateValue first position) (Engine.updateValue second position)
  recalculate : ∀ {first second : Announcement size}, alike first second → ∀ position,
    judge (Engine.updateDependents first position) (Engine.updateDependents second position) →
      judge (Engine.recalculate first position) (Engine.recalculate second position)
  assignText : ∀ {first second : Announcement size}, alike first second → ∀ position text,
    judge (Engine.recalculate first position) (Engine.recalculate second position) →
      judge (Engine.assignText first position text) (Engine.assignText second position text)
  assignColor : ∀ {first second : Announcement size}, alike first second → ∀ position color,
    judge (Engine.assignColor first position color) (Engine.assignColor second position color)

/-- The judgement holds of all steps but those that guard a name for longer than an
evaluation, and those that change the history, the subscriptions or the scripts. -/
structure Governing (judge : ∀ ⦃α : Type⦄, Engine size α → Engine size α → Prop)
    (alike : Announcement size → Announcement size → Prop) : Prop extends
    Composing judge, Writing judge alike where
  detached : ∀ {update : Session size → Session size}, Session.IsDetached update →
    judge (modify update : Engine size PUnit) (modify update)
  evaluateFormula : ∀ position,
    judge (Engine.evaluateFormula position) (Engine.evaluateFormula position)
  unguard : judge (Engine.modifySheet fun sheet => { sheet with guarded := [] } : Engine size Unit)
    (Engine.modifySheet fun sheet => { sheet with guarded := [] })

/-- The judgement holds of all steps but those that guard a name for longer than an
evaluation, and those that change scripts. -/
structure Ruling (judge : ∀ ⦃α : Type⦄, Engine size α → Engine size α → Prop)
    (alike : Announcement size → Announcement size → Prop) : Prop extends
    Governing judge alike where
  modifyHistory : ∀ update : History size → History size,
    judge (Engine.modifyHistory update) (Engine.modifyHistory update)
  unsubscribe : ∀ id : String,
    judge (Engine.unsubscribe id : Engine size Unit) (Engine.unsubscribe id)

/-- The judgement holds of all steps; guards and scripts stand aside. -/
structure Rules (judge : ∀ ⦃α : Type⦄, Engine size α → Engine size α → Prop)
    (alike : Announcement size → Announcement size → Prop) : Prop extends
    Sequencing judge, Writing judge alike

variable {judge : ∀ ⦃α : Type⦄, Engine size α → Engine size α → Prop}
  {alike : Announcement size → Announcement size → Prop} {first second : Announcement size}
  {α β : Type}

namespace Composing

variable (rules : Composing judge)
include rules

theorem map {step other : Engine size α} (judged : judge step other) (change : α → β) :
    judge (change <$> step) (change <$> other) := by
  rw [← bind_pure_comp, ← bind_pure_comp]
  exact rules.bind judged fun _ => rules.pure _

theorem sheet : judge (Engine.sheet : Engine size _) Engine.sheet :=
  rules.map rules.get Session.sheet

theorem grid : judge (Engine.grid : Engine size _) Engine.grid :=
  rules.map rules.sheet Sheet.grid

theorem cellAt (position : Position size) : judge (Engine.cellAt position) (Engine.cellAt position) :=
  rules.map rules.grid (Grid.get · position)

theorem lift {ε : Type} (wrap : ε → Fault) (result : Except ε α) :
    judge (Engine.lift wrap result : Engine size α) (Engine.lift wrap result) := by
  cases result with
  | ok result => exact rules.pure result
  | error fault => exact rules.throw (wrap fault)

theorem locate (key : String) : judge (Engine.locate key : Engine size _) (Engine.locate key) :=
  rules.lift Fault.key _

/-- Something is done with the cell that a key names. -/
theorem locating (key : String) {step other : Position size → Engine size (Answer size)}
    (judged : ∀ position, judge (step position) (other position)) :
    judge (Engine.locate key >>= step) (Engine.locate key >>= other) :=
  rules.bind (rules.locate key) judged

/-- What something came to is the answer. -/
theorem answering {step other : Engine size α} (judged : judge step other)
    (answer : α → Answer size) :
    judge (step >>= fun result => Pure.pure (answer result))
      (other >>= fun result => Pure.pure (answer result)) :=
  rules.bind judged fun _ => rules.pure _

/-- The same is done for every element. -/
theorem forM {elements : List α} {step other : α → Engine size PUnit}
    (each : ∀ element ∈ elements, judge (step element) (other element)) :
    judge (elements.forM step) (elements.forM other) := by
  induction elements with
  | nil => exact rules.pure _
  | cons head later hypothesis =>
    change judge (step head >>= fun _ => later.forM step) (other head >>= fun _ => later.forM other)
    refine rules.bind (each head List.mem_cons_self) fun _ => hypothesis ?_
    exact fun element member => each element (List.mem_cons_of_mem head member)

theorem scriptOf (id : String) :
    judge (Engine.scriptOf id : Engine size _) (Engine.scriptOf id) :=
  rules.bind rules.get fun _ => rules.pure _

theorem makeCommand (draft : Draft) :
    judge (Engine.makeCommand draft : Engine size _) (Engine.makeCommand draft) := by
  unfold Engine.makeCommand
  split
  · exact rules.throw _
  · exact rules.bind (rules.locate _) fun _ => rules.bind (rules.cellAt _) fun _ => rules.pure _

theorem commandOf (id : String) :
    judge (Engine.commandOf id : Engine size _) (Engine.commandOf id) := by
  refine rules.bind rules.get fun session => ?_
  split
  · exact rules.pure _
  · exact rules.throw _

theorem transfer (rows columns : Int) (passage : Passage) :
    judge (Engine.transfer rows columns passage : Engine size _)
      (Engine.transfer rows columns passage) := by
  refine rules.bind (rules.lift Fault.size _) fun other => rules.bind rules.grid fun _ => ?_
  dsimp only
  split
  · exact rules.pure _
  · exact rules.throw _

variable (updates : ∀ position,
  judge (Engine.updateValue first position) (Engine.updateValue second position))
include updates

theorem sweep (steps : Nat) (queue entered recomputed : List (Position size)) :
    judge (Engine.sweep first steps queue entered recomputed)
      (Engine.sweep second steps queue entered recomputed) := by
  induction steps generalizing queue entered recomputed with
  | zero => exact rules.pure _
  | succ steps hypothesis =>
    cases queue with
    | nil => exact rules.pure _
    | cons position queue =>
      refine rules.bind rules.grid fun grid => ?_
      refine rules.bind (rules.forM fun dependent _ => ?_) fun _ => hypothesis _ _ _
      exact rules.bind (updates dependent) fun _ => rules.pure _

theorem updateDependents (position : Position size) :
    judge (Engine.updateDependents first position) (Engine.updateDependents second position) :=
  rules.sweep updates _ [position] [] []

end Composing

namespace Sequencing

variable (rules : Sequencing judge)
include rules

theorem modifySheet {update : Sheet size → Sheet size}
    (grid : ∀ sheet, (update sheet).grid = sheet.grid)
    (log : ∀ sheet, (update sheet).log = sheet.log) :
    judge (Engine.modifySheet update) (Engine.modifySheet update) :=
  rules.aside ⟨fun session => grid session.sheet, fun session => log session.sheet, fun _ => rfl,
    fun _ => rfl⟩

/-- An evaluation only reads cells, and its guard stands aside. -/
theorem evaluateFormula (position : Position size) :
    judge (Engine.evaluateFormula position) (Engine.evaluateFormula position) := by
  refine rules.bind (rules.cellAt position) fun cell => rules.bind rules.sheet fun sheet => ?_
  dsimp only
  split
  · exact rules.pure _
  · split
    · exact rules.pure _
    · refine rules.bind (rules.modifySheet (fun _ => rfl) fun _ => rfl) fun _ => ?_
      refine rules.bind rules.grid fun grid => ?_
      exact rules.bind (rules.modifySheet (fun _ => rfl) fun _ => rfl) fun _ => rules.pure _

theorem countUse (id : String) (index : Nat) :
    judge (Engine.countUse id index : Engine size _) (Engine.countUse id index) :=
  rules.aside ⟨fun _ => rfl, fun _ => rfl, fun _ => rfl, fun _ => rfl⟩

/-- A script is followed alike if the operations of its rules are performed alike. -/
theorem follow {perform other : Operation → Engine size Unit}
    (performs : ∀ operation, judge (perform operation) (other operation))
    (position : Position size) (property : Property) (id : String) :
    judge (Engine.follow perform position property id) (Engine.follow other position property id) := by
  refine rules.bind (rules.scriptOf id) fun active => rules.forM fun index _ => ?_
  refine rules.bind (rules.scriptOf id) fun active => ?_
  split
  · exact rules.pure _
  · split
    · refine rules.bind (rules.countUse id index) fun _ => rules.forM fun operation _ => ?_
      exact rules.bind (rules.cellAt position) fun _ => performs _
    · exact rules.pure _

/-- An operation that subscribes a script or guards a name does nothing else. -/
theorem loud {operation : Operation} (loud : operation.staysQuiet = false) :
    judge (Engine.perform first operation) (Engine.perform second operation) := by
  cases operation with
  | subscribe id scripts =>
    refine rules.bind ?_ fun _ => rules.pure _
    exact rules.aside ⟨fun _ => rfl, fun _ => rfl, fun _ => rfl, fun _ => rfl⟩
  | guard name =>
    exact rules.bind (rules.modifySheet (fun _ => rfl) fun _ => rfl) fun _ => rules.pure _
  | _ => cases loud

end Sequencing

namespace Governing

variable (rules : Governing judge alike) (heard : alike first second)
include rules heard

/-! ## Recomputing -/

theorem updateDependents (position : Position size) :
    judge (Engine.updateDependents first position) (Engine.updateDependents second position) :=
  rules.toComposing.updateDependents (rules.updateValue heard) position

theorem recalculates (position : Position size) :
    judge (Engine.recalculate first position) (Engine.recalculate second position) :=
  rules.recalculate heard position (rules.updateDependents heard position)

theorem evaluateEach (positions : List (Position size)) :
    judge (Engine.evaluateEach first positions) (Engine.evaluateEach second positions) := by
  induction positions with
  | nil => exact rules.pure _
  | cons position later hypothesis =>
    refine rules.bind (rules.cellAt position) fun cell => ?_
    split
    · exact hypothesis
    · refine rules.bind (rules.updateValue heard position) fun _ => ?_
      exact rules.bind hypothesis fun _ => rules.pure _

theorem evaluateAll : judge (Engine.evaluateAll first) (Engine.evaluateAll second) := by
  exact rules.bind rules.unguard fun _ => rules.bind rules.grid fun _ => rules.evaluateEach heard _

/-! ## Editing -/

theorem assignsText (position : Position size) (text : String) :
    judge (Engine.assignText first position text) (Engine.assignText second position text) :=
  rules.assignText heard position text (rules.recalculates heard position)

theorem enterText (position : Position size) (entry : Entry) :
    judge (Engine.enterText first position entry) (Engine.enterText second position entry) := by
  cases entry with
  | text text => exact rules.assignsText heard position text
  | integer number => exact rules.throw _
  | other kind => exact rules.throw _

theorem enterColor (position : Position size) (entry : Entry) :
    judge (Engine.enterColor first position entry) (Engine.enterColor second position entry) := by
  cases entry with
  | text text => exact rules.throw _
  | integer number =>
    simp only [Engine.enterColor]
    split
    · exact rules.assignColor heard position _
    · exact rules.throw _
  | other kind => exact rules.throw _

theorem enter (kind : EditKind) (position : Position size) (entry : Entry) :
    judge (Engine.enter first kind position entry) (Engine.enter second kind position entry) := by
  cases kind with
  | text => exact rules.enterText heard position entry
  | color => exact rules.enterColor heard position entry

theorem execute (command : Command size) :
    judge (Engine.execute first command) (Engine.execute second command) :=
  rules.enter heard command.kind command.position command.latter

theorem revert (command : Command size) :
    judge (Engine.revert first command) (Engine.revert second command) :=
  rules.enter heard command.kind command.position command.former

theorem clearAll : judge (Engine.clearAll first) (Engine.clearAll second) :=
  rules.forM fun position _ =>
    rules.bind (rules.assignsText heard position "") fun _ => rules.assignColor heard position .white

/-- The judgement holds of every operation, if it holds of those that change more than the
cells and the commands that are kept. -/
theorem perform (operation : Operation)
    (attached : operation.staysDetached = false →
      judge (Engine.perform first operation) (Engine.perform second operation)) :
    judge (Engine.perform first operation) (Engine.perform second operation) := by
  cases operation with
  | assignText key entry =>
    exact rules.locating key fun position =>
      rules.answering (rules.enterText heard position entry) _
  | assignColor key entry =>
    exact rules.locating key fun position =>
      rules.answering (rules.enterColor heard position entry) _
  | cellAt row column =>
    simp only [Engine.perform]
    split
    · exact rules.answering (rules.cellAt _) _
    · exact rules.pure _
  | cell key => exact rules.locating key fun _ => rules.answering (rules.cellAt _) _
  | describeCell key => exact rules.locating key fun _ => rules.answering (rules.cellAt _) _
  | describeSheet => exact rules.pure _
  | dimensions => exact rules.pure _
  | records => exact rules.answering rules.grid _
  | names => exact rules.pure _
  | define id draft =>
    refine rules.bind (rules.makeCommand draft) fun command => rules.answering ?_ _
    exact rules.detached
      ⟨⟨⟨fun _ => rfl, fun _ => rfl, fun _ => rfl, fun _ => rfl⟩, fun _ => rfl, fun _ => rfl⟩,
        fun _ => rfl, fun _ => rfl⟩
  | add id => exact attached rfl
  | execute id =>
    exact rules.bind (rules.commandOf id) fun _ => rules.answering (rules.execute heard _) _
  | revert id =>
    exact rules.bind (rules.commandOf id) fun _ => rules.answering (rules.revert heard _) _
  | edit draft => exact attached rfl
  | undo => exact attached rfl
  | redo => exact attached rfl
  | clearHistory => exact attached rfl
  | clearAll => exact rules.answering (rules.clearAll heard) _
  | evaluateAll => exact rules.answering (rules.evaluateAll heard) _
  | subscribe id scripts => exact attached rfl
  | unsubscribe id => exact attached rfl
  | giveUp message => exact rules.throw _
  | recalculate key =>
    exact rules.locating key fun _ => rules.answering (rules.recalculates heard _) _
  | updateValue key =>
    exact rules.locating key fun _ => rules.answering (rules.updateValue heard _) _
  | updateDependents key =>
    exact rules.locating key fun _ => rules.answering (rules.updateDependents heard _) _
  | evaluateFormula key =>
    exact rules.locating key fun _ => rules.answering (rules.evaluateFormula _) _
  | guard name => exact attached rfl
  | guarded => exact rules.answering rules.sheet _
  | resolve token =>
    simp only [Engine.perform]
    split
    · exact rules.pure _
    · exact rules.pure _
  | references key => exact rules.locating key fun _ => rules.answering (rules.cellAt _) _
  | dependsOn key source =>
    exact rules.locating key fun _ => rules.locating source fun _ => rules.answering rules.grid _
  | leadsIntoLoop key => exact rules.locating key fun _ => rules.answering rules.grid _
  | dependents key => exact rules.locating key fun _ => rules.answering rules.grid _
  | formulaCells => exact rules.answering rules.grid _
  | writeText => exact rules.answering rules.grid _
  | writeBytes => exact rules.answering rules.grid _
  | readText document => exact attached rfl
  | readBytes bytes => exact attached rfl
  | transfer rows columns passage =>
    exact rules.answering (rules.transfer rows columns passage) _

end Governing

namespace Ruling

/-- It is enough that the judgement holds of all changes that stand apart. -/
theorem of_apart (composing : Composing judge) (writing : Writing judge alike)
    (apart : ∀ {update : Session size → Session size}, Session.IsApart update →
      judge (modify update : Engine size PUnit) (modify update))
    (evaluateFormula : ∀ position,
      judge (Engine.evaluateFormula position) (Engine.evaluateFormula position))
    (unguard : judge (Engine.modifySheet fun sheet => { sheet with guarded := [] } : Engine size Unit)
      (Engine.modifySheet fun sheet => { sheet with guarded := [] })) : Ruling judge alike where
  toComposing := composing
  toWriting := writing
  detached standing := apart standing.toIsApart
  evaluateFormula := evaluateFormula
  unguard := unguard
  modifyHistory _ := apart
    ⟨⟨fun _ => rfl, fun _ => rfl, fun _ => rfl, fun _ => rfl⟩, fun _ => rfl, fun _ => rfl⟩
  unsubscribe id := by
    refine composing.bind composing.get fun session => ?_
    split
    · exact apart
        ⟨⟨fun _ => rfl, fun _ => rfl, fun _ => rfl, fun _ => rfl⟩, fun _ => rfl, fun _ => rfl⟩
    · exact composing.throw _

section Operating

variable (rules : Ruling judge alike) (heard : alike first second)
include rules heard

theorem undo : judge (Engine.undo first) (Engine.undo second) := by
  refine rules.bind rules.sheet fun sheet => ?_
  split
  · exact rules.pure _
  · refine rules.bind (rules.modifyHistory _) fun _ => ?_
    exact rules.bind (rules.toGoverning.revert heard _) fun _ => rules.modifyHistory _

theorem redo : judge (Engine.redo first) (Engine.redo second) := by
  refine rules.bind rules.sheet fun sheet => ?_
  split
  · exact rules.pure _
  · refine rules.bind (rules.modifyHistory _) fun _ => ?_
    exact rules.bind (rules.toGoverning.execute heard _) fun _ => rules.modifyHistory _

theorem restore (document : Option Markup.Node) :
    judge (Engine.restore first document) (Engine.restore second document) := by
  refine rules.bind (rules.lift Fault.archive _) fun records => ?_
  refine rules.bind (rules.toGoverning.clearAll heard) fun _ => ?_
  refine rules.bind (rules.modifyHistory _) fun _ => ?_
  refine rules.bind (rules.forM fun record _ => ?_) fun _ =>
    rules.bind (rules.toGoverning.evaluateAll heard) fun _ => rules.pure _
  exact rules.bind (rules.assignColor heard record.position record.color) fun _ =>
    rules.toGoverning.assignsText heard record.position record.text

end Operating

/-- The judgement holds of every operation, if it holds of those that subscribe a script
or guard a name. -/
theorem perform (rules : Ruling judge alike) (heard : alike first second) (operation : Operation)
    (loud : operation.staysQuiet = false →
      judge (Engine.perform first operation) (Engine.perform second operation)) :
    judge (Engine.perform first operation) (Engine.perform second operation) := by
  refine rules.toGoverning.perform heard operation fun attached => ?_
  cases operation with
  | add id =>
    exact rules.bind (rules.commandOf id) fun _ => rules.answering (rules.modifyHistory _) _
  | edit draft =>
    refine rules.bind (rules.makeCommand draft) fun command => ?_
    refine rules.bind (rules.modifyHistory _) fun _ => rules.answering ?_ _
    exact rules.toGoverning.execute heard command
  | undo => exact rules.answering (rules.undo heard) _
  | redo => exact rules.answering (rules.redo heard) _
  | clearHistory => exact rules.answering (rules.modifyHistory _) _
  | subscribe id scripts => exact loud rfl
  | unsubscribe id => exact rules.answering (rules.unsubscribe id) _
  | guard name => exact loud rfl
  | readText document =>
    exact rules.bind (rules.lift Fault.markup _) fun _ =>
      rules.answering (rules.restore heard _) _
  | readBytes bytes =>
    exact rules.bind (rules.lift Fault.markup _) fun _ =>
      rules.answering (rules.restore heard _) _
  | _ => cases attached

end Ruling

namespace Rules

variable (rules : Rules judge alike) (heard : alike first second)
include rules

theorem ruling : Ruling judge alike :=
  .of_apart rules.toComposing rules.toWriting (fun standing => rules.aside standing.toIsAside)
    rules.toSequencing.evaluateFormula (rules.modifySheet (fun _ => rfl) fun _ => rfl)

include heard

theorem updateDependents (position : Position size) :
    judge (Engine.updateDependents first position) (Engine.updateDependents second position) :=
  rules.ruling.toGoverning.updateDependents heard position

/-- The judgement holds of every operation. -/
theorem perform (operation : Operation) :
    judge (Engine.perform first operation) (Engine.perform second operation) :=
  rules.ruling.perform heard operation rules.loud

omit rules heard in
/-- A property of single steps is a judgement that ignores the second one.  If it holds of
noting a change, it holds of announcing one, whatever the scripts do. -/
theorem announce {holds : ∀ ⦃α : Type⦄, Engine size α → Prop}
    (rules : Rules (fun _ (step _ : Engine size _) => holds step)
      fun announce _ => ∀ position property, holds (announce position property))
    (recorded : ∀ position property, holds (record position property : Engine size Unit))
    (reactions : Nat) (position : Position size) (property : Property) :
    holds (Engine.announce reactions position property) := by
  induction reactions generalizing position property with
  | zero => exact recorded position property
  | succ reactions hypothesis =>
    -- The rules are about two steps; here both are the same.
    have bind : ∀ {α β : Type} {step : Engine size α} {next : α → Engine size β},
        holds step → (∀ result, holds (next result)) → holds (step >>= next) :=
      fun {_ _ step next} begun onward => @rules.bind _ _ step step next next begun onward
    have performs := @Rules.perform _ _ _ (Engine.announce reactions) (Engine.announce reactions)
      rules hypothesis
    let reacting : Operation → Engine size Unit := fun operation => do
      let _ ← Engine.perform (Engine.announce reactions) operation
    have follows : ∀ id, holds (Engine.follow reacting position property id) :=
      @Sequencing.follow _ _ rules.toSequencing reacting reacting
        (fun operation => bind (performs operation) fun _ => rules.pure ()) position property
    refine bind (recorded position property) fun _ => bind rules.get fun told => ?_
    exact @Composing.forM _ _ _ rules.toComposing _ _ (Engine.follow reacting position property)
      fun id _ => follows id

end Rules
end Engine
end Worksheet
