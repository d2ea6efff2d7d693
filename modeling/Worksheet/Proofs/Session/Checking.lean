import Worksheet.Proofs.Session.Invariant

namespace Worksheet

/-!
# What scripts find when they are told of a change

A script may do anything as soon as it is told of a change, also in the middle of
an operation and of the reactions of other scripts.  What holds at these moments is
said by a check: before a script is told, the session is examined, and an alarm is
raised if it is not as it should be.  If the checks change nothing, no script is
ever told at a wrong moment.

Steps that write cells are out of order between the writing and the note of it.
Two announcements are therefore compared from sessions that are in order once the
change has been noted.
-/

variable {size : Size} {α β : Type}

namespace Engine

/-- Raise an alarm unless the session is in order. -/
def check (ordered : Session size → Prop) [DecidablePred ordered] (alarm : Fault) :
    Engine size Unit := do
  if ordered (← get) then pure () else throw alarm

/-- Perform an operation and check the session behind it, however it ends. -/
def performChecked (ordered : Session size → Prop) [DecidablePred ordered] (alarm : Fault)
    (announce : Announcement size) (operation : Operation) : Engine size (Answer size) :=
  withCleanUp (perform announce operation) (check ordered alarm)

/-- Announce a change like `announce` does, but check the session each time before
a script follows, and behind every operation of the script. -/
def announceChecked (ordered : Session size → Prop) [DecidablePred ordered] (alarm : Fault) :
    (reactions : Nat) → Announcement size
  | 0, position, property => record position property
  | reactions + 1, position, property => do
      record position property
      (← get).subscribers.forM fun id => do
        check ordered alarm
        follow (fun operation => do
          let _ ← performChecked ordered alarm (announceChecked ordered alarm reactions) operation)
          position property id

/-! ## Steps that agree -/

/-- From a session two steps come to the same, and they leave it in order, however
they end. -/
structure AgreeFrom (ordered : Session size → Prop) (session : Session size)
    (first second : Engine size α) : Prop where
  same : first.runFrom session = second.runFrom session
  ordered : ordered (second.runFrom session).2

/-- Two steps agree from every session that is in order. -/
def Agree (ordered : Session size → Prop) ⦃α : Type⦄ (first second : Engine size α) : Prop :=
  ∀ session, ordered session → AgreeFrom ordered session first second

/-- Two announcements agree wherever noting the change puts the session in order. -/
def AnnounceAlike (ordered : Session size → Prop) (first second : Announcement size) : Prop :=
  ∀ position property session, ordered (session.noted position property) →
    AgreeFrom ordered session (first position property) (second position property)

variable {ordered : Session size → Prop} {session : Session size}

namespace AgreeFrom

theorem refl_of_ok {step : Engine size α} {result : α} {after : Session size}
    (ran : step.runFrom session = (.ok result, after)) (holds : ordered after) :
    AgreeFrom ordered session step step :=
  ⟨rfl, by rwa [ran]⟩

theorem bind {first second : Engine size α} {next other : α → Engine size β}
    (begun : AgreeFrom ordered session first second)
    (onward : ∀ result after, second.runFrom session = (.ok result, after) → ordered after →
      AgreeFrom ordered after (next result) (other result)) :
    AgreeFrom ordered session (first >>= next) (second >>= other) := by
  obtain ⟨same, holds⟩ := begun
  cases ended : second.runFrom session with
  | mk outcome after =>
    rw [ended] at same holds
    cases outcome with
    | error fault =>
      refine ⟨?_, ?_⟩
      · rw [runFrom_bind, runFrom_bind, same, ended]
      · rw [runFrom_bind, ended]
        exact holds
    | ok result =>
      obtain ⟨sameLater, holdsLater⟩ := onward result after ended holds
      refine ⟨?_, ?_⟩
      · rw [runFrom_bind_of_ok _ same, runFrom_bind_of_ok _ ended, sameLater]
      · rwa [runFrom_bind_of_ok _ ended]

/-- The same step goes before, whether or not it leaves the session in order. -/
theorem after_ok {step : Engine size α} {next other : α → Engine size β} {result : α}
    {after : Session size} (ran : step.runFrom session = (.ok result, after))
    (onward : AgreeFrom ordered after (next result) (other result)) :
    AgreeFrom ordered session (step >>= next) (step >>= other) := by
  obtain ⟨same, holds⟩ := onward
  constructor
  · rw [runFrom_bind_of_ok _ ran, runFrom_bind_of_ok _ ran, same]
  · rwa [runFrom_bind_of_ok _ ran]

end AgreeFrom

/-- Agreeing respects sequences, whatever the order of a session is. -/
theorem composing_agree (ordered : Session size → Prop) : Composing (Agree ordered) where
  pure _ _ holds := ⟨rfl, holds⟩
  throw _ _ holds := ⟨rfl, holds⟩
  get _ holds := ⟨rfl, holds⟩
  bind begun onward session holds :=
    (begun session holds).bind fun result after _ => onward result after

/-- A change agrees with itself if it keeps the session in order. -/
theorem Agree.change {update : Session size → Session size}
    (step : ∀ session, ordered session → ordered (update session)) :
    Agree ordered (modify update : Engine size PUnit) (modify update) :=
  fun session holds => ⟨rfl, step session holds⟩

/-- Writing agrees with itself if the order of a session is no matter of what stands
aside. -/
theorem sequencing_agree
    (aside : ∀ {update : Session size → Session size}, Session.IsAside update →
      ∀ session, ordered session → ordered (update session)) :
    Sequencing (Agree ordered) where
  toComposing := composing_agree ordered
  aside standing := .change (aside standing)

/-- What is changed behind a step, however it ends, keeps the session in order. -/
theorem Agree.cleaned {first second : Engine size α} {update : Session size → Session size}
    (agree : Agree ordered first second)
    (step : ∀ session, ordered session → ordered (update session)) :
    Agree ordered (Engine.withCleanUp first (modify update))
      (Engine.withCleanUp second (modify update)) := by
  have cleaned : ∀ after, (modify update : Engine size PUnit).runFrom after =
      (.ok ⟨⟩, update after) := fun _ => rfl
  intro session holds
  obtain ⟨same, holdsAfter⟩ := agree session holds
  refine ⟨?_, ?_⟩
  · rw [runFrom_withCleanUp session cleaned, runFrom_withCleanUp session cleaned, same]
  · rw [runFrom_withCleanUp session cleaned]
    exact step _ holdsAfter

/-- Recalculations agree if their parts do and the order of a session is no matter of its
log. -/
theorem Agree.recalculate {first second : Announcement size} {position : Position size}
    (logged : ∀ (session : Session size) log, ordered session → ordered (session.withLog log))
    (updates : Agree ordered (updateValue first position) (updateValue second position))
    (sweeps : Agree ordered (updateDependents first position) (updateDependents second position)) :
    Agree ordered (recalculate first position) (recalculate second position) := by
  have rules := composing_agree ordered
  refine rules.bind rules.sheet fun outer => ?_
  refine rules.bind (.change fun session => logged session _) fun _ => ?_
  refine rules.bind (Agree.cleaned ?_ fun session => logged session _) fun _ => ?_
  · exact rules.bind updates fun _ => rules.bind sweeps fun _ =>
      rules.bind rules.sheet fun _ => rules.pure _
  · exact rules.bind (.change fun session => logged session _) fun _ =>
      rules.bind rules.grid fun _ => rules.pure _

section Written

variable {first second : Announcement size} (alike : AnnounceAlike ordered first second)
  {position : Position size}

omit alike in
/-- A property of a cell is written unless the cell already has it. -/
theorem AgreeFrom.unlessKept {Kept : Type} [DecidableEq Kept] {kept : Kept}
    {property : Cell → Kept} {step other : Engine size Unit} (holds : ordered session)
    (writes : kept ≠ property (session.sheet.grid.get position) →
      AgreeFrom ordered session step other) :
    AgreeFrom ordered session
      (do if kept = property (← cellAt position) then pure () else step)
      (do if kept = property (← cellAt position) then pure () else other) := by
  refine AgreeFrom.after_ok (runFrom_cellAt session position) ?_
  split
  · exact AgreeFrom.refl_of_ok (runFrom_pure session ()) holds
  · next new => exact writes new

include alike

/-- A value is stored and announced at once. -/
theorem AgreeFrom.storeValue {value : String} (holds : ordered session)
    (written : value ≠ (session.sheet.grid.get position).value →
      ordered ((session.withGrid (session.sheet.grid.setValue position value)).noted position
        .value)) :
    AgreeFrom ordered session (Engine.storeValue first position value)
      (Engine.storeValue second position value) := by
  apply AgreeFrom.unlessKept holds
  intro new
  have stored : (modifyGrid fun grid => grid.setValue position value).runFrom session =
      (.ok (), session.withGrid (session.sheet.grid.setValue position value)) := rfl
  exact AgreeFrom.after_ok stored (alike position .value _ (written new))

/-- A text is written and announced at once, and the report of the edit is no matter of the
order. -/
theorem Agree.assignText {text : String}
    (written : ∀ session : Session size, ordered session →
      text ≠ (session.sheet.grid.get position).text →
        ordered ((session.withGrid (session.sheet.grid.setText position text)).noted position
          .text))
    (reported : ∀ (session : Session size) report, ordered session →
      ordered (session.withReport report))
    (recalculates : Agree ordered (Engine.recalculate first position)
      (Engine.recalculate second position)) :
    Agree ordered (Engine.assignText first position text)
      (Engine.assignText second position text) := by
  intro session holds
  apply AgreeFrom.unlessKept holds
  intro new
  have retexted : (modifyGrid fun grid => grid.setText position text).runFrom session =
      (.ok (), session.withGrid (session.sheet.grid.setText position text)) := rfl
  have announced := alike position .text _ (written session holds new)
  refine AgreeFrom.after_ok retexted (announced.bind fun _ after _ holds => ?_)
  refine (composing_agree ordered).bind recalculates (fun report => ?_) after holds
  exact .change fun session => reported session report

/-- A color is written and announced at once. -/
theorem Agree.assignColor {color : Color}
    (written : ∀ session : Session size, ordered session →
      color ≠ (session.sheet.grid.get position).color →
        ordered ((session.withGrid (session.sheet.grid.setColor position color)).noted position
          .color)) :
    Agree ordered (Engine.assignColor first position color)
      (Engine.assignColor second position color) := by
  intro session holds
  apply AgreeFrom.unlessKept holds
  intro new
  have colored : (modifyGrid fun grid => grid.setColor position color).runFrom session =
      (.ok (), session.withGrid (session.sheet.grid.setColor position color)) := rfl
  exact AgreeFrom.after_ok colored (alike position .color _ (written session holds new))

end Written

/-- A check of a session in order passes. -/
theorem runFrom_check [DecidablePred ordered] (alarm : Fault) (holds : ordered session) :
    (check ordered alarm).runFrom session = (.ok (), session) := by
  rw [check, runFrom_bind_of_ok _ (runFrom_get session), if_pos holds]
  rfl

/-- A check behind steps that leave a session in order passes. -/
theorem Agree.check_behind [DecidablePred ordered] (alarm : Fault) {first second : Engine size α}
    (agree : Agree ordered first second) :
    Agree ordered (withCleanUp first (check ordered alarm)) second := by
  intro session holds
  obtain ⟨same, holdsAfter⟩ := agree session holds
  refine ⟨?_, holdsAfter⟩
  cases ended : second.runFrom session with
  | mk outcome after =>
    rw [ended] at same holdsAfter
    have passed := runFrom_check alarm holdsAfter
    cases outcome with
    | ok result => exact runFrom_withCleanUp_of_ok session same passed
    | error fault => exact runFrom_withCleanUp_of_error session same passed

/-- Admitted operations agree if they are announced alike, and scripts are followed alike
if the admitted operations are performed alike. -/
structure Orderly (admitted : Operation → Prop) (ordered : Session size → Prop) : Prop extends
    Composing (Agree ordered) where
  perform : ∀ {first second : Announcement size}, AnnounceAlike ordered first second →
    ∀ operation, admitted operation →
      Agree ordered (Engine.perform first operation) (Engine.perform second operation)
  follow : ∀ {perform other : Operation → Engine size Unit},
    (∀ operation, admitted operation → Agree ordered (perform operation) (other operation)) →
      ∀ position property id, Agree ordered (Engine.follow perform position property id)
        (Engine.follow other position property id)

/-- If every writing step keeps to the order, all operations are admitted. -/
theorem Rules.orderly (rules : Rules (Agree ordered) (AnnounceAlike ordered)) :
    Orderly (fun _ => True) ordered where
  toComposing := rules.toComposing
  perform alike operation _ := rules.perform alike operation
  follow performs := rules.follow fun operation => performs operation trivial

namespace Orderly

variable [DecidablePred ordered] {admitted : Operation → Prop}
  (orderly : Orderly admitted ordered) (alarm : Fault)
include orderly

theorem performChecked {first second : Announcement size}
    (alike : AnnounceAlike ordered first second) {operation : Operation}
    (admits : admitted operation) :
    Agree ordered (Engine.performChecked ordered alarm first operation)
      (Engine.perform second operation) :=
  Agree.check_behind alarm (orderly.perform alike operation admits)

/-- All checks of an announcement are passed. -/
theorem announceChecked (reactions : Nat) :
    AnnounceAlike ordered (Engine.announceChecked ordered alarm reactions)
      (announce reactions : Announcement size) := by
  induction reactions with
  | zero => exact fun _ _ _ holds => AgreeFrom.refl_of_ok rfl holds
  | succ reactions hypothesis =>
    intro position property session holds
    have recorded : (record position property).runFrom session =
        (.ok (), session.noted position property) := rfl
    refine AgreeFrom.after_ok recorded ?_
    refine orderly.bind orderly.get (fun told => orderly.forM fun id _ => ?_) _ holds
    have follows := orderly.follow (fun operation admits =>
      orderly.bind (orderly.performChecked alarm hypothesis admits) fun _ => orderly.pure ())
      position property id
    intro session holds
    obtain ⟨same, holdsAfter⟩ := follows session holds
    exact ⟨by rw [runFrom_bind_of_ok _ (runFrom_check alarm holds), same], holdsAfter⟩

end Orderly
end Engine

namespace Session

variable {ordered : Session size → Prop} [DecidablePred ordered] {session : Session size}

section Admitting

variable {admitted : Operation → Prop} (orderly : Engine.Orderly admitted ordered)
include orderly

/-- An admitted operation comes to the same when all moments of it are checked, and it
leaves the session in order. -/
theorem agree_run_of_admitted (alarm : Fault) {operation : Operation}
    (admits : admitted operation) (holds : ordered session) :
    Engine.AgreeFrom ordered session
      (Engine.performChecked ordered alarm
        (Engine.announceChecked ordered alarm session.reactions) operation)
      (Engine.run operation) := by
  have alike := orderly.announceChecked alarm session.reactions
  obtain ⟨same, holdsAfter⟩ := orderly.performChecked alarm alike admits session holds
  have ran : (Engine.run operation).runFrom session =
      (Engine.perform (Engine.announce session.reactions) operation).runFrom session :=
    Engine.runFrom_bind_of_ok session (Engine.runFrom_get session)
  exact ⟨same.trans ran.symm, by rwa [ran]⟩

/-- What is in order at first is in order after every admitted operation. -/
theorem ordered_after_of_admitted (holds : ordered session) {operations : List Operation}
    (admits : ∀ operation ∈ operations, admitted operation) :
    ordered (session.after operations) := by
  induction operations generalizing session with
  | nil => exact holds
  | cons first later hypothesis =>
    have admitsFirst := admits first List.mem_cons_self
    exact hypothesis (session.agree_run_of_admitted orderly (.raised "") admitsFirst holds).ordered
      fun operation member => admits operation (List.mem_cons_of_mem first member)

end Admitting

variable (rules : Engine.Rules (Engine.Agree ordered) (Engine.AnnounceAlike ordered))
include rules

/-- An operation comes to the same when all moments of it are checked, and it leaves
the session in order. -/
theorem agree_run (alarm : Fault) (operation : Operation) (holds : ordered session) :
    Engine.AgreeFrom ordered session
      (Engine.performChecked ordered alarm
        (Engine.announceChecked ordered alarm session.reactions) operation)
      (Engine.run operation) :=
  agree_run_of_admitted rules.orderly alarm trivial holds

/-- What is in order at first is in order after every operation. -/
theorem ordered_after (holds : ordered session) (operations : List Operation) :
    ordered (session.after operations) :=
  ordered_after_of_admitted rules.orderly holds fun _ _ => trivial

end Session
end Worksheet
