import Worksheet.Proofs.Session.Logging
import Worksheet.Proofs.Session.Mirror
import Worksheet.Proofs.Session.Obedience
import Worksheet.Proofs.Session.Status

namespace Worksheet

/-!
# The guard of an evaluation

A cell is guarded while its formula is evaluated, and an evaluation that meets a guarded
cell reports a loop of references.  No script is told of anything during an evaluation,
so whoever looks finds no name guarded, unless an operation has guarded one by hand.
Scripts may therefore evaluate, edit and recalculate in the middle of an edit and give
up half-way: nothing but a loop of references is ever reported as one.
-/

variable {size : Size}

/-! ## Operations that guard no name -/

mutual

/-- Whether the operation and the scripts that it subscribes guard no name by hand. -/
def Operation.guardsNothing : Operation → Bool
  | .guard _ => false
  | .subscribe _ rules => Rule.allGuardNothing rules
  | _ => true

def Rule.guardsNothing : Rule → Bool
  | .mk _ _ _ actions => Operation.allGuardNothing actions

def Operation.allGuardNothing : List Operation → Bool
  | [] => true
  | operation :: later => operation.guardsNothing && Operation.allGuardNothing later

def Rule.allGuardNothing : List Rule → Bool
  | [] => true
  | rule :: later => rule.guardsNothing && Rule.allGuardNothing later

end

theorem Operation.allGuardNothing_eq (operations : List Operation) :
    Operation.allGuardNothing operations = operations.all Operation.guardsNothing := by
  induction operations with
  | nil => rfl
  | cons first later hypothesis => rw [Operation.allGuardNothing, hypothesis, List.all_cons]

theorem Rule.allGuardNothing_eq (rules : List Rule) :
    Rule.allGuardNothing rules = rules.all Rule.guardsNothing := by
  induction rules with
  | nil => rfl
  | cons first later hypothesis => rw [Rule.allGuardNothing, hypothesis, List.all_cons]

theorem Rule.guardsNothing_of_mem_actions {rule : Rule} {operation : Operation}
    (harmless : rule.guardsNothing = true) (member : operation ∈ rule.actions) :
    operation.guardsNothing = true := by
  cases rule with
  | mk cell property limit actions =>
    rw [Rule.guardsNothing, Operation.allGuardNothing_eq] at harmless
    exact List.all_eq_true.mp harmless operation member

theorem Operation.guardsNothing_fill (name value : String) (operation : Operation) :
    (operation.fill name value).guardsNothing = operation.guardsNothing := by
  cases operation <;> rfl

/-! ## Loops that are reported -/

namespace Grid

variable {grid : Grid size} {position : Position size}

instance : DecidablePred grid.MeetsLoop := fun position =>
  decidable_of_iff (grid.leadsIntoLoop position = true) leadsIntoLoop_eq_true_iff

/-- A value does not matter for the loops. -/
theorem meetsLoop_setValue (written : Position size) (value : String) :
    (grid.setValue written value).MeetsLoop position ↔ grid.MeetsLoop position :=
  (SameTextsFrom.of_forall fun other => grid.text_setValue written other value).meetsLoop_iff

/-- Evaluations by their own merits report no loop but those that there are. -/
theorem meetsLoop_of_outcome {detail : String}
    (reported : grid.outcome position = .failed .circularReference detail) :
    grid.MeetsLoop position := by
  rw [outcome] at reported
  split at reported
  · cases reported
  · rw [evaluateCell] at reported
    split at reported
    · next loop => exact leadsIntoLoop_eq_true_iff.mp loop
    · rw [evaluateBody] at reported
      split at reported
      · cases reported
      · split at reported
        · cases reported
        · cases reported

theorem meetsLoop_of_display
    (shown : (grid.outcome position).display = Formula.Mishap.circularReference.title) :
    grid.MeetsLoop position := by
  have title : (grid.outcome position).display =
      (Formula.Outcome.failed .circularReference "").display := shown
  rcases grid.outcome_eq position with ⟨mishap, detail, _, ended⟩ | ⟨_, number, ended⟩
  · rw [ended] at title
    have circular := Formula.Outcome.eq_of_display_failed_eq title
    subst circular
    exact meetsLoop_of_outcome ended
  · rw [ended] at title
    exact absurd title.symm (Formula.Outcome.display_failed_ne_display _ _ number)

end Grid

namespace Event

/-- Each time a formula was announced to show a loop of references there was one: when
the changes are made again up to this one, the formula leads into a loop. -/
def AreJustified : List (Event size) → Prop
  | [] => True
  | event :: earlier =>
      (event.content = .value Formula.Mishap.circularReference.title →
        ((Grid.replay (event :: earlier)).get event.position).isFormula = true →
          (Grid.replay (event :: earlier)).MeetsLoop event.position) ∧
        AreJustified earlier

instance decidableAreJustified : (journal : List (Event size)) → Decidable (AreJustified journal)
  | [] => .isTrue trivial
  | _ :: earlier =>
      have := decidableAreJustified earlier
      inferInstanceAs (Decidable (_ ∧ _))

theorem AreJustified.of_append {later earlier : List (Event size)}
    (justified : AreJustified (later ++ earlier)) : AreJustified earlier := by
  induction later with
  | nil => exact justified
  | cons event later hypothesis => exact hypothesis justified.2

end Event

/-! ## Sessions without guarded names -/

/-- No name is guarded, no script is known that could guard one, and no loop of
references has been reported without reason. -/
structure Session.IsUndisturbed (session : Session size) : Prop where
  mirrored : session.IsMirrored
  unguarded : session.sheet.guarded = []
  harmless : ∀ script ∈ session.scripts, ∀ active ∈ script.2, active.rule.guardsNothing = true
  justified : Event.AreJustified session.journal

namespace Session

instance : DecidablePred (IsUndisturbed : Session size → Prop) := fun session =>
  decidable_of_iff
    (session.IsMirrored ∧ session.sheet.guarded = [] ∧
      (∀ script ∈ session.scripts, ∀ active ∈ script.2, active.rule.guardsNothing = true) ∧
        Event.AreJustified session.journal)
    ⟨fun parts => ⟨parts.1, parts.2.1, parts.2.2.1, parts.2.2.2⟩, fun undisturbed =>
      ⟨undisturbed.mirrored, undisturbed.unguarded, undisturbed.harmless, undisturbed.justified⟩⟩

theorem isUndisturbed_fresh (size : Size) : (fresh size).IsUndisturbed :=
  ⟨isMirrored_fresh size, rfl, fun _ member => (nomatch member), trivial⟩

namespace IsUndisturbed

variable {session : Session size} (undisturbed : session.IsUndisturbed)
include undisturbed

/-- Only the cells, the journal, the guarded names and the scripts matter. -/
theorem congr {other : Session size} (grid : other.sheet.grid = session.sheet.grid)
    (journal : other.journal = session.journal)
    (guarded : other.sheet.guarded = session.sheet.guarded)
    (scripts : other.scripts = session.scripts) : other.IsUndisturbed where
  mirrored := undisturbed.mirrored.congr grid journal
  unguarded := by rw [guarded, undisturbed.unguarded]
  harmless := by
    rw [scripts]
    exact undisturbed.harmless
  justified := by
    rw [journal]
    exact undisturbed.justified

/-- What stands apart does not disturb. -/
theorem apart {update : Session size → Session size} (standing : IsApart update) :
    (update session).IsUndisturbed :=
  undisturbed.congr (standing.grid session) (standing.journal session) (standing.guarded session)
    (standing.scripts session)

theorem touched (position : Position size) : (session.touched position).IsUndisturbed :=
  undisturbed.congr rfl rfl rfl rfl

/-- A new content is written and noted.  A loop that a formula shows from now on must be
there. -/
theorem written {position : Position size} (content : Content)
    (new : content ≠ (session.sheet.grid.get position).content content.property)
    (justified : content = .value Formula.Mishap.circularReference.title →
      ((session.sheet.grid.write position content).get position).isFormula = true →
        (session.sheet.grid.write position content).MeetsLoop position) :
    ((session.withGrid (session.sheet.grid.write position content)).noted position
      content.property).IsUndisturbed := by
  have mirrored := undisturbed.mirrored.written new
  have content_eq : ((session.sheet.grid.write position content).get position).content
      content.property = content := by
    rw [Grid.content_get_write, if_pos ⟨rfl, rfl⟩]
  refine ⟨mirrored, undisturbed.unguarded, undisturbed.harmless, ?_, undisturbed.justified⟩
  intro shown formula
  have replays := mirrored.replays
  change Grid.replay (_ :: _) = session.sheet.grid.write position content at replays
  rw [replays] at formula ⊢
  exact justified (content_eq.symm.trans shown) formula

theorem allRules : AllRules (fun _ rule => rule.guardsNothing = true) session.scripts :=
  undisturbed.harmless

/-- Counting the uses of a rule changes no rule. -/
theorem counted (id : String) (index : Nat) :
    ({ session with
        scripts := session.scripts.map fun script =>
          if script.1 == id then
            (script.1, script.2.modify index fun active => { active with uses := active.uses + 1 })
          else script } : Session size).IsUndisturbed :=
  ⟨undisturbed.mirrored.congr rfl rfl, undisturbed.unguarded, undisturbed.allRules.counted id index,
    undisturbed.justified⟩

/-- A harmless script is subscribed. -/
theorem subscribed {id : String} {rules : List Rule} (all : Rule.allGuardNothing rules = true) :
    ({ session with
        subscribers := session.subscribers ++ [id]
        scripts :=
          if session.scripts.any (·.1 == id) then session.scripts
          else session.scripts ++ [(id, rules.map fun rule => ⟨rule, 0⟩)] } :
      Session size).IsUndisturbed := by
  rw [Rule.allGuardNothing_eq] at all
  exact ⟨undisturbed.mirrored.congr rfl rfl, undisturbed.unguarded,
    undisturbed.allRules.subscribed (List.all_eq_true.mp all), undisturbed.justified⟩

end IsUndisturbed
end Session

namespace Engine

/-! ## No step leaves a name guarded -/

section Guard

/-- The guard of an evaluation has been lifted when it ends. -/
theorem agree_evaluateFormula (position : Position size) :
    Agree Session.IsUndisturbed (evaluateFormula position) (evaluateFormula position) :=
  fun _ undisturbed =>
    AgreeFrom.refl_of_ok (runFrom_evaluateFormula undisturbed.unguarded position) undisturbed

variable {first second : Announcement size}
  (alike : AnnounceAlike Session.IsUndisturbed first second)
include alike

/-- The value of a formula is stored right after it was evaluated, while no name was
guarded. -/
theorem agree_updating (position : Position size) :
    Agree Session.IsUndisturbed (updateValue first position) (updateValue second position) := by
  intro session undisturbed
  have finish : ∀ value : String,
      (value = Formula.Mishap.circularReference.title →
        (session.sheet.grid.get position).isFormula = true →
          session.sheet.grid.MeetsLoop position) →
      AgreeFrom Session.IsUndisturbed session
        (do
          touch position (session.sheet.grid.get position).value
          storeValue first position value
          pure value : Engine size String)
        (do
          touch position (session.sheet.grid.get position).value
          storeValue second position value
          pure value) := by
    intro value justified
    have noted : (touch position (session.sheet.grid.get position).value).runFrom session =
        (.ok (), session.touched position) := rfl
    refine AgreeFrom.after_ok noted (AgreeFrom.bind ?_ fun _ after _ undisturbed => ?_)
    · apply AgreeFrom.storeValue alike (undisturbed.touched position)
      intro new
      apply (undisturbed.touched position).written (.value value)
      · exact fun same => new (Content.value.inj same)
      · intro shown formula
        have kept : ((session.sheet.grid.setValue position value).get position).isFormula =
            (session.sheet.grid.get position).isFormula :=
          Cell.isFormula_congr (Grid.text_setValue _ position position value)
        exact (Grid.meetsLoop_setValue position value).mpr
          (justified (Content.value.inj shown) (kept.symm.trans formula))
    · exact AgreeFrom.refl_of_ok (runFrom_pure after value) undisturbed
  refine AgreeFrom.after_ok (runFrom_cellAt session position) ?_
  dsimp only
  split
  · have evaluated : (Formula.Outcome.display <$> evaluateFormula position).runFrom session =
        (.ok (session.sheet.grid.outcome position).display, session) := by
      rw [runFrom_map, runFrom_evaluateFormula undisturbed.unguarded]
    refine AgreeFrom.after_ok evaluated (finish _ fun shown _ => ?_)
    exact Grid.meetsLoop_of_display shown
  · next literal =>
    exact AgreeFrom.after_ok (runFrom_pure session _) (finish _ fun _ formula =>
      absurd formula literal)

theorem agree_assigning (position : Position size) (text : String)
    (recalculates : Agree Session.IsUndisturbed (recalculate first position)
      (recalculate second position)) :
    Agree Session.IsUndisturbed (assignText first position text)
      (assignText second position text) := by
  apply Agree.assignText alike _ _ recalculates
  · intro session undisturbed new
    apply undisturbed.written (.text text)
    · exact fun same => new (Content.text.inj same)
    · exact fun shown => nomatch shown
  · exact fun session report undisturbed => undisturbed.congr rfl rfl rfl rfl

theorem agree_coloring (position : Position size) (color : Color) :
    Agree Session.IsUndisturbed (assignColor first position color)
      (assignColor second position color) := by
  apply Agree.assignColor alike
  intro session undisturbed new
  apply undisturbed.written (.color color)
  · exact fun same => new (Content.color.inj same)
  · exact fun shown => nomatch shown

omit alike in
theorem ruling_undisturbed (size : Size) :
    Ruling (Agree (Session.IsUndisturbed : Session size → Prop))
      (AnnounceAlike Session.IsUndisturbed) :=
  .of_apart (composing_agree (Session.IsUndisturbed : Session size → Prop))
    { updateValue := agree_updating
      recalculate := fun alike position sweeps =>
        Agree.recalculate (fun _ _ undisturbed => undisturbed.congr rfl rfl rfl rfl)
          (agree_updating alike position) sweeps
      assignText := agree_assigning
      assignColor := agree_coloring }
    (fun standing => .change fun _ undisturbed => undisturbed.apart standing)
    agree_evaluateFormula
    (.change fun _ undisturbed => undisturbed.congr rfl rfl undisturbed.unguarded.symm rfl)

/-- An operation that guards nothing leaves nothing guarded. -/
theorem agree_performing (operation : Operation) (harmless : operation.guardsNothing = true) :
    Agree Session.IsUndisturbed (perform first operation) (perform second operation) := by
  have rules := composing_agree (Session.IsUndisturbed : Session size → Prop)
  refine (ruling_undisturbed size).perform alike operation fun loud => ?_
  cases operation with
  | subscribe id scripts =>
    have all : Rule.allGuardNothing scripts = true := harmless
    refine rules.bind (.change fun session undisturbed => ?_) fun _ => rules.pure _
    exact undisturbed.subscribed all
  | guard name => cases harmless
  | _ => cases loud

omit alike in
/-- Only rules that guard nothing are used. -/
theorem agree_following {perform other : Operation → Engine size Unit}
    (performs : ∀ operation, operation.guardsNothing = true →
      Agree Session.IsUndisturbed (perform operation) (other operation))
    (position : Position size) (property : Property) (id : String) :
    Agree Session.IsUndisturbed (follow perform position property id)
      (follow other position property id) := by
  have rules := composing_agree (Session.IsUndisturbed : Session size → Prop)
  refine rules.bind (rules.scriptOf id) fun told => rules.forM fun index _ => ?_
  intro session undisturbed
  have found : (scriptOf id).runFrom session =
      (.ok ((session.scripts.lookup id).getD []), session) := rfl
  refine AgreeFrom.after_ok found ?_
  split
  · exact rules.pure _ session undisturbed
  · next active among =>
    have harmless := undisturbed.allRules.of_lookup among
    split
    · refine rules.bind (.change fun _ undisturbed => undisturbed.counted id index) (fun _ => ?_)
        session undisturbed
      refine rules.forM fun operation member => rules.bind (rules.cellAt position) fun cell => ?_
      apply performs
      rw [Operation.guardsNothing_fill]
      exact Rule.guardsNothing_of_mem_actions harmless member
    · exact rules.pure _ session undisturbed

omit alike in
theorem orderly_undisturbed (size : Size) :
    Orderly (fun operation => operation.guardsNothing = true)
      (Session.IsUndisturbed : Session size → Prop) where
  toComposing := composing_agree _
  perform := agree_performing
  follow := agree_following

end Guard
end Engine

namespace Session

/-- A blank sheet is used with any scripts, which may edit and recalculate in the middle of
an edit and may give up, but no name is guarded by hand.  Then no name is guarded and no
log is in place after the operations.

During a further operation the session is undisturbed whenever a script is told of a
change and behind every operation of a script: if it is checked at all these moments, the
operation runs as if it were not.  A recalculation, however deep inside others, leaves the
log that it found, with what it has touched added if it ended well.

So no formula has ever been announced to show a loop of references unless there was one
at that moment, and no evaluation reports another one. -/
theorem undisturbed_after (size : Size) {operations : List Operation}
    (harmless : ∀ operation ∈ operations, operation.guardsNothing = true) :
    ((fresh size).after operations).sheet.guarded = [] ∧
    ((fresh size).after operations).sheet.log = none ∧
    (∀ operation : Operation, operation.guardsNothing = true → ∀ alarm,
      (Engine.performChecked IsUndisturbed alarm
          (Engine.announceChecked IsUndisturbed alarm ((fresh size).after operations).reactions)
          operation).runFrom ((fresh size).after operations) =
        (Engine.run operation).runFrom ((fresh size).after operations)) ∧
    (∀ reactions position (session : Session size),
      match (Engine.recalculate (Engine.announce reactions) position).runFrom session with
      | (.ok report, later) => ∃ inner,
          later.sheet.log = session.sheet.log.map (·.merge inner) ∧
            report.deltas = Engine.deltas later.sheet.grid inner
      | (.error _, later) => later.sheet.log = session.sheet.log) ∧
    (∀ event earlier, event :: earlier <:+ ((fresh size).after operations).journal →
      event.content = .value Formula.Mishap.circularReference.title →
        ((Grid.replay (event :: earlier)).get event.position).isFormula = true →
          (Grid.replay (event :: earlier)).MeetsLoop event.position) ∧
    (∀ (session : Session size), session.sheet.guarded = [] → ∀ position detail,
      ((Engine.evaluateFormula position).runFrom session).1 =
          .ok (.failed .circularReference detail) →
        session.sheet.grid.MeetsLoop position) := by
  have orderly := Engine.orderly_undisturbed size
  have undisturbed := ordered_after_of_admitted orderly (isUndisturbed_fresh size) harmless
  refine ⟨undisturbed.unguarded, log_after rfl operations, ?_, ?_, ?_, ?_⟩
  · intro operation admits alarm
    exact (agree_run_of_admitted orderly alarm admits undisturbed).same
  · exact fun reactions => Engine.log_recalculate (Engine.announce reactions)
  · rintro event earlier ⟨later, whole⟩
    have justified := undisturbed.justified
    rw [← whole] at justified
    exact justified.of_append.1
  · intro session unguarded position detail reported
    rw [Engine.runFrom_evaluateFormula unguarded] at reported
    exact Grid.meetsLoop_of_outcome (Except.ok.inj reported)

/-- A script answers the first value of a cell by an edit, a recalculation and a fault. -/
def interrupted : List Operation :=
  [.subscribe "script" [.mk (some "A1") (some "value") 1
      [.assignText "B1" (.text "=A1"), .recalculate "A1", .giveUp "enough"]],
    .assignText "A1" (.text "1"), .evaluateFormula "B1"]

theorem undisturbed_after_interrupted :
    (∀ operation ∈ interrupted, operation.guardsNothing = true) ∧
    ((fresh .twoCells).steps interrupted).map (·.answer.isOk) = [true, false, true] ∧
    ((fresh .twoCells).after interrupted).sheet.guarded = [] ∧
    ((fresh .twoCells).after interrupted).sheet.log = none := by
  have harmless : ∀ operation ∈ interrupted, operation.guardsNothing = true := by decide
  have undisturbed := undisturbed_after .twoCells harmless
  exact ⟨harmless, by decide +kernel, undisturbed.1, undisturbed.2.1⟩

end Session
end Worksheet
