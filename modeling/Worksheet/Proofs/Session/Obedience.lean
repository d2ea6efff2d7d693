import Worksheet.Proofs.Session.Invariant

namespace Worksheet

/-!
# Scripts that obey

Which operations the scripts of a session perform can be read off their rules.  A rule
may subscribe further scripts, so these count as well, and a name that is subscribed
again keeps the rules that are known for it.  Therefore a session heeds a restriction if
the scripts that follow it are among trusted ones, if all known rules of trusted scripts
obey it, and if these rules subscribe nothing but trusted scripts that obey it too.

A judgement about the sessions that heed a restriction then holds of every announcement and
of every operation that obeys, as soon as it holds of the few operations that change the
history.  In particular a property of the history that these keep is kept whatever happens,
also if an operation fails.
-/

variable {size : Size}

/-! ## Rules that are known -/

/-- Every rule of every script, with the name of the script, is admitted. -/
def AllRules (admitted : String → Rule → Prop) (scripts : List (String × List ActiveRule)) : Prop :=
  ∀ script ∈ scripts, ∀ active ∈ script.2, admitted script.1 active.rule

namespace AllRules

variable {admitted : String → Rule → Prop} {scripts : List (String × List ActiveRule)}

/-- A rule that is found under the name of a script is a rule of that script. -/
theorem of_lookup (all : AllRules admitted scripts) {id : String} {index : Nat}
    {active : ActiveRule} (found : ((scripts.lookup id).getD [])[index]? = some active) :
    admitted id active.rule := by
  cases known : scripts.lookup id with
  | none =>
    rw [known] at found
    cases found
  | some rules =>
    rw [known] at found
    rcases List.lookup_eq_some_iff.mp known with ⟨earlier, later, same, _⟩
    apply all (id, rules)
    · rw [same]
      exact List.mem_append_right earlier List.mem_cons_self
    · exact List.mem_of_getElem? found

/-- Counting the uses of a rule changes no rule. -/
theorem counted (all : AllRules admitted scripts) (id : String) (index : Nat) :
    AllRules admitted (scripts.map fun script =>
      if script.1 == id then
        (script.1, script.2.modify index fun active => { active with uses := active.uses + 1 })
      else script) := by
  intro script member active among
  rcases List.mem_map.mp member with ⟨former, known, same⟩
  subst same
  split at among
  · rw [if_pos ‹_›]
    rcases List.mem_iff_getElem?.mp among with ⟨other, found⟩
    rw [List.getElem?_modify] at found
    rcases Option.map_eq_some_iff.mp found with ⟨old, position, same⟩
    have admits := all former known old (List.mem_of_getElem? position)
    split at same
    · subst same
      exact admits
    · subst same
      exact admits
  · rw [if_neg ‹_›]
    exact all former known active among

/-- A script that is not known yet brings its rules along. -/
theorem subscribed (all : AllRules admitted scripts) {id : String} {rules : List Rule}
    (new : ∀ rule ∈ rules, admitted id rule) :
    AllRules admitted (if scripts.any (·.1 == id) then scripts
      else scripts ++ [(id, rules.map fun rule => ⟨rule, 0⟩)]) := by
  intro script member active among
  split at member
  · exact all script member active among
  · rcases List.mem_append.mp member with known | latest
    · exact all script known active among
    · cases List.mem_singleton.mp latest
      rcases List.mem_map.mp among with ⟨rule, given, same⟩
      subst same
      exact new rule given

end AllRules

/-! ## Operations that obey -/

section Obeying

variable (allowed : Operation → Bool) (trusted : String → Bool)

mutual

/-- Whether the operation is allowed, or subscribes a trusted script that obeys. -/
def Operation.obeys (allowed : Operation → Bool) (trusted : String → Bool) : Operation → Bool
  | .subscribe id rules => trusted id && Rule.allObey allowed trusted rules
  | operation => allowed operation

def Rule.obeys (allowed : Operation → Bool) (trusted : String → Bool) : Rule → Bool
  | .mk _ _ _ actions => Operation.allObey allowed trusted actions

def Operation.allObey (allowed : Operation → Bool) (trusted : String → Bool) :
    List Operation → Bool
  | [] => true
  | operation :: later => operation.obeys allowed trusted && Operation.allObey allowed trusted later

def Rule.allObey (allowed : Operation → Bool) (trusted : String → Bool) : List Rule → Bool
  | [] => true
  | rule :: later => rule.obeys allowed trusted && Rule.allObey allowed trusted later

end

theorem Operation.allObey_eq (operations : List Operation) :
    Operation.allObey allowed trusted operations = operations.all (·.obeys allowed trusted) := by
  induction operations with
  | nil => rfl
  | cons first later hypothesis => rw [Operation.allObey, hypothesis, List.all_cons]

theorem Rule.allObey_eq (rules : List Rule) :
    Rule.allObey allowed trusted rules = rules.all (·.obeys allowed trusted) := by
  induction rules with
  | nil => rfl
  | cons first later hypothesis => rw [Rule.allObey, hypothesis, List.all_cons]

variable {allowed trusted}

theorem Rule.obeys_of_mem_actions {rule : Rule} {operation : Operation}
    (obeys : rule.obeys allowed trusted = true) (member : operation ∈ rule.actions) :
    operation.obeys allowed trusted = true := by
  cases rule with
  | mk cell property limit actions =>
    rw [Rule.obeys, Operation.allObey_eq] at obeys
    exact List.all_eq_true.mp obeys operation member

/-- What is put in for the marks of an operation does not matter, if it does not matter
for what is allowed. -/
theorem Operation.obeys_fill
    (fills : ∀ name value (operation : Operation), allowed (operation.fill name value) =
      allowed operation) (name value : String) (operation : Operation) :
    (operation.fill name value).obeys allowed trusted = operation.obeys allowed trusted := by
  cases operation with
  | assignText key entry => exact fills name value (.assignText key entry)
  | define id draft => exact fills name value (.define id draft)
  | edit draft => exact fills name value (.edit draft)
  | _ => rfl

end Obeying

/-- The scripts that follow the session are trusted, and what is known of trusted scripts
obeys. -/
structure Session.Heeds (allowed : Operation → Bool) (trusted : String → Bool)
    (session : Session size) : Prop where
  trusts : ∀ id ∈ session.subscribers, trusted id = true
  obeys : AllRules (fun id rule => trusted id = true → rule.obeys allowed trusted = true)
    session.scripts

/-- The session heeds the restriction, and its history has some property. -/
structure Session.HeedsWith (allowed : Operation → Bool) (trusted : String → Bool)
    (held : History size → Prop) (session : Session size) : Prop extends
    session.Heeds allowed trusted where
  history : held session.sheet.history

namespace Session.HeedsWith

variable {allowed : Operation → Bool} {trusted : String → Bool} {held : History size → Prop}
  {session : Session size} (heeds : session.HeedsWith allowed trusted held)
include heeds

/-- Trusted scripts are subscribed that obey. -/
theorem subscribed {id : String} {rules : List Rule} (trusts : trusted id = true)
    (obey : Rule.allObey allowed trusted rules = true) :
    ({ session with
        subscribers := session.subscribers ++ [id]
        scripts :=
          if session.scripts.any (·.1 == id) then session.scripts
          else session.scripts ++ [(id, rules.map fun rule => ⟨rule, 0⟩)] } :
      Session size).HeedsWith allowed trusted held := by
  refine ⟨⟨fun other member => ?_, heeds.obeys.subscribed fun rule given _ => ?_⟩, heeds.history⟩
  · rcases List.mem_append.mp member with before | now
    · exact heeds.trusts other before
    · exact List.mem_singleton.mp now ▸ trusts
  · rw [Rule.allObey_eq] at obey
    exact List.all_eq_true.mp obey rule given

theorem unsubscribed (id : String) :
    ({ session with subscribers := session.subscribers.erase id } : Session size).HeedsWith
      allowed trusted held :=
  ⟨⟨fun other member => heeds.trusts other (List.mem_of_mem_erase member), heeds.obeys⟩,
    heeds.history⟩

end Session.HeedsWith

/-- The change does not touch the history, the subscriptions and the scripts. -/
structure Session.IsBeneath (update : Session size → Session size) : Prop where
  history : ∀ session, (update session).sheet.history = session.sheet.history
  subscribers : ∀ session, (update session).subscribers = session.subscribers
  scripts : ∀ session, (update session).scripts = session.scripts

/-- Heeding a restriction is no matter of changes beneath. -/
theorem Session.Heeds.beneath {allowed : Operation → Bool} {trusted : String → Bool}
    {session : Session size} {update : Session size → Session size}
    (heeds : session.Heeds allowed trusted) (beneath : Session.IsBeneath update) :
    (update session).Heeds allowed trusted :=
  ⟨beneath.subscribers session ▸ heeds.trusts, beneath.scripts session ▸ heeds.obeys⟩

namespace Engine

/-! ## Judgements that the cells are no matter of -/

/-- The judgement holds of all changes that leave history, subscriptions and scripts alone,
also where they clean up behind a step. -/
structure Overlooking (judge : ∀ ⦃α : Type⦄, Engine size α → Engine size α → Prop) : Prop extends
    Composing judge where
  overlooked : ∀ {update : Session size → Session size}, Session.IsBeneath update →
    judge (modify update : Engine size PUnit) (modify update)
  cleaned : ∀ {α : Type} {first second : Engine size α} {update : Session size → Session size},
    Session.IsBeneath update → judge first second →
      judge (withCleanUp first (modify update)) (withCleanUp second (modify update))

namespace Overlooking

variable {judge : ∀ ⦃α : Type⦄, Engine size α → Engine size α → Prop} (rules : Overlooking judge)
  {first second : Announcement size}
  (heard : ∀ position property, judge (first position property) (second position property))
include rules

theorem modifySheet {update : Sheet size → Sheet size}
    (history : ∀ sheet, (update sheet).history = sheet.history) :
    judge (Engine.modifySheet update) (Engine.modifySheet update) :=
  rules.overlooked ⟨fun session => history session.sheet, fun _ => rfl, fun _ => rfl⟩

theorem record (position : Position size) (property : Property) :
    judge (Engine.record position property : Engine size Unit) (Engine.record position property) :=
  rules.overlooked ⟨fun _ => rfl, fun _ => rfl, fun _ => rfl⟩

theorem evaluateFormula (position : Position size) :
    judge (Engine.evaluateFormula position) (Engine.evaluateFormula position) := by
  refine rules.bind (rules.cellAt position) fun cell => rules.bind rules.sheet fun sheet => ?_
  dsimp only
  split
  · exact rules.pure _
  · split
    · exact rules.pure _
    · refine rules.bind (rules.modifySheet fun _ => rfl) fun _ =>
        rules.bind rules.grid fun grid => ?_
      exact rules.bind (rules.modifySheet fun _ => rfl) fun _ => rules.pure _

include heard

theorem updateValue (position : Position size) :
    judge (Engine.updateValue first position) (Engine.updateValue second position) := by
  have finish : ∀ (cell : Cell) (value : String), judge
      (do
        touch position cell.value
        storeValue first position value
        pure value : Engine size String)
      (do
        touch position cell.value
        storeValue second position value
        pure value) := by
    intro cell value
    refine rules.bind (rules.overlooked ⟨fun _ => rfl, fun _ => rfl, fun _ => rfl⟩) fun _ =>
      rules.bind ?_ fun _ => rules.pure value
    refine rules.bind (rules.cellAt position) fun cell => ?_
    split
    · exact rules.pure _
    · exact rules.bind (rules.modifySheet fun _ => rfl) fun _ => heard position .value
  refine rules.bind (rules.cellAt position) fun cell => ?_
  dsimp only
  split
  · exact rules.bind (rules.map (rules.evaluateFormula position) _) fun value => finish cell value
  · exact rules.bind (rules.pure _) fun value => finish cell value

theorem recalculate (position : Position size)
    (sweeps : judge (updateDependents first position) (updateDependents second position)) :
    judge (Engine.recalculate first position) (Engine.recalculate second position) := by
  refine rules.bind rules.sheet fun outer => rules.bind (rules.modifySheet fun _ => rfl) fun _ => ?_
  refine rules.bind (rules.cleaned ⟨fun _ => rfl, fun _ => rfl, fun _ => rfl⟩ ?_) fun _ =>
    rules.bind (rules.modifySheet fun _ => rfl) fun _ =>
      rules.bind rules.grid fun _ => rules.pure _
  exact rules.bind (rules.updateValue heard position) fun _ =>
    rules.bind sweeps fun _ => rules.bind rules.sheet fun _ => rules.pure _

theorem assignText (position : Position size) (text : String)
    (recalculates : judge (Engine.recalculate first position)
      (Engine.recalculate second position)) :
    judge (Engine.assignText first position text) (Engine.assignText second position text) := by
  refine rules.bind (rules.cellAt position) fun cell => ?_
  split
  · exact rules.pure _
  · refine rules.bind (rules.modifySheet fun _ => rfl) fun _ =>
      rules.bind (heard position .text) fun _ => rules.bind recalculates fun _ => ?_
    exact rules.modifySheet fun _ => rfl

theorem assignColor (position : Position size) (color : Color) :
    judge (Engine.assignColor first position color) (Engine.assignColor second position color) := by
  refine rules.bind (rules.cellAt position) fun cell => ?_
  split
  · exact rules.pure _
  · exact rules.bind (rules.modifySheet fun _ => rfl) fun _ => heard position .color

omit heard in
/-- The judgement holds of all steps that leave history, subscriptions and scripts to others,
if it holds of the announcements that they make. -/
theorem governing :
    Governing judge fun first second =>
      ∀ position property, judge (first position property) (second position property) where
  toComposing := rules.toComposing
  updateValue := rules.updateValue
  recalculate := rules.recalculate
  assignText := rules.assignText
  assignColor := rules.assignColor
  detached standing := rules.overlooked ⟨standing.history, standing.subscribers, standing.scripts⟩
  evaluateFormula := rules.evaluateFormula
  unguard := rules.modifySheet fun _ => rfl

end Overlooking

/-! ## Judgements about sessions that heed a restriction -/

/-- The judgement is about sessions that heed the restriction.  What is found in them under a
trusted name obeys, and only trusted scripts are found among the subscribers. -/
structure Heeding (allowed : Operation → Bool) (trusted : String → Bool)
    (judge : ∀ ⦃α : Type⦄, Engine size α → Engine size α → Prop) : Prop extends
    Overlooking judge where
  looking : ∀ {α : Type} {id : String} {first second : List ActiveRule → Engine size α},
    trusted id = true →
      (∀ active : List ActiveRule,
        (∀ one ∈ active, one.rule.obeys allowed trusted = true) →
          judge (first active) (second active)) →
        judge (scriptOf id >>= first) (scriptOf id >>= second)
  telling : ∀ {α : Type} {first second : List String → Engine size α},
    (∀ ids : List String, (∀ id ∈ ids, trusted id = true) → judge (first ids) (second ids)) →
      judge (MonadState.get >>= fun session : Session size => first session.subscribers)
        (MonadState.get >>= fun session : Session size => second session.subscribers)
  countUse : ∀ (id : String) (index : Nat),
    judge (Engine.countUse id index : Engine size Unit) (Engine.countUse id index)
  subscribe : ∀ {id : String} {rules : List Rule}, trusted id = true →
    Rule.allObey allowed trusted rules = true →
      judge (Engine.subscribe id rules : Engine size Unit) (Engine.subscribe id rules)
  unsubscribe : ∀ id : String,
    judge (Engine.unsubscribe id : Engine size Unit) (Engine.unsubscribe id)

namespace Heeding

variable {allowed : Operation → Bool} {trusted : String → Bool}
  {judge : ∀ ⦃α : Type⦄, Engine size α → Engine size α → Prop}
  (heeding : Heeding allowed trusted judge)
include heeding

/-- The judgement holds of an operation that obeys, if it holds of the allowed ones that
change the history. -/
theorem perform {first second : Announcement size}
    (heard : ∀ position property, judge (first position property) (second position property))
    {operation : Operation} (obeys : operation.obeys allowed trusted = true)
    (allows : operation.changesHistory = true → allowed operation = true →
      judge (Engine.perform first operation) (Engine.perform second operation)) :
    judge (Engine.perform first operation) (Engine.perform second operation) := by
  refine heeding.governing.perform heard operation fun attached => ?_
  cases operation with
  | subscribe id rules =>
    have both := Bool.and_eq_true_iff.mp obeys
    exact heeding.bind (heeding.subscribe both.1 both.2) fun _ => heeding.pure _
  | unsubscribe id => exact heeding.bind (heeding.unsubscribe id) fun _ => heeding.pure _
  | guard name => exact heeding.bind (heeding.modifySheet fun _ => rfl) fun _ => heeding.pure _
  | add id => exact allows rfl obeys
  | edit draft => exact allows rfl obeys
  | undo => exact allows rfl obeys
  | redo => exact allows rfl obeys
  | clearHistory => exact allows rfl obeys
  | readText document => exact allows rfl obeys
  | readBytes bytes => exact allows rfl obeys
  | _ => cases attached

variable {performs others : Operation → Engine size Unit}
  (fills : ∀ name value (operation : Operation), allowed (operation.fill name value) =
    allowed operation)
  (each : ∀ operation : Operation, operation.obeys allowed trusted = true →
    judge (performs operation) (others operation))
include fills each

/-- Following a trusted script only uses rules that obey. -/
theorem follow (position : Position size) (property : Property) {id : String}
    (trusts : trusted id = true) :
    judge (Engine.follow performs position property id)
      (Engine.follow others position property id) := by
  refine heeding.looking trusts fun told _ => heeding.forM fun index _ => ?_
  refine heeding.looking trusts fun active obey => ?_
  split
  · exact heeding.pure _
  · next one found =>
    have obeys := obey one (List.mem_of_getElem? found)
    split
    · refine heeding.bind (heeding.countUse id index) fun _ => heeding.forM fun operation member =>
        heeding.bind (heeding.cellAt position) fun cell => each _ ?_
      rw [Operation.obeys_fill fills]
      exact Rule.obeys_of_mem_actions obeys member
    · exact heeding.pure _

/-- A change is announced by noting it and having the subscribed scripts follow it. -/
theorem announcement (position : Position size) (property : Property) :
    judge
      (do
        record position property
        (← get).subscribers.forM (Engine.follow performs position property) : Engine size Unit)
      (do
        record position property
        (← get).subscribers.forM (Engine.follow others position property)) := by
  have follows : ∀ ids : List String, (∀ id ∈ ids, trusted id = true) →
      judge (ids.forM (Engine.follow performs position property))
        (ids.forM (Engine.follow others position property)) :=
    fun ids trusts => heeding.forM fun id member =>
      heeding.follow fills each position property (trusts id member)
  exact heeding.bind (heeding.record position property) fun _ => heeding.telling follows

end Heeding

/-! ## What heeding sessions keep -/

section Keeping

variable {allowed : Operation → Bool} {trusted : String → Bool} {held : History size → Prop}

theorem keeps_beneath {update : Session size → Session size} (beneath : Session.IsBeneath update) :
    Keeps (Session.HeedsWith allowed trusted held) (modify update : Engine size PUnit) :=
  .change fun session heeds =>
    ⟨heeds.toHeeds.beneath beneath, beneath.history session ▸ heeds.history⟩

/-- That a session heeds a restriction, with a property of its history, is kept by a step: this
is a judgement about sessions that heed it. -/
theorem heeding_keeps (allowed : Operation → Bool) (trusted : String → Bool)
    (held : History size → Prop) :
    Heeding allowed trusted fun _ (step _ : Engine size _) =>
      Keeps (Session.HeedsWith allowed trusted held) step where
  pure := .pure
  throw := .throw
  get := .get
  bind := .bind
  overlooked := keeps_beneath
  cleaned beneath kept := .withCleanUp kept (keeps_beneath beneath)
  looking := by
    intro α id first _ trusts kept session heeds
    have found : (scriptOf id).runFrom session =
        (.ok ((session.scripts.lookup id).getD []), session) := rfl
    rw [runFrom_bind_of_ok _ found]
    refine kept _ (fun one member => ?_) session heeds
    obtain ⟨index, among⟩ := List.mem_iff_getElem?.mp member
    exact heeds.obeys.of_lookup among trusts
  telling := by
    intro α first _ kept session heeds
    rw [runFrom_bind_of_ok _ (runFrom_get session)]
    exact kept session.subscribers heeds.trusts session heeds
  countUse id index := .change fun session heeds =>
    ⟨⟨heeds.trusts, heeds.obeys.counted id index⟩, heeds.history⟩
  subscribe trusts obey := .change fun session heeds => heeds.subscribed trusts obey
  unsubscribe id := by
    refine .bind .get fun session => ?_
    split
    · exact .change fun session heeds => heeds.unsubscribed id
    · exact .throw _

/-- While a session heeds a restriction, announcements keep what the operations keep that
are allowed to change the history. -/
theorem keeps_announce
    (fills : ∀ name value (operation : Operation), allowed (operation.fill name value) =
      allowed operation)
    (allows : ∀ announce : Announcement size,
      (∀ position property,
        Keeps (Session.HeedsWith allowed trusted held) (announce position property)) →
      ∀ operation, operation.changesHistory = true → allowed operation = true →
        Keeps (Session.HeedsWith allowed trusted held) (perform announce operation))
    (reactions : Nat) (position : Position size) (property : Property) :
    Keeps (Session.HeedsWith allowed trusted held) (announce reactions position property) := by
  have heeding := @heeding_keeps size allowed trusted held
  induction reactions generalizing position property with
  | zero => exact heeding.record position property
  | succ reactions hypothesis =>
    let performing : Operation → Engine size Unit := fun operation => do
      let _ ← perform (announce reactions) operation
    have performs : ∀ operation : Operation, operation.obeys allowed trusted = true →
        Keeps (Session.HeedsWith allowed trusted held) (performing operation) :=
      fun operation obeys => .bind
        (@Heeding.perform _ _ _ _ heeding _ (announce reactions) hypothesis _ obeys
          (allows _ hypothesis operation)) fun _ => .pure ()
    exact @Heeding.announcement _ _ _ _ heeding performing performing fills performs position
      property

end Keeping

end Engine
end Worksheet
