import Worksheet.Proofs.Session.Reporting

namespace Worksheet

/-!
# Literal texts and faults of scripts

A cell with a literal text shows it.  The value is written after the change of the text has
been announced, and a script that follows this announcement may give up.  That cuts off the
edit and leaves the former value in the cell.  Nothing makes up for it: to assign the text
once more does nothing, and only formulas are evaluated all together.

There is no other way in which a literal text and the value of its cell come apart.  To
tell it from other faults, all faults that end the announcement of a text of one cell are
replaced by an alarm.  An edit of the cell has been cut off if then the alarm, whichever it
is, is what the operation ends with.
-/

variable {size : Size} {α β : Type}

/-- The cell has a literal text that it does not show. -/
def Cell.IsOverdue (cell : Cell) : Prop :=
  cell.isFormula = false ∧ cell.value ≠ cell.text

instance : DecidablePred Cell.IsOverdue := fun _ =>
  inferInstanceAs (Decidable (_ ∧ _))

namespace Engine

/-- Replace a fault by an alarm. -/
def alarming (alarm : Fault) (step : Engine size α) : Engine size α :=
  tryCatch step fun _ => throw alarm

/-- Announce changes like `announce` does, but replace all faults that end the announcement
of a text of the watched cell. -/
def announceWatched (watched : Position size) (alarm : Fault) :
    (reactions : Nat) → Announcement size
  | 0, position, property => record position property
  | reactions + 1, position, property =>
      let announcing : Engine size Unit := do
        record position property
        (← get).subscribers.forM (follow (fun operation => do
          let _ ← perform (announceWatched watched alarm reactions) operation) position property)
      if position = watched ∧ property = .text then alarming alarm announcing else announcing

end Engine

namespace Session

/-- The operation ends with the fault of a script that follows a change of the text of the
cell. -/
def CutsOff (session : Session size) (operation : Operation) (position : Position size) : Prop :=
  ∀ alarm, ((Engine.perform (Engine.announceWatched position alarm session.reactions)
    operation).runFrom session).1 = .error alarm

/-- The cell has the text and the value that it had before. -/
def Leaves (watched : Position size) (earlier later : Session size) : Prop :=
  (later.sheet.grid.get watched).text = (earlier.sheet.grid.get watched).text ∧
    (later.sheet.grid.get watched).value = (earlier.sheet.grid.get watched).value

/-- If the cell is overdue, it was so before and has been left like that. -/
def OwesNothingNew (watched : Position size) (earlier later : Session size) : Prop :=
  (later.sheet.grid.get watched).IsOverdue → earlier.Leaves watched later

variable {watched : Position size} {earlier middle later : Session size}

theorem Leaves.refl (session : Session size) : session.Leaves watched session :=
  ⟨rfl, rfl⟩

theorem Leaves.trans (first : earlier.Leaves watched middle)
    (second : middle.Leaves watched later) :
    earlier.Leaves watched later :=
  ⟨second.1.trans first.1, second.2.trans first.2⟩

theorem Leaves.isOverdue_iff (leaves : earlier.Leaves watched later) :
    (later.sheet.grid.get watched).IsOverdue ↔ (earlier.sheet.grid.get watched).IsOverdue := by
  rw [Cell.IsOverdue, Cell.IsOverdue, Cell.isFormula_congr leaves.1, leaves.1, leaves.2]

theorem Leaves.of_grid (same : later.sheet.grid = earlier.sheet.grid) :
    earlier.Leaves watched later := by
  rw [Leaves, same]
  exact ⟨rfl, rfl⟩

theorem Leaves.owesNothingNew (leaves : earlier.Leaves watched later) :
    earlier.OwesNothingNew watched later :=
  fun _ => leaves

theorem OwesNothingNew.trans (first : earlier.OwesNothingNew watched middle)
    (second : middle.OwesNothingNew watched later) : earlier.OwesNothingNew watched later := by
  intro overdue
  have leaves := second overdue
  exact (first (leaves.isOverdue_iff.mp overdue)).trans leaves

/-- Without debts before there are none behind. -/
theorem OwesNothingNew.not_isOverdue (owes : earlier.OwesNothingNew watched later)
    (paid : ¬ (earlier.sheet.grid.get watched).IsOverdue) :
    ¬ (later.sheet.grid.get watched).IsOverdue :=
  fun overdue => paid ((owes overdue).isOverdue_iff.mp overdue)

end Session

namespace Engine

/-! ## Ends of two steps -/

/-- Two steps come to the same, and then the session they end in is as it should be; or a
fault in the second one has been replaced by the alarm in the first one. -/
inductive EndsAlike (alarm : Fault) (left : Session size → Prop) :
    Except Fault α × Session size → Except Fault α × Session size → Prop
  | same (outcome : Except Fault α) (after : Session size) (holds : left after) :
      EndsAlike alarm left (outcome, after) (outcome, after)
  | alarmed (fault : Fault) (after : Session size) :
      EndsAlike alarm left (.error alarm, after) (.error fault, after)

variable {alarm : Fault} {left between : Session size → Prop} {session : Session size}

namespace EndsAlike

theorem refl {step : Engine size α} (holds : left (step.runFrom session).2) :
    EndsAlike alarm left (step.runFrom session) (step.runFrom session) :=
  .same _ _ holds

theorem mono {first second : Except Fault α × Session size}
    (ends : EndsAlike alarm between first second) (imp : ∀ after, between after → left after) :
    EndsAlike alarm left first second := by
  cases ends with
  | same outcome after holds => exact .same outcome after (imp after holds)
  | alarmed fault after => exact .alarmed fault after

theorem bind {first second : Engine size α} {next other : α → Engine size β}
    (begun : EndsAlike alarm between (first.runFrom session) (second.runFrom session))
    (stopped : ∀ after, between after → left after)
    (onward : ∀ result after, between after →
      EndsAlike alarm left ((next result).runFrom after) ((other result).runFrom after)) :
    EndsAlike alarm left ((first >>= next).runFrom session)
      ((second >>= other).runFrom session) := by
  rw [runFrom_bind, runFrom_bind]
  generalize first.runFrom session = one, second.runFrom session = two at begun
  cases begun with
  | alarmed fault after => exact .alarmed fault after
  | same outcome after holds =>
    cases outcome with
    | error fault => exact .same _ after (stopped after holds)
    | ok result => exact onward result after holds

/-- The same step goes before and ends well. -/
theorem after_ok {step : Engine size α} {next other : α → Engine size β} {result : α}
    {after : Session size} (ran : step.runFrom session = (.ok result, after))
    (onward : EndsAlike alarm left ((next result).runFrom after) ((other result).runFrom after)) :
    EndsAlike alarm left ((step >>= next).runFrom session) ((step >>= other).runFrom session) := by
  rwa [runFrom_bind_of_ok _ ran, runFrom_bind_of_ok _ ran]

theorem cleaned {first second : Engine size α} {update : Session size → Session size}
    (ends : EndsAlike alarm between (first.runFrom session) (second.runFrom session))
    (step : ∀ after, between after → left (update after)) :
    EndsAlike alarm left ((withCleanUp first (modify update)).runFrom session)
      ((withCleanUp second (modify update)).runFrom session) := by
  have cleaned : ∀ after, (modify update : Engine size PUnit).runFrom after =
      (.ok ⟨⟩, update after) := fun _ => rfl
  rw [runFrom_withCleanUp session cleaned, runFrom_withCleanUp session cleaned]
  generalize first.runFrom session = one, second.runFrom session = two at ends
  cases ends with
  | alarmed fault after => exact .alarmed fault (update after)
  | same outcome after holds => exact .same outcome (update after) (step after holds)

end EndsAlike

variable (alarm) in
/-- A recalculation ends alike if its parts do, and the log is no matter. -/
theorem endsAlike_recalculate {first second : Announcement size} {position : Position size}
    (logged : ∀ after log, left after → left (after.withLog log))
    (updates : EndsAlike alarm left
      ((updateValue first position).runFrom (session.withLog (some [])))
      ((updateValue second position).runFrom (session.withLog (some []))))
    (sweeps : ∀ after, left after → EndsAlike alarm left
      ((updateDependents first position).runFrom after)
      ((updateDependents second position).runFrom after)) :
    EndsAlike alarm left ((recalculate first position).runFrom session)
      ((recalculate second position).runFrom session) := by
  have opened : (modifySheet fun sheet => { sheet with log := some [] }).runFrom session =
      (.ok (), session.withLog (some [])) := rfl
  refine .after_ok (runFrom_sheet session) (.after_ok opened ?_)
  refine .bind (.cleaned (.bind updates (fun _ => id) fun _ after holds => ?_)
    fun after => logged after _) (fun _ => id) fun _ after holds => ?_
  · refine .bind (sweeps after holds) (fun _ => id) fun _ ended paid => ?_
    exact .after_ok (runFrom_sheet ended) (.refl paid)
  · have merged : ∀ log, left ({ after with sheet := { after.sheet with log := log } }) :=
      fun log => logged after log holds
    exact .same _ _ (merged _)

/-! ## Watching one cell -/

/-- Unless the first step ends with the alarm, it comes to the same as the second one, and
the cell owes nothing new. -/
def Watches (watched : Position size) (alarm : Fault) ⦃α : Type⦄ (first second : Engine size α) :
    Prop :=
  ∀ session, EndsAlike alarm (session.OwesNothingNew watched) (first.runFrom session)
    (second.runFrom session)

/-- A fault that ends the announcement of a text of the watched cell is replaced.  Behind all
other announcements the cell owes nothing new. -/
structure WatchesAnnouncing (watched : Position size) (alarm : Fault)
    (first second : Announcement size) : Prop where
  others : ∀ position property, ¬ (position = watched ∧ property = .text) →
    Watches watched alarm (first position property) (second position property)
  itself : ∀ session,
    (∃ after, (first watched .text).runFrom session = (.ok (), after) ∧
      (second watched .text).runFrom session = (.ok (), after)) ∨
    ∃ fault after, (first watched .text).runFrom session = (.error alarm, after) ∧
      (second watched .text).runFrom session = (.error fault, after)

variable {watched : Position size}

/-- A change that leaves the watched cell. -/
theorem Watches.change {update : Session size → Session size}
    (leaves : ∀ session : Session size, session.Leaves watched (update session)) :
    Watches watched alarm (modify update : Engine size PUnit) (modify update) :=
  fun session => .same _ _ (leaves session).owesNothingNew

theorem sequencing_watches (watched : Position size) (alarm : Fault) :
    Sequencing (Watches watched alarm) where
  pure _ session := .same _ _ (Session.Leaves.refl session).owesNothingNew
  throw _ session := .same _ _ (Session.Leaves.refl session).owesNothingNew
  get session := .same _ _ (Session.Leaves.refl session).owesNothingNew
  bind begun onward session :=
    (begun session).bind (fun _ => id) fun result after owes =>
      (onward result after).mono fun _ => owes.trans
  aside standing := .change fun session => .of_grid (standing.grid session)

section Writing

variable {first second : Announcement size} (heard : WatchesAnnouncing watched alarm first second)
include heard

/-! ### Recomputing -/

/-- A value that a literal text demands is stored, and what scripts do when they are told of
it leaves no debts. -/
theorem settles_storeValue {value : String}
    (shows : (session.sheet.grid.get watched).isFormula = true ∨
      value = (session.sheet.grid.get watched).text) :
    EndsAlike alarm (fun after => ¬ (after.sheet.grid.get watched).IsOverdue)
      ((storeValue first watched value).runFrom session)
      ((storeValue second watched value).runFrom session) := by
  refine .after_ok (runFrom_cellAt session watched) ?_
  split
  · next same =>
    refine .same _ _ fun overdue => ?_
    rcases shows with formula | shows
    · rw [overdue.1] at formula
      cases formula
    · exact overdue.2 (same.symm.trans shows)
  · have stored : (modifyGrid fun grid => grid.setValue watched value).runFrom session =
        (.ok (), session.withGrid (session.sheet.grid.setValue watched value)) := rfl
    refine .after_ok stored ((heard.others watched .value (by simp) _).mono fun after owes => ?_)
    refine owes.not_isOverdue fun overdue => ?_
    have text := Grid.text_setValue session.sheet.grid watched watched value
    rcases shows with formula | shows
    · have literal := (Cell.isFormula_congr text).symm.trans overdue.1
      rw [literal] at formula
      cases formula
    · apply overdue.2
      have shown := Grid.value_setValue_self session.sheet.grid watched value
      exact shown.trans (shows.trans text.symm)

/-- Once the cell has been recomputed it owes nothing. -/
theorem settles_updateValue (session : Session size) :
    EndsAlike alarm (fun after => ¬ (after.sheet.grid.get watched).IsOverdue)
      ((updateValue first watched).runFrom session)
      ((updateValue second watched).runFrom session) := by
  have finish : ∀ (value : String) (between : Session size),
      between.sheet.grid = session.sheet.grid →
      (session.sheet.grid.get watched).isFormula = true ∨
        value = (session.sheet.grid.get watched).text →
      EndsAlike alarm (fun after => ¬ (after.sheet.grid.get watched).IsOverdue)
        ((do
          touch watched (session.sheet.grid.get watched).value
          storeValue first watched value
          pure value : Engine size String).runFrom between)
        ((do
          touch watched (session.sheet.grid.get watched).value
          storeValue second watched value
          pure value : Engine size String).runFrom between) := by
    intro value between same shows
    have noted : ∃ after, (touch watched (session.sheet.grid.get watched).value).runFrom between =
        (.ok (), after) ∧ after.sheet.grid = session.sheet.grid := ⟨_, rfl, same⟩
    rcases noted with ⟨after, noted, same⟩
    rw [← same] at shows
    refine .after_ok noted (.bind (settles_storeValue heard shows) (fun _ => id) ?_)
    exact fun _ after settled => .same _ after settled
  refine .after_ok (runFrom_cellAt session watched) ?_
  dsimp only
  split
  · next formula =>
    have leaves := ((sequencing_leavesCells size).evaluateFormula watched).map
      Formula.Outcome.display session session ⟨rfl, rfl, rfl⟩
    have computed : EndsAlike alarm (fun after => after.sheet.grid = session.sheet.grid)
        ((Formula.Outcome.display <$> evaluateFormula watched).runFrom session)
        ((Formula.Outcome.display <$> evaluateFormula watched).runFrom session) := .refl leaves.1
    refine computed.bind (fun after same overdue => ?_) fun value after same =>
      finish value after same (.inl formula)
    rw [same] at overdue
    rw [overdue.1] at formula
    cases formula
  · exact .after_ok (runFrom_pure session _) (finish _ session rfl (.inr rfl))

theorem watches_updateValue (position : Position size) :
    Watches watched alarm (updateValue first position) (updateValue second position) := by
  by_cases itself : position = watched
  · subst position
    exact fun session => (settles_updateValue heard session).mono fun _ settled overdue =>
      absurd overdue settled
  · have rules := sequencing_watches watched alarm
    have stores : ∀ value, Watches watched alarm (storeValue first position value)
        (storeValue second position value) := by
      intro value
      refine rules.bind (rules.cellAt position) fun cell => ?_
      split
      · exact rules.pure _
      · refine rules.bind (.change fun session => ?_) fun _ =>
          heard.others position .value fun both => itself both.1
        have same := Grid.get_setValue_of_ne session.sheet.grid value itself
        exact ⟨congrArg Cell.text same, congrArg Cell.value same⟩
    have finish : ∀ (cell : Cell) (value : String), Watches watched alarm
        (do
          touch position cell.value
          storeValue first position value
          pure value : Engine size String)
        (do
          touch position cell.value
          storeValue second position value
          pure value) :=
      fun cell value => rules.bind (.change fun session => .refl session) fun _ =>
        rules.bind (stores value) fun _ => rules.pure value
    refine rules.bind (rules.cellAt position) fun cell => ?_
    dsimp only
    split
    · exact rules.bind (rules.map (rules.evaluateFormula position) _) fun value => finish cell value
    · exact rules.bind (rules.pure _) fun value => finish cell value

theorem watches_updateDependents (position : Position size) :
    Watches watched alarm (updateDependents first position) (updateDependents second position) :=
  (sequencing_watches watched alarm).toComposing.updateDependents (watches_updateValue heard)
    position

/-- Once the cell has been recalculated it owes nothing. -/
theorem settles_recalculate (session : Session size) :
    EndsAlike alarm (fun after => ¬ (after.sheet.grid.get watched).IsOverdue)
      ((recalculate first watched).runFrom session)
      ((recalculate second watched).runFrom session) :=
  endsAlike_recalculate alarm (fun _ _ settled => settled) (settles_updateValue heard _)
    fun after settled => (watches_updateDependents heard watched after).mono fun _ owes =>
      owes.not_isOverdue settled

theorem watches_recalculate (position : Position size) :
    Watches watched alarm (recalculate first position) (recalculate second position) :=
  fun session => endsAlike_recalculate alarm
    (fun _ _ owes => owes.trans (Session.Leaves.of_grid rfl).owesNothingNew)
    ((watches_updateValue heard position (session.withLog (some []))).mono fun _ =>
      (Session.Leaves.of_grid rfl).owesNothingNew.trans)
    fun after owes => (watches_updateDependents heard position after).mono fun _ => owes.trans

/-! ### Editing -/

theorem watches_assignText (position : Position size) (text : String) :
    Watches watched alarm (assignText first position text) (assignText second position text) := by
  have rules := sequencing_watches watched alarm
  by_cases itself : position = watched
  · subst position
    intro session
    refine .after_ok (runFrom_cellAt session watched) ?_
    split
    · exact rules.pure () session
    · have retexted : (modifyGrid fun grid => grid.setText watched text).runFrom session =
          (.ok (), session.withGrid (session.sheet.grid.setText watched text)) := rfl
      refine .after_ok retexted ?_
      rcases heard.itself (session.withGrid (session.sheet.grid.setText watched text)) with
        ⟨after, heardFirst, heardSecond⟩ | ⟨fault, after, heardFirst, heardSecond⟩
      · rw [runFrom_bind_of_ok _ heardFirst, runFrom_bind_of_ok _ heardSecond]
        refine (settles_recalculate heard after).bind (fun _ settled overdue => ?_) ?_
        · exact absurd overdue settled
        · exact fun report later settled => .same _ _ fun overdue => absurd overdue settled
      · rw [runFrom_bind, heardFirst, runFrom_bind, heardSecond]
        exact .alarmed fault after
  · refine rules.bind (rules.cellAt position) fun cell => ?_
    split
    · exact rules.pure _
    · refine rules.bind (.change fun session => ?_) fun _ => ?_
      · have same := Grid.get_setText_of_ne session.sheet.grid text itself
        exact ⟨congrArg Cell.text same, congrArg Cell.value same⟩
      · refine rules.bind (heard.others position .text fun both => itself both.1) fun _ => ?_
        refine rules.bind (watches_recalculate heard position) fun report => ?_
        exact .change fun session => .refl session

theorem watches_assignColor (position : Position size) (color : Color) :
    Watches watched alarm (assignColor first position color)
      (assignColor second position color) := by
  have rules := sequencing_watches watched alarm
  refine rules.bind (rules.cellAt position) fun cell => ?_
  split
  · exact rules.pure _
  · refine rules.bind (.change fun session => ?_) fun _ => heard.others position .color (by simp)
    constructor
    · exact Grid.text_setColor _ position watched color
    · exact Grid.value_setColor _ position watched color

omit heard in
theorem rules_watches (watched : Position size) (alarm : Fault) :
    Rules (Watches watched alarm) (WatchesAnnouncing watched alarm) :=
  { sequencing_watches watched alarm with
    updateValue := watches_updateValue
    recalculate := fun heard position _ => watches_recalculate heard position
    assignText := fun heard position text _ => watches_assignText heard position text
    assignColor := watches_assignColor }

end Writing

/-- What ends with a fault ends with the alarm instead. -/
theorem exists_of_alarming {first second : Engine size Unit}
    (watches : Watches watched alarm first second) (session : Session size) :
    (∃ after, (alarming alarm first).runFrom session = (.ok (), after) ∧
      second.runFrom session = (.ok (), after)) ∨
    ∃ fault after, (alarming alarm first).runFrom session = (.error alarm, after) ∧
      second.runFrom session = (.error fault, after) := by
  have ends := watches session
  rw [alarming, runFrom_tryCatch]
  generalize first.runFrom session = one, second.runFrom session = two at ends
  cases ends with
  | alarmed fault after => exact .inr ⟨fault, after, rfl, rfl⟩
  | same outcome after holds =>
    cases outcome with
    | ok result => exact .inl ⟨after, rfl, rfl⟩
    | error fault => exact .inr ⟨fault, after, rfl, rfl⟩

/-- Only faults that end the announcement of a text of the watched cell are replaced. -/
theorem watches_announceWatched (watched : Position size) (alarm : Fault) (reactions : Nat) :
    WatchesAnnouncing watched alarm (announceWatched watched alarm reactions)
      (announce reactions) := by
  have recorded : ∀ position property, Watches watched alarm
      (record position property : Engine size Unit) (record position property) :=
    fun _ _ => .change fun session => .refl session
  induction reactions with
  | zero =>
    constructor
    · exact fun position property _ => recorded position property
    · exact fun _ => .inl ⟨_, rfl, rfl⟩
  | succ reactions hypothesis =>
    have rules := rules_watches watched alarm
    have announces : ∀ position property, Watches watched alarm
        (do
          record position property
          (← get).subscribers.forM (follow (fun operation => do
            let _ ← perform (announceWatched watched alarm reactions) operation) position property)
          : Engine size Unit)
        (announce (reactions + 1) position property) := by
      intro position property
      refine rules.bind (recorded position property) fun _ => rules.bind rules.get fun told => ?_
      refine rules.forM fun id _ => rules.follow (fun operation => ?_) position property id
      exact rules.bind (rules.perform hypothesis operation) fun _ => rules.pure ()
    constructor
    · intro position property other
      rw [announceWatched, if_neg other]
      exact announces position property
    · intro session
      rw [announceWatched, if_pos ⟨rfl, rfl⟩]
      exact exists_of_alarming (announces watched .text) session

end Engine

namespace Session

/-- An operation makes no cell overdue unless a fault cuts off an edit of the cell. -/
theorem owesNothingNew_or_cutsOff (session : Session size) (operation : Operation)
    (position : Position size) :
    session.OwesNothingNew position (session.step operation).2 ∨
      session.CutsOff operation position ∧
        ∃ fault, (session.step operation).1.answer = .error fault := by
  have ran : (Engine.run operation).runFrom session =
      (Engine.perform (Engine.announce session.reactions) operation).runFrom session :=
    Engine.runFrom_bind_of_ok session (Engine.runFrom_get session)
  have ends : ∀ alarm, Engine.EndsAlike alarm (session.OwesNothingNew position)
      ((Engine.perform (Engine.announceWatched position alarm session.reactions)
        operation).runFrom session) ((Engine.run operation).runFrom session) := by
    intro alarm
    rw [ran]
    exact (Engine.rules_watches position alarm).perform
      (Engine.watches_announceWatched position alarm session.reactions) operation session
  change session.OwesNothingNew position ((Engine.run operation).runFrom session).2 ∨
    session.CutsOff operation position ∧
      ∃ fault, ((Engine.run operation).runFrom session).1 = .error fault
  by_cases cut : session.CutsOff operation position
  · right
    refine ⟨cut, ?_⟩
    have stopped := cut (.raised "")
    have ends := ends (.raised "")
    generalize (Engine.perform _ operation).runFrom session = one,
      (Engine.run operation).runFrom session = two at ends stopped
    cases ends with
    | alarmed fault after => exact ⟨fault, rfl⟩
    | same outcome after holds => exact ⟨_, stopped⟩
  · left
    rcases not_forall.mp cut with ⟨alarm, quiet⟩
    have ends := ends alarm
    generalize (Engine.perform _ operation).runFrom session = one,
      (Engine.run operation).runFrom session = two at ends quiet
    cases ends with
    | alarmed fault after => exact absurd rfl quiet
    | same outcome after holds => exact holds

/-- A cell is overdue only after a fault has cut off an edit of it. -/
theorem exists_cutsOff_of_isOverdue {operations : List Operation} {position : Position size}
    (overdue : (((fresh size).after operations).sheet.grid.get position).IsOverdue) :
    ∃ earlier operation later fault, operations = earlier ++ operation :: later ∧
      ((fresh size).after earlier).CutsOff operation position ∧
      (((fresh size).after earlier).step operation).1.answer = .error fault ∧
      (((fresh size).after earlier).step operation).2.Leaves position
        ((fresh size).after operations) := by
  induction operations using List.reverseRecOn with
  | nil =>
    rw [after, List.foldl_nil, fresh, Grid.get_blank] at overdue
    exact absurd rfl overdue.2
  | append_singleton operations last hypothesis =>
    have concat : (fresh size).after (operations ++ [last]) =
        (((fresh size).after operations).step last).2 := List.foldl_append
    rw [concat] at overdue ⊢
    rcases ((fresh size).after operations).owesNothingNew_or_cutsOff last position with
      owes | ⟨cut, fault, answered⟩
    · have leaves := owes overdue
      rcases hypothesis (leaves.isOverdue_iff.mp overdue) with
        ⟨earlier, operation, later, fault, whole, cut, answered, left⟩
      refine ⟨earlier, operation, later ++ [last], fault, ?_, cut, answered, left.trans leaves⟩
      rw [whole, List.append_assoc, List.cons_append]
    · exact ⟨operations, last, [], fault, rfl, cut, answered, .refl _⟩

/-- After any operations on a blank sheet, with any scripts and however the operations ended,
a cell with a literal text shows it; or else a fault of a script has cut off an edit of the
cell, the operation has ended with this fault, and the cell has been left since. -/
theorem value_eq_text_or_cutsOff (size : Size) (operations : List Operation)
    (position : Position size) :
    ((((fresh size).after operations).sheet.grid.get position).isFormula = false →
      (((fresh size).after operations).sheet.grid.get position).value =
        (((fresh size).after operations).sheet.grid.get position).text) ∨
    ∃ earlier operation later fault, operations = earlier ++ operation :: later ∧
      ((fresh size).after earlier).CutsOff operation position ∧
      (((fresh size).after earlier).step operation).1.answer = .error fault ∧
      (((fresh size).after earlier).step operation).2.Leaves position
        ((fresh size).after operations) := by
  by_cases overdue : (((fresh size).after operations).sheet.grid.get position).IsOverdue
  · exact .inr (exists_cutsOff_of_isOverdue overdue)
  · left
    intro literal
    by_contra different
    exact overdue ⟨literal, different⟩

/-- A script gives up when it is told of the text, and later the text is assigned again. -/
def cutOffEdit : List Operation :=
  [.subscribe "script" [.mk (some "A1") (some "text") 1 [.giveUp "no"]],
    .assignText "A1" (.text "5"), .unsubscribe "script", .assignText "A1" (.text "5"),
    .recalculate "B1", .evaluateAll]

/-- The cell does not show its text, although all operations but the first edit have ended
well. -/
theorem value_ne_text_after_cutOffEdit :
    ((fresh .twoCells).steps cutOffEdit).map (·.answer.isOk) =
      [true, false, true, true, true, true] ∧
    (((fresh .twoCells).after cutOffEdit).sheet.grid.get
      ⟨⟨0, by decide⟩, ⟨0, by decide⟩⟩).isFormula = false ∧
    (((fresh .twoCells).after cutOffEdit).sheet.grid.get
      ⟨⟨0, by decide⟩, ⟨0, by decide⟩⟩).text = "5" ∧
    (((fresh .twoCells).after cutOffEdit).sheet.grid.get
      ⟨⟨0, by decide⟩, ⟨0, by decide⟩⟩).value = "" := by
  decide +kernel

/-- The cell being overdue, there is an edit that has been cut off. -/
theorem exists_cutsOff_after_cutOffEdit :
    ∃ earlier operation later fault, cutOffEdit = earlier ++ operation :: later ∧
      ((fresh .twoCells).after earlier).CutsOff operation ⟨⟨0, by decide⟩, ⟨0, by decide⟩⟩ ∧
      (((fresh .twoCells).after earlier).step operation).1.answer = .error fault ∧
      (((fresh .twoCells).after earlier).step operation).2.Leaves ⟨⟨0, by decide⟩, ⟨0, by decide⟩⟩
        ((fresh .twoCells).after cutOffEdit) := by
  have stale : ¬ ((((fresh .twoCells).after cutOffEdit).sheet.grid.get
      ⟨⟨0, by decide⟩, ⟨0, by decide⟩⟩).isFormula = false →
    (((fresh .twoCells).after cutOffEdit).sheet.grid.get ⟨⟨0, by decide⟩, ⟨0, by decide⟩⟩).value =
      (((fresh .twoCells).after cutOffEdit).sheet.grid.get
        ⟨⟨0, by decide⟩, ⟨0, by decide⟩⟩).text) := by decide +kernel
  exact (value_eq_text_or_cutsOff .twoCells cutOffEdit _).resolve_left stale

end Session
end Worksheet
