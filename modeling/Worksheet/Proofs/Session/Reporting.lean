import Worksheet.Proofs.Occurrence
import Worksheet.Proofs.Session.Invariant

namespace Worksheet

/-!
# Reports of edits

An edit is reported as the cells whose values differ from those at the beginning of
its recalculation.  Scripts may edit, undo and load in the middle of it, and every
such edit has a recalculation of its own, with its own log.  That log is merged into
the log outside when the inner recalculation ends.

The report is nevertheless that of the whole edit.  Whatever is done from one moment
to another, some cells are recomputed in between, one turn after the other, and a log
that is kept all the time gains exactly the entries that it would have gained if it
had seen each turn itself, with the values of the first of the two moments.  Only the
first turn of a cell counts.  Values change in a turn only.
-/

variable {size : Size}

/-! ## Turns and logs -/

/-- What a log notes about a cell that has not been touched before. -/
def Grid.entryOf (grid : Grid size) (position : Position size) : Position size × String :=
  (position, (grid.get position).value)

namespace ChangeLog

variable {log inner : ChangeLog size} {position : Position size} {value : String}

theorem touch_of_mem (touched : position ∈ log.map Prod.fst) : log.touch position value = log := by
  obtain ⟨entry, member, same⟩ := List.mem_map.mp touched
  rw [touch, if_pos]
  exact List.any_eq_true.mpr ⟨entry, member, beq_iff_eq.mpr same⟩

theorem touch_of_not_mem (untouched : position ∉ log.map Prod.fst) :
    log.touch position value = log ++ [(position, value)] := by
  rw [touch, if_neg]
  rw [List.any_eq_true]
  rintro ⟨entry, member, same⟩
  exact untouched (List.mem_map.mpr ⟨entry, member, beq_iff_eq.mp same⟩)

theorem mem_touch {other : Position size} :
    other ∈ (log.touch position value).map Prod.fst ↔ other ∈ log.map Prod.fst ∨ other = position := by
  by_cases touched : position ∈ log.map Prod.fst
  · rw [touch_of_mem touched]
    exact ⟨.inl, fun either => either.elim id fun same => same ▸ touched⟩
  · rw [touch_of_not_mem touched, List.map_append, List.mem_append, List.map_singleton,
      List.mem_singleton]

theorem merge_append (log first second : ChangeLog size) :
    log.merge (first ++ second) = (log.merge first).merge second :=
  List.foldl_append

theorem merge_concat (log inner : ChangeLog size) (entry : Position size × String) :
    log.merge (inner ++ [entry]) = (log.merge inner).touch entry.1 entry.2 :=
  merge_append log inner [entry]

theorem mem_merge : position ∈ (log.merge inner).map Prod.fst ↔
    position ∈ log.map Prod.fst ∨ position ∈ inner.map Prod.fst := by
  induction inner using List.reverseRecOn with
  | nil => simp [merge]
  | append_singleton inner entry hypothesis =>
    rw [merge_concat, mem_touch, hypothesis, List.map_append, List.mem_append, List.map_singleton,
      List.mem_singleton, or_assoc]

/-- It makes no difference whether turns are noted one by one or by the way of a log
of their own. -/
theorem merge_merge (log inner : ChangeLog size) : log.merge (merge [] inner) = log.merge inner := by
  induction inner using List.reverseRecOn with
  | nil => rfl
  | append_singleton inner entry hypothesis =>
    rw [merge_concat, merge_concat]
    by_cases touched : entry.1 ∈ (merge [] inner).map Prod.fst
    · rw [touch_of_mem touched, hypothesis, touch_of_mem]
      rw [mem_merge] at touched ⊢
      exact .inr (touched.resolve_left List.not_mem_nil)
    · rw [touch_of_not_mem touched, merge_concat, hypothesis]

/-- The values that cells have later are of no account for those in the log. -/
theorem merge_map_congr {former latter : Grid size} {turns : List (Position size)}
    (same : ∀ position, position ∉ log.map Prod.fst →
      (latter.get position).value = (former.get position).value) :
    log.merge (turns.map latter.entryOf) = log.merge (turns.map former.entryOf) := by
  induction turns using List.reverseRecOn with
  | nil => rfl
  | append_singleton turns position hypothesis =>
    rw [List.map_append, List.map_append, List.map_singleton, List.map_singleton, merge_concat,
      merge_concat, hypothesis]
    by_cases touched : position ∈ (log.merge (turns.map former.entryOf)).map Prod.fst
    · exact (touch_of_mem touched).trans (touch_of_mem touched).symm
    · rw [Grid.entryOf, Grid.entryOf, same position fun member => touched (mem_merge.mpr (.inl member))]

/-- An empty log notes every cell at its first turn. -/
theorem merge_nil (grid : Grid size) (turns : List (Position size)) :
    merge [] (turns.map grid.entryOf) = turns.eraseDups.map grid.entryOf := by
  induction turns using List.reverseRecOn with
  | nil => rfl
  | append_singleton turns position hypothesis =>
    have cells : position ∈ (turns.eraseDups.map grid.entryOf).map Prod.fst ↔ position ∈ turns := by
      rw [List.map_map, ← List.mem_eraseDups (l := turns)]
      exact iff_of_eq (congrArg (position ∈ ·) (List.map_id' turns.eraseDups))
    rw [List.map_append, List.map_singleton, merge_concat, hypothesis, eraseDups_concat]
    split
    · next member => exact touch_of_mem (cells.mpr member)
    · next new =>
      rw [List.map_append, List.map_singleton]
      exact touch_of_not_mem fun touched => new (cells.mp touched)

end ChangeLog

/-! ## From one moment to another -/

/-- From one session to a later one the given cells have been recomputed, in this
order. -/
structure Session.Proceeds (earlier : Session size) (turns : List (Position size))
    (later : Session size) : Prop where
  ledger : later.ledger = turns.reverse ++ earlier.ledger
  log : later.sheet.log =
    earlier.sheet.log.map fun log => log.merge (turns.map earlier.sheet.grid.entryOf)
  values : ∀ position, position ∉ turns →
    (later.sheet.grid.get position).value = (earlier.sheet.grid.get position).value

namespace Session.Proceeds

variable {earlier middle later : Session size} {turns others : List (Position size)}

theorem refl (session : Session size) : session.Proceeds [] session where
  ledger := rfl
  log := Option.map_id'.symm
  values _ _ := rfl

theorem trans (first : earlier.Proceeds turns middle) (second : middle.Proceeds others later) :
    earlier.Proceeds (turns ++ others) later where
  ledger := by
    rw [second.ledger, first.ledger, List.reverse_append, List.append_assoc]
  log := by
    rw [second.log, first.log, Option.map_map]
    congr 1
    funext log
    rw [Function.comp_apply, List.map_append, ChangeLog.merge_append]
    apply ChangeLog.merge_map_congr
    intro position untouched
    refine first.values position fun member => untouched (ChangeLog.mem_merge.mpr (.inr ?_))
    exact List.mem_map.mpr ⟨_, List.mem_map.mpr ⟨position, member, rfl⟩, rfl⟩
  values position untouched := by
    rw [List.mem_append, not_or] at untouched
    rw [second.values position untouched.2, first.values position untouched.1]

/-- Nothing is recomputed while values, logs and the ledger stay as they are. -/
theorem aside (values : ∀ position,
      (later.sheet.grid.get position).value = (earlier.sheet.grid.get position).value)
    (log : later.sheet.log = earlier.sheet.log) (ledger : later.ledger = earlier.ledger) :
    earlier.Proceeds [] later where
  ledger := ledger
  log := log.trans Option.map_id'.symm
  values position _ := values position

/-- One turn of a cell, which may give it another value. -/
theorem turn (session : Session size) {position : Position size} {grid : Grid size}
    (values : ∀ other, other ≠ position →
      (grid.get other).value = (session.sheet.grid.get other).value) :
    session.Proceeds [position] ((session.touched position).withGrid grid) where
  ledger := rfl
  log := rfl
  values other untouched := values other fun same => untouched (List.mem_singleton.mpr same)

end Session.Proceeds

namespace Engine

variable {α β : Type}

/-- If the step ends well, some cells have been recomputed in it. -/
def Proceeds ⦃α : Type⦄ (step : Engine size α) : Prop :=
  ∀ session result later, step.runFrom session = (.ok result, later) →
    ∃ turns, session.Proceeds turns later

/-- Whatever follows an announcement, some cells have been recomputed. -/
def ProceedsAnnouncing (announce : Announcement size) : Prop :=
  ∀ position property, Proceeds (announce position property)

theorem Proceeds.pure (result : α) : Proceeds (Pure.pure result : Engine size α) := by
  intro session _ later ran
  cases ran
  exact ⟨[], .refl session⟩

theorem Proceeds.bind {step : Engine size α} {next : α → Engine size β} (first : Proceeds step)
    (onward : ∀ result, Proceeds (next result)) : Proceeds (step >>= next) := by
  intro session _ later ran
  obtain ⟨result, between, begun, ended⟩ := exists_of_runFrom_bind_eq_ok session ran
  obtain ⟨turns, before⟩ := first session result between begun
  obtain ⟨others, behind⟩ := onward result between _ later ended
  exact ⟨turns ++ others, before.trans behind⟩

theorem sequencing_proceeds (size : Size) :
    Sequencing fun _ (step _ : Engine size _) => Proceeds step where
  pure result := .pure result
  throw fault session _ later ran := by cases ran
  get session _ later ran := by
    cases ran
    exact ⟨[], .refl session⟩
  bind first onward := .bind first onward
  aside standing session _ later ran := by
    cases ran
    refine ⟨[], .aside (fun position => ?_) (standing.log session) (standing.ledger session)⟩
    rw [standing.grid]

/-- However the step ends, it leaves the cells and what is noted about them. -/
def LeavesCells ⦃α : Type⦄ (step : Engine size α) : Prop :=
  ∀ before : Session size, Keeps (fun session => session.sheet.grid = before.sheet.grid ∧
    session.sheet.log = before.sheet.log ∧ session.ledger = before.ledger) step

theorem sequencing_leavesCells (size : Size) :
    Sequencing fun _ (step _ : Engine size _) => LeavesCells step where
  pure result _ := Keeps.pure result
  throw fault _ := Keeps.throw fault
  get _ := Keeps.get
  bind first onward before := Keeps.bind (first before) fun result => onward result before
  aside standing _ := Keeps.change fun session same =>
    ⟨(standing.grid session).trans same.1, (standing.log session).trans same.2.1,
      (standing.ledger session).trans same.2.2⟩

theorem LeavesCells.map {step : Engine size α} (leaves : LeavesCells step) (change : α → β) :
    LeavesCells (change <$> step) := by
  intro before
  rw [← bind_pure_comp]
  exact Keeps.bind (leaves before) fun _ => Keeps.pure _

variable {announce : Announcement size} (announces : ProceedsAnnouncing announce)
include announces

/-! ## The steps that write cells -/

theorem proceeds_storeValue {session later : Session size} {position : Position size}
    {value : String} {result : Unit}
    (ran : (storeValue announce position value).runFrom (session.touched position) =
      (.ok result, later)) :
    ∃ turns, session.Proceeds turns later := by
  rw [storeValue, runFrom_bind_of_ok _ (runFrom_cellAt _ position)] at ran
  split at ran
  · cases ran
    exact ⟨[position], .turn session fun _ _ => rfl⟩
  · obtain ⟨_, between, written, announced⟩ := exists_of_runFrom_bind_eq_ok _ ran
    cases written
    obtain ⟨turns, behind⟩ := announces position .value _ _ later announced
    refine ⟨[position] ++ turns, .trans (.turn session fun other different => ?_) behind⟩
    rw [Grid.get_setValue_of_ne _ _ (Ne.symm different)]
    rfl

theorem proceeds_updateValue (position : Position size) :
    Proceeds (updateValue announce position) := by
  intro session result later ran
  have finish : ∀ {computing : Engine size String}, LeavesCells computing →
      (do
        let value ← computing
        touch position (session.sheet.grid.get position).value
        storeValue announce position value
        pure value : Engine size String).runFrom session = (.ok result, later) →
      ∃ turns, session.Proceeds turns later := by
    intro computing leaves ran
    obtain ⟨value, between, computed, ran⟩ := exists_of_runFrom_bind_eq_ok _ ran
    obtain ⟨grid, log, ledger⟩ : between.sheet.grid = session.sheet.grid ∧
        between.sheet.log = session.sheet.log ∧ between.ledger = session.ledger := by
      have left := leaves session session ⟨rfl, rfl, rfl⟩
      rwa [computed] at left
    have begun : session.Proceeds [] between := .aside (fun _ => by rw [grid]) log ledger
    rw [← grid] at ran
    obtain ⟨_, _, touched, ran⟩ := exists_of_runFrom_bind_eq_ok _ ran
    cases touched
    obtain ⟨_, _, stored, ended⟩ := exists_of_runFrom_bind_eq_ok _ ran
    cases ended
    obtain ⟨turns, behind⟩ := proceeds_storeValue announces stored
    exact ⟨turns, begun.trans behind⟩
  have rules := sequencing_leavesCells size
  rw [updateValue, runFrom_bind_of_ok _ (runFrom_cellAt _ position)] at ran
  dsimp only at ran
  split at ran
  · exact finish (LeavesCells.map (rules.evaluateFormula position) _) ran
  · exact finish (rules.pure _) ran

omit announces in
/-- A recalculation that ends well has gone through its cell and the sweep from it
with a log of its own. -/
theorem exists_of_runFrom_recalculate {position : Position size} {session later : Session size}
    {report : Recalculation size}
    (ran : (recalculate announce position).runFrom session = (.ok report, later)) :
    ∃ value between recomputed ended,
      (updateValue announce position).runFrom (session.withLog (some [])) = (.ok value, between) ∧
      (updateDependents announce position).runFrom between = (.ok recomputed, ended) ∧
      later = ended.withLog
        (session.sheet.log.map fun log => log.merge (ended.sheet.log.getD [])) ∧
      report = ⟨position, deltas ended.sheet.grid (ended.sheet.log.getD []), recomputed.length⟩ := by
  obtain ⟨_, _, read, ran⟩ := exists_of_runFrom_bind_eq_ok _ ran
  cases read
  obtain ⟨_, _, opened, ran⟩ := exists_of_runFrom_bind_eq_ok _ ran
  cases opened
  obtain ⟨⟨recomputed, inner⟩, closed, enclosed, ran⟩ := exists_of_runFrom_bind_eq_ok _ ran
  obtain ⟨ended, body, closing⟩ := exists_of_runFrom_withCleanUp_eq_ok _ enclosed
  subst closing
  obtain ⟨_, _, merged, ran⟩ := exists_of_runFrom_bind_eq_ok _ ran
  cases merged
  cases ran
  obtain ⟨value, between, updated, body⟩ := exists_of_runFrom_bind_eq_ok _ body
  obtain ⟨_, _, swept, body⟩ := exists_of_runFrom_bind_eq_ok _ body
  cases body
  exact ⟨value, between, recomputed, ended, updated, swept, rfl, rfl⟩

/-- A recalculation notes in the log around it what it has noted in its own, and it
reports the latter. -/
theorem proceeds_of_runFrom_recalculate {position : Position size} {session later : Session size}
    {report : Recalculation size} (sweeps : Proceeds (updateDependents announce position))
    (ran : (recalculate announce position).runFrom session = (.ok report, later)) :
    ∃ turns, session.Proceeds turns later ∧ report.position = position ∧
      report.deltas = deltas later.sheet.grid (turns.eraseDups.map session.sheet.grid.entryOf) := by
  obtain ⟨value, between, recomputed, ended, updated, swept, rfl, rfl⟩ :=
    exists_of_runFrom_recalculate ran
  obtain ⟨first, before⟩ := proceeds_updateValue announces position _ _ _ updated
  obtain ⟨others, behind⟩ := sweeps _ _ _ swept
  have whole := before.trans behind
  have inner : ended.sheet.log.getD [] =
      ChangeLog.merge [] ((first ++ others).map session.sheet.grid.entryOf) := by
    rw [whole.log]
    rfl
  refine ⟨first ++ others, ⟨whole.ledger, ?_, whole.values⟩, rfl, ?_⟩
  · simp only [inner, ChangeLog.merge_merge]
    rfl
  · rw [← ChangeLog.merge_nil, ← inner]
    rfl

theorem proceeds_recalculate (position : Position size)
    (sweeps : Proceeds (updateDependents announce position)) :
    Proceeds (recalculate announce position) := by
  intro session report later ran
  obtain ⟨turns, proceeds, _⟩ := proceeds_of_runFrom_recalculate announces sweeps ran
  exact ⟨turns, proceeds⟩

theorem proceeds_assignText (position : Position size) (text : String)
    (recalculates : Proceeds (recalculate announce position)) :
    Proceeds (assignText announce position text) := by
  have rules := sequencing_proceeds size
  intro session _ later ran
  rw [assignText, runFrom_bind_of_ok _ (runFrom_cellAt _ position)] at ran
  split at ran
  · cases ran
    exact ⟨[], .refl session⟩
  · obtain ⟨_, between, written, ran⟩ := exists_of_runFrom_bind_eq_ok _ ran
    cases written
    have begun : session.Proceeds []
        (session.withGrid (session.sheet.grid.setText position text)) :=
      .aside (fun other => Grid.value_setText _ position other text) rfl rfl
    have onward : Proceeds (do
        announce position .text
        let report ← recalculate announce position
        modifySheet fun sheet =>
          { sheet with report := some report, reports := sheet.reports + 1 }) :=
      .bind (announces position .text) fun _ => .bind recalculates fun report =>
        rules.modifySheet (fun _ => rfl) fun _ => rfl
    obtain ⟨turns, behind⟩ := onward _ _ later ran
    exact ⟨turns, begun.trans behind⟩

theorem proceeds_assignColor (position : Position size) (color : Color) :
    Proceeds (assignColor announce position color) := by
  intro session _ later ran
  rw [assignColor, runFrom_bind_of_ok _ (runFrom_cellAt _ position)] at ran
  split at ran
  · cases ran
    exact ⟨[], .refl session⟩
  · obtain ⟨_, between, written, announced⟩ := exists_of_runFrom_bind_eq_ok _ ran
    cases written
    have begun : session.Proceeds []
        (session.withGrid (session.sheet.grid.setColor position color)) :=
      .aside (fun other => Grid.value_setColor _ position other color) rfl rfl
    obtain ⟨turns, behind⟩ := announces position .color _ _ later announced
    exact ⟨turns, begun.trans behind⟩

omit announces in
theorem rules_proceeds (size : Size) :
    Rules (fun _ (step _ : Engine size _) => Proceeds step)
      fun announce _ => ProceedsAnnouncing announce :=
  { sequencing_proceeds size with
    updateValue := proceeds_updateValue
    recalculate := proceeds_recalculate
    assignText := proceeds_assignText
    assignColor := proceeds_assignColor }

omit announces in
/-- Whatever scripts do when they are told of a change, they only have cells
recomputed. -/
theorem proceeds_announce (reactions : Nat) :
    ProceedsAnnouncing (Engine.announce reactions : Announcement size) := by
  apply (rules_proceeds size).announce
  intro position property session _ later ran
  cases ran
  exact ⟨[], .aside (fun _ => rfl) rfl rfl⟩

/-! ## Reports -/

omit announces in
/-- What a log of some cells amounts to. -/
theorem deltas_map_entryOf (started finished : Grid size) (cells : List (Position size)) :
    deltas finished (cells.map started.entryOf) =
      (cells.filter fun position =>
        (started.get position).value ≠ (finished.get position).value).map fun position =>
          ⟨position, (started.get position).value, (finished.get position).value,
            (finished.get position).text⟩ := by
  induction cells with
  | nil => rfl
  | cons first later hypothesis =>
    rw [deltas] at hypothesis
    rw [deltas, List.map_cons, List.filterMap_cons, hypothesis, List.filter_cons]
    by_cases same : (started.get first).value = (finished.get first).value
    · simp [Grid.entryOf, same]
    · simp [Grid.entryOf, same]

end Engine

/-- The report tells exactly which values differ between two sessions, what they were
and what they are, in the order of the first turns. -/
structure Recalculation.Tells (report : Recalculation size) (started finished : Session size)
    (turns : List (Position size)) : Prop where
  named : ∀ position, position ∈ report.deltas.map Delta.position ↔
    (started.sheet.grid.get position).value ≠ (finished.sheet.grid.get position).value
  once : (report.deltas.map Delta.position).Nodup
  ordered : (report.deltas.map Delta.position).Sublist turns.eraseDups
  told : ∀ delta ∈ report.deltas,
    delta.former = (started.sheet.grid.get delta.position).value ∧
      delta.latter = (finished.sheet.grid.get delta.position).value ∧
      delta.text = (finished.sheet.grid.get delta.position).text

/-- The log of all turns tells everything. -/
theorem Session.Proceeds.tells {started finished : Session size} {turns : List (Position size)}
    (proceeds : started.Proceeds turns finished) {report : Recalculation size}
    (deltas : report.deltas = Engine.deltas finished.sheet.grid
      (turns.eraseDups.map started.sheet.grid.entryOf)) :
    report.Tells started finished turns := by
  rw [Engine.deltas_map_entryOf] at deltas
  have positions : report.deltas.map Delta.position = turns.eraseDups.filter fun position =>
      (started.sheet.grid.get position).value ≠ (finished.sheet.grid.get position).value := by
    rw [deltas, List.map_map]
    exact List.map_id' _
  refine ⟨fun position => ?_, ?_, ?_, fun delta member => ?_⟩
  · rw [positions, List.mem_filter, List.mem_eraseDups, decide_eq_true_iff]
    refine ⟨And.right, fun differs => ⟨?_, differs⟩⟩
    by_contra untouched
    exact differs (proceeds.values position untouched).symm
  · rw [positions]
    exact (keepsFirst_eraseDups turns).nodup.filter _
  · rw [positions]
    exact List.filter_sublist
  · rw [deltas] at member
    obtain ⟨position, _, rfl⟩ := List.mem_map.mp member
    exact ⟨rfl, rfl, rfl⟩

namespace Engine

/-- Let another text be assigned to a cell, whatever scripts follow the changes, and
let this end well.  The recalculation begins when the new text has been announced.
Its report is the last one in the end, and it tells exactly which values differ from
those at the beginning of the recalculation, however often scripts have edited cells
in between.  The ledger tells the turns since then. -/
theorem tells_of_assignText (reactions : Nat) {session after : Session size}
    {position : Position size} {text : String}
    (changing : text ≠ (session.sheet.grid.get position).text)
    (completed : (assignText (announce reactions) position text).runFrom session =
      (.ok (), after)) :
    ∃ started finished report turns,
      (announce reactions position .text).runFrom
        (session.withGrid (session.sheet.grid.setText position text)) = (.ok (), started) ∧
      (recalculate (announce reactions) position).runFrom started = (.ok report, finished) ∧
      after = finished.withReport report ∧ after.sheet.report = some report ∧
      report.position = position ∧ after.ledger = turns.reverse ++ started.ledger ∧
      report.Tells started after turns := by
  rw [assignText, runFrom_bind_of_ok _ (runFrom_cellAt _ position), if_neg changing] at completed
  obtain ⟨_, _, written, ran⟩ := exists_of_runFrom_bind_eq_ok _ completed
  cases written
  obtain ⟨_, started, announced, ran⟩ := exists_of_runFrom_bind_eq_ok _ ran
  obtain ⟨report, finished, recalculated, ran⟩ := exists_of_runFrom_bind_eq_ok _ ran
  cases ran
  let heard : Announcement size := announce reactions
  have announces : ProceedsAnnouncing heard := proceeds_announce reactions
  have sweeps : Proceeds (updateDependents heard position) :=
    @Rules.updateDependents _ _ _ heard heard (rules_proceeds size) announces position
  obtain ⟨turns, proceeds, named, deltas⟩ :=
    proceeds_of_runFrom_recalculate announces sweeps recalculated
  have told := proceeds.tells deltas
  exact ⟨started, finished, report, turns, announced, recalculated, rfl, rfl, named,
    proceeds.ledger, told.named, told.once, told.ordered, told.told⟩

/-- The second cell reads the first one.  When its value changes, a script assigns
another text to the first one. -/
def changeOfInput : Session .twoCells :=
  (Session.fresh .twoCells).after
    [.assignText "A1" (.text "1"), .assignText "B1" (.text "=A1"),
      .subscribe "script" [.mk (some "B1") (some "value") 1 [.assignText "A1" (.text "5")]]]

theorem tells_of_assignText_of_changeOfInput :
    "2" ≠ (changeOfInput.sheet.grid.get ⟨⟨0, by decide⟩, ⟨0, by decide⟩⟩).text ∧
    ∃ after,
      (assignText (announce changeOfInput.reactions) ⟨⟨0, by decide⟩, ⟨0, by decide⟩⟩ "2").runFrom
        changeOfInput = (.ok (), after) ∧
      ∃ started report turns, after.sheet.report = some report ∧
        after.ledger = turns.reverse ++ started.ledger ∧ report.Tells started after turns ∧
        report.deltas.map Delta.latter = ["5", "5"] := by
  have changing : "2" ≠ (changeOfInput.sheet.grid.get ⟨⟨0, by decide⟩, ⟨0, by decide⟩⟩).text := by
    decide +kernel
  have ended : ((assignText (announce changeOfInput.reactions) ⟨⟨0, by decide⟩, ⟨0, by decide⟩⟩
      "2").runFrom changeOfInput).1 = .ok () := by decide +kernel
  have reported : ((assignText (announce changeOfInput.reactions) ⟨⟨0, by decide⟩, ⟨0, by decide⟩⟩
      "2").runFrom changeOfInput).2.sheet.report.map (·.deltas.map Delta.latter) =
        some ["5", "5"] := by decide +kernel
  generalize completed : (assignText (announce changeOfInput.reactions)
    ⟨⟨0, by decide⟩, ⟨0, by decide⟩⟩ "2").runFrom changeOfInput = outcome at ended reported
  obtain ⟨result, after⟩ := outcome
  cases ended
  obtain ⟨started, _, report, turns, _, _, _, last, _, ledger, told⟩ :=
    tells_of_assignText changeOfInput.reactions changing completed
  rw [last] at reported
  exact ⟨changing, after, rfl, started, report, turns, last, ledger, told,
    Option.some.inj reported⟩

end Engine
end Worksheet
