import Worksheet.Grid.Evaluation
import Worksheet.Proofs.Dependency.Loop
import Worksheet.Proofs.Dependency.Readers

namespace Worksheet

open Formula

/-!
# The value that a cell is due

What a cell should show is determined by the texts of the cells it reaches and
by the values of its sources.  The texts alone decide whether the evaluation of
a formula ends with a mishap and with which one; the values only enter the
number of a formula without a mishap.

The due value is what recomputing a cell stores while no evaluation is under
way.  No claim is made here about the value that is stored.
-/

variable {size : Size}

namespace Grid

/-! ## Reading after writing, property by property -/

section Writing

variable (grid : Grid size) (written read : Position size)

theorem text_setValue (value : String) :
    ((grid.setValue written value).get read).text = (grid.get read).text := by
  rw [setValue, get_set]
  split
  · next same => rw [same]
  · rfl

theorem value_setValue_self (value : String) :
    ((grid.setValue written value).get written).value = value := by
  rw [setValue, get_set_self]

theorem get_setValue_of_ne {written read : Position size} (value : String)
    (different : written ≠ read) : (grid.setValue written value).get read = grid.get read :=
  get_set_of_ne grid _ different

/-- Storing the value that a cell has changes nothing. -/
theorem setValue_eq_self {value : String} (same : (grid.get written).value = value) :
    grid.setValue written value = grid := by
  apply ext
  intro position
  rw [setValue, get_set]
  split
  · next here =>
    subst position
    rw [← same]
  · rfl

theorem get_setText_of_ne {written read : Position size} (text : String)
    (different : written ≠ read) : (grid.setText written text).get read = grid.get read :=
  get_set_of_ne grid _ different

theorem value_setText (text : String) :
    ((grid.setText written text).get read).value = (grid.get read).value := by
  rw [setText, get_set]
  split
  · next same => rw [same]
  · rfl

theorem text_setColor (color : Color) :
    ((grid.setColor written color).get read).text = (grid.get read).text := by
  rw [setColor, get_set]
  split
  · next same => rw [same]
  · rfl

theorem value_setColor (color : Color) :
    ((grid.setColor written color).get read).value = (grid.get read).value := by
  rw [setColor, get_set]
  split
  · next same => rw [same]
  · rfl

end Writing

/-! ## The mishap that the texts dictate -/

/-- The mishap in which the evaluation of a formula ends, with its detail.  The
order of the tests is the order of the checks. -/
def mishap? (grid : Grid size) (position : Position size) : Option (Mishap × String) :=
  let body := (grid.get position).body
  if Reference.mentions body position.name then some (.selfReference, "")
  else if grid.leadsIntoLoop position then some (.circularReference, "")
  else
    match Formula.read body with
    | .error fault => some (.evaluation, fault.message)
    | .ok _ =>
        ((Reference.tokens body).find? fun token => (size.resolve? token).isNone).map
          (.invalidReference, ·)

/-- The outcome of the formula of a cell when no evaluation is under way. -/
def outcome (grid : Grid size) (position : Position size) : Outcome :=
  if Reference.mentions (grid.get position).body position.name then .failed .selfReference ""
  else grid.evaluateCell position

/-- The value that a cell should show. -/
def due (grid : Grid size) (position : Position size) : String :=
  if (grid.get position).isFormula then (grid.outcome position).display
  else (grid.get position).text

/-- Binding fails at the first token that names no cell. -/
theorem bind_eq_error_iff (grid : Grid size) {tokens : List String} {token : String} :
    grid.bind tokens = .error token ↔
      (tokens.find? fun token => (size.resolve? token).isNone) = some token := by
  induction tokens with
  | nil => simp only [bind, reduceCtorEq, List.find?_nil]
  | cons first later hypothesis =>
    cases resolved : size.resolve? first with
    | none => simp only [bind, resolved, List.find?_cons, Option.isNone_none, Except.error.injEq,
        Option.some.injEq]
    | some position =>
      simp only [bind, resolved, List.find?_cons, Option.isNone_some]
      rw [← hypothesis]
      cases grid.bind later with
      | error fault => simp only [Except.map, Except.error.injEq]
      | ok bindings => simp only [Except.map, reduceCtorEq]

/-- An outcome is the mishap that the texts dictate, or else a number. -/
theorem outcome_eq (grid : Grid size) (position : Position size) :
    (∃ mishap detail, grid.mishap? position = some (mishap, detail) ∧
      grid.outcome position = .failed mishap detail) ∨
    (grid.mishap? position = none ∧ ∃ number, grid.outcome position = .number number) := by
  cases itself : Reference.mentions (grid.get position).body position.name with
  | true =>
    left
    refine ⟨.selfReference, "", ?_, ?_⟩ <;> simp only [mishap?, outcome, itself, if_true]
  | false =>
    cases loop : grid.leadsIntoLoop position with
    | true =>
      left
      refine ⟨.circularReference, "", ?_, ?_⟩ <;>
        simp only [mishap?, outcome, evaluateCell, itself, loop, if_true, Bool.false_eq_true,
          if_false]
    | false =>
      have outcomeEq : grid.outcome position = grid.evaluateBody (grid.get position).body := by
        simp only [outcome, evaluateCell, itself, loop, Bool.false_eq_true, if_false]
      rw [outcomeEq]
      simp only [mishap?, itself, loop, Bool.false_eq_true, if_false, evaluateBody]
      cases Formula.read (grid.get position).body with
      | error fault => exact .inl ⟨.evaluation, fault.message, rfl, rfl⟩
      | ok expression =>
        cases bound : grid.bind (Reference.tokens (grid.get position).body) with
        | error token =>
          left
          rw [bind_eq_error_iff] at bound
          exact ⟨.invalidReference, token, by simp only [bound, Option.map_some], rfl⟩
        | ok bindings =>
          right
          refine ⟨?_, expression.evaluate bindings, rfl⟩
          cases missing : (Reference.tokens (grid.get position).body).find?
              fun token => (size.resolve? token).isNone with
          | none => rfl
          | some token =>
            rw [grid.bind_eq_error_iff.mpr missing] at bound
            cases bound

/-! ## What the due value depends on -/

/-- Two grids have the same text in every cell that the cell reaches. -/
def SameTextsFrom (first second : Grid size) (position : Position size) : Prop :=
  ∀ other, first.Reaches position other → (first.get other).text = (second.get other).text

variable {first second : Grid size} {position : Position size}

theorem sources_congr (same : (first.get position).text = (second.get position).text) :
    first.sources position = second.sources position := by
  rw [sources, sources, Cell.references_congr same]

namespace SameTextsFrom

theorem of_forall (same : ∀ other, (first.get other).text = (second.get other).text) :
    SameTextsFrom first second position :=
  fun other _ => same other

theorem here (agree : SameTextsFrom first second position) :
    (first.get position).text = (second.get position).text :=
  agree position .refl

theorem of_reaches {other : Position size} (agree : SameTextsFrom first second position)
    (reaches : first.Reaches position other) : SameTextsFrom first second other :=
  fun further onward => agree further (reaches.trans onward)

theorem reads_iff {source : Position size} (agree : SameTextsFrom first second position) :
    first.Reads position source ↔ second.Reads position source := by
  rw [Reads, Reads, sources_congr agree.here]

/-- The two grids agree on what is reached, since a chain of references is
followed through texts that they share. -/
theorem reaches_iff {other : Position size} (agree : SameTextsFrom first second position) :
    first.Reaches position other ↔ second.Reaches position other := by
  constructor
  · intro reaches
    induction reaches with
    | refl => exact .refl
    | tail before reads hypothesis =>
      exact hypothesis.tail ((agree.of_reaches before).reads_iff.mp reads)
  · intro reaches
    induction reaches with
    | refl => exact .refl
    | tail before reads hypothesis =>
      exact hypothesis.tail ((agree.of_reaches hypothesis).reads_iff.mpr reads)

theorem symm (agree : SameTextsFrom first second position) :
    SameTextsFrom second first position :=
  fun other reaches => (agree other (agree.reaches_iff.mpr reaches)).symm

theorem onLoop_iff (agree : SameTextsFrom first second position) :
    first.OnLoop position ↔ second.OnLoop position := by
  rw [OnLoop, OnLoop, Relation.TransGen.head'_iff, Relation.TransGen.head'_iff]
  apply exists_congr
  intro source
  constructor
  · rintro ⟨reads, back⟩
    exact ⟨agree.reads_iff.mp reads, (agree.of_reaches (.single reads)).reaches_iff.mp back⟩
  · rintro ⟨reads, back⟩
    have readsFirst := agree.reads_iff.mpr reads
    exact ⟨readsFirst, (agree.of_reaches (.single readsFirst)).reaches_iff.mpr back⟩

theorem meetsLoop_iff (agree : SameTextsFrom first second position) :
    first.MeetsLoop position ↔ second.MeetsLoop position := by
  constructor
  · rintro ⟨passed, reaches, loop⟩
    exact ⟨passed, agree.reaches_iff.mp reaches, (agree.of_reaches reaches).onLoop_iff.mp loop⟩
  · rintro ⟨passed, reaches, loop⟩
    have reachesFirst := agree.reaches_iff.mpr reaches
    exact ⟨passed, reachesFirst, (agree.of_reaches reachesFirst).onLoop_iff.mpr loop⟩

theorem leadsIntoLoop_eq (agree : SameTextsFrom first second position) :
    first.leadsIntoLoop position = second.leadsIntoLoop position := by
  rw [Bool.eq_iff_iff, leadsIntoLoop_eq_true_iff, leadsIntoLoop_eq_true_iff]
  exact agree.meetsLoop_iff

/-- The texts alone decide about mishaps. -/
theorem mishap?_eq (agree : SameTextsFrom first second position) :
    first.mishap? position = second.mishap? position := by
  rw [mishap?, mishap?, Cell.body_congr agree.here, agree.leadsIntoLoop_eq]

end SameTextsFrom

/-- Binding reads the values of the cells that the tokens resolve to. -/
theorem bind_congr {tokens : List String}
    (same : ∀ token ∈ tokens, ∀ source, size.resolve? token = some source →
      (first.get source).value = (second.get source).value) :
    first.bind tokens = second.bind tokens := by
  induction tokens with
  | nil => rfl
  | cons token later hypothesis =>
    have rest := hypothesis fun other member => same other (List.mem_cons_of_mem token member)
    cases resolved : size.resolve? token with
    | none => simp only [bind, resolved]
    | some source =>
      have value := same token List.mem_cons_self source resolved
      simp only [bind, resolved, numberAt, value, rest]

/-- The outcome of a formula depends on the texts it reaches and on the values of
its sources. -/
theorem outcome_congr (formula : (first.get position).isFormula = true)
    (agree : SameTextsFrom first second position)
    (values : ∀ source ∈ first.sources position,
      (first.get source).value = (second.get source).value) :
    first.outcome position = second.outcome position := by
  have body := Cell.body_congr agree.here
  have bound : first.bind (Reference.tokens (first.get position).body) =
      second.bind (Reference.tokens (first.get position).body) := by
    apply bind_congr
    intro token member source resolved
    apply values source
    rw [sources, Cell.references, if_pos formula]
    exact List.mem_filterMap.mpr ⟨token, member, resolved⟩
  rw [outcome, outcome, evaluateCell, evaluateCell, agree.leadsIntoLoop_eq, evaluateBody,
    evaluateBody, bound, body]

theorem due_congr (agree : SameTextsFrom first second position)
    (values : ∀ source ∈ first.sources position,
      (first.get source).value = (second.get source).value) :
    first.due position = second.due position := by
  rw [due, due, ← Cell.isFormula_congr agree.here]
  split
  · next formula => rw [outcome_congr formula agree values]
  · exact agree.here

/-- A mishap is due as soon as the texts dictate it, whatever the values. -/
theorem due_of_mishap? {grid : Grid size} {mishap : Mishap} {detail : String}
    (formula : (grid.get position).isFormula = true)
    (dictated : grid.mishap? position = some (mishap, detail)) :
    grid.due position = (Outcome.failed mishap detail).display := by
  rw [due, if_pos formula]
  rcases grid.outcome_eq position with ⟨other, text, found, ended⟩ | ⟨none, _⟩
  · rw [dictated] at found
    cases found
    rw [ended]
  · rw [dictated] at none
    cases none

end Grid
end Worksheet
