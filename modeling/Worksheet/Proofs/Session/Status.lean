import Worksheet.Proofs.Number.Displays
import Worksheet.Proofs.Session.Invariant

namespace Worksheet

open Formula Text

/-!
# The status of every cell

The texts of a grid dictate a status for every cell: a literal, one of four
mishaps, or a number.  In a session that nobody follows the stored values always
tell this status, provided that all tokens are plain.  Which number a cell shows
is not said here; it may be out of date.

That a value tells the status means that the status can be read off it.  For
this the texts of different outcomes have to differ.  A number is shown without
a blank and every mishap with one, and the mishaps begin with different words.
-/

/-! ## Numbers are shown without blanks -/

namespace Number

theorem blank_not_mem_display (number : Float) : ' ' ∉ (display number).toList :=
  fun member => Bool.false_ne_true (isBlank_of_mem_display member).symm

end Number

/-! ## Outcomes are told apart -/

namespace Formula.Outcome

/-- Every mishap is shown with a blank. -/
theorem blank_mem_display_failed (mishap : Mishap) (detail : String) :
    ' ' ∈ (failed mishap detail).display.toList := by
  cases mishap <;> simp [display, Mishap.title]

theorem display_failed_ne_display (mishap : Mishap) (detail : String) (number : Float) :
    (failed mishap detail).display ≠ Number.display number := by
  intro same
  apply Number.blank_not_mem_display number
  rw [← same]
  exact blank_mem_display_failed mishap detail

/-- The first letter tells which mishap is shown. -/
def initial : Mishap → Char
  | .selfReference => 'S'
  | .circularReference => 'C'
  | .invalidReference => 'I'
  | .evaluation => 'E'

theorem head?_display_failed (mishap : Mishap) (detail : String) :
    (failed mishap detail).display.toList.head? = some (initial mishap) := by
  cases mishap <;> simp [display, Mishap.title, initial]

/-- Different mishaps are shown differently. -/
theorem eq_of_display_failed_eq {first second : Mishap} {detail other : String}
    (same : (failed first detail).display = (failed second other).display) : first = second := by
  have initials := congrArg (·.toList.head?) same
  simp only [head?_display_failed, Option.some.injEq] at initials
  revert initials
  cases first <;> cases second <;> decide

theorem detail_eq_of_display_eq {mishap : Mishap} {detail other : String}
    (detailed : mishap = .invalidReference ∨ mishap = .evaluation)
    (same : (failed mishap detail).display = (failed mishap other).display) : detail = other := by
  rcases detailed with invalid | evaluation
  · subst mishap
    simpa [display, String.ext_iff] using same
  · subst mishap
    simpa [display, String.ext_iff] using same

end Formula.Outcome

namespace Grid

variable {size : Size} {grid : Grid size} {position : Position size}

/-- The status that the texts dictate can be told from the value of the cell. -/
structure TellsStatus (grid : Grid size) (position : Position size) : Prop where
  literal : (grid.get position).isFormula = false →
    (grid.get position).value = (grid.get position).text
  selfReference : (grid.get position).isFormula = true →
    ((grid.get position).value = "Self-reference detected" ↔
      position.name ∈ (grid.get position).references)
  circularReference : (grid.get position).isFormula = true →
    position.name ∉ (grid.get position).references →
      ((grid.get position).value = "Circular reference detected" ↔
        ∃ passed, grid.Reaches position passed ∧ grid.OnLoop passed)
  unreadable : (grid.get position).isFormula = true →
    position.name ∉ (grid.get position).references → ¬ grid.MeetsLoop position →
      ∀ message, (grid.get position).value = "Error: " ++ message ↔
        ∃ fault, Formula.read (grid.get position).body = .error fault ∧ fault.message = message
  unresolved : (grid.get position).isFormula = true →
    position.name ∉ (grid.get position).references → ¬ grid.MeetsLoop position →
      ∀ expression, Formula.read (grid.get position).body = .ok expression →
        ∀ token, (grid.get position).value = "Invalid cell reference '" ++ token ++ "'" ↔
          (grid.get position).references.find? (fun token => (size.resolve? token).isNone) =
            some token
  number : (grid.get position).isFormula = true →
    position.name ∉ (grid.get position).references → ¬ grid.MeetsLoop position →
      ∀ expression, Formula.read (grid.get position).body = .ok expression →
        (∀ token ∈ (grid.get position).references, (size.resolve? token).isSome = true) →
          ∃ number, (grid.get position).value = Number.display number

/-- The mishap that the texts dictate is told by the value. -/
theorem ShowsStatus.mishap?_of_value_eq (status : grid.ShowsStatus position)
    (formula : (grid.get position).isFormula = true) {mishap : Mishap} {detail : String}
    (shown : (grid.get position).value = (Outcome.failed mishap detail).display) :
    ∃ other, grid.mishap? position = some (mishap, other) ∧
      (Outcome.failed mishap other).display = (Outcome.failed mishap detail).display := by
  cases dictated : grid.mishap? position with
  | none =>
    rcases status.number formula dictated with ⟨number, value⟩
    rw [shown] at value
    exact absurd value (Outcome.display_failed_ne_display mishap detail number)
  | some both =>
    rcases both with ⟨first, other⟩
    have value := status.failed formula first other dictated
    rw [shown] at value
    have same := Outcome.eq_of_display_failed_eq value
    subst first
    exact ⟨other, rfl, value.symm⟩

/-! ## The grounds of a mishap -/

theorem mentions_iff (formula : (grid.get position).isFormula = true) :
    Reference.mentions (grid.get position).body position.name = true ↔
      position.name ∈ (grid.get position).references := by
  rw [Reference.mentions, List.contains_iff_mem, Cell.references, if_pos formula]

/-- Every mishap has its ground in the texts. -/
theorem ground_of_mishap? {mishap : Mishap} {detail : String}
    (formula : (grid.get position).isFormula = true)
    (dictated : grid.mishap? position = some (mishap, detail)) :
    match mishap with
    | .selfReference => position.name ∈ (grid.get position).references
    | .circularReference => grid.MeetsLoop position
    | .evaluation => ∃ fault, Formula.read (grid.get position).body = .error fault ∧
        fault.message = detail
    | .invalidReference =>
        (grid.get position).references.find? (fun token => (size.resolve? token).isNone) =
          some detail := by
  unfold mishap? at dictated
  dsimp only at dictated
  split at dictated
  · next mentioned =>
    cases dictated
    exact (mentions_iff formula).mp mentioned
  · split at dictated
    · next loop =>
      cases dictated
      exact leadsIntoLoop_eq_true_iff.mp loop
    · split at dictated
      · next fault unreadable =>
        cases dictated
        exact ⟨fault, unreadable, rfl⟩
      · rcases Option.map_eq_some_iff.mp dictated with ⟨token, found, same⟩
        cases same
        rwa [Cell.references, if_pos formula]

theorem mishap?_of_mem (formula : (grid.get position).isFormula = true)
    (itself : position.name ∈ (grid.get position).references) :
    grid.mishap? position = some (.selfReference, "") := by
  rw [mishap?]
  exact if_pos ((mentions_iff formula).mpr itself)

section Other

variable (formula : (grid.get position).isFormula = true)
  (other : position.name ∉ (grid.get position).references)

include formula other

theorem mishap?_of_meetsLoop (meets : grid.MeetsLoop position) :
    grid.mishap? position = some (.circularReference, "") := by
  rw [← mentions_iff formula] at other
  simp only [mishap?, if_neg other, leadsIntoLoop_eq_true_iff.mpr meets, if_true]

variable (noLoop : ¬ grid.MeetsLoop position)

include noLoop

theorem mishap?_of_error {fault : Formula.Fault}
    (unreadable : Formula.read (grid.get position).body = .error fault) :
    grid.mishap? position = some (.evaluation, fault.message) := by
  rw [← mentions_iff formula] at other
  rw [← leadsIntoLoop_eq_true_iff] at noLoop
  simp only [mishap?, if_neg other, if_neg noLoop, unreadable]

theorem mishap?_of_ok {expression : Expression}
    (readable : Formula.read (grid.get position).body = .ok expression) :
    grid.mishap? position =
      ((grid.get position).references.find? fun token => (size.resolve? token).isNone).map
        (.invalidReference, ·) := by
  rw [← mentions_iff formula] at other
  rw [← leadsIntoLoop_eq_true_iff] at noLoop
  simp only [mishap?, if_neg other, if_neg noLoop, readable, Cell.references, if_pos formula]

end Other

/-- A cell that shows its status tells it. -/
theorem ShowsStatus.tellsStatus (status : grid.ShowsStatus position) :
    grid.TellsStatus position where
  literal := status.literal
  selfReference := by
    intro formula
    constructor
    · intro shown
      have title : (grid.get position).value = (Outcome.failed .selfReference "").display := shown
      rcases status.mishap?_of_value_eq formula title with ⟨_, dictated, _⟩
      exact ground_of_mishap? formula dictated
    · intro itself
      exact status.failed formula _ _ (mishap?_of_mem formula itself)
  circularReference := by
    intro formula other
    constructor
    · intro shown
      have title : (grid.get position).value = (Outcome.failed .circularReference "").display :=
        shown
      rcases status.mishap?_of_value_eq formula title with ⟨_, dictated, _⟩
      exact ground_of_mishap? formula dictated
    · intro meets
      exact status.failed formula _ _ (mishap?_of_meetsLoop formula other meets)
  unreadable := by
    intro formula other noLoop message
    constructor
    · intro shown
      have title : (grid.get position).value = (Outcome.failed .evaluation message).display := shown
      rcases status.mishap?_of_value_eq formula title with ⟨detail, dictated, same⟩
      rcases ground_of_mishap? formula dictated with ⟨fault, unreadable, detailEq⟩
      exact ⟨fault, unreadable, detailEq.trans (Outcome.detail_eq_of_display_eq (.inr rfl) same)⟩
    · rintro ⟨fault, unreadable, same⟩
      subst message
      exact status.failed formula _ _ (mishap?_of_error formula other noLoop unreadable)
  unresolved := by
    intro formula other noLoop expression readable token
    constructor
    · intro shown
      have title : (grid.get position).value = (Outcome.failed .invalidReference token).display :=
        shown
      rcases status.mishap?_of_value_eq formula title with ⟨detail, dictated, same⟩
      rw [← Outcome.detail_eq_of_display_eq (.inl rfl) same]
      exact ground_of_mishap? formula dictated
    · intro found
      have dictated := mishap?_of_ok formula other noLoop readable
      rw [found] at dictated
      exact status.failed formula _ _ dictated
  number := by
    intro formula other noLoop expression readable resolved
    have dictated := mishap?_of_ok formula other noLoop readable
    have noneFound : (grid.get position).references.find?
        (fun token => (size.resolve? token).isNone) = none := by
      rw [List.find?_eq_none]
      intro token member
      rw [Option.isNone_iff_eq_none]
      exact Option.isSome_iff_ne_none.mp (resolved token member)
    rw [noneFound] at dictated
    exact status.number formula dictated

end Grid

namespace Session

/-- In a session that has come from a blank sheet without scripts and guarded
names, every cell tells its status as soon as all tokens are plain. -/
theorem tellsStatus_after_fresh (size : Size) {operations : List Operation}
    (quiet : ∀ operation ∈ operations, operation.staysQuiet = true)
    (plain : ((fresh size).after operations).sheet.grid.IsPlain) (position : Position size) :
    ((fresh size).after operations).sheet.grid.TellsStatus position := by
  have sound := (isSound_fresh size).after quiet
  exact (sound.sound.status position (plain.isPlainFrom position)).tellsStatus

/-- Two cells come to read each other while a third one reads them. -/
def closingLoop : List Operation :=
  [.assignText "C1" (.text "=A1+1"), .assignText "A1" (.text "=B1"), .assignText "B1" (.text "=A1")]

theorem tellsStatus_after_closingLoop :
    ((fresh .threeCells).after closingLoop).sheet.grid.IsPlain ∧
      ∀ position, ((fresh .threeCells).after closingLoop).sheet.grid.TellsStatus position := by
  have quiet : ∀ operation ∈ closingLoop, operation.staysQuiet = true := by decide
  have plain : ((fresh .threeCells).after closingLoop).sheet.grid.IsPlain := by decide +kernel
  exact ⟨plain, tellsStatus_after_fresh .threeCells quiet plain⟩

end Session
end Worksheet
