import Worksheet.Proofs.Formula.Tokens
import Worksheet.Proofs.Number.Seen
import Worksheet.Proofs.Session.Status

namespace Worksheet

open Formula Text

/-!
# What a dependent sees

A cell hands its outcome on as the text that it shows, and a formula that names the cell reads
this text again.  Of a number nothing is lost but the sign of a zero, and a mishap counts as
zero, whatever its detail is: its title is no word for a number, and no number begins like it.
-/

namespace Formula.Outcome

/-- The number that is seen where an outcome is shown. -/
def seen : Outcome → Float
  | .number value => Number.seen value
  | _ => 0.0

/-- A mishap is shown by its title and what follows it. -/
theorem exists_display_failed (mishap : Mishap) (detail : String) :
    ∃ behind, (failed mishap detail).display.toList = mishap.title.toList ++ behind := by
  cases mishap with
  | selfReference => exact ⟨[], (List.append_nil _).symm⟩
  | circularReference => exact ⟨[], (List.append_nil _).symm⟩
  | invalidReference =>
    exact ⟨" '".toList ++ (detail.toList ++ "'".toList), by
      simp only [display, String.toList_append, List.append_assoc]⟩
  | evaluation =>
    exact ⟨": ".toList ++ detail.toList, by
      simp only [display, String.toList_append, List.append_assoc]⟩

/-- A text that begins with the title of a mishap is no number. -/
theorem ofValue_title (mishap : Mishap) (value : String) (rest : List Char)
    (begins : strip value.toList = mishap.title.toList ++ rest) : Number.ofValue value = 0.0 := by
  have noWord : Number.ofWord? (mishap.title.toList ++ rest) = none := by
    cases mishap <;> rfl
  have noDecimal : Decimal.read? true (mishap.title.toList ++ rest) = none := by
    cases mishap <;> rfl
  rw [Number.ofValue, begins, noWord, noDecimal]

/-- The title of a mishap has no blank at its ends, so it is not stripped. -/
theorem exists_strip_display_failed (mishap : Mishap) (detail : String) :
    ∃ rest, strip (failed mishap detail).display.toList = mishap.title.toList ++ rest := by
  obtain ⟨behind, shown⟩ := exists_display_failed mishap detail
  have ends : mishap.title.toList ≠ [] ∧
      mishap.title.toList.head?.any isBlank = false ∧
      mishap.title.toList.getLast?.any isBlank = false := by
    cases mishap <;> decide
  rw [shown]
  exact exists_strip_append ends.1 ends.2.1 ends.2.2 behind

/-- What an outcome shows reads as the number that is seen. -/
theorem ofValue_display (outcome : Outcome) : Number.ofValue outcome.display = outcome.seen := by
  cases outcome with
  | nothing =>
    rw [display, Number.ofValue_display]
    decide +kernel
  | number value => exact Number.ofValue_display value
  | failed mishap detail =>
    obtain ⟨rest, begins⟩ := exists_strip_display_failed mishap detail
    exact ofValue_title mishap _ rest begins

end Formula.Outcome

namespace Grid

variable {size : Size} {grid : Grid size} {position : Position size} {outcome : Outcome}

/-- A cell that shows an outcome counts as the number that is seen. -/
theorem numberAt_of_display (shown : (grid.get position).value = outcome.display) :
    grid.numberAt position = outcome.seen := by
  rw [numberAt, shown, Outcome.ofValue_display]

/-- A formula that names the cell computes with the number that is seen. -/
theorem value_of_display (shown : (grid.get position).value = outcome.display)
    {tokens : List String} {bindings : Bindings} (bound : grid.bind tokens = .ok bindings)
    {token : String} (member : token ∈ tokens) (named : size.resolve? token = some position) :
    bindings.value token = outcome.seen := by
  obtain ⟨other, resolved, valued⟩ := exists_of_bind bound member
  rw [named, Option.some.injEq] at resolved
  rw [valued, ← resolved, numberAt_of_display shown]

/-- What is shown of a number reads as this number, unless it is the negative zero, which
reads as zero; what is shown of a mishap reads as zero, with any detail.  Therefore only the
two zeros show the same, and where a cell shows an outcome, a formula that names the cell
computes with the number that is seen of this outcome. -/
theorem displays_read_back :
    (∀ number : Float, number ≠ -0.0 → Number.ofValue (Number.display number) = number) ∧
    Number.ofValue (Number.display (-0.0)) = 0.0 ∧
    (∀ mishap detail, Number.ofValue (Outcome.failed mishap detail).display = 0.0) ∧
    (∀ first second : Float, Number.display first = Number.display second →
      first = second ∨ (first ∈ [0.0, -0.0] ∧ second ∈ [0.0, -0.0])) ∧
    ∀ (size : Size) (grid : Grid size) (position : Position size) (outcome : Outcome),
      (grid.get position).value = outcome.display →
        grid.numberAt position = outcome.seen ∧
          ∀ tokens bindings token, grid.bind tokens = .ok bindings → token ∈ tokens →
            size.resolve? token = some position → bindings.value token = outcome.seen := by
  refine ⟨fun number other => ?_, ?_, fun mishap detail => Outcome.ofValue_display _,
    fun first second same => ?_, fun size grid position outcome shown => ?_⟩
  · rw [Number.ofValue_display, Number.seen, if_neg other]
  · rw [Number.ofValue_display, Number.seen, if_pos rfl]
  · exact Number.eq_or_zeros_of_seen_eq (Number.display_eq_display_iff.mp same)
  · exact ⟨numberAt_of_display shown, fun tokens bindings token bound member named =>
      value_of_display shown bound member named⟩

/-- The first of two cells shows the least positive number. -/
def showingLeast : Grid .twoCells :=
  (blank .twoCells).setValue ⟨⟨0, by decide⟩, ⟨0, by decide⟩⟩ "5e-324"

theorem displays_read_back_of_showingLeast :
    (5e-324 : Float) ≠ -0.0 ∧ Number.display 5e-324 = "5e-324" ∧
      Number.ofValue "5e-324" = 5e-324 ∧
      Number.display 0.0 = Number.display (-0.0) ∧
      ((0.0 : Float) = -0.0 ∨ ((0.0 : Float) ∈ [0.0, -0.0] ∧ (-0.0 : Float) ∈ [0.0, -0.0])) ∧
      Size.twoCells.resolve? "A1" = some ⟨⟨0, by decide⟩, ⟨0, by decide⟩⟩ ∧
      showingLeast.bind ["A1"] = .ok [("A1", 5e-324)] ∧
      Bindings.value [("A1", 5e-324)] "A1" = (Outcome.number 5e-324).seen := by
  have other : (5e-324 : Float) ≠ -0.0 := by decide +kernel
  have displayed : Number.display 5e-324 = "5e-324" := by decide +kernel
  have zeros : Number.display 0.0 = Number.display (-0.0) := by decide +kernel
  have named : Size.twoCells.resolve? "A1" = some ⟨⟨0, by decide⟩, ⟨0, by decide⟩⟩ := by
    decide +kernel
  have bound : showingLeast.bind ["A1"] = .ok [("A1", 5e-324)] := by decide +kernel
  obtain ⟨reads, _, _, apart, sees⟩ := displays_read_back
  have read := reads 5e-324 other
  rw [displayed] at read
  have shown : (showingLeast.get ⟨⟨0, by decide⟩, ⟨0, by decide⟩⟩).value =
      (Outcome.number 5e-324).display := by
    decide +kernel
  have valued := (sees _ showingLeast _ (.number 5e-324) shown).2 ["A1"] _ "A1" bound
    List.mem_cons_self named
  exact ⟨other, displayed, read, zeros, apart 0.0 (-0.0) zeros, named, bound, valued⟩

end Grid
end Worksheet
