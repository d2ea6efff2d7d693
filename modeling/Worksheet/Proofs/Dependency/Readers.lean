import Mathlib.Logic.Relation
import Worksheet.Grid.Dependency
import Worksheet.Proofs.Address.Spelling

namespace Worksheet

/-!
# Sources and dependents

Evaluation goes from a cell to the cells that its tokens resolve to; the sweep
goes from a cell to the formulas that hold its name.  The first way understands
every spelling of an address, the second only names.

The dependents of a cell are therefore exactly the formulas with a plain token
that resolves to it.  Where all tokens are plain the two ways agree.
-/

namespace Reference

/-- An equals sign in front of a text adds no token to it. -/
theorem tokensOf_cons_equals (rest : List Char) : tokensOf ('=' :: rest) = tokensOf rest := by
  have noLetter : isColumnLetter '=' = false := by decide
  simp only [tokensOf, noLetter, Bool.false_eq_true, if_false]

end Reference

namespace Cell

/-- Whether all tokens of a cell are spelled as names. -/
def isPlain (cell : Cell) : Bool :=
  cell.references.all Reference.isPlain

theorem isPlain_iff {cell : Cell} :
    cell.isPlain = true ↔ ∀ token ∈ cell.references, Reference.isPlain token = true :=
  List.all_eq_true

/-- The tokens of a formula can be looked for in the whole text. -/
theorem tokens_text_of_isFormula {cell : Cell} (formula : cell.isFormula = true) :
    Reference.tokens cell.text = cell.references := by
  rw [references, if_pos formula]
  cases chars : cell.text.toList with
  | nil => simp only [isFormula, chars, List.head?_nil, reduceCtorEq, beq_iff_eq] at formula
  | cons first rest =>
    simp only [isFormula, chars, List.head?_cons, beq_iff_eq, Option.some.injEq] at formula
    subst first
    simp only [Reference.tokens, body, chars, Reference.tokensOf_cons_equals, List.drop_one,
      List.tail_cons, String.toList_ofList]

/-! ## A formula is a matter of the text -/

variable {first second : Cell}

theorem isFormula_congr (same : first.text = second.text) : first.isFormula = second.isFormula := by
  rw [isFormula, isFormula, same]

theorem body_congr (same : first.text = second.text) : first.body = second.body := by
  rw [body, body, same]

theorem references_congr (same : first.text = second.text) :
    first.references = second.references := by
  rw [references, references, isFormula_congr same, body_congr same]

end Cell

namespace Grid

variable {size : Size} {grid : Grid size}

theorem mem_sources {reader source : Position size} :
    source ∈ grid.sources reader ↔
      ∃ token ∈ (grid.get reader).references, size.resolve? token = some source := by
  rw [sources, List.mem_filterMap]

/-- A dependent is a formula that holds the name among its tokens. -/
theorem mem_dependents_iff_name_mem {reader source : Position size} :
    reader ∈ grid.dependents source ↔ source.name ∈ (grid.get reader).references := by
  rw [mem_dependents, dependsOn, Bool.and_eq_true, Reference.mentions, List.contains_iff_mem]
  constructor
  · rintro ⟨formula, member⟩
    rwa [Cell.tokens_text_of_isFormula formula] at member
  · intro member
    cases formula : (grid.get reader).isFormula with
    | false => simp only [Cell.references, formula, Bool.false_eq_true, if_false,
        List.not_mem_nil] at member
    | true => exact ⟨rfl, by rwa [Cell.tokens_text_of_isFormula formula]⟩

/-- A dependent is a formula with a plain token that resolves to the cell. -/
theorem mem_dependents_iff_plain {reader source : Position size} :
    reader ∈ grid.dependents source ↔
      ∃ token ∈ (grid.get reader).references,
        Reference.isPlain token = true ∧ size.resolve? token = some source := by
  rw [mem_dependents_iff_name_mem]
  constructor
  · intro member
    exact ⟨source.name, member, source.address.isPlain_name, source.resolve?_name⟩
  · rintro ⟨token, member, plain, resolved⟩
    rwa [← Position.eq_name_of_resolve? plain resolved]

/-- Every dependent of a cell reads it. -/
theorem mem_sources_of_mem_dependents {reader source : Position size}
    (member : reader ∈ grid.dependents source) : source ∈ grid.sources reader := by
  rcases mem_dependents_iff_plain.mp member with ⟨token, listed, _, resolved⟩
  exact mem_sources.mpr ⟨token, listed, resolved⟩

/-- Whether all tokens in a grid are spelled as names. -/
def IsPlain (grid : Grid size) : Prop :=
  ∀ position, (grid.get position).isPlain = true

instance (grid : Grid size) : Decidable grid.IsPlain :=
  decidable_of_iff (∀ position ∈ size.positions, (grid.get position).isPlain = true)
    ⟨fun plain position => plain position (size.mem_positions position),
      fun plain position _ => plain position⟩

/-- A cell whose tokens are all plain reads exactly the cells it depends on. -/
theorem mem_sources_iff_mem_dependents {reader source : Position size}
    (plain : (grid.get reader).isPlain = true) :
    source ∈ grid.sources reader ↔ reader ∈ grid.dependents source := by
  refine ⟨fun member => ?_, mem_sources_of_mem_dependents⟩
  rcases mem_sources.mp member with ⟨token, listed, resolved⟩
  have plainToken := Cell.isPlain_iff.mp plain token listed
  exact mem_dependents_iff_plain.mpr ⟨token, listed, plainToken, resolved⟩

end Grid
end Worksheet
