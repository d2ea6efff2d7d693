import Worksheet.Proofs.Archive.RoundTrip

namespace Worksheet
namespace Archive

/-!
# Documents that are accepted

A document is accepted as a whole or not at all.  What is asked of it is said
here without the order in which it is examined: the root has its tag, and every
record among its elements, wherever it stands, names a cell of the grid and has a
color in range, if it has one.

The examination finds records exactly for these documents; every other document
ends in a fault.  Other elements, further colors of a record and texts of any kind
are not looked at.
-/

variable {size : Size}

/-- The element names a cell of the grid, and its first color is a code in
range. -/
structure IsInOrder (size : Size) (cell : Markup.Node) : Prop where
  named : ∃ name, cell.attribute? "name" = some name ∧ (size.resolve? name).isSome = true
  colored : ∀ first ∈ (cell.children "bgcolor").head?,
    ∃ code, readCode? first.leadingText = some code ∧ 0 ≤ code ∧ code ≤ 0xFFFFFFFF

/-- The root is that of a saved worksheet, and every record in it is in order. -/
structure IsAcceptable (size : Size) (root : Markup.Node) : Prop where
  tagged : root.tag = "spreadsheet"
  ordered : ∀ cell ∈ root.children "cell", IsInOrder size cell

/-- A list is examined with success exactly if every element is. -/
theorem exists_mapM_eq_ok_iff {ε α β : Type} {examine : α → Except ε β} {elements : List α} :
    (∃ results, elements.mapM examine = .ok results) ↔
      ∀ element ∈ elements, ∃ result, examine element = .ok result := by
  induction elements with
  | nil => exact ⟨fun _ _ member => (nomatch member), fun _ => ⟨[], rfl⟩⟩
  | cons first later hypothesis =>
    rw [List.forall_mem_cons, ← hypothesis, List.mapM_cons]
    constructor
    · rintro ⟨results, examined⟩
      cases here : examine first with
      | error fault =>
        rw [here] at examined
        cases examined
      | ok result =>
        refine ⟨⟨result, rfl⟩, ?_⟩
        cases behind : later.mapM examine with
        | error fault =>
          rw [here, behind] at examined
          cases examined
        | ok results => exact ⟨results, rfl⟩
    · rintro ⟨⟨result, here⟩, results, behind⟩
      rw [here, behind]
      exact ⟨result :: results, rfl⟩

theorem exists_colorOfNode_iff {name : String} {cell : Markup.Node} :
    (∃ color, colorOfNode name cell = .ok color) ↔
      ∀ first ∈ (cell.children "bgcolor").head?,
        ∃ code, readCode? first.leadingText = some code ∧ 0 ≤ code ∧ code ≤ 0xFFFFFFFF := by
  rw [colorOfNode]
  cases cell.children "bgcolor" with
  | nil => exact ⟨fun _ _ member => absurd member (Option.not_mem_none _), fun _ => ⟨_, rfl⟩⟩
  | cons first later =>
    simp only [readColor_eq_ok_iff, List.head?_cons, Option.mem_some_iff, forall_eq',
      ← Color.exists_ofInt?_iff]
    constructor
    · rintro ⟨color, code, read, found⟩
      exact ⟨code, read, color, found⟩
    · rintro ⟨code, read, color, found⟩
      exact ⟨color, code, read, found⟩

theorem resolve?_empty : size.resolve? "" = none := rfl

/-- A record is found in an element exactly if that is in order. -/
theorem exists_record_iff {cell : Markup.Node} :
    (∃ record, Record.ofNode size cell = .ok record) ↔ IsInOrder size cell := by
  -- A missing name is treated like an empty one, which resolves to nothing.
  have named : (∃ name, cell.attribute? "name" = some name ∧ (size.resolve? name).isSome = true) ↔
      (size.resolve? ((cell.attribute? "name").getD "")).isSome = true := by
    cases cell.attribute? "name" with
    | none => simp [resolve?_empty]
    | some name => simp
  generalize stated : (cell.attribute? "name").getD "" = name at named
  have inOrder : IsInOrder size cell ↔
      (size.resolve? name).isSome = true ∧ ∃ color, colorOfNode name cell = .ok color := by
    rw [exists_colorOfNode_iff, ← named]
    exact ⟨fun order => ⟨order.named, order.colored⟩, fun ⟨named, colored⟩ => ⟨named, colored⟩⟩
  rw [inOrder, Record.ofNode, stated]
  by_cases empty : name = ""
  · simp [empty, resolve?_empty]
  · rw [if_neg empty]
    cases located : size.locate name with
    | error fault =>
      have unresolved : size.resolve? name = none := by
        rw [← Option.not_isSome_iff_eq_none, Option.isSome_iff_exists]
        rintro ⟨position, resolved⟩
        rw [← size.locate_eq_ok_iff, located] at resolved
        cases resolved
      simp [unresolved]
    | ok position =>
      rw [size.locate_eq_ok_iff] at located
      cases colored : colorOfNode name cell with
      | error fault =>
        constructor
        · rintro ⟨record, found⟩
          cases found
        · rintro ⟨_, color, found⟩
          cases found
      | ok color =>
        refine ⟨fun _ => ⟨by rw [located]; rfl, color, rfl⟩, fun _ => ⟨_, rfl⟩⟩

/-- The records of a tree are found exactly if it is acceptable. -/
theorem exists_records_iff {root : Markup.Node} :
    (∃ records, ofNode size root = .ok records) ↔ IsAcceptable size root := by
  rw [ofNode]
  split
  · next tagged =>
    rw [exists_mapM_eq_ok_iff]
    simp only [exists_record_iff]
    exact ⟨fun ordered => ⟨tagged, ordered⟩, fun acceptable => acceptable.ordered⟩
  · next other =>
    constructor
    · rintro ⟨records, found⟩
      cases found
    · exact fun acceptable => absurd acceptable.tagged other

/-- The tree of a document was read, and it is acceptable. -/
def AcceptsDocument (size : Size) (document : Option Markup.Node) : Prop :=
  ∃ root, document = some root ∧ IsAcceptable size root

theorem exists_ofDocument_iff {document : Option Markup.Node} :
    (∃ records, ofDocument size document = .ok records) ↔ AcceptsDocument size document := by
  cases document with
  | none =>
    constructor
    · rintro ⟨records, found⟩
      cases found
    · rintro ⟨root, same, _⟩
      cases same
  | some root =>
    rw [ofDocument, exists_records_iff]
    constructor
    · exact fun acceptable => ⟨root, rfl, acceptable⟩
    · rintro ⟨other, same, acceptable⟩
      cases same
      exact acceptable

/-- The document can be read, and its tree is acceptable. -/
def Accepts (size : Size) (input : Markup.Input) : Prop :=
  ∃ document, input.read = .ok document ∧ AcceptsDocument size document

/-- What was read is accepted exactly if its tree is. -/
theorem accepts_iff {input : Markup.Input} {document : Option Markup.Node}
    (read : input.read = .ok document) : Accepts size input ↔ AcceptsDocument size document := by
  constructor
  · rintro ⟨other, readToo, accepted⟩
    rw [read] at readToo
    cases readToo
    exact accepted
  · exact fun accepted => ⟨document, read, accepted⟩

/-- What ends with a fault of encoding is not accepted. -/
theorem not_accepts_of_fault {input : Markup.Input} {fault : Markup.Fault}
    (read : input.read = .error fault) : ¬ Accepts size input := by
  rintro ⟨document, readToo, _⟩
  rw [read] at readToo
  cases readToo

end Archive
end Worksheet
