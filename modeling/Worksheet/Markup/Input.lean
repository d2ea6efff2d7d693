import Worksheet.Markup.Fault
import Worksheet.Markup.Severance

namespace Worksheet
namespace Markup

/-!
# Documents that are handed in

A document is handed in as a text or as bytes.  Before it is found to be readable or
not, its encoding may turn out to be at fault: a text holds surrogates, bytes are
stated to be in an encoding that is not known, or a character is severed on the way.
-/

inductive Input where
  | text (document : Text.Loose)
  | bytes (document : List UInt8)

namespace Input

/-- The surrogates in a document.  Bytes hold none. -/
def surrogates : Input → List Text.CodePoint
  | text document => document.points.filter Text.CodePoint.isSurrogate
  | bytes _ => []

/-- The encoding that bytes are stated to be in, if it is not known.  What a text says
about its encoding does not matter. -/
def unknownEncoding? : Input → Option (List Char)
  | text _ => none
  | bytes document => (statedEncoding? document).filter (!Encoding.isKnownName ·)

/-- The tree of a document, if it has characters and is readable. -/
def tree? : Input → Except Text.Surrogates (Option Node)
  | text document => document.encode.map readText
  | bytes document => .ok (readBytes document)

/-- The character that is severed while the document is read. -/
def severed? : Input → Option Severed
  | text document => document.encode.toOption.bind severedInText
  | bytes document => severedInBytes document

/-- The tree of a document, if it is readable.  Where reading broke off with a severed
character, that is the fault. -/
def read (input : Input) : Except Fault (Option Node) :=
  match input.tree?, input.unknownEncoding? with
  | .error surrogates, _ => .error (.notEncodable surrogates)
  | .ok _, some name => .error (.unknownEncoding (String.ofList name))
  | .ok (some root), none => .ok (some root)
  | .ok none, none =>
      match input.severed? with
      | some severed => .error (.notDecodable severed)
      | none => .ok none

/-- The encoding of the document is known. -/
def IsSupported (input : Input) : Prop :=
  input.unknownEncoding? = none

/-- No surrogate stands in the document, and if it is unreadable, no character was
severed. -/
structure IsCoded (input : Input) : Prop where
  encodable : input.surrogates = []
  whole : input.tree? = .ok none → input.severed? = none

variable {input : Input}

theorem exists_tree?_eq_error_iff :
    (∃ surrogates, input.tree? = .error surrogates) ↔ input.surrogates ≠ [] := by
  cases input with
  | bytes document => simp [tree?, surrogates]
  | text document =>
    rw [surrogates, ne_eq, List.filter_eq_nil_iff]
    have known := @Text.Loose.exists_encode_eq_error_iff document
    rw [tree?]
    cases encoded : document.encode with
    | error surrogates =>
      rw [encoded] at known
      simpa [Except.map] using known
    | ok chars =>
      rw [encoded] at known
      simpa [Except.map] using known

theorem IsCoded.exists_tree? (coded : input.IsCoded) : ∃ root?, input.tree? = .ok root? := by
  cases tree : input.tree? with
  | ok root? => exact ⟨root?, rfl⟩
  | error surrogates =>
    exact absurd coded.encodable (exists_tree?_eq_error_iff.mp ⟨surrogates, tree⟩)

/-- What is in order in its encoding is read as it stands. -/
theorem IsCoded.read_eq (coded : input.IsCoded) (supported : input.IsSupported)
    {root? : Option Node} (tree : input.tree? = .ok root?) : input.read = .ok root? := by
  have known : input.unknownEncoding? = none := supported
  rw [read, tree, known]
  cases root? with
  | some root => rfl
  | none =>
    dsimp only
    rw [coded.whole tree]

/-- A document of a known encoding is read unless a surrogate stands in it or a character
is severed. -/
theorem exists_read_eq_ok_iff (supported : input.IsSupported) :
    (∃ root?, input.read = .ok root?) ↔ input.IsCoded := by
  have known : input.unknownEncoding? = none := supported
  constructor
  · rintro ⟨root?, found⟩
    rw [read, known] at found
    constructor
    · apply Classical.byContradiction
      intro some_surrogate
      rcases exists_tree?_eq_error_iff.mpr some_surrogate with ⟨surrogates, tree⟩
      rw [tree] at found
      cases found
    · intro unreadable
      rw [unreadable] at found
      cases severed : input.severed? with
      | none => rfl
      | some severed =>
        rw [severed] at found
        cases found
  · intro coded
    rcases coded.exists_tree? with ⟨root?, tree⟩
    exact ⟨root?, coded.read_eq supported tree⟩

theorem exists_fault_of_not_isCoded (supported : input.IsSupported) (notCoded : ¬ input.IsCoded) :
    ∃ fault, input.read = .error fault := by
  cases read : input.read with
  | ok root? => exact absurd ((exists_read_eq_ok_iff supported).mp ⟨root?, read⟩) notCoded
  | error fault => exact ⟨fault, rfl⟩

theorem surrogates_ofString (text : String) : (Input.text text).surrogates = [] := by
  rw [surrogates, Text.Loose.ofString, List.filter_eq_nil_iff]
  intro point member
  rcases List.mem_map.mp member with ⟨char, _, same⟩
  rw [← same]
  exact Bool.false_ne_true

/-- A text of characters that is not taken for pairs of bytes is in order in its
encoding. -/
theorem isCoded_text {text : String} (plain : byteOrder? text.toList = none) :
    (Input.text text).IsCoded := by
  refine ⟨surrogates_ofString text, fun _ => ?_⟩
  rw [severed?, Text.Loose.encode_ofString]
  change severedInText text = none
  rw [severedInText, plain]

/-- Such a text is read as it stands. -/
theorem read_text {text : String} (plain : byteOrder? text.toList = none) :
    (Input.text text).read = .ok (readText text) := by
  have tree : (Input.text text).tree? = .ok (readText text) := by
    rw [tree?, Text.Loose.encode_ofString]
    rfl
  exact (isCoded_text plain).read_eq rfl tree

/-- Bytes in which no character is severed are read as they stand. -/
theorem read_bytes {document : List UInt8} (supported : (Input.bytes document).IsSupported)
    (whole : severedInBytes document = none) :
    (Input.bytes document).read = .ok (readBytes document) := by
  have coded : (Input.bytes document).IsCoded := ⟨rfl, fun _ => whole⟩
  exact coded.read_eq supported rfl

end Input
end Markup
end Worksheet
