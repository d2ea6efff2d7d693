import Mathlib.Algebra.Group.Nat.Defs
import Worksheet.Proofs.Address.Spelling
import Worksheet.Proofs.Markup.RoundTrip
import Worksheet.Session.Restoring

namespace Worksheet

/-!
# Reading saved worksheets

The document in which a worksheet is saved is read back as the same records, on
both ways of handing it over.  Every code of a color is read as that color, every
name as its position, and every text as it was, provided that its characters are
legal and none of them is a carriage return.

Whether an element is indented and whether its texts are divided makes no
difference to the records.
-/

namespace Text

/-- The characters of hexadecimal numerals in upper case. -/
def upperDigits : List Char := "0123456789ABCDEF".toList

theorem mem_upperDigits {number : Nat} (small : number < 16) :
    (Nat.digitChar number).toUpper ∈ upperDigits := by
  have all : ∀ number : Fin 16, (Nat.digitChar number).toUpper ∈ upperDigits := by decide
  exact all ⟨number, small⟩

theorem upperHexadecimal_succ (width number : Nat) :
    upperHexadecimal (width + 1) number =
      upperHexadecimal width (number / 16) ++ [(Nat.digitChar (number % 16)).toUpper] := by
  simp only [upperHexadecimal, lowerHexadecimal, List.map_append, List.map_singleton]

theorem mem_upperDigits_of_mem_upperHexadecimal {width number : Nat} {char : Char}
    (member : char ∈ upperHexadecimal width number) : char ∈ upperDigits := by
  induction width generalizing number with
  | zero => cases member
  | succ width hypothesis =>
    rw [upperHexadecimal_succ] at member
    rcases List.mem_append.mp member with before | last
    · exact hypothesis before
    · rw [List.mem_singleton.mp last]
      exact mem_upperDigits (Nat.mod_lt _ (by decide))

end Text

namespace Archive

open Text Markup

variable {size : Size}

/-! ## Colors -/

theorem readSeparated_digit {value : Nat} (small : value < 16) (total : Nat) (afterDigit : Bool)
    (rest : List Char) :
    readSeparated total afterDigit ((Nat.digitChar value).toUpper :: rest) =
      readSeparated (16 * total + value) true rest := by
  have digit : ∀ value : Fin 16, (Nat.digitChar value).toUpper ≠ '_' ∧
      digitIn? 16 (Nat.digitChar value).toUpper = some value.val := by decide
  have here := digit ⟨value, small⟩
  rw [readSeparated, if_neg here.1, here.2]

/-- What is read of a hexadecimal numeral, whatever follows it. -/
theorem readSeparated_upperHexadecimal (width number : Nat) (rest : List Char) :
    readSeparated 0 false (upperHexadecimal (width + 1) number ++ rest) =
      readSeparated (number % 16 ^ (width + 1)) true rest := by
  induction width generalizing number rest with
  | zero =>
    rw [upperHexadecimal_succ, upperHexadecimal, lowerHexadecimal, List.map_nil, List.nil_append,
      List.singleton_append, readSeparated_digit (Nat.mod_lt _ (by decide)), Nat.mul_zero,
      Nat.zero_add, Nat.zero_add, Nat.pow_one]
  | succ width hypothesis =>
    have digits : number % 16 ^ (width + 1 + 1) =
        16 * (number / 16 % 16 ^ (width + 1)) + number % 16 := by
      rw [Nat.pow_succ', Nat.mod_mul, Nat.add_comm]
    rw [upperHexadecimal_succ, List.append_assoc, List.singleton_append, hypothesis,
      readSeparated_digit (Nat.mod_lt _ (by decide)), digits]

theorem dropMark_eq_self {chars : List Char} (unmarked : ∀ char ∈ chars, char ≠ 'x' ∧ char ≠ 'X') :
    dropMark chars = chars := by
  unfold dropMark
  split
  · next mark rest =>
    have other := unmarked mark (List.mem_cons_of_mem '0' List.mem_cons_self)
    rw [if_neg]
    rintro (same | same)
    · exact other.1 same
    · exact other.2 same
  · rfl

theorem readCode?_writeColor (color : Color) :
    readCode? (writeColor color) = some (color.val : Int) := by
  have ordinary : ∀ char ∈ upperDigits, isBlank char = false ∧ asciiDigit char = char ∧
      char ≠ '-' ∧ char ≠ '+' ∧ char ≠ 'x' ∧ char ≠ 'X' :=
    List.all_iff_forall_prop.mp (by decide)
  have members : ∀ char ∈ upperHexadecimal 8 color.val, isBlank char = false ∧
      asciiDigit char = char ∧ char ≠ '-' ∧ char ≠ '+' ∧ char ≠ 'x' ∧ char ≠ 'X' :=
    fun char member => ordinary char (mem_upperDigits_of_mem_upperHexadecimal member)
  have value : readSeparated 0 false (upperHexadecimal 8 color.val) = some color.val := by
    have read := readSeparated_upperHexadecimal 7 color.val []
    have bound : color.val < 16 ^ (7 + 1) := color.isLt
    rw [List.append_nil, Nat.mod_eq_of_lt bound] at read
    exact read
  have stripped : strip (upperHexadecimal 8 color.val) = upperHexadecimal 8 color.val :=
    strip_eq_self fun char member => (members char member).1
  have kept : (upperHexadecimal 8 color.val).map asciiDigit = upperHexadecimal 8 color.val := by
    rw [List.map_congr_left fun char member => (members char member).2.1, List.map_id']
  have unmarked : dropMark (upperHexadecimal 8 color.val) = upperHexadecimal 8 color.val :=
    dropMark_eq_self fun char member => (members char member).2.2.2.2
  have noSign : ∀ sign rest, upperHexadecimal 8 color.val = sign :: rest → sign ≠ '-' ∧ sign ≠ '+' := by
    intro sign rest begins
    have here := members sign (begins ▸ List.mem_cons_self)
    exact ⟨here.2.2.1, here.2.2.2.1⟩
  rw [readCode?, writeColor, String.toList_ofList, stripped, kept]
  split
  · next rest begins => exact absurd rfl (noSign '-' rest begins).1
  · next rest begins => exact absurd rfl (noSign '+' rest begins).2
  · rw [unmarked, value]
    rfl

/-- A color is read if its text is read as a code in range. -/
theorem readColor_eq_ok_iff {name raw : String} {color : Color} :
    readColor name raw = .ok color ↔
      ∃ code, readCode? raw = some code ∧ Color.ofInt? code = some color := by
  unfold readColor
  split
  · next unreadable =>
    simp [unreadable]
  · next code read =>
    cases found : Color.ofInt? code with
    | none => simp [read, found]
    | some other => simp [read, found]

theorem readColor_writeColor (name : String) (color : Color) :
    readColor name (writeColor color) = .ok color :=
  readColor_eq_ok_iff.mpr ⟨_, readCode?_writeColor color, Color.ofInt?_val color⟩

/-! ## Written trees are plain -/

/-- A text that is read as it was written. -/
def IsKept (text : String) : Prop :=
  ∀ char ∈ text.toList, isLegal char = true ∧ char ≠ '\r'

instance (text : String) : Decidable (IsKept text) :=
  decidable_of_iff _ List.all_iff_forall_prop

/-- A text that can be read after it was written. -/
def IsReadable (text : String) : Prop :=
  ∀ char ∈ text.toList, isLegal char = true

instance (text : String) : Decidable (IsReadable text) :=
  decidable_of_iff _ List.all_eq_true

theorem IsKept.isReadable {text : String} (kept : IsKept text) : IsReadable text :=
  fun char member => (kept char member).1

/-- A text as it is read after it was written: every line end is a line feed. -/
def withLineFeeds (text : String) : String :=
  String.ofList (normalizeLineEnds text.toList)

/-- Only a carriage return is not read as it was written. -/
theorem withLineFeeds_eq_self_iff {text : String} : withLineFeeds text = text ↔ '\r' ∉ text.toList := by
  constructor
  · intro same
    rw [← same, withLineFeeds, String.toList_ofList]
    exact not_mem_joinLineEnds false _
  · intro clean
    rw [withLineFeeds, normalizeLineEnds_eq_self clean, String.ofList_toList]

theorem IsKept.withLineFeeds_eq {text : String} (kept : IsKept text) : withLineFeeds text = text :=
  withLineFeeds_eq_self_iff.mpr fun member => (kept _ member).2 rfl

theorem isPlainInValue_of_mem_name {position : Position size} {char : Char}
    (member : char ∈ position.name.toList) : isLegal char = true ∧ isPlainInValue char = true := by
  have letters : ∀ column : Fin columnLimit, isLegal (Address.columnLetter column) = true ∧
      isPlainInValue (Address.columnLetter column) = true := by decide
  rw [Position.name, Address.name, String.toList_ofList, Address.spelling, List.mem_cons] at member
  rcases member with letter | digits
  · rw [letter]
    exact letters _
  · have digit := isDigit_of_mem_decimalDigits digits
    have bounds := toNat_of_isDigit digit
    refine ⟨isLegal_of_bounds (by omega) (by omega), ?_⟩
    rw [isPlainInValue, Bool.not_eq_true', ← Bool.not_eq_true, List.contains_iff_mem]
    intro marked
    have noDigit : ∀ mark ∈ valueMarks, mark.isDigit = false :=
      List.all_iff_forall_prop.mp (by decide)
    rw [noDigit char marked] at digit
    cases digit

theorem isKept_writeColor (color : Color) : IsKept (writeColor color) := by
  intro char member
  rw [writeColor, String.toList_ofList] at member
  have legal : ∀ char ∈ upperDigits, isLegal char = true ∧ char ≠ '\r' :=
    List.all_iff_forall_prop.mp (by decide)
  exact legal char (mem_upperDigits_of_mem_upperHexadecimal member)

/-- An element that holds nothing but a text. -/
def textNode (tag text : String) : Node :=
  .element tag [] (textContent text)

theorem isPlain_textNode {source : Source} {tag text : String}
    (simple : isSimpleName source tag.toList = true) (readable : IsReadable text) :
    (textNode tag text).IsPlain source := by
  refine ⟨simple, by simp, List.nodup_nil, ?_⟩
  unfold textContent
  split
  · trivial
  · exact ⟨readable, by rintro _ _ ⟨⟩, trivial⟩

/-- The tags and the names of attributes of a saved worksheet. -/
theorem isSimpleName_of_tags {source : Source} :
    ∀ tag ∈ ["spreadsheet", "cell", "name", "bgcolor", "text"],
      isSimpleName source tag.toList = true := by
  unfold isSimpleName isNameChar isNameStart
  cases source.isUtf8 <;> decide

theorem Record.isPlain_toNode {source : Source} {record : Record size}
    (readable : IsReadable record.text) : record.toNode.IsPlain source := by
  refine ⟨isSimpleName_of_tags "cell" (by decide), ?_, by simp, ?_⟩
  · intro entry member
    rw [List.mem_singleton.mp member]
    have unbound : "name".toList ≠ "xmlns".toList := by decide
    exact ⟨isSimpleName_of_tags "name" (by decide), unbound, fun _ => isPlainInValue_of_mem_name⟩
  · exact ⟨isPlain_textNode (isSimpleName_of_tags "bgcolor" (by decide))
        (isKept_writeColor _).isReadable,
      by rintro ⟨⟩, isPlain_textNode (isSimpleName_of_tags "text" (by decide)) readable,
      by rintro ⟨⟩, trivial⟩

theorem arePlain_toNodes {source : Source} {records : List (Record size)}
    (readable : ∀ record ∈ records, IsReadable record.text) :
    Node.ArePlain source (records.map Record.toNode) := by
  induction records with
  | nil => trivial
  | cons first later hypothesis =>
    refine ⟨Record.isPlain_toNode (readable first List.mem_cons_self), by rintro ⟨⟩, ?_⟩
    exact hypothesis fun record member => readable record (List.mem_cons_of_mem first member)

variable {grid : Grid size}

/-- A record tells what its cell holds. -/
theorem of_mem_recordsOf {record : Record size} (member : record ∈ recordsOf grid) :
    record.color = (grid.get record.position).color ∧
      record.text = (grid.get record.position).text := by
  obtain ⟨position, _, made⟩ := List.mem_filterMap.mp member
  dsimp only at made
  split at made
  · cases made
  · cases made
    exact ⟨rfl, rfl⟩

theorem isPlain_toNode {source : Source}
    (readable : ∀ position, IsReadable (grid.get position).text) :
    (toNode grid).IsPlain source := by
  refine ⟨isSimpleName_of_tags "spreadsheet" (by decide), by simp, List.nodup_nil, ?_⟩
  apply arePlain_toNodes
  intro record member
  rw [(of_mem_recordsOf member).2]
  exact readable record.position

/-! ## Records of trees -/

section Reading

variable (size)

/-- A record does not depend on how the texts of its element are divided. -/
theorem Record.ofNode_divided (node : Node) :
    Record.ofNode size node.divided = Record.ofNode size node := by
  have color : ∀ name, colorOfNode name node.divided = colorOfNode name node := by
    intro name
    rw [colorOfNode, colorOfNode, Node.children_divided]
    cases node.children "bgcolor" with
    | nil => rfl
    | cons first later => exact congrArg (readColor name) first.leadingText_divided
  have text : textOfNode node.divided = textOfNode node := by
    rw [textOfNode, textOfNode, Node.children_divided]
    cases node.children "text" with
    | nil => rfl
    | cons first later => exact first.leadingText_divided
  simp only [Record.ofNode, Node.attribute?_divided, color, text]

theorem ofNode_divided (root : Node) : ofNode size root.divided = ofNode size root := by
  have records : (Record.ofNode size ∘ Node.divided) = Record.ofNode size :=
    funext fun node => Record.ofNode_divided size node
  rw [ofNode, ofNode, Node.tag_divided, Node.children_divided, List.mapM_map, records]

end Reading

theorem leadingText_textNode (tag text : String) : (textNode tag text).leadingText = text := by
  rw [Node.leadingText, textNode, Node.content, textContent]
  split
  · next empty => rw [empty]; rfl
  · exact (congrArg String.ofList (List.append_nil _)).trans String.ofList_toList

theorem indent_textNode (level : Nat) (tag text : String) :
    (textNode tag text).indent level = textNode tag text := by
  apply Node.indent_eq_self
  rw [textNode, Node.content, textContent]
  split <;> rfl

/-- A record is read from every element with its name, its color and its text. -/
theorem Record.ofNode_eq_ok {node : Node} (record : Record size)
    (named : node.attribute? "name" = some record.position.name)
    (colored : node.children "bgcolor" = [textNode "bgcolor" (writeColor record.color)])
    (texted : node.children "text" = [textNode "text" record.text]) :
    Record.ofNode size node = .ok record := by
  have notEmpty : record.position.name ≠ "" := by
    intro same
    have letters := congrArg String.toList same
    rw [Position.name, Address.name, String.toList_ofList] at letters
    exact List.cons_ne_nil _ _ letters
  have located := size.locate_eq_ok_iff.mpr record.position.resolve?_name
  have color : colorOfNode record.position.name node = .ok record.color := by
    simp only [colorOfNode, colored, leadingText_textNode, readColor_writeColor]
  have text : textOfNode node = record.text := by
    simp only [textOfNode, texted, leadingText_textNode]
  simp only [Record.ofNode, named, Option.getD_some, if_neg notEmpty, located, color, text]
  rfl

theorem Record.ofNode_toNode (record : Record size) : Record.ofNode size record.toNode = .ok record :=
  Record.ofNode_eq_ok record rfl rfl rfl

/-- An indented record is read as well, since its texts stand in elements that
are not indented. -/
theorem Record.ofNode_indent_toNode (record : Record size) (level : Nat) :
    Record.ofNode size (record.toNode.indent level) = .ok record := by
  have children : ∀ name, (record.toNode.indent level).children name =
      (record.toNode.children name).map (Node.indent (level + 1)) :=
    fun name => Node.children_indent name rfl level
  apply Record.ofNode_eq_ok record
  · rfl
  · exact (children "bgcolor").trans (congrArg (fun node => [node]) (indent_textNode _ _ _))
  · exact (children "text").trans (congrArg (fun node => [node]) (indent_textNode _ _ _))

/-- Records that are read from elements one by one are read from all of them. -/
theorem mapM_ofNode {records : List (Record size)} {element : Record size → Node}
    (each : ∀ record, Record.ofNode size (element record) = .ok record) :
    (records.map element).mapM (Record.ofNode size) = .ok records := by
  induction records with
  | nil => rfl
  | cons first later hypothesis =>
    rw [List.map_cons, List.mapM_cons, each, hypothesis]
    rfl

/-- The tree of some records. -/
def nodeOf (records : List (Record size)) : Node :=
  .element "spreadsheet" [] (records.map Record.toNode)

section Records

variable (records : List (Record size))

theorem children_nodeOf : (nodeOf records).children "cell" = records.map Record.toNode := by
  rw [Node.children, nodeOf, Node.content, List.filter_eq_self]
  intro node member
  obtain ⟨record, _, same⟩ := List.mem_map.mp member
  rw [← same]
  rfl

theorem ofNode_nodeOf : ofNode size (nodeOf records) = .ok records := by
  rw [ofNode, children_nodeOf, mapM_ofNode Record.ofNode_toNode]
  rfl

theorem ofNode_indent_nodeOf : ofNode size ((nodeOf records).indent 0) = .ok records := by
  have noText : (nodeOf records).content.any Node.isText = false := by
    rw [← Bool.not_eq_true, List.any_eq_true]
    rintro ⟨node, member, held⟩
    obtain ⟨record, _, same⟩ := List.mem_map.mp member
    rw [← same] at held
    cases held
  have tag : ((nodeOf records).indent 0).tag = "spreadsheet" := Node.tag_indent _ 0
  rw [ofNode, if_pos tag, Node.children_indent "cell" noText, children_nodeOf, List.map_map]
  exact mapM_ofNode fun record => record.ofNode_indent_toNode 1

end Records

/-! ## Line ends of records -/

/-- A record as it is read after it was written. -/
def Record.withLineFeeds (record : Record size) : Record size :=
  { record with text := Archive.withLineFeeds record.text }

theorem withLineFeeds_eq_empty_iff {text : String} : withLineFeeds text = "" ↔ text = "" := by
  rw [withLineFeeds, ← String.toList_inj, ← String.toList_inj, String.toList_ofList]
  exact (Source.document .utf8).endLines_eq_nil_iff

section LineEnds

variable (encoding : Encoding)

theorem endLines_textNode (tag text : String) :
    (textNode tag text).endLines (.document encoding) = textNode tag (withLineFeeds text) := by
  rw [textNode, Node.endLines, textNode, textContent, textContent]
  by_cases empty : text = ""
  · rw [if_pos empty, if_pos (withLineFeeds_eq_empty_iff.mpr empty)]
    rfl
  · rw [if_neg empty, if_neg fun same => empty (withLineFeeds_eq_empty_iff.mp same)]
    rfl

theorem Record.endLines_toNode (record : Record size) :
    record.toNode.endLines (.document encoding) = record.withLineFeeds.toNode := by
  have color := endLines_textNode encoding "bgcolor" (writeColor record.color)
  rw [(isKept_writeColor record.color).withLineFeeds_eq] at color
  have text := endLines_textNode encoding "text" record.text
  rw [Record.toNode, Node.endLines, Node.endLinesAll, Node.endLinesAll, Node.endLinesAll]
  rw [textNode] at color text
  rw [color, text]
  rfl

theorem endLines_nodeOf (records : List (Record size)) :
    (nodeOf records).endLines (.document encoding) = nodeOf (records.map Record.withLineFeeds) := by
  rw [nodeOf, Node.endLines, nodeOf]
  congr 1
  induction records with
  | nil => rfl
  | cons first later hypothesis =>
    rw [List.map_cons, Node.endLinesAll, hypothesis, Record.endLines_toNode]
    rfl

end LineEnds

/-- What is handed over is read as the records of the grid, with the line ends of their
texts made line feeds. -/
theorem ofDocument_document_withLineFeeds (passage : Passage)
    (readable : ∀ position, IsReadable (grid.get position).text) :
    ofDocument size (passage.document (toNode grid)) =
      .ok ((recordsOf grid).map Record.withLineFeeds) := by
  have lineEnded : (toNode grid).endLines (.document .utf8) =
      nodeOf ((recordsOf grid).map Record.withLineFeeds) := endLines_nodeOf .utf8 (recordsOf grid)
  cases passage with
  | string =>
    rw [Passage.document, readText_toText (isPlain_toNode readable) rfl, ofDocument, ofNode_divided,
      lineEnded, ofNode_nodeOf]
  | bytes =>
    rw [Passage.document, readBytes_toFile (isPlain_toNode readable) rfl, ofDocument, ofNode_divided,
      Node.endLines_indent, lineEnded, ofNode_indent_nodeOf]

/-- Texts without carriage returns are read as the records of the grid. -/
theorem ofDocument_document (passage : Passage) (kept : ∀ position, IsKept (grid.get position).text) :
    ofDocument size (passage.document (toNode grid)) = .ok (recordsOf grid) := by
  rw [ofDocument_document_withLineFeeds passage fun position => (kept position).isReadable]
  have each : ∀ record ∈ recordsOf grid, record.withLineFeeds = record := by
    intro record member
    rw [Record.withLineFeeds, (of_mem_recordsOf member).2, (kept record.position).withLineFeeds_eq,
      ← (of_mem_recordsOf member).2]
  rw [List.map_congr_left each, List.map_id']

/-! ## Illegal characters -/

/-- An illegal character is written as it stands. -/
theorem mem_write_toNode {position : Position size} {char : Char}
    (member : char ∈ (grid.get position).text.toList) (illegal : isLegal char = false) :
    char ∈ (toNode grid).write := by
  have notEmpty : (grid.get position).text ≠ "" := by
    intro empty
    rw [empty] at member
    cases member
  have recorded : (⟨position, (grid.get position).color, (grid.get position).text⟩ : Record size) ∈
      recordsOf grid :=
    List.mem_filterMap.mpr ⟨position, size.mem_positions position, if_neg fun none => notEmpty none.1⟩
  have written : char ∈ (Node.text (grid.get position).text).write :=
    List.mem_flatMap.mpr ⟨char, member, by rw [escapeText_of_illegal illegal]; exact List.mem_cons_self⟩
  refine Node.mem_write_of_mem_content (Node.mem_writeAll (List.mem_map.mpr ⟨_, recorded, rfl⟩) ?_)
  refine Node.mem_write_of_mem_content (Node.mem_writeAll (List.mem_cons_of_mem _ List.mem_cons_self) ?_)
  refine Node.mem_write_of_mem_content (Node.mem_writeAll ?_ written)
  rw [textContent, if_neg notEmpty]
  exact List.mem_cons_self

/-- What was written with an illegal character cannot be read. -/
theorem ofDocument_document_of_illegal (passage : Passage) {position : Position size} {char : Char}
    (member : char ∈ (grid.get position).text.toList) (illegal : isLegal char = false) :
    ofDocument size (passage.document (toNode grid)) = .error .malformed := by
  have written := mem_write_toNode member illegal
  have simple : isSimpleName (.document .utf8) (toNode grid).tag.toList = true :=
    isSimpleName_of_tags "spreadsheet" (by decide)
  cases passage with
  | string =>
    rw [Passage.document, readText_toText_eq_readChars simple rfl, readChars_eq_none written illegal]
    rfl
  | bytes =>
    have indented := (Node.write_sublist_indent (toNode grid) 0).subset written
    rw [Passage.document, readBytes_toFile_eq_readChars,
      readChars_eq_none (List.mem_append_right _ indented) illegal]
    rfl

end Archive
end Worksheet
