import Worksheet.Markup.Input
import Worksheet.Proofs.Markup.Assembly

namespace Worksheet
namespace Markup

/-!
# Reading what was written

A document that was written from a plain tree is read as that tree, with its
texts divided.  This holds for both ways of writing: as a text alone, and as the
bytes of a file with a header and with every element on a line of its own.

The added lines are texts that only stand in content that held no text, so the
indented tree is plain again.  Nothing is said here about trees that were not
written; what else can be read is no matter of this module.
-/

variable {source : Source}

/-! ## What is written is legal -/

theorem isLegal_of_bounds {char : Char} (low : 0x20 ≤ char.toNat) (high : char.toNat ≤ 0xD7FF) :
    isLegal char = true := by
  simp [isLegal, low, high]

/-- The characters of names lie in the first of the large legal ranges. -/
theorem isLegal_of_isNameChar {char : Char} (inName : isNameChar source char = true) :
    isLegal char = true := by
  have within : ∀ ranges : List Text.CodeRange,
      (∀ range ∈ ranges, 0x20 ≤ range.first ∧ range.last ≤ 0xD7FF) →
        Text.CodeRange.cover ranges char.toNat = true → isLegal char = true := by
    intro ranges bounds covered
    obtain ⟨range, member, low, high⟩ := Text.CodeRange.exists_of_cover covered
    exact isLegal_of_bounds ((bounds range member).1.trans low) (high.trans (bounds range member).2)
  rw [isNameChar, isNameStart, Bool.or_eq_true, Bool.or_eq_true] at inName
  rcases inName with (start | sign) | tail
  · exact within nameStartRanges (by decide +kernel) start
  · rw [Bool.and_eq_true, List.contains_iff_mem] at sign
    have legal : signLetters.all isLegal = true := by decide
    exact List.all_eq_true.mp legal char sign.2
  · exact within nameTailRanges (by decide +kernel) tail

theorem isLegal_of_isSimpleName {name : List Char} (simple : isSimpleName source name = true) :
    ∀ char ∈ name, isLegal char = true := by
  obtain ⟨first, later, same, start, all⟩ := exists_of_isSimpleName simple
  subst name
  intro char member
  rcases List.mem_cons.mp member with here | behind
  · rw [here]
    exact isLegal_of_isNameChar (isNameChar_of_isNameStart start)
  · exact isLegal_of_isNameChar (all char behind)

theorem isLegal_of_mem_escapeText {char written : Char} (legal : isLegal char = true)
    (member : written ∈ escapeText char) : isLegal written = true := by
  unfold escapeText at member
  split at member
  · exact List.all_eq_true.mp (by decide : "&amp;".toList.all isLegal = true) written member
  · exact List.all_eq_true.mp (by decide : "&lt;".toList.all isLegal = true) written member
  · exact List.all_eq_true.mp (by decide : "&gt;".toList.all isLegal = true) written member
  · rw [List.mem_singleton.mp member]
    exact legal

theorem isLegal_of_mem_writeAttribute {entry : String × String} {written : Char}
    (plain : IsPlainAttribute source entry) (member : written ∈ writeAttribute entry) :
    isLegal written = true := by
  rw [writeAttribute, flatMap_eq_self fun char listed =>
    escapeAttribute_of_plain (plain.plain char listed).2]
    at member
  simp only [List.cons_append, List.mem_cons, List.mem_append, List.not_mem_nil, or_false]
    at member
  rcases member with same | (name | same | same | value) | same
  · exact same ▸ rfl
  · exact isLegal_of_isSimpleName plain.simple written name
  · exact same ▸ rfl
  · exact same ▸ rfl
  · exact (plain.plain written value).1
  · exact same ▸ rfl

mutual

theorem Node.isLegal_of_mem_write : ∀ (node : Node), node.IsPlain source →
    ∀ char ∈ node.write, isLegal char = true
  | .text stretch, plain, written, member => by
    obtain ⟨char, listed, escaped⟩ := List.mem_flatMap.mp member
    exact isLegal_of_mem_escapeText (plain char listed) escaped
  | .element tag attributes [], plain, written, member => by
    obtain ⟨simple, plainAttributes, _, _⟩ := plain
    simp only [Node.write, List.cons_append, List.mem_cons, List.mem_append, List.mem_flatMap,
      List.not_mem_nil, or_false] at member
    rcases member with same | (name | ⟨entry, listed, inEntry⟩) | same | same | same
    · exact same ▸ rfl
    · exact isLegal_of_isSimpleName simple written name
    · exact isLegal_of_mem_writeAttribute (plainAttributes entry listed) inEntry
    · exact same ▸ rfl
    · exact same ▸ rfl
    · exact same ▸ rfl
  | .element tag attributes (first :: later), plain, written, member => by
    obtain ⟨simple, plainAttributes, _, plainContent⟩ := plain
    simp only [Node.write, List.cons_append, List.append_assoc, List.mem_cons, List.mem_append,
      List.mem_flatMap, List.not_mem_nil, or_false] at member
    rcases member with same | name | ⟨entry, listed, inEntry⟩ | same | within | same | same |
      name | same
    · exact same ▸ rfl
    · exact isLegal_of_isSimpleName simple written name
    · exact isLegal_of_mem_writeAttribute (plainAttributes entry listed) inEntry
    · exact same ▸ rfl
    · exact Node.isLegal_of_mem_writeAll (first :: later) plainContent written within
    · exact same ▸ rfl
    · exact same ▸ rfl
    · exact isLegal_of_isSimpleName simple written name
    · exact same ▸ rfl

theorem Node.isLegal_of_mem_writeAll : ∀ (nodes : List Node), Node.ArePlain source nodes →
    ∀ char ∈ Node.writeAll nodes, isLegal char = true
  | node :: later, ⟨plain, _, plainLater⟩, written, member => by
    rcases List.mem_append.mp member with here | behind
    · exact Node.isLegal_of_mem_write node plain written here
    · exact Node.isLegal_of_mem_writeAll later plainLater written behind

end

/-! ## Indented trees -/

theorem isPlain_lineBreak (level : Nat) : (lineBreak level).IsPlain source := by
  intro char member
  rw [String.toList_ofList, List.mem_cons] at member
  rcases member with same | space
  · rw [same]
    rfl
  · rw [(List.mem_replicate.mp space).2]
    rfl

theorem Node.isText_indent (node : Node) (level : Nat) : (node.indent level).isText = node.isText := by
  cases node with
  | text stretch => rfl
  | element tag attributes content =>
    rw [Node.indent]
    split <;> rfl

theorem Node.tag_indent (node : Node) (level : Nat) : (node.indent level).tag = node.tag := by
  cases node with
  | text stretch => rfl
  | element tag attributes content =>
    rw [Node.indent]
    split <;> rfl

theorem Node.filter_indentAll (name : String) (level outer : Nat) (nodes : List Node) :
    (Node.indentAll level nodes ++ [lineBreak outer]).filter (Node.isElementWith name) =
      (nodes.filter (Node.isElementWith name)).map (Node.indent level) := by
  induction nodes with
  | nil => rfl
  | cons first later hypothesis =>
    have broken : (lineBreak level).isElementWith name = false := rfl
    have same : (first.indent level).isElementWith name = first.isElementWith name := by
      cases first with
      | text stretch => rfl
      | element tag attributes content =>
        rw [Node.indent]
        split <;> rfl
    rw [Node.indentAll, List.cons_append, List.cons_append,
      List.filter_cons_of_neg (Bool.eq_false_iff.mp broken)]
    by_cases named : first.isElementWith name = true
    · rw [List.filter_cons_of_pos named, List.filter_cons_of_pos (same.trans named), hypothesis]
      rfl
    · rw [List.filter_cons_of_neg named, List.filter_cons_of_neg (same ▸ named), hypothesis]

/-- The elements within an indented one are those that it had, indented. -/
theorem Node.children_indent {node : Node} (name : String)
    (noText : node.content.any Node.isText = false) (level : Nat) :
    (node.indent level).children name = (node.children name).map (Node.indent (level + 1)) := by
  cases node with
  | text stretch => rfl
  | element tag attributes content =>
    rw [Node.content] at noText
    rw [Node.indent, noText, Bool.false_or]
    split
    · next empty =>
      rw [List.isEmpty_iff.mp empty]
      rfl
    · exact Node.filter_indentAll name (level + 1) level content

/-- Content that holds a text or nothing is left as it is. -/
theorem Node.indent_eq_self {node : Node} (level : Nat)
    (kept : (node.content.any Node.isText || node.content.isEmpty) = true) :
    node.indent level = node := by
  cases node with
  | text stretch => rfl
  | element tag attributes content =>
    rw [Node.indent]
    exact if_pos kept

mutual

theorem Node.isPlain_indent : ∀ (node : Node), node.IsPlain source →
    ∀ level, (node.indent level).IsPlain source
  | .text _, plain, _ => plain
  | .element tag attributes content, plain, level => by
    rw [Node.indent]
    split
    · exact plain
    · next broken =>
      rw [Bool.or_eq_true, not_or, List.any_eq_true] at broken
      have elements : ∀ node ∈ content, node.isText = false := by
        intro node member
        exact Bool.eq_false_iff.mpr fun held => broken.1 ⟨node, member, held⟩
      obtain ⟨simple, plainAttributes, distinct, plainContent⟩ := plain
      exact ⟨simple, plainAttributes, distinct,
        Node.arePlain_indentAll content plainContent elements (level + 1) level⟩

/-- Every line is broken in front of an element or at the end. -/
theorem Node.arePlain_indentAll : ∀ (nodes : List Node), Node.ArePlain source nodes →
    (∀ node ∈ nodes, node.isText = false) → ∀ level outer,
      Node.ArePlain source (Node.indentAll level nodes ++ [lineBreak outer])
  | [], _, _, _, outer => ⟨isPlain_lineBreak outer, by rintro _ _ ⟨⟩, trivial⟩
  | node :: later, ⟨plain, _, plainLater⟩, elements, level, outer => by
    have element : (node.indent level).isText = false := by
      rw [Node.isText_indent]
      exact elements node List.mem_cons_self
    have onward := Node.arePlain_indentAll later plainLater
      (fun other member => elements other (List.mem_cons_of_mem node member)) level outer
    refine ⟨isPlain_lineBreak level, ?_, Node.isPlain_indent node plain level, ?_, onward⟩
    · rintro _ _ ⟨⟩
      exact element
    · intro text
      rw [element] at text
      cases text

end

/-! ## Trees with line ends made line feeds -/

theorem Node.isText_endLines (node : Node) : (node.endLines source).isText = node.isText := by
  cases node <;> rfl

mutual

theorem Node.isPlain_endLines : ∀ (node : Node), node.IsPlain source →
    (node.endLines source).IsPlain source
  | .text stretch, plain => by
    intro char member
    rw [String.toList_ofList] at member
    rcases source.mem_endLines member with within | same
    · exact plain char within
    · exact same ▸ rfl
  | .element _ _ content, ⟨simple, plainAttributes, distinct, plainContent⟩ =>
    ⟨simple, plainAttributes, distinct, Node.arePlain_endLinesAll content plainContent⟩

theorem Node.arePlain_endLinesAll : ∀ (nodes : List Node), Node.ArePlain source nodes →
    Node.ArePlain source (Node.endLinesAll source nodes)
  | [], _ => trivial
  | node :: later, ⟨plain, alone, plainLater⟩ => by
    refine ⟨Node.isPlain_endLines node plain, ?_, Node.arePlain_endLinesAll later plainLater⟩
    intro text next head
    rw [Node.isText_endLines] at text
    cases later with
    | nil => cases head
    | cons first others =>
      cases head
      rw [Node.isText_endLines]
      exact alone text first rfl

end

theorem endLines_lineBreak (level : Nat) : (lineBreak level).endLines source = lineBreak level := by
  have clean : '\r' ∉ '\n' :: List.replicate (2 * level) ' ' := by
    rw [List.mem_cons, List.mem_replicate, not_or]
    exact ⟨by decide, fun space => absurd space.2 (by decide)⟩
  rw [lineBreak, Node.endLines, String.toList_ofList, source.endLines_eq_self clean]

theorem Node.endLinesAll_append (earlier later : List Node) :
    Node.endLinesAll source (earlier ++ later) =
      Node.endLinesAll source earlier ++ Node.endLinesAll source later := by
  induction earlier with
  | nil => rfl
  | cons first others hypothesis => exact congrArg (first.endLines source :: ·) hypothesis

theorem Node.any_isText_endLinesAll (nodes : List Node) :
    (Node.endLinesAll source nodes).any Node.isText = nodes.any Node.isText := by
  induction nodes with
  | nil => rfl
  | cons first later hypothesis =>
    rw [Node.endLinesAll, List.any_cons, List.any_cons, Node.isText_endLines, hypothesis]

mutual

/-- The added lines end in line feeds already. -/
theorem Node.endLines_indent : ∀ (node : Node) (level : Nat),
    (node.indent level).endLines source = (node.endLines source).indent level
  | .text _, _ => rfl
  | .element tag attributes content, level => by
    have empty : (Node.endLinesAll source content).isEmpty = content.isEmpty := by
      cases content <;> rfl
    rw [Node.endLines, Node.indent, Node.indent, Node.any_isText_endLinesAll, empty]
    split
    · rfl
    · rw [Node.endLines, Node.endLinesAll_append, Node.endLinesAll_indentAll content (level + 1),
        Node.endLinesAll, Node.endLinesAll, endLines_lineBreak]

theorem Node.endLinesAll_indentAll : ∀ (nodes : List Node) (level : Nat),
    Node.endLinesAll source (Node.indentAll level nodes) =
      Node.indentAll level (Node.endLinesAll source nodes)
  | [], _ => rfl
  | node :: later, level => by
    rw [Node.indentAll, Node.endLinesAll, Node.endLinesAll, endLines_lineBreak,
      Node.endLines_indent node level, Node.endLinesAll_indentAll later level, Node.endLinesAll,
      Node.indentAll]

end

/-! ## Whole documents -/

theorem Node.IsPlain.simple {root : Node} (plain : root.IsPlain source)
    (element : root.isText = false) : isSimpleName source root.tag.toList = true := by
  cases root with
  | text stretch => cases element
  | element tag attributes content => exact plain.1

/-- What is written of an element begins with a bracket and a character that begins
names. -/
theorem Node.exists_of_write {root : Node} (simple : isSimpleName source root.tag.toList = true)
    (element : root.isText = false) :
    ∃ first rest, root.write = '<' :: first :: rest ∧ isNameStart source first = true := by
  cases root with
  | text stretch => cases element
  | element tag attributes content =>
    obtain ⟨first, later, same, start, _⟩ := exists_of_isSimpleName simple
    rw [Node.tag] at same
    cases content with
    | nil => exact ⟨first, _, by rw [Node.write, same]; rfl, start⟩
    | cons node others => exact ⟨first, _, by rw [Node.write, same]; rfl, start⟩

/-- A document whose header and prolog declare nothing is read as the element
behind them, with its line ends made line feeds. -/
theorem readChars_write {encoding : Encoding} {root : Node}
    (plain : root.IsPlain (.document encoding)) (element : root.isText = false)
    {chars rest : List Char} {header : Header} {marks : List Mark}
    (legal : ∀ char ∈ chars, isLegal char = true) (headed : Header.take chars = some (header, rest))
    (front : marksOfProlog (.document encoding) (rest.length + 1) rest = some (marks, root.write))
    (remarks : areRemarks marks = true) (size : Nat) :
    readChars encoding size chars = some (root.endLines (.document encoding)).divided := by
  have closed : GoesOn (.document encoding) 0 [] [] [] := ⟨rfl, rfl⟩
  have cut := Node.cutsInto_write root plain element closed _ (Nat.lt_succ_self _)
  rw [List.append_nil, List.append_nil] at cut
  have undeclared : readProlog (.document encoding) (Declarations.none size header.standsAlone)
      marks = some (Declarations.none size header.standsAlone) := by
    have nothing : (marks.dropWhile fun mark => mark == .space || mark == .remark) = [] := by
      rw [List.dropWhile_eq_nil_iff]
      exact List.all_eq_true.mp remarks
    rw [readProlog, nothing]
  have tree : ∀ declarations : Declarations, declarations.attributes = [] →
      assemble declarations [] ((root.endLines (.document encoding)).tokens expandedTokens) =
        some (root.endLines (.document encoding)).divided := by
    intro declarations none
    cases root with
    | text stretch => cases element
    | element tag attributes content =>
      exact assemble_root none (Node.isPlain_endLines (.element tag attributes content) plain)
  have tolerable : ∀ tokens chars, isTolerable encoding
      (Declarations.none size header.standsAlone) tokens chars = true := fun _ _ => rfl
  have epilog : isEpilog (.document encoding) (([] : List Char).length + 1) [] = true := rfl
  rw [readChars, if_pos (List.all_eq_true.mpr legal)]
  simp only [headed, front, undeclared, cut, epilog, tolerable, Option.bind_eq_bind,
    Option.bind_some, Bool.and_true, if_true, expandContent_tokens,
    tree (Declarations.none size header.standsAlone) rfl]

section Element

variable {root : Node} (simple : isSimpleName source root.tag.toList = true)
  (element : root.isText = false)
include simple element

/-- An element ends the prolog in front of it. -/
theorem marksOfProlog_write (steps : Nat) :
    marksOfProlog source (steps + 1) root.write = some ([], root.write) := by
  obtain ⟨first, rest, begins, start⟩ := Node.exists_of_write simple element
  rw [marksOfProlog, if_pos]
  rw [begins]
  exact start

/-- An element is not taken for a header. -/
theorem take_write : Header.take root.write = some (.absent, root.write) := by
  obtain ⟨first, rest, begins, start⟩ := Node.exists_of_write simple element
  have notMark : ('?' == first) = false := by
    rw [beq_eq_false_iff_ne]
    rintro rfl
    exact not_mem_nameStops (isNameChar_of_isNameStart start) (by decide)
  have otherwise : dropWord "<?xml".toList root.write = none := by
    rw [begins, dropWord, if_neg]
    simp [List.isPrefixOf, notMark]
  rw [Header.take, otherwise]

/-- An element does not begin with the marks of an encoding. -/
theorem byteOrder?_write : byteOrder? root.write = none := by
  obtain ⟨first, rest, begins, start⟩ := Node.exists_of_write simple element
  have notZero : first ≠ '\x00' := by
    rintro rfl
    cases isLegal_of_isNameChar (isNameChar_of_isNameStart start)
  rw [begins]
  unfold byteOrder?
  split
  · next same => cases same
  · next same =>
    simp only [List.cons.injEq] at same
    exact absurd same.2.1 notZero
  · rfl

theorem dropByteOrderMark_write : dropByteOrderMark root.write = root.write := by
  obtain ⟨first, rest, begins, _⟩ := Node.exists_of_write simple element
  rw [begins]
  rfl

theorem byteOrder?_toText : byteOrder? root.toText.toList = none := by
  have chars : root.toText.toList = root.write := String.toList_ofList
  exact chars ▸ byteOrder?_write simple element

/-- A written element is read from its characters. -/
theorem readText_toText_eq_readChars :
    readText root.toText = readChars .utf8 (bytesOfText root.toText).length root.write := by
  have chars : root.toText.toList = root.write := String.toList_ofList
  rw [readText_eq_readChars (byteOrder?_toText simple element), chars,
    dropByteOrderMark_write simple element]

end Element

/-- A plain element that was written as a text is read from it. -/
theorem readText_toText {root : Node} (plain : root.IsPlain (.document .utf8))
    (element : root.isText = false) :
    readText root.toText = some (root.endLines (.document .utf8)).divided := by
  have simple := plain.simple element
  rw [readText_toText_eq_readChars simple element]
  exact readChars_write plain element (Node.isLegal_of_mem_write root plain)
    (take_write simple element) (marksOfProlog_write simple element _) rfl _

/-! ## Files -/

theorem bytesOfText_append (first second : String) :
    bytesOfText (first ++ second) = bytesOfText first ++ bytesOfText second := by
  simp only [bytesOfText, String.toByteArray_append, ByteArray.data_append, Array.toList_append]

/-- The line with which every file begins. -/
def headerLine : String := "<?xml version='1.0' encoding='utf-8'?>\n"

/-- The header of every file states its encoding. -/
def fileHeader : Header := ⟨some "utf-8".toList, false⟩

theorem take_headerLine (chars : List Char) :
    Header.take (headerLine.toList ++ chars) = some (fileHeader, '\n' :: chars) := rfl

section HeaderLine

variable (text : String)

/-- No byte order mark stands before the first line of a file. -/
theorem layoutOf_headerLine :
    layoutOf (bytesOfText (headerLine ++ text)) = (none, bytesOfText (headerLine ++ text)) := by
  have front : bytesOfText headerLine =
      0x3C :: 0x3F :: (bytesOfText headerLine).drop 2 := by decide +kernel
  rw [bytesOfText_append, front]
  rfl

theorem take_ofLatin_headerLine :
    Header.take (Encoding.ofLatin (bytesOfText (headerLine ++ text))) =
      some (fileHeader, '\n' :: Encoding.ofLatin (bytesOfText text)) := by
  have latin : Encoding.ofLatin (bytesOfText headerLine) = headerLine.toList := by decide +kernel
  rw [bytesOfText_append, Encoding.ofLatin, List.map_append, ← Encoding.ofLatin, latin]
  exact take_headerLine _

/-- The bytes of a file are read as they stand, in the encoding that its header
states. -/
theorem readBytes_headerLine :
    readBytes (bytesOfText (headerLine ++ text)) =
      readChars .utf8 (bytesOfText (headerLine ++ text)).length (headerLine ++ text).toList := by
  have stated : Encoding.ofName? "utf-8".toList = some .utf8 := by decide
  rw [readBytes, layoutOf_headerLine]
  dsimp only
  rw [readNarrow, take_ofLatin_headerLine]
  simp only [fileHeader, Option.bind_eq_bind, Option.bind_some, stated, decode_bytesOfText]

theorem isSupported_headerLine : (Input.bytes (bytesOfText (headerLine ++ text))).IsSupported := by
  have stated : statedEncoding? (bytesOfText (headerLine ++ text)) = some "utf-8".toList := by
    rw [statedEncoding?, layoutOf_headerLine]
    dsimp only
    rw [take_ofLatin_headerLine]
    rfl
  rw [Input.IsSupported, Input.unknownEncoding?, stated]
  decide

/-- A file is in UTF-8, so nothing is severed in it. -/
theorem severedInBytes_headerLine :
    severedInBytes (bytesOfText (headerLine ++ text)) = none := by
  rw [severedInBytes, layoutOf_headerLine]
  dsimp only
  rw [take_ofLatin_headerLine]
  rfl

end HeaderLine

/-- A file is read from its bytes as they stand. -/
theorem read_toFile (root : Node) :
    (Input.bytes (bytesOfText root.toFile)).read = .ok (readBytes (bytesOfText root.toFile)) := by
  have file : root.toFile = headerLine ++ String.ofList (root.indent 0).write := rfl
  rw [file]
  exact Input.read_bytes (isSupported_headerLine _) (severedInBytes_headerLine _)

/-- A file is read from the characters of its first line and of the indented tree. -/
theorem readBytes_toFile_eq_readChars (root : Node) :
    readBytes (bytesOfText root.toFile) = readChars .utf8 (bytesOfText root.toFile).length
      (headerLine.toList ++ (root.indent 0).write) := by
  have file : root.toFile = headerLine ++ String.ofList (root.indent 0).write := rfl
  rw [file, readBytes_headerLine, String.toList_append, String.toList_ofList]

/-- A plain element that was written as a file is read from its bytes with the
lines that were added. -/
theorem readBytes_toFile {root : Node} (plain : root.IsPlain (.document .utf8))
    (element : root.isText = false) :
    readBytes (bytesOfText root.toFile) =
      some ((root.indent 0).endLines (.document .utf8)).divided := by
  have plainLines := Node.isPlain_indent root plain 0
  have elementLines : (root.indent 0).isText = false := by
    rw [Node.isText_indent, element]
  have legalLine : ∀ char ∈ headerLine.toList, isLegal char = true :=
    List.all_eq_true.mp (by decide)
  have legal : ∀ char ∈ headerLine.toList ++ (root.indent 0).write, isLegal char = true := by
    intro char member
    rcases List.mem_append.mp member with line | tree
    · exact legalLine char line
    · exact Node.isLegal_of_mem_write _ plainLines char tree
  have prolog : marksOfProlog (.document .utf8) (('\n' :: (root.indent 0).write).length + 1)
      ('\n' :: (root.indent 0).write) = some ([.space], (root.indent 0).write) := by
    have broken : takeMark (.document .utf8) ('\n' :: (root.indent 0).write) =
        some (.space, (root.indent 0).write) := by
      obtain ⟨first, rest, begins, _⟩ :=
        Node.exists_of_write (plainLines.simple elementLines) elementLines
      rw [begins]
      rfl
    have notYet : beginsElement (.document .utf8) ('\n' :: (root.indent 0).write) = false := rfl
    have onward : marksOfProlog (.document .utf8) ('\n' :: (root.indent 0).write).length
        (root.indent 0).write = some ([], (root.indent 0).write) :=
      marksOfProlog_write (plainLines.simple elementLines) elementLines _
    rw [marksOfProlog, if_neg (Bool.eq_false_iff.mp notYet), broken]
    simp only [Option.bind_eq_bind, Option.bind_some, onward]
    rfl
  rw [readBytes_toFile_eq_readChars]
  exact readChars_write plainLines elementLines legal (take_headerLine _) prolog rfl _

/-! ## Illegal characters -/

theorem escapeText_of_illegal {char : Char} (illegal : isLegal char = false) :
    escapeText char = [char] := by
  apply escapeText_of_plain
  rw [← Option.not_isSome_iff_eq_none]
  intro marked
  unfold referenceName? at marked
  split at marked <;> first | cases illegal | cases marked

theorem Node.mem_writeAll {nodes : List Node} {node : Node} (listed : node ∈ nodes) {char : Char}
    (member : char ∈ node.write) : char ∈ Node.writeAll nodes := by
  induction nodes with
  | nil => cases listed
  | cons first later hypothesis =>
    rw [Node.writeAll, List.mem_append]
    rcases List.mem_cons.mp listed with same | behind
    · exact .inl (same ▸ member)
    · exact .inr (hypothesis behind)

theorem Node.mem_write_of_mem_content {tag : String} {attributes : List (String × String)}
    {content : List Node} {char : Char} (member : char ∈ Node.writeAll content) :
    char ∈ (Node.element tag attributes content).write := by
  cases content with
  | nil => cases member
  | cons first later =>
    simp only [Node.write, List.cons_append, List.append_assoc, List.mem_cons, List.mem_append]
    exact .inr (.inr (.inr (.inr (.inl member))))

theorem Node.writeAll_append (earlier later : List Node) :
    Node.writeAll (earlier ++ later) = Node.writeAll earlier ++ Node.writeAll later := by
  induction earlier with
  | nil => rfl
  | cons first others hypothesis =>
    rw [List.cons_append, Node.writeAll, Node.writeAll, hypothesis, List.append_assoc]

mutual

/-- Indenting only adds characters. -/
theorem Node.write_sublist_indent : ∀ (node : Node) (level : Nat),
    node.write.Sublist (node.indent level).write
  | .text _, _ => .refl _
  | .element tag attributes [], level => .refl _
  | .element tag attributes (first :: later), level => by
    have within : (Node.writeAll (first :: later)).Sublist (Node.writeAll
        (Node.indentAll (level + 1) (first :: later) ++ [lineBreak level])) := by
      rw [Node.writeAll_append]
      exact (Node.writeAll_sublist_indentAll (first :: later) (level + 1)).trans
        (List.sublist_append_left _ _)
    rw [Node.indent]
    split
    · exact .refl _
    · rw [Node.indentAll, List.cons_append] at within ⊢
      rw [Node.write, Node.write]
      exact (((List.Sublist.refl _).append (within.cons_cons '>')).append (.refl _)).append (.refl _)

theorem Node.writeAll_sublist_indentAll : ∀ (nodes : List Node) (level : Nat),
    (Node.writeAll nodes).Sublist (Node.writeAll (Node.indentAll level nodes))
  | [], _ => .refl _
  | node :: later, level => by
    have here := Node.write_sublist_indent node level
    have behind := Node.writeAll_sublist_indentAll later level
    rw [Node.indentAll, Node.writeAll, Node.writeAll, Node.writeAll]
    exact (here.append behind).trans (List.sublist_append_right _ _)

end

/-- A document with an illegal character cannot be read. -/
theorem readChars_eq_none {encoding : Encoding} {size : Nat} {chars : List Char} {char : Char}
    (member : char ∈ chars) (illegal : isLegal char = false) :
    readChars encoding size chars = none := by
  rw [readChars, if_neg]
  rw [List.all_eq_true]
  intro legal
  rw [legal char member] at illegal
  cases illegal

end Markup
end Worksheet
