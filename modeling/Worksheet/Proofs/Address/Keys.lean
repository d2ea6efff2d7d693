import Worksheet.Archive.Record
import Worksheet.Proofs.Address.Spelling
import Worksheet.Proofs.Formula.Spelling

namespace Worksheet

open Text

/-!
# Keys of cells

A key is a text by which a cell is looked for.  Which texts are read as which address is
said here without reference to how they are read: a column letter, decimal digits of any
script that show the row, and behind them nothing or one line feed.  Every other text is
refused, by the grid and for the records of a document alike.

The name of a cell is one of its keys.  Names tell cells apart, and among the tokens of a
formula with ASCII digits and without a leading zero the keys of a cell are its name alone.
-/

namespace Address

/-- The text begins with the letter of the column, then the digits show the row counted from
one, and then comes the ending. -/
structure IsSpelledBy (address : Address) (digits ending : List Char) (text : String) : Prop where
  chars : text.toList = columnLetter address.column :: digits ++ ending
  nonempty : digits ≠ []
  decimal : ∀ char ∈ digits, isDecimalDigit char = true
  short : digits.length ≤ rowDigitLimit
  row : numeralValue digits = address.row + 1

/-- The text is a key of the address.  Nothing but one line feed may follow the digits. -/
def HasKey (address : Address) (text : String) : Prop :=
  ∃ digits, address.IsSpelledBy digits [] text ∨ address.IsSpelledBy digits ['\n'] text

/-- The parts of a text that has the shape of an address. -/
theorem parts?_append {column : Fin columnLimit} {digits ending : List Char}
    (nonempty : digits ≠ []) (decimal : ∀ char ∈ digits, isDecimalDigit char = true)
    (ends : ending = [] ∨ ending = ['\n']) :
    parts? (columnLetter column :: digits ++ ending) = some (column, digits) := by
  have noDigit : ∀ char ∈ ending.head?, isDecimalDigit char = false := by
    rcases ends with rfl | rfl
    · intro char member
      cases member
    · rintro _ ⟨⟩
      decide
  have divided := Decimal.span_append decimal noDigit
  simp only [parts?, List.cons_append, columnOfLetter?_columnLetter, divided.1, divided.2]
  exact if_pos ⟨nonempty, ends⟩

/-- A text is read as an address exactly if it is a key of the address. -/
theorem read_eq_ok_iff_hasKey {text : String} {address : Address} :
    read text = .ok address ↔ address.HasKey text := by
  constructor
  · intro found
    rw [read] at found
    split at found
    · cases found
    · next column digits parts =>
      split at found
      · cases found
      · next short =>
        split at found
        · cases found
        · next row value =>
          cases found
          obtain ⟨nonempty, decimal, bare | lineFeed⟩ := eq_of_parts?_eq_some parts
          · exact ⟨digits, .inl ⟨by rw [bare, List.append_nil], nonempty, decimal,
              Nat.not_lt.mp short, value⟩⟩
          · exact ⟨digits, .inr ⟨lineFeed, nonempty, decimal, Nat.not_lt.mp short, value⟩⟩
  · have reads : ∀ {digits ending}, (ending = [] ∨ ending = ['\n']) →
        address.IsSpelledBy digits ending text → read text = .ok address := by
      intro digits ending ends spelled
      have parts := @parts?_append address.column _ _ spelled.nonempty spelled.decimal ends
      rw [← spelled.chars] at parts
      simp only [read, parts, if_neg (Nat.not_lt.mpr spelled.short), spelled.row]
    rintro ⟨digits, bare | lineFeed⟩
    · exact reads (.inl rfl) bare
    · exact reads (.inr rfl) lineFeed

/-- There are two reasons for which a text is refused: it has no good shape, or it has more
digits than a row is read from. -/
theorem fault_of_read {text : String} {fault : Fault} (refused : read text = .error fault) :
    fault = .malformed text ∨ ∃ count, rowDigitLimit < count ∧ fault = .rowTooLong count := by
  rw [read] at refused
  split at refused
  · cases refused
    exact .inl rfl
  · next column digits parts =>
    split at refused
    · next long =>
      cases refused
      exact .inr ⟨digits.length, long, rfl⟩
    · split at refused
      · cases refused
        exact .inl rfl
      · cases refused

/-- An address whose column and row are given as integers has its name. -/
theorem nameOf_eq_name (address : Address)
    (writable : (decimalDigits (address.row + 1)).length ≤ rowDigitLimit) :
    nameOf address.row address.column.val = .ok address.name := by
  have column : column? (address.column.val : Int) = .ok address.column := by
    have bounds : 0 ≤ (address.column.val : Int) ∧ (address.column.val : Int) < columnLimit :=
      ⟨Int.natCast_nonneg _, Int.ofNat_lt.mpr address.column.isLt⟩
    rw [column?, dif_pos bounds]
    rfl
  have row : ((address.row : Int) + 1).natAbs = address.row + 1 := rfl
  simp only [nameOf, column, row]
  exact if_neg (Nat.not_lt.mpr writable)

end Address

namespace Size

variable {size : Size}

theorem resolve?_eq_some_iff {token : String} {position : Position size} :
    size.resolve? token = some position ↔ position.address.HasKey token := by
  rw [← Address.read_eq_ok_iff_hasKey, resolve?]
  constructor
  · intro resolved
    split at resolved
    · next address found => rw [found, address_of_positionOf? resolved]
    · cases resolved
  · intro found
    rw [found]
    exact position.positionOf?_address

/-- A key names a cell of the grid exactly if it is a key of the address of the cell. -/
theorem locate_eq_ok_iff_hasKey {key : String} {position : Position size} :
    size.locate key = .ok position ↔ position.address.HasKey key := by
  rw [locate_eq_ok_iff, resolve?_eq_some_iff]

/-- A token with ASCII digits and without a leading zero resolves to the cell of that name, and
to no other.  A zero alone does not count as a leading one; it names no row. -/
theorem resolve?_eq_some_iff_name {token : String} {position : Position size}
    (ascii : ∀ char ∈ token.toList.drop 1, char.isDigit = true)
    (unpadded : (token.toList.drop 1).head? = some '0' → token.toList.drop 1 = ['0']) :
    size.resolve? token = some position ↔ position.name = token := by
  constructor
  · intro resolved
    obtain ⟨digits, bare | lineFeed⟩ := resolve?_eq_some_iff.mp resolved
    · have behind : token.toList.drop 1 = digits := by
        rw [bare.chars, List.cons_append, List.append_nil, List.drop_one, List.tail_cons]
      have noZero : digits.head? ≠ some '0' := by
        intro leading
        rw [behind] at unpadded
        have row := bare.row
        rw [unpadded leading] at row
        exact absurd row.symm (Nat.succ_ne_zero _)
      have plain : Reference.isPlain token = true := by
        rw [Reference.isPlain, behind]
        exact isPlainNumeral_iff.mpr ⟨bare.nonempty, behind ▸ ascii, noZero⟩
      exact (Position.eq_name_of_resolve? plain resolved).symm
    · have last := ascii '\n' (by rw [lineFeed.chars]; simp)
      cases last
  · intro named
    rw [← named, position.resolve?_name]

end Size

namespace Archive

variable {size : Size}

/-- The record of an element is about the cell that the name of the element is a key of. -/
theorem exists_key_of_record {cell : Markup.Node} {record : Record size}
    (found : Record.ofNode size cell = .ok record) :
    ∃ name, cell.attribute? "name" = some name ∧ record.position.address.HasKey name := by
  rw [Record.ofNode] at found
  split at found
  · cases found
  · next named =>
    split at found
    · cases found
    · next position located =>
      cases colored : colorOfNode ((cell.attribute? "name").getD "") cell with
      | error fault =>
        rw [colored] at found
        cases found
      | ok color =>
        rw [colored] at found
        cases found
        cases stated : cell.attribute? "name" with
        | none =>
          rw [stated] at named
          exact absurd rfl named
        | some name =>
          rw [stated] at located
          exact ⟨name, rfl, Size.locate_eq_ok_iff_hasKey.mp located⟩

end Archive

namespace Address

/-- A text is read as an address exactly if it is one of its keys, and every other text is
refused for its shape or for its length.  The cells of a grid are found by the keys of their
addresses and by no other text, and so are the cells of the records of a document. -/
theorem keys_recognized (text : String) :
    (∀ address, read text = .ok address ↔ address.HasKey text) ∧
    ((∀ address : Address, ¬ address.HasKey text) →
      read text = .error (.malformed text) ∨
        ∃ count, rowDigitLimit < count ∧ read text = .error (.rowTooLong count)) ∧
    (∀ (size : Size) (position : Position size),
      size.locate text = .ok position ↔ position.address.HasKey text) ∧
    ∀ (size : Size) (cell : Markup.Node) (record : Archive.Record size),
      Archive.Record.ofNode size cell = .ok record →
        ∃ name, cell.attribute? "name" = some name ∧ record.position.address.HasKey name := by
  refine ⟨fun _ => read_eq_ok_iff_hasKey, fun foreign => ?_,
    fun _ _ => Size.locate_eq_ok_iff_hasKey, fun _ _ _ => Archive.exists_key_of_record⟩
  cases found : read text with
  | ok address => exact absurd (read_eq_ok_iff_hasKey.mp found) (foreign address)
  | error fault =>
    obtain rfl | ⟨count, long, rfl⟩ := fault_of_read found
    · exact .inl rfl
    · exact .inr ⟨count, long, rfl⟩

/-- A line feed behind the digits is not noticed. -/
theorem read_of_lineFeed :
    read "A1\n" = .ok ⟨⟨0, by decide⟩, 0⟩ ∧
      ∀ (address : Address) (digits : List Char), ¬ address.IsSpelledBy digits [] "A1\n" := by
  refine ⟨by decide, fun address digits spelled => ?_⟩
  have chars := spelled.chars
  rw [List.append_nil] at chars
  have behind : digits = ['1', '\n'] := (List.cons.inj chars).2.symm
  have decimal := spelled.decimal '\n' (by rw [behind]; decide)
  revert decimal
  decide

/-- The address of a cell in the last column. -/
def faraway : Address := ⟨⟨25, by decide⟩, 1099⟩

/-- A grid with all columns and more than a thousand rows. -/
def fullWidth : Size where
  rows := 1200
  columns := columnLimit
  rows_pos := by decide
  columns_pos := by decide
  columns_le := Nat.le_refl _
  rows_writable := by decide

/-- A record that names its cell with a leading zero and digits of two scripts. -/
def paddedCell : Markup.Node := .element "cell" [("name", "Z01١00")] []

/-- A blank behind a name is noticed, a leading zero is not. -/
theorem keys_recognized_of_padded :
    faraway.HasKey "Z1100" ∧ (∀ address : Address, ¬ address.HasKey "Z1100 ") ∧
      read "Z1100 " = .error (.malformed "Z1100 ") ∧
      ∃ record, Archive.Record.ofNode fullWidth paddedCell = .ok record ∧
        record.position.address.HasKey "Z01١00" := by
  have named : faraway.HasKey "Z1100" :=
    ((keys_recognized "Z1100").1 faraway).mp (by decide +kernel)
  have refused : read "Z1100 " = .error (.malformed "Z1100 ") := by decide +kernel
  have foreign : ∀ address : Address, ¬ address.HasKey "Z1100 " := by
    intro address key
    rw [← (keys_recognized "Z1100 ").1, refused] at key
    cases key
  have found : Archive.Record.ofNode fullWidth paddedCell =
      .ok ⟨⟨⟨1099, by decide⟩, ⟨25, by decide⟩⟩, Color.white, ""⟩ := by decide +kernel
  obtain malformed | ⟨count, _, long⟩ := (keys_recognized "Z1100 ").2.1 foreign
  · obtain ⟨name, stated, key⟩ := (keys_recognized "Z01١00").2.2.2 fullWidth paddedCell _ found
    cases stated
    exact ⟨named, foreign, malformed, _, found, key⟩
  · rw [refused] at long
    cases long

/-- The name of a column and a row that can be written reads back as these.  Hence the names
of a grid tell its cells apart, and every cell is found by its name, as a key and as a token.
A token with ASCII digits and without a leading zero resolves to the cell of that name, if the
grid has one, and to nothing else. -/
theorem names_faithful :
    (∀ address : Address, (decimalDigits (address.row + 1)).length ≤ rowDigitLimit →
      nameOf address.row address.column.val = .ok address.name ∧
        read address.name = .ok address) ∧
    ∀ size : Size,
      Function.Injective (Position.name : Position size → String) ∧
      (∀ position : Position size,
        nameOf position.row.val position.column.val = .ok position.name ∧
          size.locate position.name = .ok position ∧
            size.resolve? position.name = some position) ∧
      ∀ token : String, (∀ char ∈ token.toList.drop 1, char.isDigit = true) →
        ((token.toList.drop 1).head? = some '0' → token.toList.drop 1 = ['0']) →
          ∀ position : Position size,
            size.resolve? token = some position ↔ position.name = token := by
  refine ⟨fun address writable => ⟨address.nameOf_eq_name writable, address.read_name writable⟩,
    fun size => ⟨Position.name_injective, fun position => ?_, fun token ascii unpadded position =>
      size.resolve?_eq_some_iff_name ascii unpadded⟩⟩
  refine ⟨position.address.nameOf_eq_name position.row_writable, ?_, position.resolve?_name⟩
  rw [size.locate_eq_ok_iff, position.resolve?_name]

/-- The last column and a row of four digits, in a grid that has this cell. -/
theorem names_faithful_of_faraway :
    nameOf 1099 25 = .ok "Z1100" ∧ read "Z1100" = .ok faraway ∧
      "Z1100" ∈ Reference.tokens "1/AZ1100" ∧
      ∀ position : Position fullWidth,
        fullWidth.resolve? "Z1100" = some position ↔ position.name = "Z1100" := by
  have both := names_faithful.1 faraway (by decide +kernel)
  have spelled : faraway.name = "Z1100" := by decide +kernel
  rw [spelled] at both
  have ascii : ("Z1100".toList.drop 1).all Char.isDigit = true := by decide
  exact ⟨both.1, both.2, by decide +kernel,
    (names_faithful.2 fullWidth).2.2 "Z1100" (List.all_eq_true.mp ascii) (by decide)⟩

end Address
end Worksheet
