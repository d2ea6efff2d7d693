import Mathlib.Data.List.Basic
import Mathlib.Data.List.Induction
import Mathlib.Data.List.TakeWhile
import Worksheet.Grid.Size
import Worksheet.Reference

namespace Worksheet

/-!
# Plain spellings of addresses

Many texts name one cell: the row may be spelled with leading zeros or with the
digits of another script.  Only one of them is the name of the cell, the one
whose digits are ASCII digits without a leading zero.  It is called plain here.

Two facts are established.  The name of a position resolves to that position,
and a plain token that resolves to a position is its name.  Nothing is said of
tokens that are not plain; they may resolve, but they never equal a name.
-/

namespace Text

/-- Whether digits spell a number as it is written. -/
def isPlainNumeral (digits : List Char) : Bool :=
  !digits.isEmpty && digits.all Char.isDigit && digits.head? != some '0'

theorem isPlainNumeral_iff {digits : List Char} :
    isPlainNumeral digits = true ↔
      digits ≠ [] ∧ (∀ char ∈ digits, char.isDigit = true) ∧ digits.head? ≠ some '0' := by
  simp only [isPlainNumeral, Bool.and_eq_true, Bool.not_eq_true', List.isEmpty_eq_false_iff,
    List.all_eq_true, bne_iff_ne, ne_eq, and_assoc]

theorem toNat_of_isDigit {char : Char} (digit : char.isDigit = true) :
    48 ≤ char.toNat ∧ char.toNat ≤ 57 :=
  Char.isDigit_iff_toNat.mp digit

/-- The value of an ASCII digit is its distance from the zero. -/
theorem digitValue?_of_isDigit {char : Char} (digit : char.isDigit = true) :
    digitValue? char = some (char.toNat - '0'.toNat) := by
  have bounds := toNat_of_isDigit digit
  have zero : '0'.toNat = 48 := rfl
  simp only [digitValue?, digitZeros, digitAmong, zero]
  rw [if_neg (by omega), if_pos (by omega)]

theorem isDecimalDigit_of_isDigit {char : Char} (digit : char.isDigit = true) :
    isDecimalDigit char = true := by
  rw [isDecimalDigit, digitValue?_of_isDigit digit]
  rfl

/-- On ASCII digits the reading of numerals is the usual one. -/
theorem numeralValue_eq_ofDigitChars {digits : List Char}
    (ascii : ∀ char ∈ digits, char.isDigit = true) :
    numeralValue digits = Nat.ofDigitChars 10 digits 0 := by
  rw [numeralValue, Nat.ofDigitChars_eq_foldl]
  apply List.foldl_ext
  intro total char member
  rw [digitValue?_of_isDigit (ascii char member), Option.getD_some]

theorem isDigit_of_mem_decimalDigits {number : Nat} {char : Char}
    (member : char ∈ decimalDigits number) : char.isDigit = true :=
  Nat.isDigit_of_mem_toDigits (by decide) (by decide) member

/-- A written number reads back. -/
theorem numeralValue_decimalDigits (number : Nat) :
    numeralValue (decimalDigits number) = number := by
  rw [numeralValue_eq_ofDigitChars fun _ member => isDigit_of_mem_decimalDigits member]
  exact Nat.ofDigitChars_ten_toDigits

/-- One ASCII digit is written as it is spelled. -/
theorem decimalDigits_of_isDigit {char : Char} (digit : char.isDigit = true) :
    decimalDigits (char.toNat - '0'.toNat) = [char] := by
  have bounds := toNat_of_isDigit digit
  have small : char.toNat - 48 < 10 := by omega
  have shown : (Nat.digitChar (char.toNat - 48)).isDigit = true := by
    rw [Nat.isDigit_digitChar, decide_eq_true small]
  have shownBounds := toNat_of_isDigit shown
  have shownValue := Nat.toNat_digitChar_sub_48_of_lt_ten small
  change Nat.toDigits 10 (char.toNat - 48) = [char]
  rw [Nat.toDigits_of_lt_base small]
  congr 1
  apply Char.toNat_inj.mp
  omega

/-- A number that is spelled plainly is spelled as it is written.  The digits
are taken off at the end; a plain numeral keeps its first digit until the last
step, so the number before the last digit is never zero. -/
theorem decimalDigits_numeralValue {digits : List Char} (plain : isPlainNumeral digits = true) :
    decimalDigits (numeralValue digits) = digits := by
  rcases isPlainNumeral_iff.mp plain with ⟨nonempty, ascii, noZero⟩
  rw [numeralValue_eq_ofDigitChars ascii]
  clear plain
  induction digits using List.reverseRecOn with
  | nil => exact absurd rfl nonempty
  | append_singleton earlier last hypothesis =>
    have lastDigit : last.isDigit = true := ascii last (by simp)
    have lastBounds := toNat_of_isDigit lastDigit
    rw [Nat.ofDigitChars_append, Nat.ofDigitChars_cons, Nat.ofDigitChars_nil]
    by_cases first : earlier = []
    · subst first
      rw [Nat.ofDigitChars_nil, Nat.mul_zero, Nat.zero_add, List.nil_append]
      exact decimalDigits_of_isDigit lastDigit
    · have earlierHead : earlier.head? ≠ some '0' := by
        rwa [List.head?_append_of_ne_nil earlier first] at noZero
      have written :=
        hypothesis first (fun char member => ascii char (by simp [member])) earlierHead
      have positive : 0 < Nat.ofDigitChars 10 earlier 0 := by
        apply Nat.pos_of_ne_zero
        intro zero
        rw [zero] at written
        exact earlierHead (by rw [← written]; rfl)
      have lastWritten := decimalDigits_of_isDigit lastDigit
      have zero : '0'.toNat = 48 := rfl
      rw [decimalDigits] at written lastWritten ⊢
      rw [← Nat.toDigits_append_toDigits (by decide) positive (by omega), written, lastWritten]

/-- No positive number is written with a leading zero. -/
theorem isPlainNumeral_decimalDigits {number : Nat} (positive : 0 < number) :
    isPlainNumeral (decimalDigits number) = true := by
  refine isPlainNumeral_iff.mpr
    ⟨decimalDigits_ne_nil number, fun _ member => isDigit_of_mem_decimalDigits member, ?_⟩
  induction number using Nat.strongRecOn with
  | ind number hypothesis =>
    unfold decimalDigits
    rw [Nat.toDigits_eq_if (by decide)]
    split
    · next small =>
      intro zero
      have isZero := Nat.digitChar_eq_zero.mp (Option.some.inj zero)
      omega
    · next large =>
      rw [List.head?_append_of_ne_nil _ Nat.toDigits_ne_nil]
      exact hypothesis (number / 10) (by omega) (by omega)

/-- A smaller number is not written with more digits. -/
theorem length_decimalDigits_le {smaller larger : Nat} (le : smaller ≤ larger) :
    (decimalDigits smaller).length ≤ (decimalDigits larger).length := by
  have positive : 0 < (decimalDigits larger).length := Nat.length_toDigits_pos
  apply (Nat.length_toDigits_le_iff (by decide) positive).mpr
  apply Nat.lt_of_le_of_lt le
  exact (Nat.length_toDigits_le_iff (by decide) positive).mp (Nat.le_refl _)

end Text

open Text

namespace Address

/-- A name has the parts that it was put together from. -/
theorem parts?_spelling (address : Address) :
    parts? address.spelling = some (address.column, decimalDigits (address.row + 1)) := by
  have all : ∀ char ∈ decimalDigits (address.row + 1), isDecimalDigit char = true :=
    fun char member => isDecimalDigit_of_isDigit (isDigit_of_mem_decimalDigits member)
  simp only [spelling, parts?, columnOfLetter?_columnLetter, List.takeWhile_eq_self_iff.mpr all,
    List.dropWhile_eq_nil_iff.mpr all, ne_eq, decimalDigits_ne_nil, not_false_eq_true, true_or,
    and_self, if_true]

/-- The name of an address whose row can be written reads back. -/
theorem read_name (address : Address)
    (writable : (decimalDigits (address.row + 1)).length ≤ rowDigitLimit) :
    read address.name = .ok address := by
  simp only [read, name, String.toList_ofList, parts?_spelling, numeralValue_decimalDigits,
    if_neg (Nat.not_lt.mpr writable)]

/-- A letter that names a column is the letter of that column. -/
theorem eq_columnLetter_of_columnOfLetter? {letter : Char} {column : Fin columnLimit}
    (found : columnOfLetter? letter = some column) : letter = columnLetter column := by
  unfold columnOfLetter? at found
  split at found
  · next bounds =>
    cases found
    simp only [columnLetter, Nat.add_sub_cancel' bounds.1, Char.ofNat_toNat]
  · cases found

/-- A text with the parts of an address begins with them; at most one line feed
follows. -/
theorem eq_of_parts?_eq_some {text digits : List Char} {column : Fin columnLimit}
    (found : parts? text = some (column, digits)) :
    digits ≠ [] ∧ (∀ char ∈ digits, isDecimalDigit char = true) ∧
      (text = columnLetter column :: digits ∨ text = columnLetter column :: digits ++ ['\n']) := by
  cases text with
  | nil => cases found
  | cons letter rest =>
    cases named : columnOfLetter? letter with
    | none => simp only [parts?, named, reduceCtorEq] at found
    | some other =>
      have split := List.takeWhile_append_dropWhile (p := isDecimalDigit) (l := rest)
      simp only [parts?, named] at found
      split at found
      · next shape =>
        cases found
        refine ⟨shape.1, fun char member => List.mem_takeWhile_imp member, ?_⟩
        rw [eq_columnLetter_of_columnOfLetter? named]
        rcases shape.2 with noTail | lineFeed
        · left
          rw [noTail, List.append_nil] at split
          rw [split]
        · right
          rw [lineFeed] at split
          rw [List.cons_append, split]
      · cases found

end Address

namespace Reference

/-- Whether a token is spelled as a name: its digits are ASCII digits without a
leading zero. -/
def isPlain (token : String) : Bool :=
  isPlainNumeral (token.toList.drop 1)

end Reference

namespace Address

theorem isPlain_name (address : Address) : Reference.isPlain address.name = true := by
  simp only [Reference.isPlain, name, spelling, String.toList_ofList, List.drop_one, List.tail_cons]
  exact isPlainNumeral_decimalDigits (Nat.succ_pos _)

/-- A plain text that reads as an address is the name of the address.  It has no
room for the line feed that reading admits. -/
theorem eq_name_of_read {text : String} {address : Address}
    (plain : Reference.isPlain text = true) (found : read text = .ok address) :
    text = address.name := by
  unfold read at found
  cases parts : parts? text.toList with
  | none => simp only [parts, reduceCtorEq] at found
  | some both =>
    rcases both with ⟨column, digits⟩
    rcases eq_of_parts?_eq_some parts with ⟨_, _, spelled | spelled⟩
    · rw [Reference.isPlain, spelled, List.drop_one, List.tail_cons] at plain
      have written := decimalDigits_numeralValue plain
      simp only [parts] at found
      split at found
      · cases found
      · split at found
        · cases found
        · next row value =>
          cases found
          rw [value] at written
          rw [name, spelling, written, ← spelled, String.ofList_toList]
    · have ascii := (isPlainNumeral_iff.mp plain).2.1 '\n' (by simp [spelled])
      cases ascii

end Address

namespace Size

variable {size : Size}

/-- The address of the position that an address names is that address. -/
theorem address_of_positionOf? {address : Address} {position : Position size}
    (found : size.positionOf? address = some position) : position.address = address := by
  unfold positionOf? position? at found
  split at found
  · split at found
    · cases found
      rfl
    · cases found
  · cases found

end Size

namespace Position

variable {size : Size}

/-- The row of a position can be written, since the number of rows can. -/
theorem row_writable (position : Position size) :
    (decimalDigits (position.address.row + 1)).length ≤ rowDigitLimit :=
  Nat.le_trans (length_decimalDigits_le position.row.isLt) size.rows_writable

/-- The name of a position resolves to it. -/
theorem resolve?_name (position : Position size) : size.resolve? position.name = some position := by
  rw [name, Size.resolve?, Address.read_name position.address position.row_writable]
  exact position.positionOf?_address

theorem name_injective : Function.Injective (name : Position size → String) := by
  intro first second same
  have resolved := first.resolve?_name
  rw [same, second.resolve?_name] at resolved
  exact (Option.some.inj resolved).symm

/-- A plain token that resolves to a position is the name of the position. -/
theorem eq_name_of_resolve? {token : String} {position : Position size}
    (plain : Reference.isPlain token = true) (resolved : size.resolve? token = some position) :
    token = position.name := by
  unfold Size.resolve? at resolved
  cases found : Address.read token with
  | error fault => simp only [found, reduceCtorEq] at resolved
  | ok address =>
    simp only [found] at resolved
    rw [Address.eq_name_of_read plain found, name, Size.address_of_positionOf? resolved]

end Position
end Worksheet
