import Mathlib.Data.List.TakeWhile
import Worksheet.Formula.Lexeme

namespace Worksheet

open Text

/-!
# How operands are spelled

A number is spelled by digits with at most one point among or around them, and
by an exponent mark with digits if there is an exponent.  The point belongs to
neither side, so the parts of a number are kept apart here, together with what
is required of them.  A name is an alphanumeric text that begins with a letter.

A run of characters is an operand exactly when it is spelled in one of these
ways.  The spelling of a number determines its value; no claim is made here about
the rounding of that value.
-/

namespace Spelling

/-- The text of a fraction, which is a point and digits. -/
def fractionChars : Option (List Char) → List Char
  | none => []
  | some digits => '.' :: digits

/-- The text of an exponent, which is a mark and digits. -/
def powerChars : Option (Char × List Char) → List Char
  | none => []
  | some (mark, digits) => mark :: digits

def powerValue : Option (Char × List Char) → Nat
  | none => 0
  | some (_, digits) => numeralValue digits

/-- An exponent has one of two marks and at least one digit. -/
def IsPower (power : Option (Char × List Char)) : Prop :=
  ∀ mark digits, power = some (mark, digits) →
    (mark = 'e' ∨ mark = 'E') ∧ digits ≠ [] ∧ ∀ char ∈ digits, isDecimalDigit char = true

end Spelling

/-- The parts of an unsigned number and the requirements on them. -/
structure Spelling where
  whole : List Char
  fraction : Option (List Char)
  power : Option (Char × List Char)
  whole_digits : ∀ char ∈ whole, isDecimalDigit char = true
  fraction_digits : ∀ char ∈ fraction.getD [], isDecimalDigit char = true
  some_digit : whole ≠ [] ∨ fraction.getD [] ≠ []
  is_power : Spelling.IsPower power

namespace Spelling

/-- The text of the number. -/
def chars (spelling : Spelling) : List Char :=
  spelling.whole ++ (fractionChars spelling.fraction ++ powerChars spelling.power)

/-- The number that is spelled. -/
def decimal (spelling : Spelling) : Decimal :=
  ⟨false, numeralValue (spelling.whole ++ spelling.fraction.getD []),
    (powerValue spelling.power : Int) - (spelling.fraction.getD []).length⟩

theorem head?_powerChars {power : Option (Char × List Char)} (isPower : IsPower power) :
    ∀ char ∈ (powerChars power).head?, char = 'e' ∨ char = 'E' := by
  intro char member
  cases power with
  | none => cases member
  | some both =>
    rcases both with ⟨mark, digits⟩
    have same : mark = char := Option.some.inj member
    exact same ▸ (isPower mark digits rfl).1

end Spelling

/-! ## Reading numbers -/

namespace Decimal

open Spelling

theorem takeSign_false (chars : List Char) : takeSign false chars = (false, chars) := by
  unfold takeSign
  split <;> rfl

/-- The digits in front of a text that begins with something else. -/
theorem span_append {digits rest : List Char} (all : ∀ char ∈ digits, isDecimalDigit char = true)
    (stop : ∀ char ∈ rest.head?, isDecimalDigit char = false) :
    (digits ++ rest).takeWhile isDecimalDigit = digits ∧
      (digits ++ rest).dropWhile isDecimalDigit = rest := by
  have noMore : rest.takeWhile isDecimalDigit = [] ∧ rest.dropWhile isDecimalDigit = rest := by
    cases rest with
    | nil => exact ⟨rfl, rfl⟩
    | cons first rest =>
      have other := stop first rfl
      exact ⟨List.takeWhile_cons_of_neg (by simp [other]),
        List.dropWhile_cons_of_neg (by simp [other])⟩
  rw [List.takeWhile_append_of_pos all, List.dropWhile_append_of_pos all, noMore.1, noMore.2,
    List.append_nil]
  exact ⟨rfl, rfl⟩

theorem readExponent?_eq_some_iff {rest : List Char} {value : Int} :
    readExponent? false rest = some value ↔
      ∃ power, IsPower power ∧ powerChars power = rest ∧ (powerValue power : Int) = value := by
  constructor
  · intro found
    cases rest with
    | nil =>
      cases found
      exact ⟨none, fun _ _ absent => (nomatch absent), rfl, rfl⟩
    | cons mark digits =>
      simp only [readExponent?, takeSign_false] at found
      split at found
      · next isMark =>
        split at found
        · next isDigits =>
          cases found
          refine ⟨some (mark, digits), ?_, rfl, rfl⟩
          rintro _ _ ⟨⟩
          exact ⟨isMark, isDigits.1, List.all_eq_true.mp isDigits.2⟩
        · cases found
      · cases found
  · rintro ⟨power, isPower, spelled, valued⟩
    subst rest value
    cases power with
    | none => rfl
    | some both =>
      rcases both with ⟨mark, digits⟩
      rcases isPower mark digits rfl with ⟨isMark, nonempty, all⟩
      simp only [powerChars, powerValue, readExponent?, takeSign_false, if_pos isMark]
      rw [if_pos ⟨nonempty, List.all_eq_true.mpr all⟩]
      rfl

/-- A text is split into its parts. -/
theorem exists_of_splitPoint (chars : List Char) :
    ∃ fraction : Option (List Char), chars = (splitPoint chars).1 ++
        (fractionChars fraction ++ (splitPoint chars).2.2) ∧
      (splitPoint chars).2.1 = fraction.getD [] ∧
      (∀ char ∈ (splitPoint chars).1, isDecimalDigit char = true) ∧
      ∀ char ∈ fraction.getD [], isDecimalDigit char = true := by
  have split := List.takeWhile_append_dropWhile (p := isDecimalDigit) (l := chars)
  have digits : ∀ text : List Char, ∀ char ∈ text.takeWhile isDecimalDigit,
      isDecimalDigit char = true := fun _ _ member => List.mem_takeWhile_imp member
  unfold splitPoint
  dsimp only
  split
  · next rest pointed =>
    have splitRest := List.takeWhile_append_dropWhile (p := isDecimalDigit) (l := rest)
    refine ⟨some (rest.takeWhile isDecimalDigit), ?_, rfl, digits chars, digits rest⟩
    simp only [fractionChars, List.cons_append, splitRest]
    rw [← pointed, split]
  · refine ⟨none, ?_, rfl, digits chars, fun _ absent => nomatch absent⟩
    exact split.symm

/-- A text is split at its point and in front of what is neither digit nor point. -/
theorem splitPoint_append {whole rest : List Char} {fraction : Option (List Char)}
    (wholeDigits : ∀ char ∈ whole, isDecimalDigit char = true)
    (fractionDigits : ∀ char ∈ fraction.getD [], isDecimalDigit char = true)
    (stop : ∀ char ∈ rest.head?, isDecimalDigit char = false ∧ char ≠ '.') :
    splitPoint (whole ++ (fractionChars fraction ++ rest)) = (whole, fraction.getD [], rest) := by
  have stopDigits : ∀ char ∈ rest.head?, isDecimalDigit char = false :=
    fun char member => (stop char member).1
  cases fraction with
  | none =>
    have parts := span_append wholeDigits stopDigits
    simp only [splitPoint, fractionChars, List.nil_append, parts.1, parts.2]
    split
    · next rest => exact absurd rfl (stop '.' rfl).2
    · rfl
  | some digits =>
    have stopPoint : ∀ char ∈ ('.' :: (digits ++ rest)).head?, isDecimalDigit char = false := by
      rintro _ ⟨⟩
      decide
    have parts := span_append wholeDigits stopPoint
    have partsRest := span_append fractionDigits stopDigits
    rw [Option.getD_some] at partsRest
    simp only [splitPoint, fractionChars, List.cons_append, parts.1, parts.2, partsRest.1,
      partsRest.2, Option.getD_some]

theorem splitPoint_chars (spelling : Spelling) :
    splitPoint spelling.chars =
      (spelling.whole, spelling.fraction.getD [], powerChars spelling.power) := by
  refine splitPoint_append spelling.whole_digits spelling.fraction_digits fun char member => ?_
  rcases head?_powerChars spelling.is_power char member with same | same
  · rw [same]
    decide
  · rw [same]
    decide

/-- A text reads as a number exactly when it spells it. -/
theorem read?_eq_some_iff {chars : List Char} {decimal : Decimal} :
    read? false chars = some decimal ↔
      ∃ spelling : Spelling, spelling.chars = chars ∧ spelling.decimal = decimal := by
  constructor
  · intro found
    rcases exists_of_splitPoint chars with
      ⟨fraction, partsEq, fractionEq, wholeDigits, fractionDigits⟩
    simp only [read?, takeSign_false] at found
    split at found
    · cases found
    · next someDigit =>
      rcases Option.map_eq_some_iff.mp found with ⟨value, read, same⟩
      rcases readExponent?_eq_some_iff.mp read with ⟨power, isPower, spelled, valued⟩
      rw [fractionEq, Decidable.not_and_iff_or_not] at someDigit
      refine ⟨⟨(splitPoint chars).1, fraction, power, wholeDigits, fractionDigits, someDigit,
        isPower⟩, ?_, ?_⟩
      · rw [Spelling.chars, spelled]
        exact partsEq.symm
      · rw [← same, Spelling.decimal, valued, fractionEq]
  · rintro ⟨spelling, spelled, valued⟩
    subst chars decimal
    have power : readExponent? false (powerChars spelling.power) =
        some (powerValue spelling.power : Int) :=
      readExponent?_eq_some_iff.mpr ⟨spelling.power, spelling.is_power, rfl, rfl⟩
    simp only [read?, takeSign_false, splitPoint_chars, power, Option.map_some]
    rw [if_neg fun noDigit => spelling.some_digit.elim (· noDigit.1) (· noDigit.2)]
    rfl

end Decimal

/-! ## Operands -/

namespace Formula

/-- An alphanumeric text that begins with a letter. -/
def IsIdentifier (chars : List Char) : Prop :=
  ∃ first rest, chars = first :: rest ∧ isLetter first = true ∧
    ∀ char ∈ chars, isAlphanumeric char = true

theorem isName_iff {chars : List Char} : isName chars = true ↔ IsIdentifier chars := by
  cases chars with
  | nil =>
    constructor
    · intro named
      cases named
    · rintro ⟨_, _, same, _⟩
      cases same
  | cons first rest =>
    rw [isName, Bool.and_eq_true, List.all_eq_true]
    constructor
    · rintro ⟨letter, all⟩
      exact ⟨first, rest, rfl, letter, all⟩
    · rintro ⟨_, _, ⟨⟩, letter, all⟩
      exact ⟨letter, all⟩

/-- A run is a number if it spells one, and otherwise a name if it is one. -/
theorem operand?_eq_some_iff {chars : List Char} {factor : Expression} :
    operand? chars = some factor ↔
      (∃ spelling : Spelling, spelling.chars = chars ∧
        factor = .number spelling.decimal.toFloat) ∨
      ((∀ spelling : Spelling, spelling.chars ≠ chars) ∧ IsIdentifier chars ∧
        factor = .name (String.ofList chars)) := by
  cases read : Decimal.read? false chars with
  | some decimal =>
    rcases Decimal.read?_eq_some_iff.mp read with ⟨spelling, spelled, valued⟩
    simp only [operand?, read, Option.some.injEq]
    constructor
    · intro same
      exact .inl ⟨spelling, spelled, by rw [← same, valued]⟩
    · rintro (⟨other, otherSpelled, same⟩ | ⟨noNumber, _⟩)
      · have otherRead := Decimal.read?_eq_some_iff.mpr ⟨other, otherSpelled, rfl⟩
        rw [read, Option.some.injEq] at otherRead
        rw [same, otherRead]
      · exact absurd spelled (noNumber spelling)
  | none =>
    have noNumber : ∀ spelling : Spelling, spelling.chars ≠ chars := by
      intro spelling spelled
      rw [Decimal.read?_eq_some_iff.mpr ⟨spelling, spelled, rfl⟩] at read
      cases read
    simp only [operand?, read]
    split
    · next named =>
      rw [Option.some.injEq]
      constructor
      · intro same
        exact .inr ⟨noNumber, isName_iff.mp named, same.symm⟩
      · rintro (⟨spelling, spelled, _⟩ | ⟨_, _, same⟩)
        · exact absurd spelled (noNumber spelling)
        · exact same.symm
    · next unnamed =>
      constructor
      · intro absent
        cases absent
      · rintro (⟨spelling, spelled, _⟩ | ⟨_, identifier, _⟩)
        · exact absurd spelled (noNumber spelling)
        · exact absurd (isName_iff.mpr identifier) unnamed

end Formula
end Worksheet
