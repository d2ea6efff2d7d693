import Worksheet.Text.Blank
import Worksheet.Proofs.Address.Spelling
import Worksheet.Proofs.Formula.Spelling
import Worksheet.Proofs.Number.Decimals

namespace Worksheet

open Text Spelling

/-!
# The texts of numbers read back

Whatever form a finite number is given, its text consists of digits, perhaps a point with
more digits, and perhaps an exponent with a sign.  These parts determine what is read.  The
forms differ in the place of the point, in zeros around the digits and in the exponent, but
not in the magnitude.
-/

namespace Text

variable {digits : List Char} (ascii : ∀ char ∈ digits, char.isDigit = true)

theorem isBlank_of_isDigit {char : Char} (digit : char.isDigit = true) : isBlank char = false := by
  have bounds := toNat_of_isDigit digit
  have apart : ∀ range ∈ blankRanges, range.last < 48 ∨ 57 < range.first := by decide
  cases blank : isBlank char with
  | false => rfl
  | true =>
    rcases CodeRange.exists_of_cover blank with ⟨range, member, low, high⟩
    have outside := apart range member
    omega

theorem isDigit_of_mem_zeros {count : Nat} {char : Char}
    (member : char ∈ List.replicate count '0') : char.isDigit = true := by
  rw [List.eq_of_mem_replicate member]
  rfl

include ascii

theorem numeralValue_zeros_append (count : Nat) :
    numeralValue (List.replicate count '0' ++ digits) = numeralValue digits := by
  have all : ∀ char ∈ List.replicate count '0' ++ digits, char.isDigit = true :=
    List.forall_mem_append.mpr ⟨fun _ => isDigit_of_mem_zeros, ascii⟩
  rw [numeralValue_eq_ofDigitChars all, Nat.ofDigitChars_append, Nat.ofDigitChars_replicate_zero,
    Nat.mul_zero, numeralValue_eq_ofDigitChars ascii]

theorem numeralValue_append_zeros (count : Nat) :
    numeralValue (digits ++ List.replicate count '0') = numeralValue digits * 10 ^ count := by
  have all : ∀ char ∈ digits ++ List.replicate count '0', char.isDigit = true :=
    List.forall_mem_append.mpr ⟨ascii, fun _ => isDigit_of_mem_zeros⟩
  rw [numeralValue_eq_ofDigitChars all, Nat.ofDigitChars_append, Nat.ofDigitChars_replicate_zero,
    numeralValue_eq_ofDigitChars ascii, Nat.mul_comm]

end Text

/-- The parts of the text of a finite magnitude. -/
structure Shown where
  whole : List Char
  fraction : Option (List Char)
  power : Option Int
  whole_digits : ∀ char ∈ whole, char.isDigit = true
  fraction_digits : ∀ char ∈ fraction.getD [], char.isDigit = true
  nonempty : whole ≠ []

namespace Shown

/-- The text of an exponent, if there is one. -/
def powerText : Option Int → List Char
  | none => []
  | some power => Number.exponentText power

def chars (shown : Shown) : List Char :=
  shown.whole ++ (fractionChars shown.fraction ++ powerText shown.power)

def digits (shown : Shown) : Nat :=
  numeralValue (shown.whole ++ shown.fraction.getD [])

def exponent (shown : Shown) : Int :=
  shown.power.getD 0 - (shown.fraction.getD []).length

/-- The parts of an integer. -/
def ofNat (number : Nat) : Shown where
  whole := decimalDigits number
  fraction := none
  power := none
  whole_digits _ := isDigit_of_mem_decimalDigits
  fraction_digits _ absent := nomatch absent
  nonempty := decimalDigits_ne_nil number

theorem chars_ofNat (number : Nat) : (ofNat number).chars = decimalDigits number :=
  List.append_nil _

theorem digits_ofNat (number : Nat) : (ofNat number).digits = number :=
  (congrArg numeralValue (List.append_nil _)).trans (numeralValue_decimalDigits number)

theorem exponent_ofNat (number : Nat) : (ofNat number).exponent = 0 :=
  rfl

/-! ## What is read -/

/-- An exponent is shown by a sign and by digits, perhaps with a zero in front. -/
theorem exists_exponentText (power : Int) :
    ∃ digits, Number.exponentText power = 'e' :: (if power < 0 then '-' else '+') :: digits ∧
      digits ≠ [] ∧ (∀ char ∈ digits, char.isDigit = true) ∧
      numeralValue digits = power.natAbs := by
  have ascii : ∀ char ∈ decimalDigits power.natAbs, char.isDigit = true :=
    fun _ => isDigit_of_mem_decimalDigits
  refine ⟨_, rfl, ?_⟩
  split
  · refine ⟨List.cons_ne_nil _ _, List.forall_mem_cons.mpr ⟨rfl, ascii⟩, ?_⟩
    exact (numeralValue_zeros_append ascii 1).trans (numeralValue_decimalDigits _)
  · exact ⟨decimalDigits_ne_nil _, ascii, numeralValue_decimalDigits _⟩

theorem readExponent?_powerText (power : Option Int) :
    Decimal.readExponent? true (powerText power) = some (power.getD 0) := by
  cases power with
  | none => rfl
  | some power =>
    obtain ⟨digits, shown, nonempty, ascii, valued⟩ := exists_exponentText power
    have all : digits.all isDecimalDigit = true :=
      List.all_eq_true.mpr fun char member => isDecimalDigit_of_isDigit (ascii char member)
    have sign : Decimal.takeSign true ((if power < 0 then '-' else '+') :: digits) =
        (decide (power < 0), digits) := by
      by_cases negative : power < 0
      · rw [if_pos negative, decide_eq_true negative]
        rfl
      · rw [if_neg negative, decide_eq_false negative]
        rfl
    rw [powerText, shown, Decimal.readExponent?, if_pos (.inl rfl), sign]
    dsimp only
    rw [if_pos ⟨nonempty, all⟩, valued, Option.getD_some]
    by_cases negative : power < 0
    · rw [decide_eq_true negative, if_pos rfl]
      congr 1
      omega
    · rw [decide_eq_false negative, if_neg Bool.false_ne_true]
      congr 1
      omega

theorem head?_powerText (power : Option Int) : ∀ char ∈ (powerText power).head?, char = 'e' := by
  intro char member
  cases power with
  | none => cases member
  | some power =>
    cases member
    rfl

theorem splitPoint_chars (shown : Shown) :
    Decimal.splitPoint shown.chars =
      (shown.whole, shown.fraction.getD [], powerText shown.power) := by
  refine Decimal.splitPoint_append
    (fun char member => isDecimalDigit_of_isDigit (shown.whole_digits char member))
    (fun char member => isDecimalDigit_of_isDigit (shown.fraction_digits char member))
    fun char member => ?_
  rw [head?_powerText shown.power char member]
  decide

/-- A text is no sign and begins no word: it begins with a digit. -/
theorem exists_chars_eq_cons (shown : Shown) :
    ∃ first rest, shown.chars = first :: rest ∧ first.isDigit = true := by
  cases whole : shown.whole with
  | nil => exact absurd whole shown.nonempty
  | cons first rest =>
    refine ⟨first, rest ++ (fractionChars shown.fraction ++ powerText shown.power), ?_,
      shown.whole_digits first (whole ▸ List.mem_cons_self)⟩
    rw [chars, whole, List.cons_append]

theorem takeSign_signed (shown : Shown) (negative : Bool) :
    Decimal.takeSign true (Number.signed negative shown.chars) = (negative, shown.chars) := by
  cases negative with
  | true => rfl
  | false =>
    obtain ⟨first, rest, begins, digit⟩ := shown.exists_chars_eq_cons
    rw [Number.signed, if_neg Bool.false_ne_true, begins, Decimal.takeSign]
    · rintro rest ⟨⟩
      cases digit
    · rintro rest ⟨⟩
      cases digit

/-- A sign and a text are read as the parts say. -/
theorem read?_signed (shown : Shown) (negative : Bool) :
    Decimal.read? true (Number.signed negative shown.chars) =
      some ⟨negative, shown.digits, shown.exponent⟩ := by
  rw [Decimal.read?, takeSign_signed]
  dsimp only
  rw [splitPoint_chars]
  dsimp only
  rw [if_neg fun missing => shown.nonempty missing.1, readExponent?_powerText]
  rfl

theorem isBlank_of_mem_powerText {power : Option Int} {char : Char}
    (member : char ∈ powerText power) : isBlank char = false := by
  cases power with
  | none => cases member
  | some power =>
    obtain ⟨digits, shown, _, ascii, _⟩ := exists_exponentText power
    rw [powerText, shown] at member
    rcases List.mem_cons.mp member with mark | behind
    · rw [mark]
      rfl
    · rcases List.mem_cons.mp behind with sign | digit
      · rw [sign]
        split <;> rfl
      · exact isBlank_of_isDigit (ascii char digit)

theorem isBlank_of_mem_chars (shown : Shown) {char : Char} (member : char ∈ shown.chars) :
    isBlank char = false := by
  rcases List.mem_append.mp member with whole | behind
  · exact isBlank_of_isDigit (shown.whole_digits char whole)
  · rcases List.mem_append.mp behind with broken | power
    · have digits := shown.fraction_digits
      cases fraction : shown.fraction with
      | none =>
        rw [fraction] at broken
        cases broken
      | some after =>
        rw [fraction] at broken digits
        rcases List.mem_cons.mp broken with point | digit
        · rw [point]
          rfl
        · exact isBlank_of_isDigit (digits char digit)
    · exact isBlank_of_mem_powerText power

/-! ## What is laid out -/

/-- Digits that are laid out keep their magnitude: their value, times the power of ten that
tells how far the point stands behind the last of them. -/
theorem exists_layout {digits : List Char} (ascii : ∀ char ∈ digits, char.isDigit = true)
    (nonempty : digits ≠ []) (power : Int) :
    ∃ shown : Shown, shown.chars = Number.layout digits (digits.length + power) ∧
      Decimal.size shown.digits shown.exponent = Decimal.size (numeralValue digits) power := by
  have same : ∀ shown : Shown, shown.digits = numeralValue digits → shown.exponent = power →
      Decimal.size shown.digits shown.exponent = Decimal.size (numeralValue digits) power := by
    intro shown valued placed
    rw [valued, placed]
  generalize placed : (digits.length : Int) + power = place
  unfold Number.layout
  split
  · cases digits with
    | nil => exact absurd rfl nonempty
    | cons first rest =>
      have both := List.forall_mem_cons.mp ascii
      have leading : ∀ char ∈ [first], char.isDigit = true := List.forall_mem_singleton.mpr both.1
      cases rest with
      | nil =>
        refine ⟨⟨[first], none, some (place - 1), leading, fun _ absent => (nomatch absent),
          List.cons_ne_nil _ _⟩, rfl, same _ rfl ?_⟩
        simp only [← placed, exponent, Option.getD_some, Option.getD_none, List.length_cons,
          List.length_nil]
        omega
      | cons second rest =>
        refine ⟨⟨[first], some (second :: rest), some (place - 1), leading, both.2,
          List.cons_ne_nil _ _⟩, rfl, same _ rfl ?_⟩
        simp only [← placed, exponent, Option.getD_some, List.length_cons]
        omega
  · split
    · next front =>
      let zeros := List.replicate (-place).toNat '0'
      have filled : ∀ char ∈ zeros ++ digits, char.isDigit = true :=
        List.forall_mem_append.mpr ⟨fun _ => isDigit_of_mem_zeros, ascii⟩
      refine ⟨⟨['0'], some (zeros ++ digits), none, List.forall_mem_singleton.mpr rfl, filled,
        List.cons_ne_nil _ _⟩, ?_, same _ ?_ ?_⟩
      · simp only [chars, fractionChars, powerText, List.append_nil, List.cons_append,
          List.nil_append, zeros]
      · exact (numeralValue_zeros_append filled 1).trans (numeralValue_zeros_append ascii _)
      · rw [exponent, Option.getD_none, Option.getD_some, List.length_append, List.length_replicate]
        omega
    · split
      · next front inside =>
        have begun : digits.take place.toNat ≠ [] := by
          rw [ne_eq, List.take_eq_nil_iff, not_or]
          exact ⟨by omega, nonempty⟩
        refine ⟨⟨digits.take place.toNat, some (digits.drop place.toNat), none,
          fun char member => ascii char (List.mem_of_mem_take member),
          fun char member => ascii char (List.mem_of_mem_drop member), begun⟩, ?_,
          same _ ?_ ?_⟩
        · simp only [chars, fractionChars, powerText, List.append_nil]
        · exact congrArg numeralValue (List.take_append_drop _ _)
        · rw [exponent, Option.getD_none, Option.getD_some, List.length_drop]
          omega
      · next front behind =>
        let count := place.toNat - digits.length
        refine ⟨⟨digits ++ List.replicate count '0', some ['0'], none,
          List.forall_mem_append.mpr ⟨ascii, fun _ => isDigit_of_mem_zeros⟩,
          List.forall_mem_singleton.mpr rfl, List.append_ne_nil_of_left_ne_nil nonempty _⟩, ?_, ?_⟩
        · simp only [chars, fractionChars, powerText, List.append_nil, count]
        · have shifted : power = (count + 1 : Nat) + (-1 : Int) := by omega
          have zeros : digits ++ List.replicate count '0' ++ ['0'] =
              digits ++ List.replicate (count + 1) '0' := by
            rw [List.replicate_succ', List.append_assoc]
          rw [Shown.digits, exponent, Option.getD_some, zeros, numeralValue_append_zeros ascii,
            shifted, Decimal.size, Decimal.size, zpow_add₀ (by decide), zpow_natCast, ← mul_assoc,
            Nat.cast_mul, Nat.cast_pow]
          rfl

end Shown
end Worksheet
