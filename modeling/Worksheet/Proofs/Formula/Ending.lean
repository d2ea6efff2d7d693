import Worksheet.Proofs.Address.Spelling
import Worksheet.Proofs.Formula.Recognition

namespace Worksheet
namespace Formula

open Text

/-!
# Where a formula ends

A text may go on behind a formula, without an operator that would continue it.  It is then
refused for the character that stands there.  Whatever has been read in front of this character
is a formula by itself, and nothing longer at the beginning of the text is one: with the
character as its next lexeme, or with a part of that lexeme, the text is refused as before.

The place is told from the message, since the number at its end can be read off.
-/

/-! ## Steps and runs -/

namespace Stage

/-- Outside of all parentheses only an operator goes on behind an operand. -/
theorem advance_of_ne_operator {position : Nat} {factor : Expression} {frame : Frame}
    {lexeme : Lexeme} (other : ∀ symbol, lexeme ≠ .operator symbol) :
    (operator factor frame []).advance position lexeme =
      .error (misplaced [] position lexeme) := by
  cases lexeme with
  | operator symbol => exact absurd rfl (other symbol)
  | _ => rfl

theorem misplaced_nil_iff {position place : Nat} {lexeme : Lexeme} {char : Char} :
    misplaced [] position lexeme = .unexpectedCharacter char place ↔
      lexeme.chars.head? = some char ∧ position = place := by
  unfold misplaced
  cases lexeme.chars with
  | nil => simp
  | cons first later => simp

/-- A character is unexpected exactly if it begins a lexeme, no operator, outside of all
parentheses where an operand has just been read. -/
theorem advance_eq_unexpected_iff {position place : Nat} {stage : Stage} {lexeme : Lexeme}
    {char : Char} :
    stage.advance position lexeme = .error (.unexpectedCharacter char place) ↔
      (∃ factor frame, stage = .operator factor frame []) ∧
      (∀ symbol, lexeme ≠ .operator symbol) ∧
      lexeme.chars.head? = some char ∧ position = place := by
  constructor
  · intro step
    cases stage with
    | operand frame enclosing =>
      cases lexeme with
      | run chars =>
        rw [advance] at step
        split at step <;> cases step
      | _ => cases step
    | operator factor frame enclosing =>
      cases enclosing with
      | nil =>
        have other : ∀ symbol, lexeme ≠ .operator symbol := by
          rintro symbol rfl
          cases step
        rw [advance_of_ne_operator other, Except.error.injEq, misplaced_nil_iff] at step
        exact ⟨⟨factor, frame, rfl⟩, other, step⟩
      | cons outer enclosing => cases lexeme <;> cases step
  · rintro ⟨⟨factor, frame, rfl⟩, other, begun⟩
    rw [advance_of_ne_operator other, misplaced_nil_iff.mpr begun]

/-- What has been read to the end outside of all parentheses can go on. -/
theorem exists_run_append {position : Nat} {stage : Stage} {first : List Lexeme}
    {tree : Expression} (ended : stage.run position first = .ok tree) :
    ∃ factor frame, ∀ later,
      stage.run position (first ++ later) =
        (operator factor frame []).run (position + (first.flatMap Lexeme.chars).length) later := by
  induction first generalizing position stage with
  | nil =>
    cases stage with
    | operand frame enclosing => cases ended
    | operator factor frame enclosing =>
      cases enclosing with
      | nil => exact ⟨factor, frame, fun later => rfl⟩
      | cons outer enclosing => cases ended
  | cons lexeme first hypothesis =>
    rw [run] at ended
    cases step : stage.advance position lexeme with
    | error fault =>
      rw [step] at ended
      cases ended
    | ok next =>
      rw [step] at ended
      rcases hypothesis ended with ⟨factor, frame, goesOn⟩
      refine ⟨factor, frame, fun later => ?_⟩
      rw [List.cons_append, run, step, List.flatMap_cons, List.length_append, ← Nat.add_assoc]
      exact goesOn later

/-- In front of an unexpected character everything has been read to the end. -/
theorem exists_of_run_eq_unexpected {position place : Nat} {stage : Stage}
    {lexemes : List Lexeme} {char : Char}
    (refused : stage.run position lexemes = .error (.unexpectedCharacter char place)) :
    ∃ first lexeme later tree, lexemes = first ++ lexeme :: later ∧
      stage.run position first = .ok tree ∧
      position + (first.flatMap Lexeme.chars).length = place ∧
      lexeme.chars.head? = some char ∧ ∀ symbol, lexeme ≠ .operator symbol := by
  induction lexemes generalizing position stage with
  | nil =>
    cases stage with
    | operand frame enclosing => cases refused
    | operator factor frame enclosing => cases enclosing <;> cases refused
  | cons lexeme later hypothesis =>
    rw [run] at refused
    cases step : stage.advance position lexeme with
    | error fault =>
      rw [step] at refused
      cases refused
      rcases advance_eq_unexpected_iff.mp step with ⟨⟨factor, frame, rfl⟩, other, head, same⟩
      exact ⟨[], lexeme, later, frame.close factor, rfl, rfl, same, head, other⟩
    | ok next =>
      rw [step] at refused
      rcases hypothesis refused with ⟨first, next, rest, tree, rfl, ended, same, head, other⟩
      refine ⟨lexeme :: first, next, rest, tree, rfl, ?_, ?_, head, other⟩
      · rw [run, step]
        exact ended
      · rw [List.flatMap_cons, List.length_append, ← Nat.add_assoc]
        exact same

end Stage

/-- A text is refused for a character exactly if this stands behind a formula, is no operator
and does not belong to the run that the formula ends with. -/
theorem run_split_eq_unexpected_iff {chars : List Char} {char : Char} {position : Nat} :
    (Stage.operand .empty []).run 0 (Lexeme.split chars) =
        .error (.unexpectedCharacter char position) ↔
      ∃ before after tree, chars = before ++ char :: after ∧ before.length = position ∧
        (Stage.operand .empty []).run 0 (Lexeme.split before) = .ok tree ∧
        Operator.ofSymbol? char = none ∧ Lexeme.IsSeam before (char :: after) := by
  constructor
  · intro refused
    rcases Stage.exists_of_run_eq_unexpected refused with
      ⟨first, lexeme, later, tree, cut, ended, place, head, other⟩
    rcases Lexeme.exists_of_split_eq_append cut with ⟨before, rest, rfl, seam, rfl, follows⟩
    rw [Nat.zero_add, Lexeme.flatMap_chars_split] at place
    cases rest with
    | nil => cases follows
    | cons next after =>
      rcases Lexeme.exists_split_cons next after with ⟨begins, others, same, headNext, operator⟩
      rw [follows, List.cons.injEq] at same
      rcases same with ⟨rfl, rfl⟩
      rw [headNext, Option.some.injEq] at head
      subst char
      refine ⟨before, after, tree, rfl, place, ended, ?_, seam⟩
      rw [Option.eq_none_iff_forall_ne_some]
      exact fun symbol found => other symbol ((operator symbol).mpr found)
  · rintro ⟨before, after, tree, rfl, rfl, ended, noSymbol, seam⟩
    rcases Stage.exists_run_append ended with ⟨factor, frame, goesOn⟩
    rcases Lexeme.exists_split_cons char after with ⟨lexeme, later, same, head, operator⟩
    have other : ∀ symbol, lexeme ≠ .operator symbol := by
      intro symbol found
      rw [operator, noSymbol] at found
      cases found
    rw [Lexeme.split_append seam, goesOn, same, Stage.run,
      Stage.advance_eq_unexpected_iff.mpr ⟨⟨factor, frame, rfl⟩, other, head, rfl⟩,
      Lexeme.flatMap_chars_split, Nat.zero_add]

/-! ## Messages -/

/-- The number behind a text is told from the digits at its end. -/
theorem eq_of_append_decimalDigits {first second : List Char} {number other : Nat}
    (stopFirst : ∀ char ∈ first.getLast?, isDecimalDigit char = false)
    (stopSecond : ∀ char ∈ second.getLast?, isDecimalDigit char = false)
    (same : first ++ decimalDigits number = second ++ decimalDigits other) : number = other := by
  have digits : ∀ number, ∀ char ∈ (decimalDigits number).reverse, isDecimalDigit char = true :=
    fun number char member => isDecimalDigit_of_isDigit
      (isDigit_of_mem_decimalDigits (List.mem_reverse.mp member))
  rw [← List.head?_reverse] at stopFirst stopSecond
  have ends := congrArg List.reverse same
  rw [List.reverse_append, List.reverse_append] at ends
  have numerals := (Decimal.span_append (digits number) stopFirst).1
  rw [ends, (Decimal.span_append (digits other) stopSecond).1, List.reverse_inj] at numerals
  rw [← numeralValue_decimalDigits number, ← numerals, numeralValue_decimalDigits]

namespace Fault

theorem toList_message_unexpectedCharacter (char : Char) (position : Nat) :
    (unexpectedCharacter char position).message.toList =
      "Unexpected character ".toList ++ (quoted (String.ofList [char])).toList ++
        " at position ".toList ++ decimalDigits position := by
  have numeral : (String.ofList (decimalDigits position)).toList = decimalDigits position :=
    String.toList_ofList
  change ("Unexpected character " ++ quoted (String.ofList [char]) ++ " at position "
    ++ String.ofList (decimalDigits position)).toList = _
  rw [String.toList_append, String.toList_append, String.toList_append, numeral]

/-- No other fault has the message of an unexpected character at this position. -/
theorem exists_of_message_eq {fault : Fault} {char : Char} {position : Nat}
    (same : fault.message = (unexpectedCharacter char position).message) :
    ∃ other, fault = .unexpectedCharacter other position := by
  rw [← String.toList_inj, toList_message_unexpectedCharacter] at same
  cases fault with
  | endOfExpression => cases same
  | missingParenthesis => cases same
  | invalidPart part =>
    change ("Invalid expression part: " ++ quoted part).toList = _ at same
    rw [String.toList_append] at same
    cases same
  | unexpectedCharacter other place =>
    rw [toList_message_unexpectedCharacter] at same
    have stop : ∀ front : List Char, ∀ char ∈ (front ++ " at position ".toList).getLast?,
        isDecimalDigit char = false := by
      intro front char member
      rw [List.getLast?_append_of_ne_nil _ (by decide)] at member
      cases member
      decide
    have places := eq_of_append_decimalDigits (stop _) (stop _) same
    exact ⟨other, by rw [places]⟩

end Fault

/-! ## Prefixes -/

theorem ofSymbol?_eq_none_iff {char : Char} :
    Operator.ofSymbol? char = none ↔ char ∉ ['+', '-', '*', '/'] := by
  unfold Operator.ofSymbol?
  split
  · simp
  · simp
  · simp
  · simp
  · next plus minus times divide => simpa using ⟨plus, minus, times, divide⟩

/-- The first solid characters of a text are read as they stand. -/
theorem read_take (chars : List Char) (count : Nat) :
    read (String.ofList ((withoutBlanks chars).take count)) =
      (Stage.operand .empty []).run 0 (Lexeme.split ((withoutBlanks chars).take count)) := by
  have solid : withoutBlanks ((withoutBlanks chars).take count) =
      (withoutBlanks chars).take count := by
    apply List.filter_eq_self.mpr
    intro char member
    rw [isBlank_eq_false_of_mem_withoutBlanks (List.mem_of_mem_take member)]
    rfl
  rw [read, String.toList_ofList, solid]

/-- The text without its blanks is refused for the character at the position. -/
def IsRefusedAt (text : String) (position : Nat) : Prop :=
  ∃ char fault, (withoutBlanks text.toList)[position]? = some char ∧ read text = .error fault ∧
    fault.message = "Unexpected character " ++ quoted (String.ofList [char]) ++ " at position "
      ++ String.ofList (decimalDigits position)

/-- The characters in front of the position are a formula, and the one behind them neither is
an operator nor belongs to the run at its end. -/
structure EndsAt (chars : List Char) (position : Nat) : Prop where
  positive : 0 < position
  formula : ∃ tree, read (String.ofList (chars.take position)) = .ok tree
  follows : ∃ next, chars[position]? = some next ∧ next ∉ ['+', '-', '*', '/'] ∧
    ∀ last, chars[position - 1]? = some last →
      ¬ (Lexeme.isRunChar last = true ∧ Lexeme.isRunChar next = true)

theorem isRefusedAt_iff_run {text : String} {position : Nat} :
    IsRefusedAt text position ↔
      ∃ char, (Stage.operand .empty []).run 0 (Lexeme.split (withoutBlanks text.toList)) =
        .error (.unexpectedCharacter char position) := by
  constructor
  · rintro ⟨char, fault, _, refused, message⟩
    have same : fault.message = (Fault.unexpectedCharacter char position).message := message
    rcases Fault.exists_of_message_eq same with ⟨other, rfl⟩
    exact ⟨other, refused⟩
  · rintro ⟨char, refused⟩
    rcases run_split_eq_unexpected_iff.mp refused with ⟨before, after, tree, divided, rfl, _⟩
    exact ⟨char, _, by simp [divided], refused, rfl⟩

theorem isSeam_cons_iff {chars before after : List Char} {char : Char}
    (divided : chars = before ++ char :: after) (positive : 0 < before.length) :
    Lexeme.IsSeam before (char :: after) ↔ ∀ last, chars[before.length - 1]? = some last →
      ¬ (Lexeme.isRunChar last = true ∧ Lexeme.isRunChar char = true) := by
  rw [divided, List.getElem?_append_left (by omega), ← List.getLast?_eq_getElem?, Lexeme.IsSeam]
  simp

/-- A text is refused where a formula ends that does not go on. -/
theorem isRefusedAt_iff_endsAt {text : String} {position : Nat} :
    IsRefusedAt text position ↔ EndsAt (withoutBlanks text.toList) position := by
  rw [isRefusedAt_iff_run]
  constructor
  · rintro ⟨char, refused⟩
    rcases run_split_eq_unexpected_iff.mp refused with
      ⟨before, after, tree, divided, rfl, ended, noSymbol, seam⟩
    have positive : 0 < before.length := by
      apply List.length_pos_iff.mpr
      rintro rfl
      cases ended
    have formula : read (String.ofList ((withoutBlanks text.toList).take before.length)) =
        .ok tree := by
      rw [read_take, divided, List.take_left, ended]
    exact ⟨positive, ⟨tree, formula⟩, char, by simp [divided],
      ofSymbol?_eq_none_iff.mp noSymbol, (isSeam_cons_iff divided positive).mp seam⟩
  · rintro ⟨positive, ⟨tree, ended⟩, char, follows, noSymbol, apart⟩
    rcases List.getElem?_eq_some_iff.mp follows with ⟨inside, same⟩
    rw [read_take] at ended
    have length : ((withoutBlanks text.toList).take position).length = position := by
      rw [List.length_take, Nat.min_eq_left inside.le]
    have divided : withoutBlanks text.toList = (withoutBlanks text.toList).take position ++
        char :: (withoutBlanks text.toList).drop (position + 1) := by
      rw [← same, List.getElem_cons_drop, List.take_append_drop]
    have seam := isSeam_cons_iff divided (by rwa [length])
    rw [length] at seam
    exact ⟨char, run_split_eq_unexpected_iff.mpr ⟨_, _, tree, divided, length, ended,
      ofSymbol?_eq_none_iff.mpr noSymbol, seam.mpr apart⟩⟩

/-- Nothing that goes on behind the place where a text is refused is a formula. -/
theorem read_take_ne_ok {text : String} {position count : Nat} (refused : IsRefusedAt text position)
    (longer : position < count) (tree : Expression) :
    read (String.ofList ((withoutBlanks text.toList).take count)) ≠ .ok tree := by
  rcases isRefusedAt_iff_run.mp refused with ⟨char, run⟩
  rcases run_split_eq_unexpected_iff.mp run with
    ⟨before, after, whole, divided, rfl, ended, noSymbol, seam⟩
  rcases Nat.exists_eq_add_of_lt longer with ⟨more, rfl⟩
  have shorter : (withoutBlanks text.toList).take (before.length + more + 1) =
      before ++ char :: after.take more := by
    rw [divided, Nat.add_assoc, List.take_length_add_append, List.take_succ_cons]
  have again : (Stage.operand .empty []).run 0
      (Lexeme.split ((withoutBlanks text.toList).take (before.length + more + 1))) =
        .error (.unexpectedCharacter char before.length) :=
    run_split_eq_unexpected_iff.mpr ⟨before, _, whole, shorter, rfl, ended, noSymbol, seam⟩
  rw [read_take, again]
  exact nofun

/-- A text is refused for an unexpected character exactly where a formula ends that this
character does not continue.  There is one such place at most, and no formula reaches beyond
it: what has been read is the longest formula that the text begins with. -/
theorem refused_behind_longest (text : String) (position : Nat) :
    (IsRefusedAt text position ↔ EndsAt (withoutBlanks text.toList) position) ∧
    (IsRefusedAt text position →
      (∀ other, IsRefusedAt text other → other = position) ∧
      ∀ count, position < count → ∀ tree,
        read (String.ofList ((withoutBlanks text.toList).take count)) ≠ .ok tree) := by
  refine ⟨isRefusedAt_iff_endsAt, fun refused => ⟨fun other also => ?_, fun count longer tree =>
    read_take_ne_ok refused longer tree⟩⟩
  rcases isRefusedAt_iff_run.mp refused with ⟨_, run⟩
  rcases isRefusedAt_iff_run.mp also with ⟨_, runAlso⟩
  rw [run] at runAlso
  cases runAlso
  rfl

/-- A formula in parentheses, a number behind it, and more of a formula. -/
def leftOverText : String := "(A1 + 2) 3 * 4"

theorem refused_behind_longest_of_leftOver :
    IsRefusedAt leftOverText 6 ∧ EndsAt "(A1+2)3*4".toList 6 ∧
      (∀ other, IsRefusedAt leftOverText other → other = 6) ∧
      ∀ tree, read "(A1+2)3" ≠ .ok tree := by
  have refused : IsRefusedAt leftOverText 6 :=
    ⟨'3', .unexpectedCharacter '3' 6, by decide +kernel, rfl, rfl⟩
  have ended := (refused_behind_longest leftOverText 6).1.mp refused
  have only := (refused_behind_longest leftOverText 6).2 refused
  exact ⟨refused, ended, only.1, only.2 7 (by decide)⟩

end Formula
end Worksheet
