import Worksheet.Formula.Expression
import Worksheet.Text.Blank
import Worksheet.Text.Numeric

namespace Worksheet
namespace Formula

open Text

/-!
# Lexemes of a formula

A formula text without blanks is cut into operators, parentheses, maximal runs
of alphanumeric characters and points, and single characters that belong to
none of these.  No character is lost.  A run is later read as a number or as a
name; one that is neither is a fault of the formula.
-/

inductive Lexeme where
  | operator (symbol : Operator)
  | opening
  | closing
  | run (chars : List Char)
  | stray (char : Char)
deriving DecidableEq

namespace Lexeme

/-- The characters that a lexeme was cut from. -/
def chars : Lexeme → List Char
  | operator symbol => [symbol.symbol]
  | opening => ['(']
  | closing => [')']
  | run chars => chars
  | stray char => [char]

def width (lexeme : Lexeme) : Nat :=
  lexeme.chars.length

/-- Whether a character belongs to a run. -/
def isRunChar (char : Char) : Bool :=
  isAlphanumeric char || char == '.'

/-- The lexeme of a character outside of runs. -/
def ofChar (char : Char) : Lexeme :=
  match Operator.ofSymbol? char with
  | some symbol => operator symbol
  | none => if char = '(' then opening else if char = ')' then closing else stray char

/-- Put a character in front of a run, or begin a run with it. -/
def extend (char : Char) : List Lexeme → List Lexeme
  | run chars :: later => run (char :: chars) :: later
  | later => run [char] :: later

/-- Cut a text into its lexemes. -/
def split : List Char → List Lexeme
  | [] => []
  | char :: rest => if isRunChar char then extend char (split rest) else ofChar char :: split rest

theorem chars_ofChar (char : Char) : (ofChar char).chars = [char] := by
  simp only [ofChar]
  split
  · next symbol found => rw [chars, ← Operator.eq_symbol_of_ofSymbol? found]
  · split
    · subst char
      rfl
    · split
      · subst char
        rfl
      · rfl

theorem flatMap_chars_extend (char : Char) (later : List Lexeme) :
    (extend char later).flatMap chars = char :: later.flatMap chars := by
  cases later with
  | nil => rfl
  | cons lexeme later => cases lexeme <;> rfl

/-- The lexemes spell the text they were cut from. -/
theorem flatMap_chars_split (text : List Char) : (split text).flatMap chars = text := by
  induction text with
  | nil => rfl
  | cons char rest hypothesis =>
    simp only [split]
    split
    · rw [flatMap_chars_extend, hypothesis]
    · rw [List.flatMap_cons, chars_ofChar, hypothesis]
      rfl

end Lexeme

/-- Whether a run is a name: letters and other alphanumeric characters that
begin with a letter. -/
def isName : List Char → Bool
  | [] => false
  | char :: rest => isLetter char && (char :: rest).all isAlphanumeric

/-- The operand that a run spells.  Digits come first: a run that reads as a
number is never a name. -/
def operand? (chars : List Char) : Option Expression :=
  match Decimal.read? false chars with
  | some decimal => some (.number decimal.toFloat)
  | none => if isName chars then some (.name (String.ofList chars)) else none

end Formula
end Worksheet
