import Worksheet.Formula.Lexeme

namespace Worksheet
namespace Formula

open Text

/-!
# Reading a formula

The lexemes of a formula are read from left to right by a machine with two
kinds of stages.  At one it needs an operand: a number, a name or an opening
parenthesis.  At the other it has an operand and expects an operator, a closing
parenthesis or the end.

A frame holds what one level of parentheses still waits for: the left side of a
sum and the left side of a product within the last summand.  An operand is
multiplied or divided into the pending product before the product is added to
the pending sum, so products bind tighter and both kinds group to the left.
-/

/-- Why a text is no formula. -/
inductive Fault where
  | endOfExpression
  | missingParenthesis
  | invalidPart (part : String)
  | unexpectedCharacter (char : Char) (position : Nat)
deriving DecidableEq

def Fault.message : Fault → String
  | endOfExpression => "Unexpected end of expression."
  | missingParenthesis => "Missing closing parenthesis."
  | invalidPart part => "Invalid expression part: " ++ quoted part
  | unexpectedCharacter char position =>
      "Unexpected character " ++ quoted (String.ofList [char]) ++ " at position "
        ++ String.ofList (decimalDigits position)

/-- The left side of an operation whose right side is still to come. -/
structure Pending where
  left : Expression
  operator : Operator

def Pending.complete (pending : Option Pending) (right : Expression) : Expression :=
  match pending with
  | none => right
  | some pending => .binary pending.operator pending.left right

/-- The pending operations of one level of parentheses. -/
structure Frame where
  sum : Option Pending
  product : Option Pending

namespace Frame

def empty : Frame := ⟨none, none⟩

/-- The last summand, once its last factor is known. -/
def summand (frame : Frame) (factor : Expression) : Expression :=
  Pending.complete frame.product factor

/-- The whole expression of the level, once its last factor is known. -/
def close (frame : Frame) (factor : Expression) : Expression :=
  Pending.complete frame.sum (frame.summand factor)

/-- The frame after a factor and an operator. -/
def push (frame : Frame) (factor : Expression) (operator : Operator) : Frame :=
  match operator with
  | .times | .divide => ⟨frame.sum, some ⟨frame.summand factor, operator⟩⟩
  | .plus | .minus => ⟨some ⟨frame.close factor, operator⟩, none⟩

end Frame

/-- A stage of reading.  The list holds the frames of the enclosing levels, the
innermost first. -/
inductive Stage where
  | operand (frame : Frame) (enclosing : List Frame)
  | operator (factor : Expression) (frame : Frame) (enclosing : List Frame)

namespace Stage

/-- The fault of a lexeme after an operand that cannot continue the formula. -/
def misplaced (enclosing : List Frame) (position : Nat) (lexeme : Lexeme) : Fault :=
  match enclosing, lexeme.chars with
  | [], char :: _ => .unexpectedCharacter char position
  | _, _ => .missingParenthesis

/-- Read one lexeme, which begins at the given position. -/
def advance (position : Nat) : Stage → Lexeme → Except Fault Stage
  | operand frame enclosing, .opening => .ok (operand .empty (frame :: enclosing))
  | operand frame enclosing, .run chars =>
      match operand? chars with
      | some factor => .ok (operator factor frame enclosing)
      | none => .error (.invalidPart (String.ofList chars))
  | operand _ _, _ => .error (.invalidPart "")
  | operator factor frame enclosing, .operator symbol =>
      .ok (operand (frame.push factor symbol) enclosing)
  | operator factor frame (outer :: enclosing), .closing =>
      .ok (operator (frame.close factor) outer enclosing)
  | operator _ _ enclosing, lexeme => .error (misplaced enclosing position lexeme)

/-- The expression that has been read at the end of the text. -/
def finish : Stage → Except Fault Expression
  | operand _ _ => .error .endOfExpression
  | operator factor frame [] => .ok (frame.close factor)
  | operator _ _ (_ :: _) => .error .missingParenthesis

/-- Read all lexemes, the first of which begins at the given position. -/
def run (position : Nat) (stage : Stage) : List Lexeme → Except Fault Expression
  | [] => stage.finish
  | lexeme :: later =>
      match stage.advance position lexeme with
      | .ok next => next.run (position + lexeme.width) later
      | .error fault => .error fault

end Stage

/-- Read a text as a formula.  Blanks count for nothing, wherever they stand. -/
def read (text : String) : Except Fault Expression :=
  Stage.run 0 (.operand .empty []) (Lexeme.split (withoutBlanks text.toList))

end Formula
end Worksheet
