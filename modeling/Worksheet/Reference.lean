import Worksheet.Address

namespace Worksheet

open Text

/-!
# References in a text

A reference token is a column letter with all the decimal digits that directly
follow it, wherever it stands: `AB12` holds the token `B12`.  Tokens are
collected in the order of the text and kept as often as they occur.
-/

namespace Reference

/-- Whether a letter names a column. -/
def isColumnLetter (char : Char) : Bool :=
  (Address.columnOfLetter? char).isSome

/-- The tokens of a text.  A digit names no column, so the digits of a token
need not be skipped before the search goes on. -/
def tokensOf : List Char → List (List Char)
  | [] => []
  | char :: rest =>
      if isColumnLetter char then
        match rest.takeWhile isDecimalDigit with
        | [] => tokensOf rest
        | digits => (char :: digits) :: tokensOf rest
      else tokensOf rest

def tokens (text : String) : List String :=
  (tokensOf text.toList).map String.ofList

/-- Whether a name is among the tokens of a text, letter for letter. -/
def mentions (text name : String) : Bool :=
  (tokens text).contains name

end Reference
end Worksheet
