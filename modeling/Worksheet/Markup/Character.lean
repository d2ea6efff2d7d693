namespace Worksheet
namespace Markup

/-!
# Characters of a document

A document consists of legal characters only; a reference to any other
character is a fault as well.  In texts and values every line end becomes a
single line feed.
-/

/-- Whether a character may occur in a document. -/
def isLegal (char : Char) : Bool :=
  let code := char.toNat
  code == 0x9 || code == 0xA || code == 0xD || (0x20 ≤ code && code ≤ 0xD7FF)
    || (0xE000 ≤ code && code ≤ 0xFFFD) || 0x10000 ≤ code

/-- Whether a character separates the parts of a tag or a declaration. -/
def isSpace (char : Char) : Bool :=
  char == ' ' || char == '\t' || char == '\n' || char == '\r'

/-- Make every line end a single line feed.  The flag says that the character
before was a carriage return, so that a line feed now belongs to it. -/
def joinLineEnds : (afterReturn : Bool) → List Char → List Char
  | _, [] => []
  | afterReturn, char :: rest =>
      if char = '\r' then '\n' :: joinLineEnds true rest
      else if char = '\n' ∧ afterReturn then joinLineEnds false rest
      else char :: joinLineEnds false rest

def normalizeLineEnds (chars : List Char) : List Char :=
  joinLineEnds false chars

def skipSpace (chars : List Char) : List Char :=
  chars.dropWhile isSpace

/-- Cut a text before the first occurrence of a mark.  The result is what stands
before the mark and what stands behind it. -/
def cutAt (mark : List Char) : List Char → Option (List Char × List Char)
  | [] => if mark = [] then some ([], []) else none
  | char :: rest =>
      if mark.isPrefixOf (char :: rest) then some ([], (char :: rest).drop mark.length)
      else (cutAt mark rest).map fun (before, behind) => (char :: before, behind)

/-- What follows a word at the beginning of a text. -/
def dropWord (word chars : List Char) : Option (List Char) :=
  if word.isPrefixOf chars then some (chars.drop word.length) else none

theorem joinLineEnds_eq_self {chars : List Char} (clean : '\r' ∉ chars) :
    joinLineEnds false chars = chars := by
  induction chars with
  | nil => rfl
  | cons char rest hypothesis =>
    have first : char ≠ '\r' := fun same => clean (by rw [same]; exact List.mem_cons_self)
    have others : '\r' ∉ rest := fun member => clean (List.mem_cons_of_mem char member)
    simp only [joinLineEnds, first, if_false, Bool.false_eq_true, and_false, hypothesis others]

/-- A text without carriage returns has its line ends already. -/
theorem normalizeLineEnds_eq_self {chars : List Char} (clean : '\r' ∉ chars) :
    normalizeLineEnds chars = chars :=
  joinLineEnds_eq_self clean

theorem not_mem_joinLineEnds (afterReturn : Bool) (chars : List Char) :
    '\r' ∉ joinLineEnds afterReturn chars := by
  induction chars generalizing afterReturn with
  | nil => exact List.not_mem_nil
  | cons char rest hypothesis =>
    simp only [joinLineEnds]
    split
    · exact List.not_mem_cons_of_ne_of_not_mem (by decide) (hypothesis true)
    · split
      · exact hypothesis false
      · rename_i different _
        exact List.not_mem_cons_of_ne_of_not_mem (fun same => different same.symm)
          (hypothesis false)

end Markup
end Worksheet
