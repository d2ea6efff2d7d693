import Worksheet.Text.CodeRange

namespace Worksheet
namespace Text

/-!
# Blank characters

A blank is a character of the bidirectional class `B`, `S` or `WS` or of the
general category `Zs`.  Beside the ASCII blanks these are the four information
separators from U+001C, the next-line character and the wide spaces.
-/

/-- The code points of all blanks, as maximal ranges in ascending order. -/
def blankRanges : List CodeRange := [
    ⟨0x0009, 0x000D⟩, ⟨0x001C, 0x0020⟩, ⟨0x0085, 0x0085⟩, ⟨0x00A0, 0x00A0⟩, ⟨0x1680, 0x1680⟩,
    ⟨0x2000, 0x200A⟩, ⟨0x2028, 0x2029⟩, ⟨0x202F, 0x202F⟩, ⟨0x205F, 0x205F⟩, ⟨0x3000, 0x3000⟩]

def isBlank (char : Char) : Bool :=
  CodeRange.cover blankRanges char.toNat

/-- The text without its blanks, wherever they stand. -/
def withoutBlanks (chars : List Char) : List Char :=
  chars.filter fun char => !isBlank char

/-- The text without the blanks at its two ends. -/
def strip (chars : List Char) : List Char :=
  ((chars.dropWhile isBlank).reverse.dropWhile isBlank).reverse

theorem isBlank_eq_false_of_mem_withoutBlanks {chars : List Char} {char : Char}
    (member : char ∈ withoutBlanks chars) : isBlank char = false := by
  simpa only [Bool.not_eq_true, Bool.not_eq_eq_eq_not, Bool.not_true]
    using (List.mem_filter.1 member).2

theorem isBlank_eq_false_of_any {chars : List Char} (solid : chars.any isBlank = false)
    {char : Char} (member : char ∈ chars) : isBlank char = false :=
  Bool.eq_false_iff.mpr (List.any_eq_false.mp solid char member)

theorem any_head?_isBlank {chars : List Char} (solid : ∀ char ∈ chars, isBlank char = false) :
    chars.head?.any isBlank = false := by
  cases chars with
  | nil => rfl
  | cons first later => exact solid first List.mem_cons_self

/-- Blanks at the front are dropped, and none stands at the front of this text. -/
theorem dropWhile_isBlank_eq_self {chars : List Char} (solid : chars.head?.any isBlank = false) :
    chars.dropWhile isBlank = chars := by
  cases chars with
  | nil => rfl
  | cons first later => exact List.dropWhile_cons_of_neg (Bool.eq_false_iff.mp solid)

/-- There is nothing to strip from a text without blanks. -/
theorem strip_eq_self {chars : List Char} (solid : ∀ char ∈ chars, isBlank char = false) :
    strip chars = chars := by
  rw [strip, dropWhile_isBlank_eq_self (any_head?_isBlank solid), dropWhile_isBlank_eq_self,
    List.reverse_reverse]
  exact any_head?_isBlank fun char member => solid char (List.mem_reverse.mp member)

/-- A text with solid ends is not stripped where more follows it. -/
theorem exists_strip_append {front : List Char} (nonempty : front ≠ [])
    (solidHead : front.head?.any isBlank = false) (solidLast : front.getLast?.any isBlank = false)
    (behind : List Char) : ∃ rest, strip (front ++ behind) = front ++ rest := by
  have head : (front ++ behind).dropWhile isBlank = front ++ behind := by
    apply dropWhile_isBlank_eq_self
    cases front with
    | nil => exact absurd rfl nonempty
    | cons first later => exact solidHead
  have last : front.reverse.dropWhile isBlank = front.reverse := by
    apply dropWhile_isBlank_eq_self
    rwa [List.head?_reverse]
  rw [strip, head, List.reverse_append, List.dropWhile_append, last]
  split
  · exact ⟨[], by rw [List.reverse_reverse, List.append_nil]⟩
  · exact ⟨(behind.reverse.dropWhile isBlank).reverse, by
      rw [List.reverse_append, List.reverse_reverse]⟩

end Text
end Worksheet
