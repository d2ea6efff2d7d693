namespace Worksheet
namespace Text

/-!
# Ranges of code points

A class of characters is given by closed ranges of code points.  The ranges of
a class are kept in ascending order and do not overlap, so a search may end at
the first range that begins above the code point it looks for.
-/

/-- All code points from `first` to `last`, both included. -/
structure CodeRange where
  first : Nat
  last : Nat

namespace CodeRange

/-- Whether one of the ascending ranges holds the code point. -/
def cover : List CodeRange → Nat → Bool
  | [], _ => false
  | range :: later, code =>
      if code < range.first then false
      else if code ≤ range.last then true
      else cover later code

/-- Whatever the order of the ranges, a covered code point lies in one. -/
theorem exists_of_cover {ranges : List CodeRange} {code : Nat}
    (covered : cover ranges code = true) :
    ∃ range ∈ ranges, range.first ≤ code ∧ code ≤ range.last := by
  induction ranges with
  | nil => simp only [cover, Bool.false_eq_true] at covered
  | cons range later hypothesis =>
    simp only [cover] at covered
    split at covered
    · cases covered
    · split at covered
      · exact ⟨range, List.mem_cons_self, by omega, by omega⟩
      · obtain ⟨found, member, bounds⟩ := hypothesis covered
        exact ⟨found, List.mem_cons_of_mem range member, bounds⟩

end CodeRange
end Text
end Worksheet
