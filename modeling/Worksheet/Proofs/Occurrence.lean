import Mathlib.Data.List.Induction
import Mathlib.Data.List.Nodup

namespace Worksheet

/-!
# First occurrences

Where only the first occurrence of an element counts, the elements are listed once, in the order
in which they first occur.
-/

variable {α : Type} [BEq α]

/-- The kept elements are those of the other list, ordered by where they first occur in it.
Therefore each of them is kept once. -/
structure KeepsFirst (kept all : List α) : Prop where
  mem_iff : ∀ element, element ∈ kept ↔ element ∈ all
  ordered : kept.Pairwise fun first second => all.idxOf first < all.idxOf second

theorem KeepsFirst.nodup {kept all : List α} (keeps : KeepsFirst kept all) : kept.Nodup := by
  apply keeps.ordered.imp
  rintro first _ earlier rfl
  exact Nat.lt_irrefl _ earlier

variable [LawfulBEq α]

/-- One more element at the end counts only if it is new. -/
theorem eraseDups_concat (elements : List α) (element : α) :
    (elements ++ [element]).eraseDups =
      if element ∈ elements then elements.eraseDups else elements.eraseDups ++ [element] := by
  rw [List.eraseDups_append]
  by_cases member : element ∈ elements
  · simp [List.removeAll, member]
  · simp [List.removeAll, member, List.eraseDups_cons]

theorem keepsFirst_eraseDups (elements : List α) : KeepsFirst elements.eraseDups elements := by
  refine ⟨fun element => List.mem_eraseDups, ?_⟩
  induction elements using List.reverseRecOn with
  | nil => exact List.Pairwise.nil
  | append_singleton elements last hypothesis =>
    have earlier : elements.eraseDups.Pairwise fun first second =>
        (elements ++ [last]).idxOf first < (elements ++ [last]).idxOf second := by
      refine hypothesis.imp_of_mem fun {first second} firstIn secondIn before => ?_
      rw [List.mem_eraseDups] at firstIn secondIn
      rwa [List.idxOf_append_of_mem firstIn, List.idxOf_append_of_mem secondIn]
    rw [eraseDups_concat]
    split
    · exact earlier
    · next new =>
      refine List.pairwise_append.mpr ⟨earlier, List.pairwise_singleton _ _, ?_⟩
      intro first firstIn second secondIn
      rw [List.mem_eraseDups] at firstIn
      rw [List.mem_singleton] at secondIn
      rw [secondIn, List.idxOf_append_of_mem firstIn, List.idxOf_append_of_notMem new]
      exact Nat.lt_add_right _ (List.idxOf_lt_length_of_mem firstIn)

end Worksheet
