namespace Worksheet
namespace Text

/-!
# Texts of code points

A text that is handed in from outside may hold surrogates, which are code points
but stand for no character.  Such a text has no form in UTF-8.  Where it has to be
encoded, the first surrogates in a row are what is complained about.
-/

/-- A character, or one of the surrogates. -/
inductive CodePoint where
  | character (char : Char)
  | surrogate (index : Fin 0x800)
deriving DecidableEq, Repr

def CodePoint.isSurrogate : CodePoint → Bool
  | character _ => false
  | surrogate _ => true

/-- Surrogates in a row. -/
structure Surrogates where
  /-- The number of code points before them. -/
  position : Nat
  first : Fin 0x800
  /-- The number of surrogates behind the first one. -/
  more : Nat
deriving DecidableEq, Repr

/-- The characters of some code points, unless there are surrogates among them. -/
def charsOfPoints (position : Nat) : List CodePoint → Except Surrogates (List Char)
  | [] => .ok []
  | .character char :: later => (charsOfPoints (position + 1) later).map (char :: ·)
  | .surrogate first :: later =>
      .error ⟨position, first, (later.takeWhile CodePoint.isSurrogate).length⟩

theorem charsOfPoints_character (position : Nat) (chars : List Char) :
    charsOfPoints position (chars.map .character) = .ok chars := by
  induction chars generalizing position with
  | nil => rfl
  | cons char later hypothesis =>
    rw [List.map_cons, charsOfPoints, hypothesis]
    rfl

theorem exists_charsOfPoints_eq_error_iff {position : Nat} {points : List CodePoint} :
    (∃ surrogates, charsOfPoints position points = .error surrogates) ↔
      ∃ point ∈ points, point.isSurrogate = true := by
  induction points generalizing position with
  | nil => simp [charsOfPoints]
  | cons point later hypothesis =>
    cases point with
    | surrogate first => simp [charsOfPoints, CodePoint.isSurrogate]
    | character char =>
      have behind := @hypothesis (position + 1)
      rw [charsOfPoints]
      cases found : charsOfPoints (position + 1) later with
      | ok chars =>
        rw [found] at behind
        simpa [CodePoint.isSurrogate, Except.map] using behind
      | error surrogates =>
        rw [found] at behind
        simpa [CodePoint.isSurrogate, Except.map] using behind

/-- A text in which surrogates may stand. -/
structure Loose where
  points : List CodePoint

namespace Loose

@[coe] def ofString (text : String) : Loose :=
  ⟨text.toList.map .character⟩

instance : Coe String Loose := ⟨ofString⟩

/-- The text as one of characters, if it is one. -/
def encode (text : Loose) : Except Surrogates String :=
  (charsOfPoints 0 text.points).map String.ofList

theorem encode_ofString (text : String) : (ofString text).encode = .ok text := by
  rw [encode, ofString, charsOfPoints_character, Except.map, String.ofList_toList]

/-- Exactly the texts with surrogates cannot be encoded. -/
theorem exists_encode_eq_error_iff {text : Loose} :
    (∃ surrogates, text.encode = .error surrogates) ↔
      ∃ point ∈ text.points, point.isSurrogate = true := by
  rw [← @exists_charsOfPoints_eq_error_iff 0, encode]
  cases charsOfPoints 0 text.points <;> simp [Except.map]

end Loose
end Text
end Worksheet
