import Worksheet.Markup.Expansion

namespace Worksheet
namespace Markup

/-!
# The volume of a document

The text of an entity counts as often as it is referred to, so that a short
document may stand for a very long one.  A document is refused if at any place
what was read of it and what references brought in come to eight mebibytes or
more and to more than a hundred times what was read.  The volume is counted
before any text is put in.
-/

/-- What a part of a document comes to, in bytes. -/
structure Volume where
  /-- The bytes of the document itself. -/
  read : Nat
  /-- The bytes that references bring in. -/
  added : Nat

namespace Volume

/-- The volume below which nothing is refused. -/
def threshold : Nat := 8388608

def total (volume : Volume) : Nat := volume.read + volume.added

def isTolerable (volume : Volume) : Bool :=
  volume.total < threshold || volume.total ≤ 100 * volume.read

/-- Whether a volume stays tolerable while the document is read on.  The worst
place is the first one at which the threshold is reached. -/
def staysTolerable (volume : Volume) (goal : Nat) : Bool :=
  let worst := max volume.read (threshold - volume.added)
  goal < worst || isTolerable ⟨worst, volume.added⟩

theorem isTolerable_iff {volume : Volume} :
    volume.isTolerable = true ↔
      volume.total < threshold ∨ volume.total ≤ 100 * volume.read := by
  rw [isTolerable, Bool.or_eq_true, decide_eq_true_iff, decide_eq_true_iff]

/-- The worst place stands for all places up to the goal. -/
theorem staysTolerable_iff {volume : Volume} {goal : Nat} :
    volume.staysTolerable goal = true ↔
      ∀ read, volume.read ≤ read → read ≤ goal →
        isTolerable ⟨read, volume.added⟩ = true := by
  simp only [staysTolerable, isTolerable_iff, Bool.or_eq_true, decide_eq_true_iff, total]
  constructor
  · intro fine read later before
    omega
  · intro fine
    by_cases reached : goal < max volume.read (threshold - volume.added)
    · exact Or.inl reached
    · exact Or.inr (fine _ (Nat.le_max_left _ _) (by omega))

end Volume

/-! ## What references bring in -/

/-- What one reference to an entity brings in, depending on where it stands. -/
structure Weight where
  inContent : Nat
  inValue : Nat
deriving DecidableEq

/-- The weights of declared entities. -/
abbrev Weights := List (List Char × Weight)

namespace Weights

/-- The weight of an entity.  A predeclared one is a single character. -/
def of (weights : Weights) (name : List Char) : Weight :=
  if (predeclared? name).isSome then ⟨1, 1⟩ else (weights.lookup name).getD ⟨0, 0⟩

/-- What the references in a value bring in. -/
def ofPieces (weights : Weights) (pieces : List Piece) : Nat :=
  pieces.foldl (fun total piece =>
    match piece with
    | .char _ => total
    | .entity name => total + (weights.of name).inValue) 0

/-- What the references among some tokens bring in. -/
def ofTokens (weights : Weights) (tokens : List Token) : Nat :=
  tokens.foldl (fun total token =>
    match token with
    | .entity name => total + (weights.of name).inContent
    | .opening _ attributes _ =>
        attributes.foldl (fun total entry => total + weights.ofPieces entry.pieces) total
    | _ => total) 0

end Weights

/-- Whether a value is already as it will be read, without references, white
space other than spaces, and spaces that reducing would drop. -/
def isPlainValue (value : List Char) : Bool :=
  !value.any ['&', '\r', '\n', '\t'].contains && reduceSpaces value == value

/-- The bytes that are read twice: in a tag that does not close its element, the
values that are not plain. -/
def rereadSize (encoding : Encoding) (tokens : List Token) : Nat :=
  tokens.foldl (fun total token =>
    match token with
    | .opening _ attributes false =>
        attributes.foldl (fun total entry =>
          if isPlainValue entry.spelling then total
          else total + encoding.size entry.spelling) total
    | _ => total) 0

/-- Bytes that no document of a size can bring in tolerably, even if all of it is
read twice. -/
def Declarations.limit (declarations : Declarations) : Nat :=
  max Volume.threshold (200 * declarations.size) + 1

/-- The entities among some pieces. -/
def namesInPieces (pieces : List Piece) : List (List Char) :=
  pieces.filterMap fun piece =>
    match piece with
    | .char _ => none
    | .entity name => some name

/-- The entities among some tokens. -/
def namesInTokens (tokens : List Token) : List (List Char) :=
  tokens.flatMap fun token =>
    match token with
    | .entity name => [name]
    | .opening _ attributes _ => attributes.flatMap fun entry => namesInPieces entry.pieces
    | _ => []

/-- Weigh an entity after those in its text, each of them once.  While its text
is looked through, it counts as too heavy, so that no entity that is met within
itself can be put in. -/
def Declarations.weigh (declarations : Declarations) : (depth : Nat) → Weights → List Char →
    Weights
  | 0, weights, _ => weights
  | depth + 1, weights, name =>
      if (weights.lookup name).isSome then weights
      else
        match declarations.entity? name with
        | some (.within text) =>
            let tokens := (tokensOfText text).getD []
            let pieces := (piecesOfValue .entity text).getD []
            let limit := declarations.limit
            let weights := (namesInTokens tokens ++ namesInPieces pieces).foldl
              (declarations.weigh depth) ((name, ⟨limit, limit⟩) :: weights)
            let size := Encoding.utf8.size text
            let content := size + weights.ofTokens tokens + rereadSize .utf8 tokens
            (name, ⟨min limit content, min limit (size + weights.ofPieces pieces)⟩) :: weights
        | _ => weights

/-- The weights of the declared entities. -/
def Declarations.weights (declarations : Declarations) : Weights :=
  declarations.entities.foldl
    (fun weights entity => declarations.weigh declarations.depth weights entity.1) []

/-! ## Documents -/

/-- Whether a document stays tolerable while its content is read. -/
def staysTolerable (encoding : Encoding) (weights : Weights) (size : Nat) :
    (steps reread added : Nat) → List Char → Bool
  | 0, _, _, _ => true
  | steps + 1, reread, added, chars =>
      let volume : Volume := ⟨size - encoding.size chars + reread, added⟩
      match takePart (.document encoding) steps chars with
      | none => volume.isTolerable
      | some (tokens, rest) =>
          let reread := reread + rereadSize encoding tokens
          let added := added + weights.ofTokens tokens
          volume.staysTolerable (size - encoding.size rest + reread) &&
            (chars.isEmpty || staysTolerable encoding weights size steps reread added rest)

/-- Whether an element with some tokens, at the beginning of a text, is in
proportion to its document.  Predeclared entities alone bring in less than their
references take. -/
def isTolerable (encoding : Encoding) (declarations : Declarations) (tokens : List Token)
    (chars : List Char) : Bool :=
  declarations.entities.isEmpty ||
    let weights := declarations.weights
    decide (100 * (declarations.added + weights.ofTokens tokens) ≤ 99 * Volume.threshold) ||
      staysTolerable encoding weights declarations.size (chars.length + 1) 0 declarations.added chars

end Markup
end Worksheet
