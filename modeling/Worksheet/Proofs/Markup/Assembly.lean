import Worksheet.Markup.Element
import Worksheet.Proofs.Markup.Lexing

namespace Worksheet
namespace Markup

/-!
# Assembling what was written

The tokens of a plain tree are assembled to that tree again, except that every
text comes back in its stretches.  Nothing that is read of a tree depends on how
its texts are divided: its attributes, its elements and the text before its first
element stay the same.

No attribute may have been declared, since a declared one may have a default
value.  Declared entities do no harm.
-/

variable {source : Source}

/-! ## Trees as they are read -/

mutual

/-- What is read of a node: a text in its stretches, an element as one node. -/
def Node.divide : Node → List Node
  | .text stretch => (stretches stretch.toList).map fun chars => .text (String.ofList chars)
  | .element tag attributes content => [.element tag attributes (Node.divideAll content)]

def Node.divideAll : List Node → List Node
  | [] => []
  | node :: later => node.divide ++ Node.divideAll later

end

/-- A tree whose texts are divided into their stretches. -/
def Node.divided : Node → Node
  | .text stretch => .text stretch
  | .element tag attributes content => .element tag attributes (Node.divideAll content)

namespace Node

variable (node : Node)

theorem tag_divided : node.divided.tag = node.tag := by
  cases node <;> rfl

theorem attribute?_divided (name : String) :
    node.divided.attribute? name = node.attribute? name := by
  cases node <;> rfl

theorem charsBeforeElements_append_texts (texts : List (List Char)) (later : List Node) :
    charsBeforeElements (texts.map (fun chars => .text (String.ofList chars)) ++ later) =
      texts.flatten ++ charsBeforeElements later := by
  induction texts with
  | nil => rfl
  | cons first others hypothesis =>
    rw [List.map_cons, List.cons_append, charsBeforeElements, hypothesis, String.toList_ofList,
      List.flatten_cons, List.append_assoc]

theorem charsBeforeElements_divideAll (content : List Node) :
    charsBeforeElements (divideAll content) = charsBeforeElements content := by
  induction content with
  | nil => rfl
  | cons first later hypothesis =>
    cases first with
    | text stretch =>
      rw [divideAll, divide, charsBeforeElements_append_texts, hypothesis, flatten_stretches,
        charsBeforeElements]
    | element tag attributes content => rfl

theorem leadingText_divided : node.divided.leadingText = node.leadingText := by
  cases node with
  | text stretch => rfl
  | element tag attributes content =>
    exact congrArg String.ofList (charsBeforeElements_divideAll content)

theorem filter_divideAll (name : String) (content : List Node) :
    (divideAll content).filter (isElementWith name) =
      (content.filter (isElementWith name)).map divided := by
  induction content with
  | nil => rfl
  | cons first later hypothesis =>
    rw [divideAll, List.filter_append, hypothesis]
    cases first with
    | text stretch =>
      have noElement : (divide (.text stretch)).filter (isElementWith name) = [] := by
        rw [List.filter_eq_nil_iff]
        intro found member
        obtain ⟨chars, _, same⟩ := List.mem_map.mp member
        subst found
        exact Bool.false_ne_true
      rw [noElement]
      rfl
    | element tag attributes content =>
      by_cases named : isElementWith name (.element tag attributes content) = true
      · rw [List.filter_cons_of_pos named, divide, List.filter_cons_of_pos (by exact named)]
        rfl
      · rw [List.filter_cons_of_neg named, divide, List.filter_cons_of_neg (by exact named)]
        rfl

theorem children_divided (name : String) :
    node.divided.children name = (node.children name).map divided := by
  cases node with
  | text stretch => rfl
  | element tag attributes content => exact filter_divideAll name content

end Node

/-! ## References in texts -/

/-- A token with a reference to a predeclared entity put in. -/
def Token.expanded : Token → List Token
  | .entity name =>
      match predeclared? name with
      | some char => [.text [char]]
      | none => []
  | token => [token]

/-- Whether a token refers to no entity but a predeclared one. -/
def Token.IsPredeclared (token : Token) : Prop :=
  ∀ name, token = .entity name → (predeclared? name).isSome = true

/-- A partial function that answers for every element answers for the list. -/
theorem mapM_eq_some_of_forall {α β : Type} {step : α → Option β} {elements : List α}
    (result : α → β) (each : ∀ element ∈ elements, step element = some (result element)) :
    elements.mapM step = some (elements.map result) := by
  induction elements with
  | nil => rfl
  | cons first later hypothesis =>
    rw [List.mapM_cons, each first List.mem_cons_self,
      hypothesis fun element member => each element (List.mem_cons_of_mem first member)]
    rfl

theorem expandTokens_of_isPredeclared (declarations : Declarations) {tokens : List Token}
    (all : ∀ token ∈ tokens, token.IsPredeclared) (depth : Nat) :
    expandTokens declarations (depth + 1) tokens = some (tokens.flatMap Token.expanded) := by
  rw [expandTokens, mapM_eq_some_of_forall Token.expanded, List.flatMap_def]
  · rfl
  · intro token member
    cases token with
    | entity name =>
      obtain ⟨char, found⟩ := Option.isSome_iff_exists.mp (all _ member name rfl)
      simp only [Declarations.entity?, found, Token.expanded]
    | text chars => rfl
    | opening name attributes closed => rfl
    | closing spelling => rfl

theorem predeclared?_of_referenceName? {char : Char} {name : List Char}
    (found : referenceName? char = some name) : predeclared? name = some char := by
  unfold referenceName? at found
  split at found <;> cases found <;> rfl

theorem isPredeclared_stretchToken (stretch : List Char) :
    (stretchToken stretch).IsPredeclared ∧ (stretchToken stretch).expanded = [.text stretch] := by
  unfold stretchToken
  split
  · next char =>
    split
    · next name found =>
      have predeclared := predeclared?_of_referenceName? found
      constructor
      · rintro other ⟨⟩
        rw [predeclared]
        rfl
      · simp only [Token.expanded, predeclared]
    · exact ⟨fun name same => (nomatch same), rfl⟩
  · exact ⟨fun name same => (nomatch same), rfl⟩

/-- The tokens of a text with the references put in. -/
def expandedTokens (chars : List Char) : List Token :=
  (stretches chars).map .text

theorem isPredeclared_textTokens (chars : List Char) :
    (∀ token ∈ textTokens chars, token.IsPredeclared) ∧
      (textTokens chars).flatMap Token.expanded = expandedTokens chars := by
  constructor
  · intro token member
    obtain ⟨stretch, _, same⟩ := List.mem_map.mp member
    exact same ▸ (isPredeclared_stretchToken stretch).1
  · unfold textTokens expandedTokens
    induction stretches chars with
    | nil => rfl
    | cons first later hypothesis =>
      rw [List.map_cons, List.flatMap_cons, hypothesis, (isPredeclared_stretchToken first).2]
      rfl

mutual

theorem Node.isPredeclared_tokens : ∀ node : Node,
    (∀ token ∈ node.tokens textTokens, token.IsPredeclared) ∧
      (node.tokens textTokens).flatMap Token.expanded = node.tokens expandedTokens
  | .text stretch => isPredeclared_textTokens stretch.toList
  | .element tag attributes content => by
    obtain ⟨all, expanded⟩ := Node.isPredeclared_tokensOf content
    simp only [Node.tokens]
    constructor
    · intro token member
      rcases List.mem_cons.mp member with opening | rest
      · subst token
        exact fun name same => nomatch same
      · rcases List.mem_append.mp rest with within | closing
        · exact all token within
        · rw [List.mem_singleton.mp closing]
          exact fun name same => nomatch same
    · rw [List.flatMap_cons, List.flatMap_append, expanded]
      rfl

theorem Node.isPredeclared_tokensOf : ∀ nodes : List Node,
    (∀ token ∈ Node.tokensOf textTokens nodes, token.IsPredeclared) ∧
      (Node.tokensOf textTokens nodes).flatMap Token.expanded = Node.tokensOf expandedTokens nodes
  | [] => ⟨fun _ member => (nomatch member), rfl⟩
  | node :: later => by
    obtain ⟨all, expanded⟩ := Node.isPredeclared_tokens node
    obtain ⟨allLater, expandedLater⟩ := Node.isPredeclared_tokensOf later
    simp only [Node.tokensOf]
    constructor
    · intro token member
      rcases List.mem_append.mp member with here | behind
      · exact all token here
      · exact allLater token behind
    · rw [List.flatMap_append, expanded, expandedLater]

end

theorem expandContent_tokens (declarations : Declarations) (node : Node) :
    expandContent declarations (node.tokens textTokens) = some (node.tokens expandedTokens) := by
  obtain ⟨all, expanded⟩ := node.isPredeclared_tokens
  rw [expandContent, expandTokens_of_isPredeclared declarations all, expanded]

/-! ## Elements -/

theorem eraseDups_of_nodup {α : Type} [BEq α] [LawfulBEq α] {elements : List α}
    (distinct : elements.Nodup) : elements.eraseDups = elements := by
  induction elements with
  | nil => rfl
  | cons first later hypothesis =>
    rw [List.nodup_cons] at distinct
    have kept : later.filter (fun other => !other == first) = later := by
      rw [List.filter_eq_self]
      intro other member
      rw [Bool.not_eq_true', beq_eq_false_iff_ne]
      rintro rfl
      exact distinct.1 member
    rw [List.eraseDups_cons, kept, hypothesis distinct.2]

theorem expandPieces_chars (declarations : Declarations) (depth : Nat) (chars : List Char) :
    expandPieces declarations (depth + 1) (chars.map .char) = some chars := by
  rw [expandPieces, List.mapM_map, mapM_eq_some_of_forall fun char => [char]]
  · exact congrArg some (List.flatMap_singleton' chars)
  · exact fun char _ => rfl

section Opening

variable {declarations : Declarations} {attributes : List (String × String)}

/-- The name and the value of an attribute without a qualifier. -/
def attributeEntry (entry : String × String) : QualifiedName × List Char :=
  (⟨none, entry.1.toList⟩, entry.2.toList)

theorem nodup_names (distinct : (attributes.map Prod.fst).Nodup) :
    ((attributes.map rawAttribute).map RawAttribute.name).Nodup := by
  have names : (attributes.map rawAttribute).map RawAttribute.name =
      (attributes.map Prod.fst).map fun name => ⟨none, name.toList⟩ := by
    rw [List.map_map, List.map_map]
    rfl
  rw [names]
  refine List.Pairwise.map _ ?_ distinct
  intro first second different same
  exact different (String.toList_injective (QualifiedName.mk.inj same).2)

theorem attributeValues_rawAttribute (undeclared : declarations.attributes = [])
    (distinct : (attributes.map Prod.fst).Nodup) (name : QualifiedName) :
    attributeValues declarations name (attributes.map rawAttribute) =
      some (attributes.map attributeEntry) := by
  have noDefault : declarations.defaults name.spelling = [] := by
    rw [Declarations.defaults, undeclared]
    rfl
  have given : (attributes.map rawAttribute).mapM (fun entry => do
      let value ← expandValue declarations entry.pieces
      let reduced :=
        ((declarations.attribute? name.spelling entry.name).map (·.reduced)).getD false
      return (entry.name, if reduced then reduceSpaces value else value)) =
        some (attributes.map attributeEntry) := by
    rw [List.mapM_map]
    apply mapM_eq_some_of_forall
    intro entry _
    have value : expandValue declarations (rawAttribute entry).pieces = some entry.2.toList :=
      expandPieces_chars declarations _ entry.2.toList
    rw [Function.comp_apply, value, Declarations.attribute?, undeclared]
    rfl
  rw [attributeValues, eraseDups_of_nodup (nodup_names distinct)]
  simp only [ne_eq, not_true_eq_false, if_false, given, noDefault]
  exact congrArg some (List.append_nil _)

theorem boundQualifier?_attributeEntry {entry : String × String}
    (plain : IsPlainAttribute source entry) : boundQualifier? (attributeEntry entry).1 = none :=
  if_neg plain.binds_nothing

theorem extend_attributeEntry (scope : Scope)
    (plain : ∀ entry ∈ attributes, IsPlainAttribute source entry) :
    scope.extend (attributes.map attributeEntry) = some scope := by
  induction attributes with
  | nil => rfl
  | cons first later hypothesis =>
    have free := boundQualifier?_attributeEntry (plain first List.mem_cons_self)
    rw [List.map_cons, attributeEntry, Scope.extend]
    rw [attributeEntry] at free
    simp only [free]
    exact hypothesis fun entry member => plain entry (List.mem_cons_of_mem first member)

theorem attributes?_attributeEntry (scope : Scope)
    (plain : ∀ entry ∈ attributes, IsPlainAttribute source entry)
    (distinct : (attributes.map Prod.fst).Nodup) :
    scope.attributes? (attributes.map attributeEntry) = some attributes := by
  have free : (attributes.map attributeEntry).filter (fun entry =>
      (boundQualifier? entry.1).isNone) = attributes.map attributeEntry := by
    rw [List.filter_eq_self]
    intro entry member
    obtain ⟨given, listed, same⟩ := List.mem_map.mp member
    rw [← same, boundQualifier?_attributeEntry (plain given listed)]
    rfl
  have named : (attributes.map attributeEntry).mapM (fun entry =>
      (scope.attributeName? entry.1).map fun name => (name, String.ofList entry.2)) =
        some attributes := by
    rw [List.mapM_map, mapM_eq_some_of_forall id, List.map_id]
    intro entry _
    simp only [Function.comp_apply, attributeEntry, Scope.attributeName?, Option.map_some,
      String.ofList_toList, id]
  rw [Scope.attributes?, free, named]
  simp only [Option.bind_eq_bind, Option.bind_some, eraseDups_of_nodup distinct, if_true]

theorem openElement_rawAttribute (undeclared : declarations.attributes = [])
    (plain : ∀ entry ∈ attributes, IsPlainAttribute source entry)
    (distinct : (attributes.map Prod.fst).Nodup) (tag : String) :
    openElement declarations Scope.outermost ⟨none, tag.toList⟩ (attributes.map rawAttribute) =
      some ⟨tag.toList, tag, attributes, Scope.outermost, []⟩ := by
  have tagged : Scope.outermost.tag? ⟨none, tag.toList⟩ = some tag :=
    congrArg some (String.ofList_toList)
  rw [openElement, attributeValues_rawAttribute undeclared distinct]
  simp only [Option.bind_eq_bind, Option.bind_some, extend_attributeEntry _ plain, tagged,
    attributes?_attributeEntry _ plain distinct]
  rfl

end Opening

/-! ## Trees from tokens -/

/-- Nodes are added behind the content that an element has so far. -/
def OpenElement.addAll (element : OpenElement) (nodes : List Node) : OpenElement :=
  { element with content := nodes.reverse ++ element.content }

theorem OpenElement.addAll_append (element : OpenElement) (earlier later : List Node) :
    element.addAll (earlier ++ later) = (element.addAll earlier).addAll later := by
  simp only [addAll, List.reverse_append, List.append_assoc]

theorem assemble_text (declarations : Declarations) (element : OpenElement)
    (outer : List OpenElement) (later : List Token) (texts : List (List Char)) :
    assemble declarations (element :: outer) (texts.map .text ++ later) =
      assemble declarations
        (element.addAll (texts.map fun chars => .text (String.ofList chars)) :: outer) later := by
  induction texts generalizing element with
  | nil => rfl
  | cons first others hypothesis =>
    rw [List.map_cons, List.cons_append, assemble, hypothesis]
    exact congrArg (fun added => assemble declarations (added :: outer) later)
      (OpenElement.addAll_append element [.text (String.ofList first)] _).symm

mutual

/-- The tokens of a node add what is read of it to the innermost open element. -/
theorem Node.assemble_tokens {declarations : Declarations}
    (undeclared : declarations.attributes = []) : ∀ (node : Node), node.IsPlain source →
    ∀ (element : OpenElement), element.scope = Scope.outermost →
      ∀ (outer : List OpenElement) (later : List Token),
        assemble declarations (element :: outer) (node.tokens expandedTokens ++ later) =
          assemble declarations (element.addAll node.divide :: outer) later
  | .text stretch, _, parent, _, outer, later =>
    assemble_text declarations parent outer later (stretches stretch.toList)
  | .element tag attributes content, plain, parent, unbound, outer, later => by
    obtain ⟨_, plainAttributes, distinct, plainContent⟩ := plain
    have opened := openElement_rawAttribute undeclared plainAttributes distinct tag
    have within := Node.assemble_tokensOf undeclared content plainContent
      ⟨tag.toList, tag, attributes, Scope.outermost, []⟩ rfl (parent :: outer)
      (.closing tag.toList :: later)
    simp only [Node.tokens, List.cons_append, List.append_assoc, List.nil_append]
    rw [assemble, innermostScope, unbound, opened]
    refine within.trans ?_
    rw [assemble]
    refine (if_pos rfl).trans ?_
    congr 2
    simp only [OpenElement.add, OpenElement.close, OpenElement.addAll, Node.divide,
      List.append_nil, List.reverse_reverse, List.reverse_singleton, List.singleton_append]

theorem Node.assemble_tokensOf {declarations : Declarations}
    (undeclared : declarations.attributes = []) : ∀ (nodes : List Node),
    Node.ArePlain source nodes →
    ∀ (element : OpenElement), element.scope = Scope.outermost →
      ∀ (outer : List OpenElement) (later : List Token),
        assemble declarations (element :: outer) (Node.tokensOf expandedTokens nodes ++ later) =
          assemble declarations (element.addAll (Node.divideAll nodes) :: outer) later
  | [], _, _, _, _, _ => rfl
  | node :: others, ⟨plain, _, plainOthers⟩, parent, unbound, outer, later => by
    have here := Node.assemble_tokens undeclared node plain parent unbound outer
      (Node.tokensOf expandedTokens others ++ later)
    have behind := Node.assemble_tokensOf undeclared others plainOthers (parent.addAll node.divide)
      unbound outer later
    rw [Node.tokensOf, List.append_assoc, here, behind, Node.divideAll, OpenElement.addAll_append]

end

/-- The tokens of a tree are assembled to what is read of it. -/
theorem assemble_root {declarations : Declarations} (undeclared : declarations.attributes = [])
    {tag : String} {attributes : List (String × String)} {content : List Node}
    (plain : (Node.element tag attributes content).IsPlain source) :
    assemble declarations [] ((Node.element tag attributes content).tokens expandedTokens) =
      some (Node.element tag attributes content).divided := by
  obtain ⟨_, plainAttributes, distinct, plainContent⟩ := plain
  have opened := openElement_rawAttribute undeclared plainAttributes distinct tag
  have within := Node.assemble_tokensOf undeclared content plainContent
    ⟨tag.toList, tag, attributes, Scope.outermost, []⟩ rfl [] [.closing tag.toList]
  rw [Node.tokens, assemble, innermostScope, opened]
  refine within.trans ?_
  rw [assemble]
  refine (if_pos rfl).trans ?_
  simp only [OpenElement.close, OpenElement.addAll, Node.divided, List.append_nil,
    List.reverse_reverse]

end Markup
end Worksheet
