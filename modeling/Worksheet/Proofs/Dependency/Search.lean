import Worksheet.Proofs.Dependency.Loop
import Worksheet.Proofs.Dependency.Readers

namespace Worksheet

/-!
# The search for loops step by step

The search needs no recursion if it keeps a stack: the cells of the branch, the
innermost on top, each with those of its tokens that have not been followed yet.  A
step follows one token or, when the innermost cell has none left, finishes that cell.

The steps are established to end, and to end with the answer of the recursive search.
There is a fixed amount of work in a grid: to finish every cell and to follow every
token once.  Each step does one piece of it, since no cell enters the stack a second
time.  An answer of yes comes from a token that leads back into the branch.  An answer
of no comes when everything is finished, and finished cells meet no loop, because
their sources were finished before them.
-/

variable {size : Size}

/-- A cell of the branch with the tokens of it that are still to be followed. -/
structure Opened (size : Size) where
  cell : Position size
  tokens : List String

/-- The branch of a search, the innermost cell first, and the finished cells. -/
structure Search (size : Size) where
  stack : List (Opened size)
  finished : List (Position size)

namespace Search

/-- What comes of a step. -/
inductive Result (size : Size) where
  | goesOn (next : Search size)
  | answers (loop : Bool)

def branch (search : Search size) : List (Position size) :=
  search.stack.map Opened.cell

variable (grid : Grid size)

/-- The search before its first step. -/
def start (position : Position size) : Search size :=
  ⟨[⟨position, (grid.get position).references⟩], []⟩

/-- Follow one token of the innermost cell, or finish the cell.  A token that names no
cell of the grid or a finished one is passed over. -/
def step : Search size → Result size
  | ⟨[], _⟩ => .answers false
  | ⟨⟨cell, []⟩ :: stack, finished⟩ => .goesOn ⟨stack, cell :: finished⟩
  | ⟨⟨cell, token :: tokens⟩ :: stack, finished⟩ =>
      match size.resolve? token with
      | none => .goesOn ⟨⟨cell, tokens⟩ :: stack, finished⟩
      | some source =>
          if finished.contains source then .goesOn ⟨⟨cell, tokens⟩ :: stack, finished⟩
          else if (cell :: stack.map Opened.cell).contains source then .answers true
          else
            .goesOn ⟨⟨source, (grid.get source).references⟩ :: ⟨cell, tokens⟩ :: stack, finished⟩

/-- The answer, if it comes within the given number of steps. -/
def run : (steps : Nat) → Search size → Option Bool
  | 0, _ => none
  | steps + 1, search =>
      match search.step grid with
      | .goesOn next => next.run steps
      | .answers loop => some loop

end Search

/-! ## The work in a grid -/

namespace Grid

/-- To follow all tokens of some cells and to finish the cells. -/
def workOf (grid : Grid size) : List (Position size) → Nat
  | [] => 0
  | cell :: later => (grid.get cell).references.length + 1 + grid.workOf later

variable (grid : Grid size)

theorem workOf_filter_le (fewer more : Position size → Bool) (cells : List (Position size))
    (still : ∀ cell, fewer cell = true → more cell = true) :
    grid.workOf (cells.filter fewer) ≤ grid.workOf (cells.filter more) := by
  induction cells with
  | nil => exact Nat.le_refl 0
  | cons first later hypothesis =>
    rw [List.filter_cons, List.filter_cons]
    by_cases few : fewer first = true
    · rw [if_pos few, if_pos (still first few), workOf, workOf]
      omega
    · rw [if_neg few]
      split
      · rw [workOf]
        omega
      · exact hypothesis

/-- There is less work without a cell, by what there is to do about that cell. -/
theorem workOf_filter_add_le (fewer more : Position size → Bool) {cells : List (Position size)}
    {cell : Position size} (member : cell ∈ cells)
    (still : ∀ other, fewer other = true → more other = true)
    (before : more cell = true) (after : fewer cell = false) :
    (grid.get cell).references.length + 1 + grid.workOf (cells.filter fewer) ≤
      grid.workOf (cells.filter more) := by
  induction cells with
  | nil => cases member
  | cons first later hypothesis =>
    rw [List.filter_cons, List.filter_cons]
    rcases List.mem_cons.mp member with same | behind
    · subst first
      rw [if_pos before, if_neg (by simp [after]), workOf]
      have rest := grid.workOf_filter_le fewer more later still
      omega
    · have rest := hypothesis behind
      by_cases few : fewer first = true
      · rw [if_pos few, if_pos (still first few), workOf, workOf]
        omega
      · rw [if_neg few]
        split
        · rw [workOf]
          omega
        · exact rest

end Grid

namespace Search

/-- To follow what the cells of a stack have left and to finish these cells. -/
def workOnStack : List (Opened size) → Nat
  | [] => 0
  | opened :: below => opened.tokens.length + 1 + workOnStack below

/-- Whether the search has not come to a cell yet. -/
def misses (search : Search size) (cell : Position size) : Bool :=
  !search.branch.contains cell && !search.finished.contains cell

theorem misses_iff {search : Search size} {cell : Position size} :
    search.misses cell = true ↔ cell ∉ search.branch ∧ cell ∉ search.finished := by
  simp only [misses, Bool.and_eq_true, Bool.not_eq_true', ← Bool.not_eq_true,
    List.contains_iff_mem]

/-- The work that is left to a search. -/
def work (grid : Grid size) (search : Search size) : Nat :=
  workOnStack search.stack + grid.workOf (size.positions.filter search.misses)

theorem work_start_le (grid : Grid size) (position : Position size) :
    (start grid position).work grid ≤ grid.workOf size.positions := by
  have whole := grid.workOf_filter_add_le (start grid position).misses (fun _ => true)
    (size.mem_positions position) (fun _ _ => rfl) rfl (by simp [misses, start, branch])
  rw [List.filter_true] at whole
  simp only [work, start, workOnStack]
  simp only [start] at whole
  omega

/-! ## What every step keeps -/

/-- The search from a position is on its way: everything on the branch leads further
in, what a cell of it reads is finished, next on the branch or still to be followed,
and no finished cell meets a loop. -/
structure IsSound (grid : Grid size) (position : Position size) (search : Search size) : Prop where
  begun : position ∈ search.branch ∨ position ∈ search.finished
  reached : ∀ cell ∈ search.branch, grid.Reaches position cell
  linked : search.branch.Pairwise fun inner outer => Relation.TransGen grid.Reads outer inner
  own : ∀ opened ∈ search.stack, ∀ token ∈ opened.tokens,
    token ∈ (grid.get opened.cell).references
  followed : ∀ above opened below, search.stack = above ++ opened :: below →
    ∀ source, grid.Reads opened.cell source → source ∈ search.finished ∨
      source ∈ above.map Opened.cell ∨ ∃ token ∈ opened.tokens, size.resolve? token = some source
  clean : ∀ cell ∈ search.finished, ¬ grid.MeetsLoop cell

variable {grid : Grid size} {position : Position size}

theorem isSound_start (grid : Grid size) (position : Position size) :
    (start grid position).IsSound grid position where
  begun := .inl List.mem_cons_self
  reached cell member := by
    rw [List.mem_singleton.mp member]
    exact .refl
  linked := List.pairwise_singleton _ _
  own opened member := by
    rw [List.mem_singleton.mp member]
    exact fun token listed => listed
  followed above opened below split source reads := by
    obtain ⟨rfl, same⟩ | ⟨_, _, absurd⟩ := List.cons_eq_append_iff.mp split
    · cases same
      exact .inr (.inr (Grid.mem_sources.mp reads))
    · cases (List.append_eq_nil_iff.mp absurd.symm).2
  clean cell member := nomatch member

namespace IsSound

section Moving

variable {cell : Position size} {token : String} {tokens : List String}
  {stack : List (Opened size)} {finished : List (Position size)}

/-- The entry on top of a stack, or one below it. -/
private theorem split_cons {opened first : Opened size} {above below rest : List (Opened size)}
    (split : first :: rest = above ++ opened :: below) :
    (above = [] ∧ first = opened ∧ rest = below) ∨
      ∃ others, above = first :: others ∧ rest = others ++ opened :: below := by
  cases above with
  | nil =>
    cases split
    exact .inl ⟨rfl, rfl, rfl⟩
  | cons head others =>
    cases split
    exact .inr ⟨others, rfl, rfl⟩

/-- The next token of the innermost cell is read by that cell. -/
theorem reads (sound : IsSound grid position ⟨⟨cell, token :: tokens⟩ :: stack, finished⟩)
    {source : Position size} (resolved : size.resolve? token = some source) :
    grid.Reads cell source :=
  Grid.mem_sources.mpr
    ⟨token, sound.own _ List.mem_cons_self token List.mem_cons_self, resolved⟩

/-- A token is passed over if it names nothing that is not finished. -/
theorem pass (sound : IsSound grid position ⟨⟨cell, token :: tokens⟩ :: stack, finished⟩)
    (settled : ∀ source, size.resolve? token = some source → source ∈ finished) :
    IsSound grid position ⟨⟨cell, tokens⟩ :: stack, finished⟩ where
  begun := sound.begun
  reached := sound.reached
  linked := sound.linked
  own opened member := by
    rcases List.mem_cons.mp member with same | below
    · subst opened
      intro other listed
      exact sound.own _ List.mem_cons_self other (List.mem_cons_of_mem token listed)
    · exact sound.own opened (List.mem_cons_of_mem _ below)
  followed above opened below split source reads := by
    rcases split_cons split with ⟨rfl, rfl, rfl⟩ | ⟨others, rfl, rest⟩
    · rcases sound.followed [] _ _ rfl source reads with done | ⟨⟨⟩⟩ | ⟨other, listed, resolved⟩
      · exact .inl done
      · rcases List.mem_cons.mp listed with same | left
        · exact .inl (settled source (same ▸ resolved))
        · exact .inr (.inr ⟨other, left, resolved⟩)
    · exact sound.followed (⟨cell, token :: tokens⟩ :: others) opened below (by rw [rest]; rfl)
        source reads
  clean := sound.clean

/-- The innermost cell is finished when it has no token left: all that it reads was
finished before. -/
theorem finish (sound : IsSound grid position ⟨⟨cell, []⟩ :: stack, finished⟩) :
    IsSound grid position ⟨stack, cell :: finished⟩ where
  begun := by
    rcases sound.begun with branch | done
    · rcases List.mem_cons.mp branch with same | below
      · exact .inr (same ▸ List.mem_cons_self)
      · exact .inl below
    · exact .inr (List.mem_cons_of_mem cell done)
  reached other member := sound.reached other (List.mem_cons_of_mem cell member)
  linked := (List.pairwise_cons.mp sound.linked).2
  own opened member := sound.own opened (List.mem_cons_of_mem _ member)
  followed above opened below split source reads := by
    rcases sound.followed (⟨cell, []⟩ :: above) opened below (congrArg _ split) source reads with
      done | next | left
    · exact .inl (List.mem_cons_of_mem cell done)
    · rcases List.mem_cons.mp next with same | further
      · exact .inl (same ▸ List.mem_cons_self)
      · exact .inr (.inl further)
    · exact .inr (.inr left)
  clean other member := by
    rcases List.mem_cons.mp member with same | before
    · subst other
      intro meets
      obtain ⟨source, reads, further⟩ := meets.exists_source
      rcases sound.followed [] _ _ rfl source reads with done | ⟨⟨⟩⟩ | ⟨_, ⟨⟩, _⟩
      exact sound.clean source done further
    · exact sound.clean other before

/-- A cell that has not been met enters the stack. -/
theorem enter (sound : IsSound grid position ⟨⟨cell, token :: tokens⟩ :: stack, finished⟩)
    {source : Position size} (resolved : size.resolve? token = some source) :
    IsSound grid position
      ⟨⟨source, (grid.get source).references⟩ :: ⟨cell, tokens⟩ :: stack, finished⟩ where
  begun := sound.begun.imp_left (List.mem_cons_of_mem source)
  reached other member := by
    rcases List.mem_cons.mp member with same | below
    · rw [same]
      exact (sound.reached cell List.mem_cons_self).tail (sound.reads resolved)
    · exact sound.reached other below
  linked := by
    refine List.pairwise_cons.mpr ⟨fun outer member => ?_, sound.linked⟩
    rcases List.mem_cons.mp member with same | below
    · rw [same]
      exact .single (sound.reads resolved)
    · exact .tail ((List.pairwise_cons.mp sound.linked).1 outer below) (sound.reads resolved)
  own opened member := by
    rcases List.mem_cons.mp member with same | below
    · subst opened
      exact fun _ listed => listed
    · rcases List.mem_cons.mp below with same | further
      · subst opened
        intro other listed
        exact sound.own _ List.mem_cons_self other (List.mem_cons_of_mem token listed)
      · exact sound.own opened (List.mem_cons_of_mem _ further)
  followed above opened below split next reads := by
    rcases split_cons split with ⟨rfl, rfl, _⟩ | ⟨others, rfl, rest⟩
    · exact .inr (.inr (Grid.mem_sources.mp reads))
    · rcases split_cons rest with ⟨rfl, rfl, rfl⟩ | ⟨further, rfl, deeper⟩
      · rcases sound.followed [] _ _ rfl next reads with done | ⟨⟨⟩⟩ | ⟨other, listed, named⟩
        · exact .inl done
        · rcases List.mem_cons.mp listed with same | left
          · rw [same, resolved] at named
            cases named
            exact .inr (.inl List.mem_cons_self)
          · exact .inr (.inr ⟨other, left, named⟩)
      · rcases sound.followed (⟨cell, token :: tokens⟩ :: further) opened below
          (by rw [deeper]; rfl) next reads with done | above | left
        · exact .inl done
        · exact .inr (.inl (List.mem_cons_of_mem source above))
        · exact .inr (.inr left)
  clean := sound.clean

/-- A token that leads back into the branch closes a loop. -/
theorem meetsLoop (sound : IsSound grid position ⟨⟨cell, token :: tokens⟩ :: stack, finished⟩)
    {source : Position size} (resolved : size.resolve? token = some source)
    (again : source ∈ cell :: stack.map Opened.cell) : grid.MeetsLoop position := by
  refine ⟨source, sound.reached source again, ?_⟩
  rcases List.mem_cons.mp again with same | below
  · subst source
    exact .single (sound.reads resolved)
  · exact .tail ((List.pairwise_cons.mp sound.linked).1 source below) (sound.reads resolved)

end Moving

/-- A step keeps the search on its way and does one piece of the work. -/
theorem next {search next : Search size} (sound : search.IsSound grid position)
    (moved : search.step grid = .goesOn next) :
    next.IsSound grid position ∧ next.work grid < search.work grid := by
  obtain ⟨stack, finished⟩ := search
  cases stack with
  | nil => cases moved
  | cons top stack =>
    obtain ⟨cell, tokens⟩ := top
    have passes : ∀ {token : String} {tokens : List String},
        work grid ⟨⟨cell, tokens⟩ :: stack, finished⟩ <
          work grid ⟨⟨cell, token :: tokens⟩ :: stack, finished⟩ := by
      intro token tokens
      refine Nat.add_lt_add_right ?_ _
      simp only [workOnStack, List.length_cons]
      omega
    cases tokens with
    | nil =>
      cases moved
      refine ⟨sound.finish, ?_⟩
      have fewer := grid.workOf_filter_le (misses ⟨stack, cell :: finished⟩)
        (misses ⟨⟨cell, []⟩ :: stack, finished⟩) size.positions fun other missed => by
          have missed := misses_iff.mp missed
          refine misses_iff.mpr ⟨fun member => ?_, fun member => ?_⟩
          · rcases List.mem_cons.mp member with same | below
            · exact missed.2 (same ▸ List.mem_cons_self)
            · exact missed.1 below
          · exact missed.2 (List.mem_cons_of_mem cell member)
      simp only [work, workOnStack]
      omega
    | cons token tokens =>
      simp only [step, List.contains_iff_mem] at moved
      split at moved
      · next unresolved =>
        cases moved
        refine ⟨sound.pass fun source resolved => ?_, passes⟩
        rw [unresolved] at resolved
        cases resolved
      · next source resolved =>
        split at moved
        · next done =>
          cases moved
          refine ⟨sound.pass fun other named => ?_, passes⟩
          rw [resolved] at named
          cases named
          exact done
        · next unfinished =>
          split at moved
          · cases moved
          · next fresh =>
            cases moved
            refine ⟨sound.enter resolved, ?_⟩
            have fewer := grid.workOf_filter_add_le
              (misses ⟨⟨source, (grid.get source).references⟩ :: ⟨cell, tokens⟩ :: stack, finished⟩)
              (misses ⟨⟨cell, token :: tokens⟩ :: stack, finished⟩)
              (size.mem_positions source)
              (fun other missed => by
                have missed := misses_iff.mp missed
                exact misses_iff.mpr
                  ⟨fun member => missed.1 (List.mem_cons_of_mem source member), missed.2⟩)
              (misses_iff.mpr ⟨fresh, unfinished⟩)
              (by simp [misses, branch])
            simp only [work, workOnStack, List.length_cons]
            omega

/-- The answer is right. -/
theorem answers {search : Search size} {loop : Bool} (sound : search.IsSound grid position)
    (ended : search.step grid = .answers loop) : loop = true ↔ grid.MeetsLoop position := by
  obtain ⟨stack, finished⟩ := search
  cases stack with
  | nil =>
    cases ended
    have done := sound.begun.resolve_left List.not_mem_nil
    exact iff_of_false Bool.false_ne_true (sound.clean position done)
  | cons top stack =>
    obtain ⟨cell, tokens⟩ := top
    cases tokens with
    | nil => cases ended
    | cons token tokens =>
      simp only [step, List.contains_iff_mem] at ended
      split at ended
      · cases ended
      · next source resolved =>
        split at ended
        · cases ended
        · split at ended
          · next again =>
            cases ended
            exact iff_of_true rfl (sound.meetsLoop resolved again)
          · cases ended

/-- A search on its way answers before its work runs out. -/
theorem exists_run {search : Search size} (sound : search.IsSound grid position) {steps : Nat}
    (enough : search.work grid < steps) :
    ∃ loop, search.run grid steps = some loop ∧ (loop = true ↔ grid.MeetsLoop position) := by
  induction steps generalizing search with
  | zero => exact absurd enough (Nat.not_lt_zero _)
  | succ steps hypothesis =>
    rw [run]
    cases moved : search.step grid with
    | answers loop => exact ⟨loop, rfl, sound.answers moved⟩
    | goesOn next =>
      obtain ⟨soundNext, less⟩ := sound.next moved
      exact hypothesis soundNext (by omega)

end IsSound

/-- In any grid the search from any cell ends, after no more steps than there are cells
to finish and tokens to follow, and one.  Its answer is that of the recursive search,
and it is yes exactly when some cell that is reached from the start, by no or more
references, lies on a loop of one or more references. -/
theorem run_start_eq_leadsIntoLoop (grid : Grid size) (position : Position size) :
    (start grid position).run grid (grid.workOf size.positions + 1) =
        some (grid.leadsIntoLoop position) ∧
      (grid.leadsIntoLoop position = true ↔
        ∃ passed, Relation.ReflTransGen grid.Reads position passed ∧
          Relation.TransGen grid.Reads passed passed) := by
  obtain ⟨loop, ended, exact_⟩ := (isSound_start grid position).exists_run
    (Nat.lt_succ_of_le (work_start_le grid position))
  have same : loop = grid.leadsIntoLoop position :=
    Bool.eq_iff_iff.mpr (exact_.trans Grid.leadsIntoLoop_eq_true_iff.symm)
  exact ⟨by rw [ended, same], Grid.leadsIntoLoop_eq_true_iff⟩

end Search
end Worksheet
