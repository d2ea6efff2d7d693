import Worksheet.Proofs.Session.Reloading

namespace Worksheet

/-!
# A load replaces everything

What a load leaves in the cells is determined by the document.  The sheet is cleared
first, while formulas, loops and stale values are still about, and every cleared cell
starts a sweep through them.  But a sound sheet without any text is a blank one: a
cell that is no formula shows its text.  From there on each step depends on the cells
only, so that all sound sheets of a size end with the same grid.

The document itself need not be well-behaved.  It may hold several records of a cell,
of which the last one counts, and formulas with any tokens.
-/

variable {size : Size}

/-! ## What a document states about a cell -/

namespace Archive

/-- The records of a document for a cell, in their order. -/
def cellsFor (root : Markup.Node) (position : Position size) : List Markup.Node :=
  (root.children "cell").filter fun cell =>
    (cell.attribute? "name").bind size.resolve? = some position

/-- A record states what is entered into its cell.  Without a text this is the empty
one, without a color white. -/
structure States (cell : Markup.Node) (inscription : Inscription) : Prop where
  text : inscription.text =
    ((cell.children "text").head?.map Markup.Node.leadingText).getD ""
  colored : ∀ first ∈ (cell.children "bgcolor").head?,
    readCode? first.leadingText = some (inscription.color.val : Int)
  uncolored : (cell.children "bgcolor").head? = none → inscription.color = .white

/-- What is entered is stated by the last record of the cell, if there is one. -/
def StatesLast : Option Markup.Node → Inscription → Prop
  | none, inscription => inscription = Cell.blank.inscription
  | some cell, inscription => States cell inscription

theorem ofInt?_eq_some_iff {code : Int} {color : Color} :
    Color.ofInt? code = some color ↔ code = (color.val : Int) := by
  constructor
  · intro found
    unfold Color.ofInt? at found
    split at found
    · next bounds =>
      cases found
      exact (Int.toNat_of_nonneg bounds.1).symm
    · cases found
  · rintro rfl
    exact Color.ofInt?_val color

/-- The color of a record is its first one. -/
theorem coloring_of_colorOfNode {name : String} {cell : Markup.Node} {color : Color}
    (found : colorOfNode name cell = .ok color) :
    (∀ first ∈ (cell.children "bgcolor").head?,
      readCode? first.leadingText = some (color.val : Int)) ∧
    ((cell.children "bgcolor").head? = none → color = .white) := by
  rw [colorOfNode] at found
  cases colors : cell.children "bgcolor" with
  | nil =>
    rw [colors] at found
    cases found
    exact ⟨fun first member => absurd member (Option.not_mem_none first), fun _ => rfl⟩
  | cons first later =>
    rw [colors] at found
    obtain ⟨code, read, inRange⟩ := readColor_eq_ok_iff.mp found
    rw [ofInt?_eq_some_iff.mp inRange] at read
    refine ⟨fun other member => ?_, fun none => absurd none (Option.some_ne_none first)⟩
    cases Option.mem_some_iff.mp member
    exact read

/-- A record that was read is for the cell that it names, and it holds what
is stated there. -/
theorem states_of_record {cell : Markup.Node} {record : Record size}
    (found : Record.ofNode size cell = .ok record) :
    (cell.attribute? "name").bind size.resolve? = some record.position ∧
      States cell ⟨record.text, record.color⟩ := by
  rw [Record.ofNode] at found
  generalize stated : (cell.attribute? "name").getD "" = name at found
  split at found
  · cases found
  · next named =>
    cases located : size.locate name with
    | error fault =>
      rw [located] at found
      cases found
    | ok position =>
      cases colored : colorOfNode name cell with
      | error fault =>
        rw [located, colored] at found
        cases found
      | ok color =>
        rw [located, colored] at found
        cases found
        have stated : cell.attribute? "name" = some name := by
          cases given : cell.attribute? "name" with
          | none =>
            rw [given] at stated
            exact absurd stated.symm named
          | some other =>
            rw [given] at stated
            exact congrArg some stated
        obtain ⟨first, otherwise⟩ := coloring_of_colorOfNode colored
        refine ⟨?_, ?_, first, otherwise⟩
        · rw [stated]
          exact size.locate_eq_ok_iff.mp located
        · rw [textOfNode]
          cases cell.children "text" <;> rfl

/-- A list is examined up to its last element. -/
theorem exists_of_mapM_concat {ε α β : Type} {examine : α → Except ε β} {elements : List α}
    {last : α} {results : List β} (found : (elements ++ [last]).mapM examine = .ok results) :
    ∃ earlier result, elements.mapM examine = .ok earlier ∧ examine last = .ok result ∧
      results = earlier ++ [result] := by
  rw [List.mapM_append, List.mapM_cons, List.mapM_nil] at found
  cases before : elements.mapM examine with
  | error fault =>
    rw [before] at found
    cases found
  | ok earlier =>
    cases here : examine last with
    | error fault =>
      rw [before, here] at found
      cases found
    | ok result =>
      rw [before, here] at found
      cases found
      exact ⟨earlier, result, rfl, rfl, rfl⟩

/-- The last record of a cell is what counts. -/
theorem statesLast_ofRecords {root : Markup.Node} {records : List (Record size)}
    (found : ofNode size root = .ok records) (position : Position size) :
    StatesLast (cellsFor root position).getLast? (Inscriptions.ofRecords records position) := by
  rw [ofNode] at found
  split at found
  · rw [cellsFor]
    generalize root.children "cell" = cells at found
    induction cells using List.reverseRecOn generalizing records with
    | nil =>
      cases found
      rfl
    | append_singleton cells last hypothesis =>
      obtain ⟨earlier, record, before, behind, rfl⟩ := exists_of_mapM_concat found
      obtain ⟨named, states⟩ := states_of_record behind
      have entered : Inscriptions.ofRecords (earlier ++ [record]) =
          Function.update (Inscriptions.ofRecords earlier) record.position
            ⟨record.text, record.color⟩ := List.foldl_append
      rw [entered, List.filter_append, List.filter_singleton, named, Function.update_apply]
      by_cases same : record.position = position
      · simpa [same, StatesLast] using states
      · simpa [same, Ne.symm same] using hypothesis before
  · cases found

end Archive

/-! ## The grid of some records -/

namespace Grid

/-- Assign a text in a grid. -/
def assigned (grid : Grid size) (position : Position size) (text : String) : Grid size :=
  if text = (grid.get position).text then grid
  else (grid.setText position text).recalculated position

/-- Enter a record into a grid. -/
def withRecord (grid : Grid size) (record : Archive.Record size) : Grid size :=
  (grid.setColor record.position record.color).assigned record.position record.text

/-- What a blank grid becomes when records are entered and all formulas are
recomputed. -/
def ofRecords (records : List (Archive.Record size)) : Grid size :=
  (records.foldl withRecord (blank size)).evaluatedEach
    (records.foldl withRecord (blank size)).formulaCells

theorem setColor_eq_self {grid : Grid size} {position : Position size} {color : Color}
    (same : (grid.get position).color = color) : grid.setColor position color = grid := by
  apply ext
  intro other
  rw [setColor, get_set]
  split
  · next here =>
    subst other
    rw [← same]
  · rfl

/-- A sound grid without any text is blank. -/
theorem IsSound.eq_blank {grid : Grid size} (sound : grid.IsSound)
    (empty : grid.inscriptions = Inscriptions.blank size) : grid = blank size := by
  apply ext
  intro position
  have texts : ∀ other, (grid.get other).text = "" :=
    fun other => congrArg Inscription.text (congrFun empty other)
  have literal : ∀ other, (grid.get other).isFormula = false :=
    fun other => by rw [Cell.isFormula, texts]; rfl
  have plain : ∀ other, (grid.get other).isPlain = true :=
    fun other => by rw [Cell.isPlain, Cell.references, literal]; rfl
  have value : (grid.get position).value = "" := by
    rw [(sound.status position fun other _ => plain other).literal (literal position), texts]
  have color : (grid.get position).color = .white :=
    congrArg Inscription.color (congrFun empty position)
  rw [get_blank]
  calc
    grid.get position = ⟨(grid.get position).text, (grid.get position).value,
        (grid.get position).color⟩ := rfl
    _ = Cell.blank := by rw [texts, value, color]; rfl

end Grid

namespace Engine
namespace Ends

variable {grid : Grid size} {reactions : Nat}

/-- Whatever a sound session shows, nothing of it is left. -/
theorem clearAll_showing :
    Ends Session.IsSound (Engine.clearAll (Engine.announce reactions) : Engine size Unit)
      (Session.Shows (Grid.blank size)) := by
  intro session sound
  have clearing : Ends (Session.Holds session.sheet.grid.inscriptions session.sheet.history)
      (Engine.clearAll (Engine.announce reactions))
      (Session.Holds (.blank size) session.sheet.history) := clearAll
  obtain ⟨result, later, ran, holds, soundLater⟩ :=
    keeping clearing Keeps.clearAll session ⟨⟨sound.quiet.unheard, rfl, rfl⟩, sound⟩
  exact ⟨result, later, ran, soundLater, soundLater.sound.eq_blank holds.entered⟩

theorem assignText_showing (position : Position size) (text : String) :
    Ends (Session.Shows grid) (Engine.assignText (Engine.announce reactions) position text)
      (Session.Shows (grid.assigned position text)) := by
  rintro session ⟨sound, rfl⟩
  have ran := runFrom_assignText sound.quiet reactions position text
  have soundLater : ((Engine.assignText (Engine.announce reactions) position text).runFrom
      session).2.IsSound := Keeps.assignText position text session sound
  rw [ran] at soundLater
  refine ⟨(), _, ran, soundLater, ?_⟩
  rw [Session.assigned, Grid.assigned]
  split
  · rfl
  · exact Session.grid_rewritten session position text

theorem assignColor_showing (position : Position size) (color : Color) :
    Ends (Session.Shows grid) (Engine.assignColor (Engine.announce reactions) position color)
      (Session.Shows (grid.setColor position color)) := by
  rintro session ⟨sound, rfl⟩
  have ran := runFrom_assignColor sound.quiet reactions position color
  have soundLater : ((Engine.assignColor (Engine.announce reactions) position color).runFrom
      session).2.IsSound := Keeps.assignColor position color session sound
  rw [ran] at soundLater
  refine ⟨(), _, ran, soundLater, ?_⟩
  rw [Session.colored]
  split
  · next same => exact (Grid.setColor_eq_self same.symm).symm
  · rfl

theorem enterRecord_showing (record : Archive.Record size) :
    Ends (Session.Shows grid) (Engine.enterRecord (Engine.announce reactions) record)
      (Session.Shows (grid.withRecord record)) :=
  bind (assignColor_showing record.position record.color) fun _ =>
    assignText_showing record.position record.text

/-- Every sound sheet shows the same grid after some records have been entered. -/
theorem enterRecords_showing (records : List (Archive.Record size)) :
    Ends Session.IsSound (Engine.enterRecords (Engine.announce reactions) records)
      (Session.Shows (Grid.ofRecords records)) := by
  have forgetting : Ends (Session.Shows (Grid.blank size)) Engine.clearHistory
      (Session.Shows (Grid.blank size)) :=
    change fun _ shows => ⟨⟨⟨shows.sound.quiet.unheard, shows.sound.quiet.unguarded⟩,
      shows.sound.sound⟩, shows.grid_eq⟩
  have entering : Ends (Session.Shows (Grid.blank size))
      (records.forM (Engine.enterRecord (Engine.announce reactions)))
      (Session.Shows (records.foldl Grid.withRecord (Grid.blank size))) :=
    forM Session.Shows Grid.withRecord (fun grid record _ => enterRecord_showing record) _
  exact bind clearAll_showing fun _ => bind forgetting fun _ => bind entering fun _ =>
    bind evaluateAll_showing fun _ => pure _

end Ends
end Engine

namespace Session

/-- Whatever a sound session shows and holds, a load leaves what the records are. -/
theorem IsSound.step_load {session : Session size} (sound : session.IsSound)
    {load : Operation} {document : Option Markup.Node} (loads : load.loaded? = some document)
    {records : List (Archive.Record size)}
    (found : Archive.ofDocument size document = .ok records) :
    (session.step load).1.answer = .ok .nothing ∧
      (session.step load).2.sheet.grid = Grid.ofRecords records ∧
      (session.step load).2.Holds (Inscriptions.ofRecords records) .empty := by
  have enters : Engine.Ends IsSound
      (Engine.enterRecords (Engine.announce session.reactions) records)
      (Shows (Grid.ofRecords records)) := Engine.Ends.enterRecords_showing records
  obtain ⟨⟨⟩, later, entered, shows⟩ := enters session sound
  obtain ⟨same, enteredToo, holds⟩ :=
    Engine.runFrom_enterRecords records session.reactions sound.quiet.unheard
  rw [entered] at enteredToo
  cases enteredToo
  obtain ⟨answered, stepped⟩ := step_of_found loads found entered
  rw [stepped]
  exact ⟨answered, shows.grid_eq, holds⟩

/-- Let two sheets of a size have come from blank ones without scripts and guarded
names, each in its own way.  Loading an acceptable document makes them the same, and
the same as a blank sheet into which it is loaded.  No history is left, and what is
entered into a cell is stated by the last record of the document for it. -/
theorem same_after_load (size : Size) {operations others : List Operation}
    (quiet : ∀ operation ∈ operations, operation.staysQuiet = true)
    (quietToo : ∀ operation ∈ others, operation.staysQuiet = true)
    {load : Operation} {root : Markup.Node} (loads : load.loaded? = some (some root))
    (accepted : Archive.IsAcceptable size root) :
    ∀ session ∈ [(fresh size).after operations, (fresh size).after others],
      (session.step load).1.answer = .ok .nothing ∧
      (∀ position, (session.step load).2.sheet.grid.get position =
        ((fresh size).step load).2.sheet.grid.get position) ∧
      (session.step load).2.sheet.history = .empty ∧
      ∀ position, Archive.StatesLast (Archive.cellsFor root position).getLast?
        ((session.step load).2.sheet.grid.get position).inscription := by
  obtain ⟨records, found⟩ := Archive.exists_records_iff.mpr accepted
  have foundInDocument : Archive.ofDocument size (some root) = .ok records := found
  obtain ⟨_, blank, _⟩ := (isSound_fresh size).step_load loads foundInDocument
  intro session member
  have sound : session.IsSound := by
    rcases List.mem_pair.mp member with same | same
    · exact same ▸ (isSound_fresh size).after quiet
    · exact same ▸ (isSound_fresh size).after quietToo
  obtain ⟨answered, grid, holds⟩ := sound.step_load loads foundInDocument
  refine ⟨answered, fun position => ?_, holds.history_eq, fun position => ?_⟩
  · rw [grid, blank]
  · have entered := congrFun holds.entered position
    rw [Grid.inscriptions] at entered
    rw [entered]
    exact Archive.statesLast_ofRecords found position

/-- A loop of references and a color. -/
def tangled : List Operation :=
  [.assignText "A1" (.text "=B1"), .assignText "B1" (.text "=A1"),
    .assignColor "B1" (.integer 0xFF00FF00)]

/-- Something can be undone and something can be redone. -/
def halfUndone : List Operation :=
  [.edit ⟨.text, some "A1", none, .text "7"⟩, .edit ⟨.text, some "B1", none, .text "=A1/0"⟩, .undo]

/-- The first cell has two records. -/
def repeatedRecord : String :=
  "<spreadsheet><cell name='A1'><bgcolor>FF0000FF</bgcolor><text>1</text></cell>" ++
    "<cell name='B1'><text>=A1</text></cell><cell name='A1'><text>2</text></cell></spreadsheet>"

theorem same_after_load_of_repeatedRecord :
    ∃ root, (Operation.readText repeatedRecord).loaded? = some (some root) ∧
      Archive.IsAcceptable .twoCells root ∧
      ∀ session ∈ [(fresh .twoCells).after tangled, (fresh .twoCells).after halfUndone],
        (session.step (.readText repeatedRecord)).1.answer = .ok .nothing ∧
        (∀ position, (session.step (.readText repeatedRecord)).2.sheet.grid.get position =
          ((fresh .twoCells).step (.readText repeatedRecord)).2.sheet.grid.get position) ∧
        (session.step (.readText repeatedRecord)).2.sheet.history = .empty ∧
        ∀ position, Archive.StatesLast (Archive.cellsFor root position).getLast?
          ((session.step (.readText repeatedRecord)).2.sheet.grid.get position).inscription := by
  have records : Archive.ofDocument .twoCells (Markup.readText repeatedRecord) =
      .ok [⟨⟨⟨0, by decide⟩, ⟨0, by decide⟩⟩, ⟨0xFF0000FF, by decide⟩, "1"⟩,
        ⟨⟨⟨0, by decide⟩, ⟨1, by decide⟩⟩, .white, "=A1"⟩,
        ⟨⟨⟨0, by decide⟩, ⟨0, by decide⟩⟩, .white, "2"⟩] := by
    rw [Markup.readText_eq_readChars (by decide +kernel)]
    decide +kernel
  obtain ⟨root, read, acceptable⟩ := Archive.exists_ofDocument_iff.mp ⟨_, records⟩
  have plain : Markup.byteOrder? repeatedRecord.toList = none := by decide +kernel
  have loads : (Operation.readText repeatedRecord).loaded? = some (some root) :=
    Operation.loaded?_eq rfl ((Markup.Input.read_text plain).trans (congrArg _ read))
  exact ⟨root, loads, acceptable,
    same_after_load .twoCells (by decide) (by decide) loads acceptable⟩

end Session
end Worksheet
