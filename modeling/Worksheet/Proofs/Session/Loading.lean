import Worksheet.Proofs.Archive.Acceptance
import Worksheet.Proofs.Session.Invariant
import Worksheet.Proofs.Session.Unheard

namespace Worksheet

/-!
# Loading a document

A load is all or nothing.  A document that is not accepted leaves the session as
it was, whoever follows it: nothing is announced before the last record has been
examined.  An accepted document is loaded without a fault, provided that nobody
follows the session; a script could give up in the middle.

Not every document that is refused is refused as a saved worksheet.  If a surrogate
stands in a text, or if a character is severed while a document is read, the fault
is one of encoding.

What a sheet was saved as is accepted, and it brings every text and every color
into the other sheet, whatever that held before.  Values are not saved.  They are
computed anew, which is the matter of another module.
-/

variable {size : Size}

/-- The document that an operation loads. -/
def Operation.input? : Operation → Option Markup.Input
  | .readText document => some (.text document)
  | .readBytes bytes => some (.bytes bytes)
  | _ => none

/-- The tree of the document that an operation loads, as far as it can be read. -/
def Operation.loaded? (operation : Operation) : Option (Option Markup.Node) :=
  operation.input?.bind fun input => input.read.toOption

theorem Operation.exists_of_loaded? {operation : Operation} {document : Option Markup.Node}
    (loads : operation.loaded? = some document) :
    ∃ input, operation.input? = some input ∧ input.read = .ok document := by
  rcases Option.bind_eq_some_iff.mp loads with ⟨input, handedIn, readable⟩
  refine ⟨input, handedIn, ?_⟩
  cases read : input.read with
  | error fault =>
    rw [read] at readable
    cases readable
  | ok found =>
    rw [read] at readable
    cases readable
    rfl

theorem Operation.loaded?_eq {operation : Operation} {input : Markup.Input}
    {document : Option Markup.Node} (handedIn : operation.input? = some input)
    (read : input.read = .ok document) : operation.loaded? = some document := by
  rw [loaded?, handedIn, Option.bind_some, read]
  rfl

namespace Engine

/-- To load is to restore the document that is read. -/
theorem perform_eq_load {operation : Operation} {input : Markup.Input}
    (handedIn : operation.input? = some input) (announce : Announcement size) :
    perform announce operation = (do
      restore announce (← lift Fault.markup input.read)
      return .nothing) := by
  unfold Operation.input? at handedIn
  split at handedIn <;> cases handedIn <;> rfl

/-- To load is to restore the document that was read. -/
theorem perform_eq_restore {operation : Operation} {document : Option Markup.Node}
    (loads : operation.loaded? = some document) (announce : Announcement size) :
    perform announce operation = (do
      restore announce document
      return .nothing) := by
  rcases Operation.exists_of_loaded? loads with ⟨input, handedIn, read⟩
  rw [perform_eq_load handedIn, read]
  rfl

/-- A document that is not accepted is refused before anything is changed. -/
theorem runFrom_restore_of_not_accepts {document : Option Markup.Node}
    (refused : ¬ Archive.AcceptsDocument size document) (announce : Announcement size)
    (session : Session size) :
    ∃ fault, (restore announce document).runFrom session = (.error (.archive fault), session) := by
  cases found : Archive.ofDocument size document with
  | ok records => exact absurd (Archive.exists_ofDocument_iff.mp ⟨records, found⟩) refused
  | error fault =>
    refine ⟨fault, ?_⟩
    rw [restore, found]
    rfl

/-- An accepted document is loaded by entering its records. -/
theorem runFrom_perform_of_found {operation : Operation} {document : Option Markup.Node}
    (loads : operation.loaded? = some document) {records : List (Archive.Record size)}
    (found : Archive.ofDocument size document = .ok records) {announce : Announcement size}
    {session later : Session size}
    (entered : (enterRecords announce records).runFrom session = (.ok (), later)) :
    (perform announce operation).runFrom session = (.ok .nothing, later) := by
  have read : (lift Fault.archive (Archive.ofDocument size document)).runFrom session =
      (.ok records, session) := by
    rw [found]
    rfl
  have restored : (restore announce document).runFrom session = (.ok (), later) := by
    rw [restore, runFrom_bind_of_ok _ read, entered]
  rw [perform_eq_restore loads, runFrom_bind_of_ok _ restored]
  rfl

/-- Records can be entered while nobody follows the session. -/
theorem runFrom_enterRecords (records : List (Archive.Record size)) (reactions : Nat)
    {session : Session size} (unheard : session.subscribers = []) :
    ∃ later, (enterRecords (announce reactions) records).runFrom session = (.ok (), later) ∧
      later.Holds (Inscriptions.ofRecords records) .empty := by
  have enters : Ends (Session.Holds session.sheet.grid.inscriptions session.sheet.history)
      (enterRecords (announce reactions) records)
      (Session.Holds (Inscriptions.ofRecords records) .empty) := Ends.enterRecords records
  obtain ⟨⟨⟩, later, ran, holds⟩ := enters session ⟨unheard, rfl, rfl⟩
  exact ⟨later, ran, holds⟩

/-- A document of which the encoding is at fault is refused before anything is changed. -/
theorem runFrom_perform_of_fault {operation : Operation} {input : Markup.Input}
    (handedIn : operation.input? = some input) {fault : Markup.Fault}
    (read : input.read = .error fault) (announce : Announcement size) (session : Session size) :
    (perform announce operation).runFrom session = (.error (.markup fault), session) := by
  rw [perform_eq_load handedIn, read]
  rfl

/-- Let a load be of a document whose encoding is known.  If it is refused, nothing is
changed; while nobody follows the session every other load succeeds.  It is refused as a
saved worksheet, unless a surrogate stands in it or a character is severed before it is
found to be unreadable. -/
theorem load_all_or_nothing {load : Operation} {input : Markup.Input}
    (handedIn : load.input? = some input) (supported : input.IsSupported) (reactions : Nat)
    (session : Session size) :
    (input.IsCoded → ¬ Archive.Accepts size input → ∃ fault,
      (perform (announce reactions) load).runFrom session =
        (.error (.archive fault), session)) ∧
    (¬ input.IsCoded → ∃ fault,
      (perform (announce reactions) load).runFrom session =
        (.error (.markup fault), session)) ∧
    (Archive.Accepts size input → session.subscribers = [] → ∃ later,
      (perform (announce reactions) load).runFrom session = (.ok .nothing, later)) := by
  refine ⟨?_, fun notCoded => ?_, ?_⟩
  · intro coded refused
    rcases (Markup.Input.exists_read_eq_ok_iff supported).mpr coded with ⟨document, read⟩
    rw [Archive.accepts_iff read] at refused
    rcases runFrom_restore_of_not_accepts refused (announce reactions) session with ⟨fault, ran⟩
    refine ⟨fault, ?_⟩
    rw [perform_eq_restore (Operation.loaded?_eq handedIn read), runFrom_bind, ran]
  · rcases Markup.Input.exists_fault_of_not_isCoded supported notCoded with ⟨fault, read⟩
    exact ⟨fault, runFrom_perform_of_fault handedIn read (announce reactions) session⟩
  · rintro ⟨document, read, accepted⟩ unheard
    rcases Archive.exists_ofDocument_iff.mpr accepted with ⟨records, found⟩
    rcases runFrom_enterRecords records reactions unheard with ⟨later, entered, _⟩
    exact ⟨later, runFrom_perform_of_found (Operation.loaded?_eq handedIn read) found entered⟩

/-- The second record names a cell beyond the last column. -/
def outsideRecord : String :=
  "<spreadsheet><cell name='A1'><text>1</text></cell><cell name='C1'/></spreadsheet>"

/-- The color has a sign and underscores, and the first cell has two records. -/
def oddRecords : String :=
  "<spreadsheet><cell name='A1'><bgcolor> +0x_ff_00 </bgcolor></cell>" ++
    "<cell name='B1'/><cell name='A1'><text>=B1</text></cell></spreadsheet>"

def loneSurrogate : Text.Loose := ⟨[.surrogate 0]⟩

/-- The name in the reference is too long to be passed on at once.  The root element is
not closed. -/
def severedReference : List UInt8 :=
  Markup.bytesOfText ("<?xml version='1.0' encoding='ISO-8859-1'?>" ++
    "<!DOCTYPE spreadsheet SYSTEM 's'><spreadsheet>&") ++ (List.replicate 512 0xE9 ++ [0x3B])

/-- A name is guarded, something can be undone, and a script clears the sheet when anything
changes. -/
def cleared : List Operation :=
  [.guard "A1", .edit ⟨.text, some "B1", none, .text "=A1"⟩,
    .subscribe "clearing" [.mk none none 1 [.clearAll]]]

/-- The same without the script. -/
def released : List Operation :=
  cleared ++ [.unsubscribe "clearing"]

theorem not_accepts_outsideRecord :
    ¬ Archive.Accepts .twoCells (.text (outsideRecord : Text.Loose)) := by
  have plain : Markup.byteOrder? outsideRecord.toList = none := by decide
  rw [Archive.accepts_iff (Markup.Input.read_text plain), ← Archive.exists_ofDocument_iff]
  have faulty : Archive.ofDocument .twoCells (Markup.readText outsideRecord) =
      .error (.key (.outside "C1")) := by
    rw [Markup.readText_eq_readChars plain]
    decide +kernel
  rw [faulty]
  rintro ⟨records, found⟩
  cases found

theorem accepts_oddRecords : Archive.Accepts .twoCells (.text (oddRecords : Text.Loose)) := by
  have plain : Markup.byteOrder? oddRecords.toList = none := by decide +kernel
  have records : Archive.ofDocument .twoCells (Markup.readText oddRecords) =
      .ok [⟨⟨⟨0, by decide⟩, ⟨0, by decide⟩⟩, ⟨0xFF00, by decide⟩, ""⟩,
        ⟨⟨⟨0, by decide⟩, ⟨1, by decide⟩⟩, .white, ""⟩,
        ⟨⟨⟨0, by decide⟩, ⟨0, by decide⟩⟩, .white, "=B1"⟩] := by
    rw [Markup.readText_eq_readChars plain]
    decide +kernel
  rw [Archive.accepts_iff (Markup.Input.read_text plain), ← Archive.exists_ofDocument_iff]
  exact ⟨_, records⟩

theorem isSupported_severedReference : (Markup.Input.bytes severedReference).IsSupported := by
  unfold Markup.Input.IsSupported
  decide +kernel

theorem read_loneSurrogate :
    (Markup.Input.text loneSurrogate).read = .error (.notEncodable ⟨0, 0, 0⟩) := rfl

theorem read_severedReference :
    (Markup.Input.bytes severedReference).read = .error (.notDecodable ⟨'é', 1020⟩) := by
  have unreadable : (Markup.readBytes severedReference).isNone = true := by decide +kernel
  have severed : Markup.severedInBytes severedReference = some ⟨'é', 1020⟩ := by decide +kernel
  have tree : (Markup.Input.bytes severedReference).tree? = .ok none :=
    congrArg Except.ok (Option.isNone_iff_eq_none.mp unreadable)
  have known : (Markup.Input.bytes severedReference).unknownEncoding? = none :=
    isSupported_severedReference
  rw [Markup.Input.read, tree, known, Markup.Input.severed?, severed]

theorem load_all_or_nothing_of_threeKinds :
    ((Markup.Input.text outsideRecord).IsCoded ∧
      ¬ Archive.Accepts .twoCells (.text outsideRecord) ∧
      ∃ fault, (perform (announce 1) (.readText outsideRecord)).runFrom
        ((Session.fresh .twoCells).after cleared) =
          (.error (.archive fault), (Session.fresh .twoCells).after cleared)) ∧
    ((Markup.Input.bytes severedReference).IsSupported ∧
      ¬ (Markup.Input.bytes severedReference).IsCoded ∧
      ∃ fault, (perform (announce 1) (.readBytes severedReference)).runFrom
        ((Session.fresh .twoCells).after cleared) =
          (.error (.markup fault), (Session.fresh .twoCells).after cleared)) ∧
    (Archive.Accepts .twoCells (.text oddRecords) ∧
      ((Session.fresh .twoCells).after released).subscribers = [] ∧
      ∃ later, (perform (announce 1) (.readText oddRecords)).runFrom
        ((Session.fresh .twoCells).after released) = (.ok .nothing, later)) := by
  have coded : (Markup.Input.text outsideRecord).IsCoded := Markup.Input.isCoded_text (by decide)
  have unheard : ((Session.fresh .twoCells).after released).subscribers = [] := by decide +kernel
  have refused := @load_all_or_nothing .twoCells (.readText outsideRecord) _ rfl rfl 1
    ((Session.fresh .twoCells).after cleared)
  have severed := @load_all_or_nothing .twoCells (.readBytes severedReference) _ rfl
    isSupported_severedReference 1 ((Session.fresh .twoCells).after cleared)
  have accepted := @load_all_or_nothing .twoCells (.readText oddRecords) _ rfl rfl 1
    ((Session.fresh .twoCells).after released)
  have notCoded : ¬ (Markup.Input.bytes severedReference).IsCoded := by
    intro coded
    rcases (Markup.Input.exists_read_eq_ok_iff isSupported_severedReference).mpr coded with
      ⟨document, read⟩
    cases read.symm.trans read_severedReference
  exact ⟨⟨coded, not_accepts_outsideRecord, refused.1 coded not_accepts_outsideRecord⟩,
    ⟨isSupported_severedReference, notCoded, severed.2.1 notCoded⟩,
    accepts_oddRecords, unheard, accepted.2.2 accepts_oddRecords unheard⟩

/-- Neither document is accepted, but both are refused with a fault of encoding. -/
theorem fault_of_severedReference :
    (¬ Archive.Accepts .twoCells (.text loneSurrogate) ∧
      (perform (announce 0) (.readText loneSurrogate)).runFrom (Session.fresh .twoCells) =
        (.error (.markup (.notEncodable ⟨0, 0, 0⟩)), Session.fresh .twoCells)) ∧
    ((Markup.Input.bytes severedReference).IsSupported ∧
      ¬ Archive.Accepts .twoCells (.bytes severedReference) ∧
      (perform (announce 0) (.readBytes severedReference)).runFrom (Session.fresh .twoCells) =
        (.error (.markup (.notDecodable ⟨'é', 1020⟩)), Session.fresh .twoCells)) :=
  ⟨⟨Archive.not_accepts_of_fault read_loneSurrogate,
      runFrom_perform_of_fault rfl read_loneSurrogate _ _⟩,
    isSupported_severedReference, Archive.not_accepts_of_fault read_severedReference,
    runFrom_perform_of_fault rfl read_severedReference _ _⟩

end Engine

/-! ## Saving and loading -/

/-- Two sheets hold the same texts and colors, and so the same records. -/
structure Session.Resembles (session source : Session size) : Prop where
  texts : ∀ position,
    (session.sheet.grid.get position).text = (source.sheet.grid.get position).text
  colors : ∀ position,
    (session.sheet.grid.get position).color = (source.sheet.grid.get position).color
  records : Archive.recordsOf session.sheet.grid = Archive.recordsOf source.sheet.grid

theorem Archive.recordsOf_congr {first second : Grid size}
    (same : first.inscriptions = second.inscriptions) : recordsOf first = recordsOf second := by
  have each : ∀ position, (first.get position).text = (second.get position).text ∧
      (first.get position).color = (second.get position).color :=
    fun position => Inscription.mk.inj (congrFun same position)
  rw [recordsOf, recordsOf]
  apply List.filterMap_congr
  intro position _
  dsimp only
  rw [(each position).1, (each position).2]

/-- The records of a grid make a blank sheet what the grid was. -/
theorem Inscriptions.ofRecords_recordsOf (grid : Grid size) :
    ofRecords (Archive.recordsOf grid) = grid.inscriptions := by
  have told : ofRecords (Archive.recordsOf grid) =
      (Archive.recordsOf grid).foldl (fun inscriptions record => Function.update inscriptions
        record.position (grid.inscriptions record.position)) (blank size) := by
    rw [ofRecords]
    apply List.foldl_ext
    intro inscriptions record member
    rw [(Archive.of_mem_recordsOf member).1, (Archive.of_mem_recordsOf member).2]
    rfl
  rw [told]
  apply foldl_update_eq Archive.Record.position
  intro position
  by_cases empty : (grid.get position).text = "" ∧ (grid.get position).color = Color.white
  · right
    rw [Grid.inscriptions, Cell.inscription, empty.1, empty.2]
    rfl
  · left
    let cell := grid.get position
    refine List.mem_map.mpr ⟨⟨position, cell.color, cell.text⟩, ?_, rfl⟩
    exact List.mem_filterMap.mpr ⟨position, size.mem_positions position, if_neg empty⟩

namespace Session

theorem resembles_of_inscriptions_eq {session source : Session size}
    (same : session.sheet.grid.inscriptions = source.sheet.grid.inscriptions) :
    session.Resembles source where
  texts := Grid.text_eq_of_inscriptions_eq same
  colors position := congrArg Inscription.color (congrFun same position)
  records := Archive.recordsOf_congr same

/-- The step of a load, from how the records are entered. -/
theorem step_of_found {operation : Operation} {document : Option Markup.Node}
    (loads : operation.loaded? = some document) {records : List (Archive.Record size)}
    (found : Archive.ofDocument size document = .ok records) {target later : Session size}
    (entered : (Engine.enterRecords (Engine.announce target.reactions) records).runFrom target =
      (.ok (), later)) :
    (target.step operation).1.answer = .ok .nothing ∧ (target.step operation).2 = later := by
  obtain ⟨answered, _, left⟩ :=
    step_of_performed (Engine.runFrom_perform_of_found loads found entered)
  exact ⟨answered, left⟩

/-- What a grid is written as is loaded as it was handed over. -/
theorem loaded?_of_written (grid : Grid size) {load : Operation}
    (member : load ∈ [Operation.readText (Archive.toNode grid).toText,
      .readBytes (Markup.bytesOfText (Archive.toNode grid).toFile)]) :
    ∃ passage : Passage, load.loaded? = some (passage.document (Archive.toNode grid)) := by
  have simple : Markup.isSimpleName (.document .utf8) (Archive.toNode grid).tag.toList = true :=
    Archive.isSimpleName_of_tags "spreadsheet" (by decide)
  rcases List.mem_pair.mp member with same | same
  · refine ⟨.string, ?_⟩
    rw [same]
    exact Operation.loaded?_eq rfl (Markup.Input.read_text (Markup.byteOrder?_toText simple rfl))
  · refine ⟨.bytes, ?_⟩
    rw [same]
    exact Operation.loaded?_eq rfl (Markup.read_toFile _)

/-- Whatever way a sheet is handed over, loading it is entering the records that it is
read as. -/
theorem step_of_written {source target later : Session size} {records : List (Archive.Record size)}
    (read : ∀ passage : Passage,
      Archive.ofDocument size (passage.document (Archive.toNode source.sheet.grid)) = .ok records)
    (entered : (Engine.enterRecords (Engine.announce target.reactions) records).runFrom target =
      (.ok (), later)) :
    ∃ document file, (source.step .writeText).1.answer = .ok (.text document) ∧
      (source.step .writeBytes).1.answer = .ok (.text file) ∧
      ∀ load ∈ [Operation.readText document, .readBytes (Markup.bytesOfText file)],
        (target.step load).1.answer = .ok .nothing ∧ (target.step load).2 = later := by
  refine ⟨_, _, rfl, rfl, ?_⟩
  intro load member
  rcases loaded?_of_written source.sheet.grid member with ⟨passage, loads⟩
  exact step_of_found loads (read passage) entered

/-- A sheet whose texts are read as they were written is read as its own records. -/
theorem step_of_saved {source target later : Session size}
    (kept : ∀ position, Archive.IsKept (source.sheet.grid.get position).text)
    (entered : (Engine.enterRecords (Engine.announce target.reactions)
      (Archive.recordsOf source.sheet.grid)).runFrom target = (.ok (), later)) :
    ∃ document file, (source.step .writeText).1.answer = .ok (.text document) ∧
      (source.step .writeBytes).1.answer = .ok (.text file) ∧
      ∀ load ∈ [Operation.readText document, .readBytes (Markup.bytesOfText file)],
        (target.step load).1.answer = .ok .nothing ∧ (target.step load).2 = later :=
  step_of_written (fun passage => Archive.ofDocument_document passage kept) entered

/-- What a sheet writes can be read by every sheet of its size that nobody
follows, in whatever state.  Afterwards that holds the same texts and colors. -/
theorem resembles_after_load (source target : Session size) (unheard : target.subscribers = [])
    (kept : ∀ position, Archive.IsKept (source.sheet.grid.get position).text) :
    ∃ document file, (source.step .writeText).1.answer = .ok (.text document) ∧
      (source.step .writeBytes).1.answer = .ok (.text file) ∧
      ∀ load ∈ [Operation.readText document, .readBytes (Markup.bytesOfText file)],
        (target.step load).1.answer = .ok .nothing ∧ (target.step load).2.Resembles source := by
  obtain ⟨later, entered, holds⟩ := Engine.runFrom_enterRecords
    (Archive.recordsOf source.sheet.grid) target.reactions unheard
  obtain ⟨document, file, written, saved, loaded⟩ := step_of_saved kept entered
  refine ⟨document, file, written, saved, fun load member => ⟨(loaded load member).1, ?_⟩⟩
  rw [(loaded load member).2]
  apply resembles_of_inscriptions_eq
  rw [holds.entered, Inscriptions.ofRecords_recordsOf]

/-- Markup, blanks and a line break in one text, and a color. -/
def markedUp : List Operation :=
  [.assignText "A1" (.text " <a & 'b'>\n"), .assignText "B1" (.text "=1+1"),
    .assignColor "B1" (.integer 0x80FF0000)]

/-- A sheet in which a name is guarded and something can be undone. -/
def inUse : List Operation :=
  [.guard "A1", .edit ⟨.text, some "B1", none, .text "=A1"⟩]

theorem resembles_after_markedUp :
    ∃ document file,
      (((fresh .twoCells).after markedUp).step .writeText).1.answer = .ok (.text document) ∧
      (((fresh .twoCells).after markedUp).step .writeBytes).1.answer = .ok (.text file) ∧
      ∀ load ∈ [Operation.readText document, .readBytes (Markup.bytesOfText file)],
        (((fresh .twoCells).after inUse).step load).1.answer = .ok .nothing ∧
          (((fresh .twoCells).after inUse).step load).2.Resembles
            ((fresh .twoCells).after markedUp) := by
  have unheard : ((fresh .twoCells).after inUse).subscribers = [] := by decide +kernel
  have kept : ∀ position ∈ Size.twoCells.positions,
      Archive.IsKept (((fresh .twoCells).after markedUp).sheet.grid.get position).text := by
    decide +kernel
  exact resembles_after_load ((fresh .twoCells).after markedUp) ((fresh .twoCells).after inUse)
    unheard fun position => kept position (Size.mem_positions _ position)

end Session
end Worksheet
