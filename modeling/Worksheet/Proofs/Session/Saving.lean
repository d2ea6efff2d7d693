import Worksheet.Proofs.Session.Loading

namespace Worksheet

/-!
# What saving keeps

A sheet may hold any texts, but not every text comes through a document.  What is
written of a text with an illegal character cannot be read, so such a sheet is refused
as a whole and nothing is lost unnoticed.  All other sheets are read with every color
and with every text, except that a carriage return is written as it stands and read as
a line end.

So a text may come back changed without a fault.  It does exactly if a carriage return
is in it.
-/

variable {size : Size}

/-- What is entered, with the line ends of the text made line feeds. -/
def Inscription.withLineFeeds (inscription : Inscription) : Inscription :=
  { inscription with text := Archive.withLineFeeds inscription.text }

theorem Inscriptions.ofRecords_withLineFeeds (records : List (Archive.Record size)) :
    ofRecords (records.map Archive.Record.withLineFeeds) =
      Inscription.withLineFeeds ∘ ofRecords records := by
  have blank : Inscription.withLineFeeds ∘ Inscriptions.blank size = Inscriptions.blank size := rfl
  rw [ofRecords, List.foldl_map]
  nth_rewrite 1 [← blank]
  apply List.foldl_hom (Inscription.withLineFeeds ∘ ·)
  intro inscriptions record
  exact (Function.comp_update Inscription.withLineFeeds inscriptions record.position
    ⟨record.text, record.color⟩).symm

namespace Session

/-- A document that is found to be faulty is refused. -/
theorem step_of_faulty {operation : Operation} {document : Option Markup.Node}
    (loads : operation.loaded? = some document) {fault : Archive.Fault}
    (faulty : Archive.ofDocument size document = .error fault) (target : Session size) :
    (target.step operation).1.answer = .error (.archive fault) ∧
      (target.step operation).2 = target := by
  have performed : (Engine.perform (Engine.announce target.reactions) operation).runFrom target =
      (.error (.archive fault), target) := by
    rw [Engine.perform_eq_restore loads, Engine.restore, faulty]
    rfl
  obtain ⟨answered, _, left⟩ := step_of_performed performed
  exact ⟨answered, left⟩

/-- If all texts are readable, the sheet is read, and each text comes back with its
line ends made line feeds. -/
theorem inscription_after_handing_over (source target : Session size)
    (unheard : target.subscribers = [])
    (readable : ∀ position, Archive.IsReadable (source.sheet.grid.get position).text) :
    ∃ document file, (source.step .writeText).1.answer = .ok (.text document) ∧
      (source.step .writeBytes).1.answer = .ok (.text file) ∧
      ∀ load ∈ [Operation.readText document, .readBytes (Markup.bytesOfText file)],
        (target.step load).1.answer = .ok .nothing ∧ ∀ position,
          ((target.step load).2.sheet.grid.get position).inscription =
            (source.sheet.grid.get position).inscription.withLineFeeds := by
  obtain ⟨later, entered, holds⟩ := Engine.runFrom_enterRecords
    ((Archive.recordsOf source.sheet.grid).map Archive.Record.withLineFeeds) target.reactions unheard
  obtain ⟨document, file, written, saved, loaded⟩ := step_of_written
    (fun passage => Archive.ofDocument_document_withLineFeeds passage readable) entered
  refine ⟨document, file, written, saved, fun load member => ?_⟩
  obtain ⟨answered, same⟩ := loaded load member
  refine ⟨answered, fun position => ?_⟩
  have inscription := congrFun holds.entered position
  rw [Inscriptions.ofRecords_withLineFeeds, Inscriptions.ofRecords_recordsOf] at inscription
  rw [same]
  exact inscription

/-- If a text has an illegal character, the document of the sheet is refused as a
whole. -/
theorem malformed_of_not_isReadable (source target : Session size) {position : Position size}
    (unreadable : ¬ Archive.IsReadable (source.sheet.grid.get position).text) :
    ∃ document file, (source.step .writeText).1.answer = .ok (.text document) ∧
      (source.step .writeBytes).1.answer = .ok (.text file) ∧
      ∀ load ∈ [Operation.readText document, .readBytes (Markup.bytesOfText file)],
        (target.step load).1.answer = .error (.archive .malformed) ∧
          (target.step load).2 = target := by
  have faulty : ∀ passage : Passage, Archive.ofDocument size
      (passage.document (Archive.toNode source.sheet.grid)) = .error .malformed := by
    intro passage
    obtain ⟨char, unreadableChar⟩ := not_forall.mp unreadable
    obtain ⟨member, illegal⟩ := Classical.not_imp.mp unreadableChar
    exact Archive.ofDocument_document_of_illegal passage member (Bool.eq_false_iff.mpr illegal)
  refine ⟨_, _, rfl, rfl, fun load member => ?_⟩
  rcases loaded?_of_written source.sheet.grid member with ⟨passage, loads⟩
  exact step_of_faulty loads (faulty passage) target

/-- What a sheet is saved as is refused if a text has an illegal character, and the
sheet that should load it stays as it is.  Otherwise it is read, and each text comes
back with its line ends made line feeds, which is another text exactly if a carriage
return was in it. -/
theorem handed_over_or_refused (source target : Session size) (unheard : target.subscribers = []) :
    ∃ document file, (source.step .writeText).1.answer = .ok (.text document) ∧
      (source.step .writeBytes).1.answer = .ok (.text file) ∧
      ∀ load ∈ [Operation.readText document, .readBytes (Markup.bytesOfText file)],
        ((∃ position, ¬ Archive.IsReadable (source.sheet.grid.get position).text) →
          (target.step load).1.answer = .error (.archive .malformed) ∧
            (target.step load).2 = target) ∧
        ((∀ position, Archive.IsReadable (source.sheet.grid.get position).text) →
          (target.step load).1.answer = .ok .nothing ∧ ∀ position,
            ((target.step load).2.sheet.grid.get position).text =
              Archive.withLineFeeds (source.sheet.grid.get position).text ∧
            (((target.step load).2.sheet.grid.get position).text =
              (source.sheet.grid.get position).text ↔
                '\r' ∉ (source.sheet.grid.get position).text.toList) ∧
            ((target.step load).2.sheet.grid.get position).color =
              (source.sheet.grid.get position).color) := by
  by_cases readable : ∀ position, Archive.IsReadable (source.sheet.grid.get position).text
  · obtain ⟨document, file, written, saved, loaded⟩ :=
      inscription_after_handing_over source target unheard readable
    refine ⟨document, file, written, saved, fun load member => ⟨?_, fun _ => ?_⟩⟩
    · rintro ⟨position, unreadable⟩
      exact absurd (readable position) unreadable
    · obtain ⟨answered, inscriptions⟩ := loaded load member
      refine ⟨answered, fun position => ?_⟩
      have text := congrArg Inscription.text (inscriptions position)
      refine ⟨text, ?_, congrArg Inscription.color (inscriptions position)⟩
      rw [← Archive.withLineFeeds_eq_self_iff]
      exact iff_of_eq (congrArg (· = _) text)
  · obtain ⟨position, unreadable⟩ := not_forall.mp readable
    obtain ⟨document, file, written, saved, loaded⟩ :=
      malformed_of_not_isReadable source target unreadable
    exact ⟨document, file, written, saved,
      fun load member => ⟨fun _ => loaded load member, fun all => absurd all readable⟩⟩

/-- A text with a control character. -/
def withControl : List Operation := [.assignText "A1" (.text "a\x01b")]

theorem handed_over_or_refused_of_withControl :
    ∃ document file,
      (((fresh .twoCells).after withControl).step .writeText).1.answer = .ok (.text document) ∧
      (((fresh .twoCells).after withControl).step .writeBytes).1.answer = .ok (.text file) ∧
      ∀ load ∈ [Operation.readText document, .readBytes (Markup.bytesOfText file)],
        ((fresh .twoCells).step load).1.answer = .error (.archive .malformed) := by
  have unreadable : ¬ Archive.IsReadable (((fresh .twoCells).after withControl).sheet.grid.get
      ⟨⟨0, by decide⟩, ⟨0, by decide⟩⟩).text := by decide +kernel
  obtain ⟨document, file, written, saved, loaded⟩ :=
    handed_over_or_refused ((fresh .twoCells).after withControl) (fresh .twoCells) rfl
  exact ⟨document, file, written, saved,
    fun load member => ((loaded load member).1 ⟨_, unreadable⟩).1⟩

/-- A text with a carriage return. -/
def withReturn : List Operation := [.assignText "A1" (.text "a\rb")]

/-- The sheet is loaded without a fault, and the text has changed. -/
theorem text_changed_after_load_of_withReturn :
    (((fresh .twoCells).after withReturn).sheet.grid.get
      ⟨⟨0, by decide⟩, ⟨0, by decide⟩⟩).text = "a\rb" ∧
    ∃ document file,
      (((fresh .twoCells).after withReturn).step .writeText).1.answer = .ok (.text document) ∧
      (((fresh .twoCells).after withReturn).step .writeBytes).1.answer = .ok (.text file) ∧
      ∀ load ∈ [Operation.readText document, .readBytes (Markup.bytesOfText file)],
        ((fresh .twoCells).step load).1.answer = .ok .nothing ∧
          (((fresh .twoCells).step load).2.sheet.grid.get
            ⟨⟨0, by decide⟩, ⟨0, by decide⟩⟩).text = "a\nb" := by
  have text : (((fresh .twoCells).after withReturn).sheet.grid.get
      ⟨⟨0, by decide⟩, ⟨0, by decide⟩⟩).text = "a\rb" := by decide +kernel
  have readable : ∀ position ∈ Size.twoCells.positions,
      Archive.IsReadable (((fresh .twoCells).after withReturn).sheet.grid.get position).text := by
    decide +kernel
  obtain ⟨document, file, written, saved, loaded⟩ :=
    inscription_after_handing_over ((fresh .twoCells).after withReturn) (fresh .twoCells) rfl
      fun position => readable position (Size.mem_positions _ position)
  refine ⟨text, document, file, written, saved, fun load member => ?_⟩
  obtain ⟨answered, inscriptions⟩ := loaded load member
  have fed : Archive.withLineFeeds "a\rb" = "a\nb" := by decide +kernel
  refine ⟨answered, ?_⟩
  have changed := congrArg Inscription.text (inscriptions ⟨⟨0, by decide⟩, ⟨0, by decide⟩⟩)
  rw [← fed, ← text]
  exact changed

end Session
end Worksheet
