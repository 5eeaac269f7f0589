import OverCrow.Base.Machine
import OverCrow.Base.Task
import OverCrow.Base.Text

/-!
# Notes documents

`crates/overcrow-overlay/src/notes/model.rs` and `NotesCommand` of
`crates/overcrow-overlay/src/notes/service.rs`. An operation returns the changed document; one
that fails changes nothing.
-/

namespace OverCrow.Notes
open OverCrow.Base

/-- The limits, `model.rs:5-11`. -/
def notesSchemaVersion : Nat := 2
def notesPageMaxCount : Nat := 8
def notesTitleMaxBytes : Nat := 96
def notesNoteMaxBytes : Nat := 8 * 1024
def notesItemMaxCount : Nat := 64
def notesItemMaxBytes : Nat := 256
def notesIdentifierMaxBytes : Nat := 64

/-- `model.rs:499`. The errors of the standard
library and of `serde_json` are given by their texts. -/
inductive NotesError where
  | validation (message : String)
  | repository (message : String)
  | io (source : String)
  | json (source : String)
  | committed (source : String)
  deriving DecidableEq

namespace NotesError

/-- `model.rs:516`. -/
def wasCommitted : NotesError → Bool
  | .committed _ => true
  | _ => false

/-- `model.rs:525`. -/
def display : NotesError → String
  | .validation message => s!"invalid notes document: {message}"
  | .repository message => s!"notes repository failed: {message}"
  | .io source => s!"notes I/O failed: {source}"
  | .json source => s!"invalid notes JSON: {source}"
  | .committed source => s!"notes were replaced but parent directory sync failed: {source}"

end NotesError

/-- `model.rs:15`. -/
structure NotesProviderRef where
  kind : String := "local"
  remoteId : Option String := none
  deriving DecidableEq

/-- `model.rs:31`. -/
structure ChecklistItem where
  id : String
  text : String
  checked : Bool
  deriving DecidableEq

/-- `model.rs:39`. -/
structure NotePage where
  id : String
  title : String
  body : String := ""
  items : List ChecklistItem := []
  deriving DecidableEq

/-- `NotesDocument` and its default, `model.rs:48,59`. -/
structure NotesDocument where
  schemaVersion : Nat := notesSchemaVersion
  id : String := "global"
  provider : NotesProviderRef := {}
  revision : Nat := 0
  nextNoteId : Nat := 2
  nextItemId : Nat := 1
  activeNoteId : String := "note-1"
  notes : List NotePage := [{ id := "note-1", title := "General" }]
  deriving DecidableEq

/-! ### Validation -/

/-- Fail with a validation error. -/
def reject (failed : Prop) [Decidable failed] (message : String) : Except NotesError Unit :=
  if failed then .error (.validation message) else .ok ()

theorem reject_eq_ok {failed : Prop} [Decidable failed] {message : String} :
    reject failed message = .ok () ↔ ¬failed := by
  unfold reject
  by_cases h : failed <;> simp [h]

/-- A check before a computation. -/
theorem check_bind_eq_ok {α : Type} {check : Except NotesError Unit}
    {f : Unit → Except NotesError α} {a : α} :
    (check >>= f) = .ok a ↔ check = .ok () ∧ f () = .ok a := by
  rw [bind_eq_ok]
  exact ⟨fun ⟨_, hcheck, hf⟩ => ⟨hcheck, hf⟩, fun ⟨hcheck, hf⟩ => ⟨(), hcheck, hf⟩⟩

theorem reject_bind_eq_ok {α : Type} {failed : Prop} [Decidable failed] {message : String}
    {f : Unit → Except NotesError α} {a : α} :
    (reject failed message >>= f) = .ok a ↔ ¬failed ∧ f () = .ok a := by
  rw [check_bind_eq_ok, reject_eq_ok]

/-- `model.rs:466`. -/
def validateIdentifier (identifier description : String) : Except NotesError Unit := do
  reject (identifier.isEmpty = true) s!"{description} must not be empty"
  reject (identifier.utf8ByteSize > notesIdentifierMaxBytes)
    s!"{description} exceeds {notesIdentifierMaxBytes} UTF-8 bytes"

/-- `model.rs:480`. -/
def numberedIdentifier (identifier stem description : String) : Except NotesError Nat :=
  let number := do
    let suffix ← stripStem stem identifier
    let number ← parseUnsigned u64Max suffix
    if number > 0 ∧ toString number = suffix then some number else none
  match number with
  | some number => .ok number
  | none => .error (.validation s!"{description} has an invalid form")

/-- `model.rs:454`. -/
def validateTitle (title : String) : Except NotesError Unit := do
  reject (isBlank title = true) "note title must not be empty"
  reject (title.utf8ByteSize > notesTitleMaxBytes)
    s!"note title exceeds {notesTitleMaxBytes} UTF-8 bytes"

/-- `model.rs:437`. -/
def validateLocalIdentity (id : String) (provider : NotesProviderRef) :
    Except NotesError Unit := do
  validateIdentifier id "document ID"
  reject (id ≠ "global") "notes document ID must be global"
  validateIdentifier provider.kind "provider kind"
  match provider.remoteId with
  | some remoteId => validateIdentifier remoteId "provider remote ID"
  | none => pure ()
  reject (provider.kind ≠ "local" ∨ provider.remoteId.isSome = true)
    "local notes require kind local and no remote ID"

/-- The checks of an item, `model.rs:122-138,393-410`, with the
identifiers seen before it and the message for a number that was not given out yet. -/
def validateItem (nextItemId : Nat) (late : String) (seen : List String) (item : ChecklistItem) :
    Except NotesError (List String) := do
  validateIdentifier item.id "checklist item ID"
  let number ← numberedIdentifier item.id "local-" "checklist item ID"
  reject (number ≥ nextItemId) late
  reject (item.id ∈ seen) "duplicate checklist item ID"
  reject (item.text.utf8ByteSize > notesItemMaxBytes)
    s!"checklist item exceeds {notesItemMaxBytes} UTF-8 bytes"
  return item.id :: seen

/-- The checks of a note, `model.rs:99-139`, with the
identifiers of the notes and items before it. -/
def validatePage (nextNoteId nextItemId : Nat) (seen : List String × List String)
    (note : NotePage) : Except NotesError (List String × List String) := do
  validateIdentifier note.id "note ID"
  let number ← numberedIdentifier note.id "note-" "note ID"
  reject (number ≥ nextNoteId) "note ID must precede the next note ID"
  reject (note.id ∈ seen.1) "duplicate note ID"
  validateTitle note.title
  reject (note.body.utf8ByteSize > notesNoteMaxBytes)
    s!"note exceeds {notesNoteMaxBytes} UTF-8 bytes"
  reject (note.items.length > notesItemMaxCount) s!"checklist exceeds {notesItemMaxCount} items"
  let itemIds ← note.items.foldlM
    (validateItem nextItemId "checklist item ID must precede the next item ID") seen.2
  return (note.id :: seen.1, itemIds)

/-- Every failure is a validation error. -/
def OnlyRejects {α : Type} (x : Except NotesError α) : Prop :=
  ∀ error, x = .error error → ∃ message, error = .validation message

section OnlyRejects

variable {α β : Type}

theorem onlyRejects_ok (a : α) : OnlyRejects (.ok a) := nofun

theorem onlyRejects_validation (message : String) :
    OnlyRejects (.error (.validation message) : Except NotesError α) := by
  intro error h
  cases h
  exact ⟨message, rfl⟩

theorem onlyRejects_reject (failed : Prop) [Decidable failed] (message : String) :
    OnlyRejects (reject failed message) := by
  unfold reject
  split
  · exact onlyRejects_validation message
  · exact onlyRejects_ok ()

theorem OnlyRejects.bind {x : Except NotesError α} {f : α → Except NotesError β}
    (hx : OnlyRejects x) (hf : ∀ a, OnlyRejects (f a)) : OnlyRejects (x >>= f) := by
  cases x with
  | ok a => exact hf a
  | error e =>
    intro error h
    cases h
    exact hx e rfl

theorem onlyRejects_foldlM {f : β → α → Except NotesError β} (hf : ∀ b a, OnlyRejects (f b a))
    (as : List α) (b : β) : OnlyRejects (as.foldlM f b) := by
  induction as generalizing b with
  | nil => exact onlyRejects_ok b
  | cons a as ih => exact (hf b a).bind ih

end OnlyRejects

theorem onlyRejects_validateIdentifier (identifier description : String) :
    OnlyRejects (validateIdentifier identifier description) :=
  (onlyRejects_reject _ _).bind fun _ => onlyRejects_reject _ _

theorem onlyRejects_numberedIdentifier (identifier stem description : String) :
    OnlyRejects (numberedIdentifier identifier stem description) := by
  unfold numberedIdentifier
  dsimp only
  split
  · exact onlyRejects_ok _
  · exact onlyRejects_validation _

theorem onlyRejects_validateLocalIdentity (id : String) (provider : NotesProviderRef) :
    OnlyRejects (validateLocalIdentity id provider) := by
  refine (onlyRejects_validateIdentifier _ _).bind fun _ => (onlyRejects_reject _ _).bind fun _ =>
    (onlyRejects_validateIdentifier _ _).bind fun _ => ?_
  cases provider.remoteId with
  | none => exact onlyRejects_reject _ _
  | some remoteId =>
    exact (onlyRejects_validateIdentifier _ _).bind fun _ => onlyRejects_reject _ _

theorem onlyRejects_validateItem (nextItemId : Nat) (late : String) (seen : List String)
    (item : ChecklistItem) : OnlyRejects (validateItem nextItemId late seen item) :=
  (onlyRejects_validateIdentifier _ _).bind fun _ =>
    (onlyRejects_numberedIdentifier _ _ _).bind fun _ => (onlyRejects_reject _ _).bind fun _ =>
    (onlyRejects_reject _ _).bind fun _ => (onlyRejects_reject _ _).bind fun _ => onlyRejects_ok _

theorem onlyRejects_validatePage (nextNoteId nextItemId : Nat) (seen : List String × List String)
    (note : NotePage) : OnlyRejects (validatePage nextNoteId nextItemId seen note) :=
  (onlyRejects_validateIdentifier _ _).bind fun _ =>
    (onlyRejects_numberedIdentifier _ _ _).bind fun _ => (onlyRejects_reject _ _).bind fun _ =>
    (onlyRejects_reject _ _).bind fun _ =>
    OnlyRejects.bind ((onlyRejects_reject _ _).bind fun _ => onlyRejects_reject _ _) fun _ =>
    (onlyRejects_reject _ _).bind fun _ => (onlyRejects_reject _ _).bind fun _ =>
    (onlyRejects_foldlM (onlyRejects_validateItem _ _) _ _).bind fun _ => onlyRejects_ok _

namespace NotesDocument

/-- `model.rs:78`. -/
def validate (document : NotesDocument) : Except NotesError Unit := do
  reject (document.schemaVersion ≠ notesSchemaVersion) "unsupported notes schema version"
  validateLocalIdentity document.id document.provider
  reject (document.notes.isEmpty = true) "notes document must contain at least one note"
  reject (document.notes.length > notesPageMaxCount)
    s!"notes document exceeds {notesPageMaxCount} notes"
  reject (document.nextNoteId = 0 ∨ document.nextItemId = 0)
    "next note and item IDs must be positive"
  let (noteIds, _) ← document.notes.foldlM
    (validatePage document.nextNoteId document.nextItemId) ([], [])
  reject (document.activeNoteId ∉ noteIds) "active note ID is unknown"

/-- A document that passes validation. -/
def Valid (document : NotesDocument) : Prop := document.validate = .ok ()

instance (document : NotesDocument) : Decidable document.Valid :=
  inferInstanceAs (Decidable (document.validate = .ok ()))

theorem valid_default : Valid {} := by decide +kernel

theorem onlyRejects_validate (document : NotesDocument) : OnlyRejects document.validate :=
  (onlyRejects_reject _ _).bind fun _ => (onlyRejects_validateLocalIdentity _ _).bind fun _ =>
    (onlyRejects_reject _ _).bind fun _ => (onlyRejects_reject _ _).bind fun _ =>
    (onlyRejects_reject _ _).bind fun _ =>
    (onlyRejects_foldlM (onlyRejects_validatePage _ _) _ _).bind fun _ => onlyRejects_reject _ _

/-- `model.rs:152`. -/
def note (document : NotesDocument) (noteId : String) : Option NotePage :=
  document.notes.find? (·.id = noteId)

/-! ### Operations -/

/-- `model.rs:343`. -/
def incrementRevision (document : NotesDocument) : Except NotesError NotesDocument :=
  match checkedAdd u64Max document.revision 1 with
  | some revision => .ok { document with revision }
  | none => .error (.validation "notes revision overflow")

/-- The end of every mutation: count it and check the candidate. -/
def finish (candidate : NotesDocument) : Except NotesError NotesDocument := do
  let candidate ← candidate.incrementRevision
  candidate.validate
  return candidate

/-- `model.rs:330`. -/
def mutate (document : NotesDocument)
    (mutation : NotesDocument → Except NotesError NotesDocument) :
    Except NotesError NotesDocument := do
  document.validate
  let candidate ← mutation document
  candidate.finish

/-- Change the first element that meets `p`, as through `iter_mut().find(..)`. -/
def updateFirst {α : Type} (p : α → Bool) (f : α → Except NotesError α) (missing : String) :
    List α → Except NotesError (List α)
  | [] => .error (.validation missing)
  | a :: rest =>
    if p a then (f a).map (· :: rest) else (updateFirst p f missing rest).map (a :: ·)

/-- `model.rs:351`, and what is done to the note. -/
def noteMut (document : NotesDocument) (noteId : String)
    (f : NotePage → Except NotesError NotePage) : Except NotesError NotesDocument :=
  (updateFirst (·.id = noteId) f "unknown note ID" document.notes).map
    fun notes => { document with notes }

/-- `model.rs:358`, and what is done to the item. -/
def itemMut (document : NotesDocument) (noteId itemId : String)
    (f : ChecklistItem → ChecklistItem) : Except NotesError NotesDocument :=
  document.noteMut noteId fun note =>
    (updateFirst (·.id = itemId) (fun item => .ok (f item)) "unknown checklist item ID"
      note.items).map fun items => { note with items }

/-- `model.rs:156`. -/
def addNote (document : NotesDocument) (title : String) : Except NotesError NotesDocument := do
  document.validate
  let id := s!"note-{document.nextNoteId}"
  match checkedAdd u64Max document.nextNoteId 1 with
  | none => .error (.validation "local note ID counter overflow")
  | some nextNoteId =>
    let candidate : NotesDocument := { document with
      nextNoteId, notes := document.notes ++ [⟨id, title, "", []⟩], activeNoteId := id }
    candidate.finish

/-- `model.rs:177`. -/
def setActiveNote (document : NotesDocument) (noteId : String) :
    Except NotesError NotesDocument := do
  validateIdentifier noteId "note ID"
  document.validate
  if document.activeNoteId = noteId then return document
  else document.mutate fun candidate => do
    reject (candidate.note noteId = none) "unknown note ID"
    return { candidate with activeNoteId := noteId }

/-- `model.rs:191`. -/
def updateNote (document : NotesDocument) (noteId title body : String) :
    Except NotesError NotesDocument := do
  validateIdentifier noteId "note ID"
  document.mutate fun candidate =>
    candidate.noteMut noteId fun note => .ok { note with title, body }

/-- `model.rs:217`. -/
def removeNote (document : NotesDocument) (noteId : String) :
    Except NotesError NotesDocument := do
  validateIdentifier noteId "note ID"
  document.mutate fun candidate =>
    match candidate.notes.findIdx? (·.id = noteId) with
    | none => .error (.validation "unknown note ID")
    | some index => do
      reject (candidate.notes.length = 1) "cannot remove the last note"
      let notes := candidate.notes.eraseIdx index
      let activeNoteId :=
        if candidate.activeNoteId = noteId then
          (notes[min index (notes.length - 1)]?).elim candidate.activeNoteId NotePage.id
        else candidate.activeNoteId
      return { candidate with notes, activeNoteId }

/-- `model.rs:244`. -/
def addItemTo (document : NotesDocument) (noteId text : String) :
    Except NotesError NotesDocument := do
  validateIdentifier noteId "note ID"
  document.validate
  let id := s!"local-{document.nextItemId}"
  match checkedAdd u64Max document.nextItemId 1 with
  | none => .error (.validation "local item ID counter overflow")
  | some nextItemId =>
    let document := { document with nextItemId }
    let candidate ← document.noteMut noteId fun note =>
      .ok { note with items := note.items ++ [⟨id, text, false⟩] }
    candidate.finish

/-- `model.rs:278`. -/
def setItemTextIn (document : NotesDocument) (noteId itemId text : String) :
    Except NotesError NotesDocument := do
  validateIdentifier noteId "note ID"
  validateIdentifier itemId "checklist item ID"
  document.mutate fun candidate => candidate.itemMut noteId itemId fun item => { item with text }

/-- `model.rs:298`. -/
def setCheckedIn (document : NotesDocument) (noteId itemId : String) (checked : Bool) :
    Except NotesError NotesDocument := do
  validateIdentifier noteId "note ID"
  validateIdentifier itemId "checklist item ID"
  document.mutate fun candidate =>
    candidate.itemMut noteId itemId fun item => { item with checked }

/-- `model.rs:317`. -/
def removeItemFrom (document : NotesDocument) (noteId itemId : String) :
    Except NotesError NotesDocument := do
  validateIdentifier noteId "note ID"
  validateIdentifier itemId "checklist item ID"
  document.mutate fun candidate =>
    candidate.noteMut noteId fun note =>
      match note.items.findIdx? (·.id = itemId) with
      | none => .error (.validation "unknown checklist item ID")
      | some index => .ok { note with items := note.items.eraseIdx index }

end NotesDocument

/-! ### Commands -/

/-- `service.rs:19`. -/
inductive NotesCommand where
  | addNote (title : String)
  | setActiveNote (id : String)
  | updateNote (id title body : String)
  | removeNote (id : String)
  | addItem (noteId text : String)
  | setItemText (noteId id text : String)
  | setChecked (noteId id : String) (checked : Bool)
  | removeItem (noteId id : String)
  deriving DecidableEq

/-- `service.rs:53`. -/
def NotesCommand.apply (document : NotesDocument) : NotesCommand → Except NotesError NotesDocument
  | .addNote title => document.addNote title
  | .setActiveNote id => document.setActiveNote id
  | .updateNote id title body => document.updateNote id title body
  | .removeNote id => document.removeNote id
  | .addItem noteId text => document.addItemTo noteId text
  | .setItemText noteId id text => document.setItemTextIn noteId id text
  | .setChecked noteId id checked => document.setCheckedIn noteId id checked
  | .removeItem noteId id => document.removeItemFrom noteId id

end OverCrow.Notes
