import OverCrow.Notes.Document

/-!
# The local notes repository

`crates/overcrow-overlay/src/notes/store.rs`. The file system is given by the file at the
repository's path and by the errors of the operations on it; `serde_json` is a parameter.
-/

namespace OverCrow.Notes
open OverCrow.Base

/-- `store.rs:18`. -/
def notesFileMaxBytes : Nat := 2 * 1024 * 1024

/-- `crates/overcrow-overlay/src/notes/model.rs:369`. -/
structure LegacyNotesDocument where
  schemaVersion : Nat
  id : String
  provider : NotesProviderRef
  revision : Nat
  nextLocalId : Nat
  note : String
  items : List ChecklistItem
  deriving DecidableEq

/-- `model.rs:380`. -/
def LegacyNotesDocument.migrate (legacy : LegacyNotesDocument) :
    Except NotesError NotesDocument := do
  reject (legacy.schemaVersion ≠ 1) "unsupported notes schema version"
  validateLocalIdentity legacy.id legacy.provider
  reject (legacy.nextLocalId = 0) "next local ID must be positive"
  reject (legacy.note.utf8ByteSize > notesNoteMaxBytes)
    s!"note exceeds {notesNoteMaxBytes} UTF-8 bytes"
  reject (legacy.items.length > notesItemMaxCount) s!"checklist exceeds {notesItemMaxCount} items"
  let _ ← legacy.items.foldlM
    (validateItem legacy.nextLocalId "checklist item ID must precede the next local ID") []
  let document : NotesDocument :=
    { id := legacy.id
      provider := legacy.provider
      revision := legacy.revision
      nextItemId := legacy.nextLocalId
      notes := [⟨"note-1", "General", legacy.note, legacy.items⟩] }
  document.validate
  return document

/-- What `serde_json` makes of bytes and of documents. -/
structure NotesJson where
  header : List UInt8 → Except String Nat
  legacy : List UInt8 → Except String LegacyNotesDocument
  document : List UInt8 → Except String NotesDocument
  render : NotesDocument → Except String (List UInt8)

/-- The file at the repository's path. A file that cannot be opened may be a symbolic link. -/
inductive StoredFile where
  | absent
  | unopenable (error : String)
  | present (regular : Bool) (mode : Nat) (contents : List UInt8)
  deriving DecidableEq

/-- `store.rs:141`. -/
def deserializeDocument (json : NotesJson) (contents : List UInt8) :
    Except NotesError NotesDocument := do
  let version ← (json.header contents).mapError .json
  if version = 1 then
    let legacy ← (json.legacy contents).mapError .json
    legacy.migrate
  else if version = notesSchemaVersion then (json.document contents).mapError .json
  else .error (.validation "unsupported notes schema version")

/-- How the operations on an open file go. -/
structure LoadIo where
  inspecting : Option String := none
  reading : Option String := none

/-- `LocalNotesRepository::load` on an open file,
`store.rs:102-129`. -/
def loadOpened (json : NotesJson) (io : LoadIo) (regular : Bool) (mode : Nat)
    (contents : List UInt8) : Except NotesError NotesDocument :=
  match io.inspecting, io.reading with
  | some error, _ => .error (.repository s!"could not inspect opened notes file: {error}")
  | none, reading =>
    if regular = false ∨ mode ≠ 0o600 then
      .error (.repository "refusing unsafe notes file: expected a regular 0600 file")
    else
      match reading with
      | some error => .error (.repository s!"could not read notes file: {error}")
      | none =>
        if contents.length > notesFileMaxBytes then
          .error (.repository s!"notes file is too large (maximum {notesFileMaxBytes} bytes)")
        else do
          let document ← deserializeDocument json contents
          document.validate
          return document

/-- `store.rs:83`. -/
def load (json : NotesJson) (io : LoadIo) : StoredFile → Except NotesError NotesDocument
  | .absent => .ok {}
  | .unopenable error => .error (.repository s!"refusing unsafe notes file: {error}")
  | .present regular mode contents => loadOpened json io regular mode contents

/-- How the operations of a save go: whether the path has a parent, the first error before the
temporary file is renamed or of the renaming, and the error of the parent's `sync_all`. -/
structure SaveIo where
  hasParent : Bool := true
  replacing : Option String := none
  syncing : Option String := none

/-- The bytes that `save_with_writer` writes, `store.rs:55-62`. -/
def renderDocument (json : NotesJson) (document : NotesDocument) :
    Except NotesError (List UInt8) := do
  document.validate
  let contents ← (json.render document).mapError .json
  let contents := contents ++ [0x0a]
  reject (contents.length > notesFileMaxBytes) s!"serialized notes exceed {notesFileMaxBytes} bytes"
  return contents

/-- `store.rs:47`: the result, and the file
afterwards. -/
def saveWithWriter (json : NotesJson) (io : SaveIo) (document : NotesDocument)
    (file : StoredFile) : Except NotesError Unit × StoredFile :=
  match renderDocument json document with
  | .error error => (.error error, file)
  | .ok contents =>
    if io.hasParent = false then (.error (.repository "user data directory unavailable"), file)
    else
      match io.replacing, io.syncing with
      | some error, _ => (.error (.io error), file)
      | none, some error => (.error (.committed error), .present true 0o600 contents)
      | none, none => (.ok (), .present true 0o600 contents)

/-- A save replaces the repository's content exactly when it succeeds or fails after the
replacement. -/
def replaces : Except NotesError Unit → Bool
  | .ok () => true
  | .error error => error.wasCommitted

/-- `serde_json` reads what it wrote, with a newline behind it. -/
structure NotesJson.Lawful (json : NotesJson) : Prop where
  header_render : ∀ document contents, json.render document = .ok contents →
    json.header (contents ++ [0x0a]) = .ok document.schemaVersion
  document_render : ∀ document contents, json.render document = .ok contents →
    json.document (contents ++ [0x0a]) = .ok document

variable {json : NotesJson}

/-- What was written loads as the document it was written from. -/
theorem load_rendered (hjson : json.Lawful) {document : NotesDocument}
    {contents : List UInt8} (h : renderDocument json document = .ok contents) :
    load json {} (.present true 0o600 contents) = .ok document := by
  obtain ⟨_, hvalid, h⟩ := bind_eq_ok.mp h
  obtain ⟨bytes, hbytes, h⟩ := bind_eq_ok.mp h
  obtain ⟨_, hfits, h⟩ := bind_eq_ok.mp h
  rw [mapError_eq_ok] at hbytes
  obtain rfl : bytes ++ [0x0a] = contents := Except.ok.inj h
  have hversion : document.schemaVersion = notesSchemaVersion := by
    obtain ⟨_, hschema, -⟩ := bind_eq_ok.mp hvalid
    exact not_not.mp (reject_eq_ok.mp hschema)
  have hdocument : deserializeDocument json (bytes ++ [0x0a]) = .ok document := by
    unfold deserializeDocument
    rw [hjson.header_render document bytes hbytes, hjson.document_render document bytes hbytes,
      hversion]
    rfl
  unfold load loadOpened
  dsimp only
  rw [if_neg (by decide), if_neg (reject_eq_ok.mp hfits), hdocument]
  change (document.validate >>= fun _ => .ok document) = _
  rw [hvalid]
  rfl

/-- Nothing is replaced before there is something to write. -/
theorem wasCommitted_renderDocument {document : NotesDocument}
    {error : NotesError} (h : renderDocument json document = .error error) :
    error.wasCommitted = false := by
  unfold renderDocument at h
  cases hvalid : document.validate with
  | error invalid =>
    rw [hvalid] at h
    cases h
    obtain ⟨message, rfl⟩ := document.onlyRejects_validate error hvalid
    rfl
  | ok =>
    rw [hvalid] at h
    cases hrender : json.render document with
    | error source =>
      rw [hrender] at h
      cases h
      rfl
    | ok contents =>
      rw [hrender] at h
      have honly : OnlyRejects (reject ((contents ++ [0x0a]).length > notesFileMaxBytes)
          s!"serialized notes exceed {notesFileMaxBytes} bytes" >>= fun _ =>
          pure (contents ++ [0x0a])) :=
        (onlyRejects_reject _ _).bind fun _ => onlyRejects_ok _
      obtain ⟨message, rfl⟩ := honly error h
      rfl

/-- Renders the empty document only. -/
def emptyJson : NotesJson where
  header _ := .ok notesSchemaVersion
  legacy _ := .error ""
  document _ := .ok {}
  render document := if document = {} then .ok [] else .error ""

end OverCrow.Notes
