import OverCrow.Notes.History
import OverCrow.Notes.Service

/-!
# The notes widget

`NotesWidgetState` of `crates/overcrow-overlay/src/widgets/notes/state.rs`. Its maps are functions
from the identifier of a note: nothing depends on the order of their entries.
-/

namespace OverCrow.Notes
open OverCrow.Base

/-- `bounded_prefix`, `state.rs:295`, on characters. -/
def boundChars : Nat → List Char → List Char
  | _, [] => []
  | maxBytes, c :: rest =>
    if c.utf8Size ≤ maxBytes then c :: boundChars (maxBytes - c.utf8Size) rest else []

/-- `state.rs:242`. -/
def boundBytes (value : String) (maxBytes : Nat) : String :=
  String.ofList (boundChars maxBytes value.toList)

theorem boundChars_of_le {maxBytes : Nat} {chars : List Char}
    (h : (chars.map Char.utf8Size).sum ≤ maxBytes) : boundChars maxBytes chars = chars := by
  induction chars generalizing maxBytes with
  | nil => rfl
  | cons c chars ih =>
    rw [List.map_cons, List.sum_cons] at h
    rw [boundChars, if_pos (by omega), ih (by omega)]

/-- A text within the bound is kept. -/
theorem boundBytes_of_le {value : String} {maxBytes : Nat} (h : value.utf8ByteSize ≤ maxBytes) :
    boundBytes value maxBytes = value := by
  unfold boundBytes
  rw [boundChars_of_le (utf8ByteSize_eq_sum value ▸ h), String.ofList_toList]

/-- `state.rs:13`. -/
structure NoteDraft where
  title : String := ""
  body : String := ""
  deriving DecidableEq

namespace NoteDraft

/-- A draft with the bounds of its fields. -/
def bounded (title body : String) : NoteDraft :=
  ⟨boundBytes title notesTitleMaxBytes, boundBytes body notesNoteMaxBytes⟩

/-- `state.rs:19`. -/
def fromNote (note : NotePage) : NoteDraft := bounded note.title note.body

/-- `state.rs:26`. -/
def differsFrom (draft : NoteDraft) (note : NotePage) : Bool :=
  draft.title != note.title || draft.body != note.body

theorem differsFrom_eq_false {draft : NoteDraft} {note : NotePage} :
    draft.differsFrom note = false ↔ draft = ⟨note.title, note.body⟩ := by
  obtain ⟨title, body⟩ := draft
  unfold differsFrom
  rw [Bool.or_eq_false_iff, bne_eq_false_iff_eq, bne_eq_false_iff_eq, NoteDraft.mk.injEq]

end NoteDraft

/-- `state.rs:31`. -/
structure NotesWidgetState where
  ready : Bool := false
  document : NotesDocument := {}
  drafts : String → Option NoteDraft := fun _ => none
  newItemDrafts : String → Option String := fun _ => none
  pendingNoteDrafts : String → Option NoteDraft := fun _ => none
  pendingItemAdditions : String → Option String := fun _ => none
  deleteConfirmation : Option String := none
  savePending : Bool := false
  message : Option String := none
  durabilityWarning : Bool := false

/-- A map with another value at the key. -/
def setAt {α : Type} (m : String → Option α) (key : String) (value : Option α) :
    String → Option α :=
  fun other => if other = key then value else m other

theorem setAt_eq_ite {α : Type} {m : String → Option α} {key other : String} {value : Option α} :
    setAt m key value other = if key = other then value else m other := by
  unfold setAt
  simp only [eq_comm]

namespace NotesWidgetState

/-- Whether a note is among the `dirty_note_ids`,
`state.rs:192`. -/
def dirty (s : NotesWidgetState) (id : String) : Bool :=
  match s.drafts id, s.document.note id with
  | some draft, some note => draft.differsFrom note
  | _, _ => false

/-- `state.rs:204`. -/
def reconcileDrafts (s : NotesWidgetState) (preserve : String → Bool) : NotesWidgetState :=
  { s with
    drafts := fun id =>
      match s.document.note id with
      | none => none
      | some note => if preserve id then s.drafts id else some (.fromNote note)
    newItemDrafts := fun id => if (s.document.note id).isSome then s.newItemDrafts id else none }

/-- `state.rs:223`. -/
def restoreFailedInputs (s : NotesWidgetState) (dirty : String → Bool) : NotesWidgetState :=
  { s with
    drafts := fun id =>
      match s.pendingNoteDrafts id with
      | none => s.drafts id
      | some submitted =>
        if (s.document.note id).isSome && !dirty id then some submitted else s.drafts id
    newItemDrafts := fun id =>
      match s.pendingItemAdditions id with
      | none => s.newItemDrafts id
      | some submitted =>
        if (s.document.note id).isNone then s.newItemDrafts id
        else
          let draft := (s.newItemDrafts id).getD ""
          if draft.isEmpty then some submitted else some draft }

/-- `state.rs:45`. -/
def applyUpdate (s : NotesWidgetState) (update : NotesUpdate) : NotesWidgetState :=
  let settled :=
    if update.savePending then s
    else
      let dirty := s.dirty
      let t := { s with document := update.document }.reconcileDrafts dirty
      let t :=
        if update.error.isSome && !update.durabilityWarning then t.restoreFailedInputs dirty else t
      { t with pendingNoteDrafts := fun _ => none, pendingItemAdditions := fun _ => none }
  { settled with
    ready := true
    savePending := update.savePending
    message := update.error
    durabilityWarning := update.durabilityWarning }

/-- The part of `accept` that depends on the command,
`state.rs:68-97`. -/
def submit (s : NotesWidgetState) : NotesCommand → NotesWidgetState
  | .updateNote id _ _ =>
    match s.document.note id with
    | none => s
    | some note =>
      { s with
        drafts := setAt s.drafts id (some (.fromNote note))
        pendingNoteDrafts := setAt s.pendingNoteDrafts id (some (.fromNote note)) }
  | .addItem noteId text =>
    { s with
      newItemDrafts := setAt s.newItemDrafts noteId none
      pendingItemAdditions :=
        setAt s.pendingItemAdditions noteId (some (boundBytes text notesItemMaxBytes)) }
  | .removeNote id =>
    { s with
      drafts := setAt s.drafts id none
      newItemDrafts := setAt s.newItemDrafts id none
      pendingNoteDrafts := setAt s.pendingNoteDrafts id none
      pendingItemAdditions := setAt s.pendingItemAdditions id none
      deleteConfirmation :=
        if s.deleteConfirmation = some id then none else s.deleteConfirmation }
  | .addNote _ | .setActiveNote _ => { s with deleteConfirmation := none }
  | .setItemText _ _ _ | .setChecked _ _ _ | .removeItem _ _ => s

/-- The note whose draft `accept` does not preserve, dirty or not. -/
def resets : NotesCommand → String → Bool
  | .updateNote id _ _, other | .removeNote id, other => other = id
  | _, _ => false

/-- The state after `accept` applied the command to its document. -/
def accepted (s : NotesWidgetState) (command : NotesCommand) (candidate : NotesDocument) :
    NotesWidgetState :=
  let preserve (id : String) : Bool := s.dirty id && !resets command id
  let t := ({ s with document := candidate }.submit command).reconcileDrafts preserve
  { t with savePending := true, message := none, durabilityWarning := false }

/-- `state.rs:63`. -/
def accept (s : NotesWidgetState) (command : NotesCommand) :
    Except NotesError NotesWidgetState := do
  let candidate ← command.apply s.document
  return s.accepted command candidate

/-- `state.rs:159`. -/
def ensureDraft (s : NotesWidgetState) (id : String) : NotesWidgetState :=
  match s.drafts id, s.document.note id with
  | none, some note => { s with drafts := setAt s.drafts id (some (.fromNote note)) }
  | _, _ => s

/-- The user edits the draft of a note that the widget shows. -/
def typeNote (s : NotesWidgetState) (id title body : String) : NotesWidgetState :=
  let s := s.ensureDraft id
  match s.drafts id with
  | none => s
  | some _ => { s with drafts := setAt s.drafts id (some (.bounded title body)) }

/-- The user edits the new-item field of a note, through `new_item_draft_mut`,
`state.rs:169`. -/
def typeItem (s : NotesWidgetState) (id text : String) : NotesWidgetState :=
  { s with newItemDrafts := setAt s.newItemDrafts id (some (boundBytes text notesItemMaxBytes)) }

end NotesWidgetState

/-! ### Accepted commands -/

/-- A note of a valid document is within the bounds of its draft. -/
theorem NoteDraft.fromNote_eq {document : NotesDocument} {note : NotePage}
    (h : document.WellFormed) (hnote : note ∈ document.notes) :
    fromNote note = ⟨note.title, note.body⟩ := by
  have hpage := h.pages note hnote
  unfold fromNote bounded
  rw [boundBytes_of_le hpage.title.2, boundBytes_of_le hpage.body]

namespace NotesWidgetState

variable {s : NotesWidgetState} {command : NotesCommand} {candidate : NotesDocument} {id : String}
  {note : NotePage}

theorem document_submit : (s.submit command).document = s.document := by
  cases command with
  | updateNote id title body =>
    unfold submit
    dsimp only
    split <;> rfl
  | addNote | setActiveNote | removeNote | addItem | setItemText | setChecked | removeItem => rfl

theorem drafts_submit_of_not_resets (h : resets command id = false) :
    (s.submit command).drafts id = s.drafts id := by
  cases command with
  | updateNote other title body =>
    have hne : ¬id = other := of_decide_eq_false h
    unfold submit
    dsimp only
    split
    · rfl
    · exact if_neg hne
  | removeNote other =>
    have hne : ¬id = other := of_decide_eq_false h
    exact if_neg hne
  | addNote | setActiveNote | addItem | setItemText | setChecked | removeItem => rfl

theorem document_accepted : (s.accepted command candidate).document = candidate :=
  document_submit

theorem pendingItemAdditions_accepted :
    (s.accepted command candidate).pendingItemAdditions id =
      match command with
      | .addItem noteId text =>
        setAt s.pendingItemAdditions noteId (some (boundBytes text notesItemMaxBytes)) id
      | .removeNote other => setAt s.pendingItemAdditions other none id
      | _ => s.pendingItemAdditions id := by
  cases command with
  | updateNote other title body =>
    unfold accepted submit
    dsimp only
    split <;> rfl
  | addNote | setActiveNote | removeNote | addItem | setItemText | setChecked | removeItem => rfl

theorem pendingNoteDrafts_accepted_updateNote {title body : String}
    (hnote : candidate.note id = some note) {other : String} :
    (s.accepted (.updateNote id title body) candidate).pendingNoteDrafts other =
      setAt s.pendingNoteDrafts id (some (.fromNote note)) other := by
  unfold accepted submit
  dsimp only
  rw [hnote]
  rfl

theorem drafts_accepted (hnote : candidate.note id = some note) :
    (s.accepted command candidate).drafts id =
      if s.dirty id && !resets command id then s.drafts id else some (.fromNote note) := by
  unfold accepted reconcileDrafts
  rw [document_submit]
  dsimp only
  rw [hnote]
  dsimp only
  split
  · next hpreserve =>
    rw [Bool.and_eq_true, Bool.not_eq_true'] at hpreserve
    rw [drafts_submit_of_not_resets hpreserve.2]
  · rfl

/-- The command leaves the title and the body of another note alone. -/
theorem note_effect {document : NotesDocument} (h : document.WellFormed)
    (hnext : (command.effect document).WellFormed) (hnote : document.note id = some note)
    (hkeep : resets command id = false) :
    ∃ next, (command.effect document).note id = some next ∧ next.title = note.title ∧
      next.body = note.body := by
  simp only [NotesDocument.note_eq_some_iff hnext.noteIds]
  obtain ⟨hmem, rfl⟩ := (NotesDocument.note_eq_some_iff h.noteIds).mp hnote
  by_cases hne : note.id = command.target document
  · cases command with
    | addNote title =>
      have hallocated := (h.pages note hmem).id
      rw [hne] at hallocated
      exact absurd hallocated (not_allocated_next _ _)
    | setActiveNote other =>
      refine ⟨note, ⟨?_, rfl⟩, rfl, rfl⟩
      unfold NotesCommand.effect
      dsimp only
      split <;> exact hmem
    | updateNote | removeNote => exact absurd hne (of_decide_eq_false hkeep)
    | addItem | setItemText | setChecked | removeItem =>
      exact ⟨_, ⟨mem_modifyKey.mpr ⟨note, hmem, .inl ⟨hne, rfl⟩⟩, rfl⟩, rfl, rfl⟩
  · exact ⟨note, ⟨(NotesCommand.mem_notes_effect hne).mpr hmem, rfl⟩, rfl, rfl⟩

/-- A draft that the command does not replace is kept, dirty or not. -/
theorem drafts_accepted_of_keep {draft : NoteDraft} (h : s.document.WellFormed)
    (hnext : (command.effect s.document).WellFormed) (hdraft : s.drafts id = some draft)
    (hnote : s.document.note id = some note) (hkeep : resets command id = false) :
    (s.accepted command (command.effect s.document)).drafts id = some draft := by
  obtain ⟨next, hfind, htitle, hbody⟩ := note_effect h hnext hnote hkeep
  rw [drafts_accepted hfind]
  split
  · exact hdraft
  · next hclean =>
    rw [hkeep, Bool.not_false, Bool.and_true, Bool.not_eq_true] at hclean
    unfold dirty at hclean
    rw [hdraft, hnote] at hclean
    have hmem := ((NotesDocument.note_eq_some_iff hnext.noteIds).mp hfind).1
    rw [NoteDraft.fromNote_eq hnext hmem, htitle, hbody, ← NoteDraft.differsFrom_eq_false.mp hclean]

end NotesWidgetState

end OverCrow.Notes
