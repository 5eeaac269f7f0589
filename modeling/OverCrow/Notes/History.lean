import OverCrow.Notes.Commands

/-!
# Runs of notes commands

Along every run of commands from a valid document, whether they succeed or fail, the document stays
valid and no identifier of a note or an item is given out twice: identifiers of removed notes and
items stay below the counters.
-/

namespace OverCrow.Notes
open OverCrow.Base List NotesCommand

namespace NotesCommand

/-- `NotesCommand::apply` on a document in place: the candidate replaces it at the very end. -/
def perform (document : NotesDocument) (command : NotesCommand) :
    Except NotesError Unit × NotesDocument :=
  match command.apply document with
  | .ok next => (.ok (), next)
  | .error error => (.error error, document)

/-- The note that the command addresses or adds. -/
def target (document : NotesDocument) : NotesCommand → String
  | .addNote _ => "note-" ++ toString document.nextNoteId
  | .setActiveNote id | .updateNote id _ _ | .removeNote id => id
  | .addItem noteId _ | .setItemText noteId _ _ | .setChecked noteId _ _ | .removeItem noteId _ =>
    noteId

variable {document next : NotesDocument} {command : NotesCommand}

/-! ### What an effect leaves alone -/

theorem mem_modifyNote_of_ne {f : NotePage → NotePage} {noteId : String} {note : NotePage}
    (hid : ∀ note, (f note).id = note.id) (hne : note.id ≠ noteId) :
    note ∈ (document.modifyNote noteId f).notes ↔ note ∈ document.notes := by
  unfold NotesDocument.modifyNote
  rw [mem_modifyKey]
  constructor
  · rintro ⟨old, hold, ⟨heq, rfl⟩ | ⟨-, rfl⟩⟩
    · exact absurd ((hid old).trans heq) hne
    · exact hold
  · intro hmem
    exact ⟨note, hmem, .inr ⟨hne, rfl⟩⟩

/-- Notes other than the addressed one are kept as they are, and no other note appears. -/
theorem mem_notes_effect {note : NotePage} (hne : note.id ≠ command.target document) :
    note ∈ (command.effect document).notes ↔ note ∈ document.notes := by
  cases command with
  | addNote title =>
    refine mem_append.trans (or_iff_left fun hnew => hne ?_)
    rw [mem_singleton.mp hnew]
    rfl
  | setActiveNote id =>
    unfold effect
    dsimp only
    split <;> exact Iff.rfl
  | removeNote id =>
    refine mem_filter.trans (and_iff_left_of_imp fun _ => ?_)
    exact decide_eq_true hne
  | updateNote | setItemText | setChecked | removeItem => exact mem_modifyNote_of_ne (fun _ => rfl) hne
  | addItem noteId text =>
    exact mem_modifyNote_of_ne (fun _ => rfl) hne

theorem revision_effect :
    (command.effect document).revision = document.revision + 1 ∨
      command = .setActiveNote document.activeNoteId ∧ command.effect document = document := by
  cases command with
  | setActiveNote id =>
    by_cases hactive : document.activeNoteId = id
    · exact .inr ⟨congrArg _ hactive.symm, if_pos hactive⟩
    · refine .inl ?_
      unfold effect
      dsimp only
      rw [if_neg hactive]
      rfl
  | addNote | updateNote | removeNote | addItem | setItemText | setChecked | removeItem =>
    exact .inl rfl

/-! ### Identifiers after an effect -/

theorem mem_noteIds_effect {id : String} (h : id ∈ (command.effect document).noteIds) :
    id ∈ document.noteIds ∨ id = "note-" ++ toString document.nextNoteId := by
  cases command with
  | addNote title =>
    change id ∈ (document.notes ++ [_]).map NotePage.id at h
    rw [map_append, mem_append] at h
    exact h.imp_right mem_singleton.mp
  | setActiveNote other =>
    unfold effect at h
    dsimp only at h
    split at h <;> exact .inl h
  | removeNote other => exact .inl (mem_map_removeKey.mp h).1
  | updateNote | addItem | setItemText | setChecked | removeItem =>
    exact .inl (mem_map_of_modifyKey h fun _ _ => rfl)

theorem mem_itemIds_effect {id : String} (h : id ∈ (command.effect document).itemIds) :
    id ∈ document.itemIds ∨ id = "local-" ++ toString document.nextItemId := by
  cases command with
  | addNote title =>
    change id ∈ itemIdsOf (document.notes ++ [_]) at h
    unfold itemIdsOf at h
    rw [flatMap_append, flatMap_singleton, map_nil, append_nil] at h
    exact .inl h
  | setActiveNote other =>
    unfold effect at h
    dsimp only at h
    split at h <;> exact .inl h
  | removeNote other => exact .inl ((NotesDocument.itemIdsOf_sublist filter_sublist).subset h)
  | addItem noteId text =>
    obtain ⟨note, hnote, hid⟩ := mem_flatMap.mp h
    obtain ⟨old, hold, ⟨-, rfl⟩ | ⟨-, rfl⟩⟩ := mem_modifyKey.mp hnote
    · rw [map_append, mem_append] at hid
      refine hid.imp (fun hitem => ?_) mem_singleton.mp
      exact mem_flatMap.mpr ⟨old, hold, hitem⟩
    · exact .inl (mem_flatMap.mpr ⟨note, hold, hid⟩)
  | updateNote other title body =>
    refine .inl ((NotesDocument.itemIdsOf_modifyKey_sublist _ fun note => ?_).subset h)
    exact List.Sublist.refl _
  | setItemText | setChecked =>
    refine .inl ((NotesDocument.itemIdsOf_modifyKey_sublist _ fun note => ?_).subset h)
    rw [NotePage.itemIds_modifyItem]
    exact fun _ => rfl
  | removeItem noteId other =>
    refine .inl ((NotesDocument.itemIdsOf_modifyKey_sublist _ fun note => ?_).subset h)
    exact filter_sublist.map _

/-- The counters never go back. -/
theorem counters_le_effect :
    document.nextNoteId ≤ (command.effect document).nextNoteId ∧
      document.nextItemId ≤ (command.effect document).nextItemId := by
  cases command with
  | addNote title => exact ⟨Nat.le_succ _, Nat.le_refl _⟩
  | addItem noteId text => exact ⟨Nat.le_refl _, Nat.le_succ _⟩
  | setActiveNote id =>
    unfold effect
    dsimp only
    split <;> exact ⟨Nat.le_refl _, Nat.le_refl _⟩
  | updateNote | removeNote | setItemText | setChecked | removeItem =>
    exact ⟨Nat.le_refl _, Nat.le_refl _⟩

end NotesCommand

/-! ### Histories -/

/-- A document with the identifiers that its notes and items ever had, in the order in which they
appeared. -/
structure NotesHistory where
  document : NotesDocument
  noteIds : List String
  itemIds : List String

namespace NotesHistory

def start (document : NotesDocument) : NotesHistory :=
  ⟨document, document.noteIds, document.itemIds⟩

/-- A command, with the identifiers that appear. -/
def step (h : NotesHistory) (command : NotesCommand) : NotesHistory :=
  let next := (command.perform h.document).2
  { document := next
    noteIds := h.noteIds ++ next.noteIds.filter (· ∉ h.document.noteIds)
    itemIds := h.itemIds ++ next.itemIds.filter (· ∉ h.document.itemIds) }

def run (h : NotesHistory) (commands : List NotesCommand) : NotesHistory := commands.foldl step h

/-- What a history keeps: every identifier that ever appeared is below its counter. -/
structure Distinct (h : NotesHistory) : Prop where
  wellFormed : h.document.WellFormed
  noteIds : h.noteIds.Nodup
  itemIds : h.itemIds.Nodup
  notes : h.document.noteIds ⊆ h.noteIds
  items : h.document.itemIds ⊆ h.itemIds
  notesAllocated : ∀ id ∈ h.noteIds, Allocated "note-" h.document.nextNoteId id
  itemsAllocated : ∀ id ∈ h.itemIds, Allocated "local-" h.document.nextItemId id

theorem distinct_start {document : NotesDocument} (h : document.WellFormed) :
    (start document).Distinct where
  wellFormed := h
  noteIds := h.noteIds
  itemIds := h.itemIds
  notes := List.Subset.refl _
  items := List.Subset.refl _
  notesAllocated _ hid := NotesDocument.allocated_of_mem_noteIds h hid
  itemsAllocated _ hid := NotesDocument.allocated_of_mem_itemIds h hid

/-- What appears is the one identifier that the counter gives out. -/
theorem nodup_append_new {stem : String} {counter : Nat} {past current next : List String}
    (hpast : past.Nodup) (hnext : next.Nodup) (hall : ∀ id ∈ past, Allocated stem counter id)
    (hnew : ∀ id ∈ next, id ∈ current ∨ id = stem ++ toString counter) :
    (past ++ next.filter (· ∉ current)).Nodup := by
  rw [nodup_append]
  refine ⟨hpast, hnext.filter _, ?_⟩
  rintro id hid _ hother rfl
  obtain ⟨hmem, hfresh⟩ := mem_filter.mp hother
  have hallocated := hall id hid
  rw [(hnew id hmem).resolve_left (of_decide_eq_true hfresh)] at hallocated
  exact not_allocated_next stem counter hallocated

theorem subset_append_new {past current next : List String} (h : current ⊆ past) :
    next ⊆ past ++ next.filter (· ∉ current) := by
  intro id hid
  by_cases hcurrent : id ∈ current
  · exact mem_append_left _ (h hcurrent)
  · exact mem_append_right _ (mem_filter.mpr ⟨hid, decide_eq_true hcurrent⟩)

theorem Distinct.step {h : NotesHistory} (hd : h.Distinct) (command : NotesCommand) :
    (h.step command).Distinct := by
  cases happly : command.apply h.document with
  | error error =>
    have hsame : (command.perform h.document).2 = h.document := by
      unfold perform
      rw [happly]
    unfold NotesHistory.step
    rw [hsame]
    have hnone : ∀ ids : List String, ids.filter (· ∉ ids) = [] := by
      intro ids
      refine filter_eq_nil_iff.mpr fun id hid hnot => ?_
      exact of_decide_eq_true hnot hid
    dsimp only
    rw [hnone, hnone, append_nil, append_nil]
    exact hd
  | ok next =>
    have hnext : (command.perform h.document).2 = next := by
      unfold perform
      rw [happly]
    obtain ⟨-, heffect⟩ := (apply_eq_ok hd.wellFormed command).mp happly
    have hwell := NotesDocument.valid_iff.mp (valid_of_apply happly).2
    have hcounters : h.document.nextNoteId ≤ next.nextNoteId ∧
        h.document.nextItemId ≤ next.nextItemId := heffect ▸ counters_le_effect
    have hnotes : ∀ id ∈ next.noteIds, id ∈ h.document.noteIds ∨
        id = "note-" ++ toString h.document.nextNoteId := fun id hid =>
      mem_noteIds_effect (heffect ▸ hid)
    have hitems : ∀ id ∈ next.itemIds, id ∈ h.document.itemIds ∨
        id = "local-" ++ toString h.document.nextItemId := fun id hid =>
      mem_itemIds_effect (heffect ▸ hid)
    unfold NotesHistory.step
    rw [hnext]
    constructor
    case wellFormed => exact hwell
    case noteIds => exact nodup_append_new hd.noteIds hwell.noteIds hd.notesAllocated hnotes
    case itemIds => exact nodup_append_new hd.itemIds hwell.itemIds hd.itemsAllocated hitems
    case notes => exact subset_append_new hd.notes
    case items => exact subset_append_new hd.items
    case notesAllocated =>
      intro id hid
      rcases mem_append.mp hid with hpast | hnew
      · exact (hd.notesAllocated id hpast).mono hcounters.1
      · exact NotesDocument.allocated_of_mem_noteIds hwell (mem_of_mem_filter hnew)
    case itemsAllocated =>
      intro id hid
      rcases mem_append.mp hid with hpast | hnew
      · exact (hd.itemsAllocated id hpast).mono hcounters.2
      · exact NotesDocument.allocated_of_mem_itemIds hwell (mem_of_mem_filter hnew)

theorem Distinct.run {h : NotesHistory} (hd : h.Distinct) (commands : List NotesCommand) :
    (h.run commands).Distinct := by
  induction commands generalizing h with
  | nil => exact hd
  | cons command commands ih => exact ih (hd.step command)

end NotesHistory

/-- On a valid document a command that fails changes nothing, and one that succeeds has its effect:
the document stays valid, the revision grows by one unless the active note is made active again,
and the other notes are kept. A command fails exactly when it is blocked. Along every run from the
document the identifiers of notes and items that ever appear are distinct. -/
theorem commands_keep_document {document : NotesDocument} (h : document.Valid) :
    (∀ command : NotesCommand,
      (∀ error, (command.perform document).1 = .error error →
        (command.perform document).2 = document) ∧
      ((command.perform document).1 = .ok () →
        let next := (command.perform document).2
        next.Valid ∧ next = command.effect document ∧
          (next.revision = document.revision + 1 ∨
            command = .setActiveNote document.activeNoteId ∧ next = document) ∧
          ∀ note, note.id ≠ command.target document →
            (note ∈ next.notes ↔ note ∈ document.notes)) ∧
      ((∃ error, (command.perform document).1 = .error error) ↔ command.Blocked document)) ∧
    ∀ commands : List NotesCommand,
      let history := (NotesHistory.start document).run commands
      history.document.Valid ∧ history.noteIds.Nodup ∧ history.itemIds.Nodup ∧
        history.document.noteIds ⊆ history.noteIds ∧
        history.document.itemIds ⊆ history.itemIds := by
  have hwell := NotesDocument.valid_iff.mp h
  refine ⟨fun command => ?_, fun commands => ?_⟩
  · have hspec : ∀ next, command.apply document = .ok next ↔
        ¬command.Blocked document ∧ next = command.effect document := fun _ =>
      apply_eq_ok hwell command
    unfold perform
    cases happly : command.apply document with
    | error error =>
      refine ⟨fun _ _ => rfl, nofun, fun _ => ?_, fun _ => ⟨error, rfl⟩⟩
      by_contra hfree
      have hok := (hspec _).mpr ⟨hfree, rfl⟩
      rw [happly] at hok
      cases hok
    | ok next =>
      obtain ⟨hfree, rfl⟩ := (hspec next).mp happly
      refine ⟨nofun, fun _ => ⟨(valid_of_apply happly).2, rfl,
        revision_effect, fun note hne => mem_notes_effect hne⟩, ?_⟩
      exact ⟨nofun, fun hblocked => absurd hblocked hfree⟩
  · have hdistinct := (NotesHistory.distinct_start hwell).run commands
    exact ⟨NotesDocument.valid_iff.mpr hdistinct.wellFormed, hdistinct.noteIds, hdistinct.itemIds,
      hdistinct.notes, hdistinct.items⟩

/-- A note is added, removed and another one added. -/
def replacedNote : List NotesCommand := [.addNote "Raids", .removeNote "note-2", .addNote "Later"]

theorem commands_keep_default_document :
    NotesDocument.Valid {} ∧
      ((NotesHistory.start {}).run replacedNote).noteIds = ["note-1", "note-2", "note-3"] ∧
      ((NotesHistory.start {}).run replacedNote).noteIds.Nodup ∧
      ((removeNote "note-1").perform {}).2 = {} := by
  obtain ⟨hcommands, hruns⟩ := commands_keep_document NotesDocument.valid_default
  refine ⟨NotesDocument.valid_default, by decide +kernel, (hruns replacedNote).2.1, ?_⟩
  have hfails : (((removeNote "note-1").perform {}).1.isOk) = false := by
    decide +kernel
  cases hresult : ((removeNote "note-1").perform {}).1 with
  | error error => exact (hcommands (.removeNote "note-1")).1 error hresult
  | ok =>
    rw [hresult] at hfails
    cases hfails

end OverCrow.Notes
