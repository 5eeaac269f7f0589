import OverCrow.Base.Run
import OverCrow.Notes.Widget

/-!
# Inputs that a failed save gives back

The widget remembers one submitted text for each note and each new-item field. When a failed save
is reported it gives back the last item added to a note, unless the note was removed since, and the
content of a note that was submitted or typed last. The log keeps what was submitted, typed and
removed since the last settled update; the widget does not read it.
-/

namespace OverCrow.Notes
open OverCrow.Base Option NotesWidgetState

/-! ### Runs of the widget -/

/-- What was submitted, typed into the draft of a note, or removed. An added item has the identifier
that the widget's document gave it. -/
inductive Logged where
  | added (noteId itemId text : String)
  | updated (id : String) (draft : NoteDraft)
  | typed (id : String) (draft : NoteDraft)
  | removed (id : String)
  deriving DecidableEq

/-- What an accepted command adds to the log. -/
def NotesCommand.logged (document : NotesDocument) : NotesCommand → List Logged
  | .addItem noteId text => [.added noteId ("local-" ++ toString document.nextItemId) text]
  | .updateNote id title body => [.updated id ⟨title, body⟩]
  | .removeNote id => [.removed id]
  | _ => []

/-- The widget and its log since the last settled update, newest first. -/
structure WidgetRun where
  state : NotesWidgetState := {}
  log : List Logged := []

inductive WidgetEvent where
  | accept (command : NotesCommand)
  | update (update : NotesUpdate)
  | paint (id : String)
  | typeNote (id title body : String)
  | typeItem (id text : String)

namespace WidgetRun

/-- One event. The widget paints and edits notes that it shows. -/
def step (w : WidgetRun) : WidgetEvent → Option WidgetRun
  | .accept command =>
    match w.state.accept command with
    | .ok state => some ⟨state, command.logged w.state.document ++ w.log⟩
    | .error error =>
      let message := some (boundError error.display)
      some { w with state := { w.state with message, durabilityWarning := false } }
  | .update update => some ⟨w.state.applyUpdate update, if update.savePending then w.log else []⟩
  | .paint id =>
    if (w.state.document.note id).isSome then
      let state := w.state.ensureDraft id
      let draft := (state.newItemDrafts id).getD ""
      some { w with state := { state with
        newItemDrafts := setAt state.newItemDrafts id (some draft) } }
    else none
  | .typeNote id title body =>
    if (w.state.document.note id).isSome then
      some ⟨w.state.typeNote id title body, .typed id (.bounded title body) :: w.log⟩
    else none
  | .typeItem id text =>
    if (w.state.document.note id).isSome then some { w with state := w.state.typeItem id text }
    else none

end WidgetRun

/-- The text of the last item added to the note, unless the note was removed since. -/
def lastAdded (noteId : String) : List Logged → Option String
  | [] => none
  | .added other _ text :: log => if other = noteId then some text else lastAdded noteId log
  | .removed other :: log => if other = noteId then none else lastAdded noteId log
  | .updated _ _ :: log | .typed _ _ :: log => lastAdded noteId log

/-- The content last submitted for the note, unless the note was removed since. -/
def lastSubmitted (id : String) : List Logged → Option NoteDraft
  | [] => none
  | .updated other draft :: log => if other = id then some draft else lastSubmitted id log
  | .removed other :: log => if other = id then none else lastSubmitted id log
  | .added _ _ _ :: log | .typed _ _ :: log => lastSubmitted id log

/-- The content last submitted for the note or typed into its draft. -/
def lastContent (id : String) : List Logged → Option NoteDraft
  | [] => none
  | .updated other draft :: log | .typed other draft :: log =>
    if other = id then some draft else lastContent id log
  | .added _ _ _ :: log | .removed _ :: log => lastContent id log

/-- What was submitted is content. -/
theorem lastContent_ne_none {id : String} {draft : NoteDraft} {log : List Logged}
    (h : lastSubmitted id log = some draft) : lastContent id log ≠ none := by
  induction log with
  | nil => cases h
  | cons entry log ih =>
    cases entry with
    | updated other submitted =>
      rw [lastSubmitted] at h
      rw [lastContent]
      split
      · nofun
      · next hne =>
        rw [if_neg hne] at h
        exact ih h
    | removed other =>
      rw [lastSubmitted] at h
      split at h
      · cases h
      · exact ih h
    | added noteId itemId text => exact ih h
    | typed other typed =>
      rw [lastContent]
      split
      · nofun
      · exact ih h

/-! ### What an accepted command adds -/

section Logged

variable {document : NotesDocument} {command : NotesCommand} {id : String} {log : List Logged}

open NotesWidgetState (resets)

/-- A command submits content for a note, removes the note or leaves both as they were. -/
theorem logged_cases (document : NotesDocument) (command : NotesCommand) (id : String) (log : List Logged) :
    (∃ draft : NoteDraft, command = .updateNote id draft.title draft.body ∧
      lastSubmitted id (command.logged document ++ log) = some draft ∧
      lastContent id (command.logged document ++ log) = some draft) ∨
    (command = .removeNote id ∧ lastSubmitted id (command.logged document ++ log) = none) ∨
    resets command id = false ∧
      lastSubmitted id (command.logged document ++ log) = lastSubmitted id log ∧
      lastContent id (command.logged document ++ log) = lastContent id log := by
  cases command with
  | updateNote other title body =>
    by_cases h : other = id
    · exact .inl ⟨⟨title, body⟩, h ▸ rfl, if_pos h, if_pos h⟩
    · exact .inr (.inr ⟨decide_eq_false (Ne.symm h), if_neg h, if_neg h⟩)
  | removeNote other =>
    by_cases h : other = id
    · exact .inr (.inl ⟨h ▸ rfl, if_pos h⟩)
    · exact .inr (.inr ⟨decide_eq_false (Ne.symm h), if_neg h, rfl⟩)
  | addNote | setActiveNote | addItem | setItemText | setChecked | removeItem =>
    exact .inr (.inr ⟨rfl, rfl, rfl⟩)

/-- An update in the log is that of the command or an older one. -/
theorem mem_logged {draft : NoteDraft} (h : Logged.updated id draft ∈ command.logged document ++ log) :
    command = .updateNote id draft.title draft.body ∨ .updated id draft ∈ log := by
  cases command with
  | updateNote other title body =>
    rcases List.mem_cons.mp h with heq | hmem
    · cases heq
      exact .inl rfl
    · exact .inr hmem
  | removeNote | addItem =>
    rcases List.mem_cons.mp h with heq | hmem
    · cases heq
    · exact .inr hmem
  | addNote | setActiveNote | setItemText | setChecked | removeItem => exact .inr h

/-- The submitted content is in the widget's document. -/
theorem note_effect_updateNote {title body : String}
    (hnext : ((NotesCommand.updateNote id title body).effect document).WellFormed)
    (hmem : id ∈ document.noteIds) :
    ∃ note, ((NotesCommand.updateNote id title body).effect document).note id = some note ∧
      note.title = title ∧ note.body = body := by
  obtain ⟨note, hnote, hid⟩ := List.mem_map.mp hmem
  refine ⟨{ note with title, body }, ?_, rfl, rfl⟩
  rw [NotesDocument.note_eq_some_iff hnext.noteIds]
  exact ⟨mem_modifyKey.mpr ⟨note, hnote, .inl ⟨hid, rfl⟩⟩, hid⟩

/-- A note that is gone does not come back. -/
theorem note_effect_eq_none (hallocated : Allocated "note-" document.nextNoteId id)
    (h : document.note id = none) : (command.effect document).note id = none := by
  rw [NotesDocument.note_eq_none_iff] at h ⊢
  intro hmem
  rcases NotesCommand.mem_noteIds_effect hmem with hold | hnew
  · exact h hold
  · rw [hnew] at hallocated
    exact not_allocated_next _ _ hallocated

end Logged

/-! ### What the widget remembers -/

/-- The pending inputs are those of the log. A note with submitted content has it in the widget's
document, and its draft is what was submitted or typed last. A note that was removed after its
content was submitted stays away. -/
structure WidgetRun.Recorded (w : WidgetRun) : Prop where
  items : ∀ id, w.state.pendingItemAdditions id = lastAdded id w.log
  notes : ∀ id, w.state.pendingNoteDrafts id = lastSubmitted id w.log
  wellFormed : ∀ id draft, .updated id draft ∈ w.log → w.state.document.WellFormed
  allocated : ∀ id draft, .updated id draft ∈ w.log →
    Allocated "note-" w.state.document.nextNoteId id
  drafts : ∀ id draft, lastSubmitted id w.log = some draft →
    w.state.drafts id = lastContent id w.log
  content : ∀ id draft, lastSubmitted id w.log = some draft →
    ∃ note, w.state.document.note id = some note ∧ draft = ⟨note.title, note.body⟩
  gone : ∀ id draft, .updated id draft ∈ w.log → lastSubmitted id w.log = none →
    w.state.document.note id = none

namespace WidgetRun

variable {w t : WidgetRun}
  {id : String} {s : NotesWidgetState}

theorem recorded_start : ({} : WidgetRun).Recorded where
  items _ := rfl
  notes _ := rfl
  wellFormed _ _ h := nomatch h
  allocated _ _ h := nomatch h
  drafts _ _ h := nomatch h
  content _ _ h := nomatch h
  gone _ _ h := nomatch h

/-- Events that submit nothing keep the drafts that are there. -/
theorem Recorded.setDrafts {drafts : String → Option NoteDraft} (h : w.Recorded)
    (hdrafts : ∀ id, w.state.drafts id ≠ none → drafts id = w.state.drafts id) :
    Recorded { w with state := { w.state with drafts } } :=
  { h with
    drafts := fun id draft hsubmitted => by
      have hdraft := h.drafts id draft hsubmitted
      exact (hdrafts id (hdraft ▸ lastContent_ne_none hsubmitted)).trans hdraft }

theorem Recorded.accepted {command : NotesCommand} {candidate : NotesDocument} (h : w.Recorded)
    (happly : command.apply w.state.document = .ok candidate) :
    Recorded ⟨w.state.accepted command candidate,
      command.logged w.state.document ++ w.log⟩ := by
  obtain ⟨hvalid, hnextValid⟩ := NotesCommand.valid_of_apply happly
  have hwell := NotesDocument.valid_iff.mp hvalid
  have hnext := NotesDocument.valid_iff.mp hnextValid
  obtain ⟨hfree, rfl⟩ := (NotesCommand.apply_eq_ok hwell command).mp happly
  -- the content that the command submits, if it is an update of the note
  have hsubmitted : ∀ id draft, command = .updateNote id draft.title draft.body →
      ∃ note, (command.effect w.state.document).note id = some note ∧ draft = ⟨note.title, note.body⟩ ∧
        NoteDraft.fromNote note = draft := by
    rintro id ⟨title, body⟩ rfl
    have hknown : id ∈ w.state.document.noteIds := by
      by_contra hunknown
      exact hfree (.inl hunknown)
    obtain ⟨note, hnote, rfl, rfl⟩ := note_effect_updateNote hnext hknown
    have hmem := ((NotesDocument.note_eq_some_iff hnext.noteIds).mp hnote).1
    exact ⟨note, hnote, rfl, NoteDraft.fromNote_eq hnext hmem⟩
  constructor
  case items =>
    intro id
    rw [pendingItemAdditions_accepted]
    cases command with
    | addItem noteId text =>
      have htext : text.utf8ByteSize ≤ notesItemMaxBytes := by
        by_contra hlong
        exact hfree (.inr (.inr (.inl (Nat.lt_of_not_le hlong))))
      dsimp only
      rw [boundBytes_of_le htext, setAt_eq_ite, h.items]
      rfl
    | removeNote other =>
      dsimp only
      rw [setAt_eq_ite, h.items]
      rfl
    | addNote | setActiveNote | updateNote | setItemText | setChecked | removeItem =>
      exact h.items id
  case notes =>
    intro id
    cases command with
    | updateNote other title body =>
      obtain ⟨note, hnote, -, hfrom⟩ := hsubmitted other ⟨title, body⟩ rfl
      rw [pendingNoteDrafts_accepted_updateNote hnote, setAt_eq_ite, hfrom, h.notes]
      rfl
    | removeNote other =>
      change setAt w.state.pendingNoteDrafts other none id = _
      rw [setAt_eq_ite, h.notes]
      rfl
    | addNote | setActiveNote | addItem | setItemText | setChecked | removeItem =>
      exact h.notes id
  case wellFormed => exact fun _ _ _ => document_accepted ▸ hnext
  case allocated =>
    intro id draft hmem
    rw [document_accepted]
    rcases mem_logged hmem with hupdate | hold
    · obtain ⟨note, hnote, -⟩ := hsubmitted id draft hupdate
      refine NotesDocument.allocated_of_mem_noteIds hnext ?_
      by_contra hunknown
      rw [NotesDocument.note_eq_none_iff.mpr hunknown] at hnote
      cases hnote
    · exact (h.allocated id draft hold).mono NotesCommand.counters_le_effect.1
  case drafts =>
    intro id draft hlast
    obtain ⟨submitted, hupdate, -, hcontent⟩ | ⟨-, hremoved⟩ | ⟨hkeep, hsame, hcontent⟩ :=
      logged_cases w.state.document command id w.log
    · obtain ⟨note, hnote, -, rfl⟩ := hsubmitted id submitted hupdate
      have hresets : resets command id = true := hupdate ▸ decide_eq_true rfl
      rw [hcontent, drafts_accepted hnote, hresets, Bool.not_true, Bool.and_false]
      rfl
    · cases hremoved.symm.trans hlast
    · rw [hsame] at hlast
      obtain ⟨note, hnote, -⟩ := h.content id draft hlast
      obtain ⟨content, hsome⟩ := ne_none_iff_exists'.mp (lastContent_ne_none hlast)
      rw [hcontent, hsome]
      exact drafts_accepted_of_keep hwell hnext
        ((h.drafts id draft hlast).trans hsome) hnote hkeep
  case content =>
    intro id draft hlast
    rw [document_accepted]
    obtain ⟨submitted, hupdate, hnew, -⟩ | ⟨-, hremoved⟩ | ⟨hkeep, hsame, -⟩ :=
      logged_cases w.state.document command id w.log
    · cases hnew.symm.trans hlast
      obtain ⟨note, hnote, heq, -⟩ := hsubmitted id _ hupdate
      exact ⟨note, hnote, heq⟩
    · cases hremoved.symm.trans hlast
    · rw [hsame] at hlast
      obtain ⟨note, hnote, rfl⟩ := h.content id draft hlast
      obtain ⟨next, hfind, htitle, hbody⟩ := note_effect hwell hnext hnote hkeep
      exact ⟨next, hfind, by rw [htitle, hbody]⟩
  case gone =>
    intro id draft hmem hlast
    rw [document_accepted]
    obtain ⟨submitted, -, hnew, -⟩ | ⟨rfl, -⟩ | ⟨hkeep, hsame, -⟩ :=
      logged_cases w.state.document command id w.log
    · cases hnew.symm.trans hlast
    · rw [NotesDocument.note_eq_none_iff]
      exact fun hstill => (mem_map_removeKey.mp hstill).2 rfl
    · rcases mem_logged hmem with rfl | hold
      · cases (decide_eq_true rfl : decide (id = id) = true).symm.trans hkeep
      · exact note_effect_eq_none (h.allocated id draft hold) (h.gone id draft hold (hsame ▸ hlast))

theorem ensureDraft_eq (s : NotesWidgetState) (id : String) :
    ∃ drafts, s.ensureDraft id = { s with drafts } ∧
      ((s.document.note id).isSome = true → drafts id ≠ none) ∧
      ∀ other, s.drafts other ≠ none → drafts other = s.drafts other := by
  unfold ensureDraft
  split
  · next hnone hnote =>
    refine ⟨_, rfl, fun _ => by simp [setAt], fun other hother => ?_⟩
    rw [setAt_eq_ite, if_neg]
    rintro rfl
    exact hother hnone
  · next hmissing =>
    refine ⟨s.drafts, rfl, fun hsome hnone => ?_, fun _ _ => rfl⟩
    obtain ⟨note, hnote⟩ := isSome_iff_exists.mp hsome
    exact hmissing note hnone hnote

theorem typeNote_eq (title body : String) (hnote : (s.document.note id).isSome = true) :
    ∃ drafts, s.typeNote id title body = { s with drafts } ∧
      drafts id = some (.bounded title body) ∧
      ∀ other, s.drafts other ≠ none → other ≠ id → drafts other = s.drafts other := by
  obtain ⟨drafts, heq, hid, hothers⟩ := ensureDraft_eq s id
  obtain ⟨draft, hdraft⟩ := ne_none_iff_exists'.mp (hid hnote)
  refine ⟨setAt drafts id (some (.bounded title body)), ?_, if_pos rfl, fun other hother hne => ?_⟩
  · unfold typeNote
    rw [heq]
    dsimp only
    rw [hdraft]
  · rw [setAt_eq_ite, if_neg hne.symm]
    exact hothers other hother

theorem Recorded.typeNote {title body : String} (h : w.Recorded)
    (hnote : (w.state.document.note id).isSome = true) :
    Recorded ⟨w.state.typeNote id title body, .typed id (.bounded title body) :: w.log⟩ := by
  obtain ⟨drafts, heq, htyped, hothers⟩ := typeNote_eq title body hnote
  have hold : ∀ other draft, Logged.updated other draft ∈
      .typed id (.bounded title body) :: w.log → .updated other draft ∈ w.log := by
    intro other draft hmem
    rcases List.mem_cons.mp hmem with heq | hmem
    · cases heq
    · exact hmem
  rw [heq]
  refine { h with
    wellFormed := fun other draft hmem => h.wellFormed other draft (hold other draft hmem)
    allocated := fun other draft hmem => h.allocated other draft (hold other draft hmem)
    drafts := fun other draft hlast => ?_
    gone := fun other draft hmem => h.gone other draft (hold other draft hmem) }
  dsimp only
  rw [lastContent]
  by_cases heq : id = other
  · rw [if_pos heq, ← heq, htyped]
  · have hdraft := h.drafts other draft hlast
    rw [if_neg heq, ← hdraft]
    exact hothers other (hdraft ▸ lastContent_ne_none hlast) (Ne.symm heq)

theorem Recorded.step {event : WidgetEvent} (h : w.Recorded) (hstep : w.step event = some t) :
    t.Recorded := by
  cases event with
  | accept command =>
    unfold WidgetRun.step at hstep
    dsimp only at hstep
    split at hstep
    · next state haccept =>
      cases hstep
      obtain ⟨candidate, happly, heq⟩ := bind_eq_ok.mp haccept
      cases heq
      exact h.accepted happly
    · cases hstep
      exact { h with }
  | update update =>
    cases hstep
    cases hpending : update.savePending with
    | true =>
      unfold applyUpdate
      rw [hpending]
      exact { h with }
    | false =>
      unfold applyUpdate
      rw [hpending]
      exact ⟨fun _ => rfl, fun _ => rfl, nofun, nofun, nofun, nofun, nofun⟩
  | paint id =>
    obtain ⟨-, hstep⟩ := ite_none_right_eq_some.mp hstep
    obtain ⟨drafts, heq, -, hothers⟩ := ensureDraft_eq w.state id
    rw [heq] at hstep
    cases hstep
    exact { h.setDrafts hothers with }
  | typeNote id title body =>
    obtain ⟨hnote, hstep⟩ := ite_none_right_eq_some.mp hstep
    cases hstep
    exact h.typeNote hnote
  | typeItem id text =>
    obtain ⟨-, hstep⟩ := ite_none_right_eq_some.mp hstep
    cases hstep
    exact { h with }

theorem recorded_of_reaches (h : Reaches step {} w) : w.Recorded :=
  reaches_invariant (fun _ _ _ hw hstep => hw.step hstep) recorded_start h

/-! ### A failed save -/

/-- An update that settles a failed save. -/
structure ReportsFailure (update : NotesUpdate) : Prop where
  settled : update.savePending = false
  error : update.error.isSome = true
  lost : update.durabilityWarning = false

variable {update : NotesUpdate}

theorem drafts_applyUpdate {note : NotePage}
    (hfailure : ReportsFailure update) (hnote : update.document.note id = some note) :
    (s.applyUpdate update).drafts id =
      if s.dirty id then s.drafts id else some ((s.pendingNoteDrafts id).getD (.fromNote note)) := by
  unfold applyUpdate restoreFailedInputs
    reconcileDrafts
  rw [hfailure.settled, hfailure.error, hfailure.lost]
  cases hpending : s.pendingNoteDrafts id with
  | none => simp [hpending, hnote]
  | some submitted =>
    cases hdirty : s.dirty id with
    | true | false => simp [hpending, hnote, hdirty]

theorem newItemDrafts_applyUpdate {note : NotePage}
    (hfailure : ReportsFailure update) (hnote : update.document.note id = some note)
    (hempty : (s.newItemDrafts id).getD "" = "") :
    ((s.applyUpdate update).newItemDrafts id).getD "" = (s.pendingItemAdditions id).getD "" := by
  unfold applyUpdate restoreFailedInputs
    reconcileDrafts
  rw [hfailure.settled, hfailure.error, hfailure.lost]
  cases hpending : s.pendingItemAdditions id with
  | none | some => simp [hpending, hnote, hempty]

/-- The draft of a note with submitted content is the same afterwards, dirty or not. -/
theorem restored_draft {submitted : NoteDraft} {other : NoteDraft} (h : w.Recorded)
    (hlast : lastSubmitted id w.log = some submitted) :
    (if w.state.dirty id then w.state.drafts id else some ((some submitted).getD other)) =
      w.state.drafts id := by
  split
  · rfl
  · next hclean =>
    obtain ⟨note, hnote, rfl⟩ := h.content id submitted hlast
    obtain ⟨draft, hdraft⟩ := ne_none_iff_exists'.mp (lastContent_ne_none hlast)
    rw [h.drafts id _ hlast, hdraft]
    rw [Bool.not_eq_true] at hclean
    unfold dirty at hclean
    rw [h.drafts id _ hlast, hdraft, hnote] at hclean
    rw [NoteDraft.differsFrom_eq_false.mp hclean]
    rfl

/-- A text that the other one contains. -/
def Contains (text part : String) : Prop := part.toList <:+: text.toList

/-- The dropped item is not in the document of the update, its note is, and nothing newer is in
the field. -/
structure Dropped (w : WidgetRun) (update : NotesUpdate) (noteId itemId text : String) : Prop where
  added : .added noteId itemId text ∈ w.log
  absent : itemId ∉ update.document.itemIds
  exists_note : update.document.note noteId ≠ none
  untouched : (w.state.newItemDrafts noteId).getD "" = ""

/-- The submitted content is not that of the note in the document of the update. -/
structure RolledBack (w : WidgetRun) (update : NotesUpdate) (id : String) (draft : NoteDraft)
    (note : NotePage) : Prop where
  updated : .updated id draft ∈ w.log
  found : update.document.note id = some note
  differs : draft.differsFrom note = true

instance (text part : String) : Decidable (Contains text part) :=
  inferInstanceAs (Decidable (part.toList <:+: text.toList))

/-- The first update of a fresh service. -/
def loaded : NotesUpdate := ⟨{}, false, none, false⟩

/-- The save of a change to the default document failed. -/
def saveFailed : NotesUpdate := ⟨{}, false, some "No space left on device", false⟩

theorem reportsFailure_saveFailed : ReportsFailure saveFailed := ⟨rfl, rfl, rfl⟩

end WidgetRun

end OverCrow.Notes
