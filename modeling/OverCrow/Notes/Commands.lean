import OverCrow.Notes.Validity

/-!
# What the notes commands do

On a valid document a command either fails and changes nothing or has one effect, and it fails
exactly when an addressed identifier is unknown, a bound would be exceeded, the last note would be
removed or a counter would overflow. The checks of the candidate never fail for another reason.
-/

namespace OverCrow.Notes
open OverCrow.Base List

/-! ### Effects -/

namespace NotesDocument

/-- One more revision. -/
def bump (document : NotesDocument) : NotesDocument :=
  { document with revision := document.revision + 1 }

/-- Change the note with the identifier. -/
def modifyNote (document : NotesDocument) (noteId : String) (f : NotePage → NotePage) :
    NotesDocument :=
  { document with notes := modifyKey NotePage.id noteId f document.notes }

/-- The note that becomes active when the active one is removed: the one that takes its place, or
the last one. -/
def neighbour (document : NotesDocument) (noteId : String) : String :=
  let notes := removeKey NotePage.id noteId document.notes
  let index := document.notes.findIdx (·.id = noteId)
  (notes[min index (notes.length - 1)]?).elim document.activeNoteId NotePage.id

end NotesDocument

/-- Change the item with the identifier. -/
def NotePage.modifyItem (itemId : String) (f : ChecklistItem → ChecklistItem) (note : NotePage) :
    NotePage :=
  { note with items := modifyKey ChecklistItem.id itemId f note.items }

theorem NotePage.itemIds_modifyItem {itemId : String} {f : ChecklistItem → ChecklistItem}
    (hid : ∀ item, (f item).id = item.id) (note : NotePage) :
    (note.modifyItem itemId f).items.map ChecklistItem.id = note.items.map ChecklistItem.id :=
  map_key_modifyKey fun item _ => hid item

/-- The document after a command that does not fail. -/
def NotesCommand.effect (document : NotesDocument) : NotesCommand → NotesDocument
  | .addNote title =>
    let id := s!"note-{document.nextNoteId}"
    NotesDocument.bump { document with
      nextNoteId := document.nextNoteId + 1
      notes := document.notes ++ [⟨id, title, "", []⟩]
      activeNoteId := id }
  | .setActiveNote id =>
    if document.activeNoteId = id then document
    else NotesDocument.bump { document with activeNoteId := id }
  | .updateNote id title body =>
    (document.modifyNote id fun note => { note with title, body }).bump
  | .removeNote id =>
    NotesDocument.bump { document with
      notes := removeKey NotePage.id id document.notes
      activeNoteId :=
        if document.activeNoteId = id then document.neighbour id else document.activeNoteId }
  | .addItem noteId text =>
    let item : ChecklistItem := ⟨s!"local-{document.nextItemId}", text, false⟩
    ({ document with nextItemId := document.nextItemId + 1 }.modifyNote noteId
      fun note => { note with items := note.items ++ [item] }).bump
  | .setItemText noteId id text =>
    (document.modifyNote noteId (NotePage.modifyItem id fun item => { item with text })).bump
  | .setChecked noteId id checked =>
    (document.modifyNote noteId (NotePage.modifyItem id fun item => { item with checked })).bump
  | .removeItem noteId id =>
    (document.modifyNote noteId fun note =>
      { note with items := removeKey ChecklistItem.id id note.items }).bump

/-- The note has an item with the identifier. -/
def NotesDocument.HasItem (document : NotesDocument) (noteId itemId : String) : Prop :=
  ∃ note ∈ document.notes, note.id = noteId ∧ itemId ∈ note.items.map ChecklistItem.id

/-- Why a command fails: an unknown identifier, a bound, the last note or a counter. -/
def NotesCommand.Blocked (document : NotesDocument) : NotesCommand → Prop
  | .addNote title =>
    ¬TitleFits title ∨ notesPageMaxCount ≤ document.notes.length ∨
      u64Max ≤ document.nextNoteId ∨ u64Max ≤ document.revision
  | .setActiveNote id =>
    document.activeNoteId ≠ id ∧ (id ∉ document.noteIds ∨ u64Max ≤ document.revision)
  | .updateNote id title body =>
    id ∉ document.noteIds ∨ ¬TitleFits title ∨ notesNoteMaxBytes < body.utf8ByteSize ∨
      u64Max ≤ document.revision
  | .removeNote id =>
    id ∉ document.noteIds ∨ document.notes.length = 1 ∨ u64Max ≤ document.revision
  | .addItem noteId text =>
    noteId ∉ document.noteIds ∨
      (∃ note ∈ document.notes, note.id = noteId ∧ notesItemMaxCount ≤ note.items.length) ∨
      notesItemMaxBytes < text.utf8ByteSize ∨ u64Max ≤ document.nextItemId ∨
      u64Max ≤ document.revision
  | .setItemText noteId id text =>
    ¬document.HasItem noteId id ∨ notesItemMaxBytes < text.utf8ByteSize ∨
      u64Max ≤ document.revision
  | .setChecked noteId id _ => ¬document.HasItem noteId id ∨ u64Max ≤ document.revision
  | .removeItem noteId id => ¬document.HasItem noteId id ∨ u64Max ≤ document.revision

/-! ### The operations of the document -/

namespace NotesDocument

section UpdateFirst

variable {α κ : Type} [DecidableEq κ] {key : α → κ} {k : κ} {f : α → Except NotesError α}
  {missing : String} {l out : List α}

/-- With distinct keys one element is changed, by a change that succeeds on the elements with `P` and then
does `g`. -/
theorem updateFirst_eq_ok {P : α → Prop} (g : α → α) (h : (l.map key).Nodup)
    (hf : ∀ a ∈ l, ∀ b, f a = .ok b ↔ P a ∧ b = g a) :
    updateFirst (fun a => key a = k) f missing l = .ok out ↔
      (∃ a ∈ l, key a = k ∧ P a) ∧ out = modifyKey key k g l := by
  induction l generalizing out with
  | nil => simp [updateFirst]
  | cons x l ih =>
    obtain ⟨hx, hl⟩ := nodup_cons.mp h
    obtain ⟨hfx, hfl⟩ := forall_mem_cons.mp hf
    rw [updateFirst]
    by_cases hk : key x = k
    · -- no later element has the key
      have hrest : l.map (fun a => if key a = k then g a else a) = l := modifyKey_of_not_mem (hk ▸ hx)
      have hothers : ∀ a ∈ l, key a ≠ k := fun a ha heq => hx (hk ▸ heq ▸ mem_map_of_mem ha)
      have hfound : (∃ a ∈ x :: l, key a = k ∧ P a) ↔ P x := by
        simpa [hk] using fun a ha heq => absurd heq (hothers a ha)
      simp only [hk, decide_true, if_true, map_eq_ok, hfx, hfound, modifyKey, map_cons, hrest]
      grind
    · simp [hk, map_eq_ok, ih hl hfl, modifyKey]
      grind

end UpdateFirst

variable {document candidate next : NotesDocument} {noteId itemId : String}
  {change : NotePage → Except NotesError NotePage} {title : String}

theorem finish_eq_ok :
    candidate.finish = .ok next ↔
      candidate.revision < u64Max ∧ candidate.Valid ∧ next = candidate.bump := by
  unfold finish incrementRevision checkedAdd
  by_cases hrevision : candidate.revision + 1 ≤ u64Max
  · rw [if_pos hrevision]
    change (candidate.bump.validate >>= fun _ => .ok candidate.bump) = .ok next ↔ _
    rw [check_bind_eq_ok, Except.ok.injEq]
    exact ⟨fun h => ⟨hrevision, h.1, h.2.symm⟩, fun h => ⟨h.2.1, h.2.2.symm⟩⟩
  · rw [if_neg hrevision]
    exact ⟨nofun, fun h => absurd h.1 hrevision⟩

theorem mutate_eq_ok {mutation : NotesDocument → Except NotesError NotesDocument} (h : document.Valid) :
    document.mutate mutation = .ok next ↔
      ∃ candidate, mutation document = .ok candidate ∧ candidate.revision < u64Max ∧
        candidate.Valid ∧ next = candidate.bump := by
  unfold mutate
  rw [check_bind_eq_ok, bind_eq_ok]
  simp only [finish_eq_ok]
  exact ⟨fun hnext => hnext.2, fun hnext => ⟨h, hnext⟩⟩

/-- A change of a note that succeeds on the notes with `P` and then does `f`. -/
theorem noteMut_eq_ok {P : NotePage → Prop} (f : NotePage → NotePage) (h : document.noteIds.Nodup)
    (hchange : ∀ note ∈ document.notes, ∀ other, change note = .ok other ↔ P note ∧ other = f note) :
    document.noteMut noteId change = .ok candidate ↔
      (∃ note ∈ document.notes, note.id = noteId ∧ P note) ∧
        candidate = document.modifyNote noteId f := by
  unfold noteMut
  rw [map_eq_ok]
  simp only [updateFirst_eq_ok f h hchange]
  constructor
  · rintro ⟨notes, ⟨hfound, rfl⟩, rfl⟩
    exact ⟨hfound, rfl⟩
  · rintro ⟨hfound, rfl⟩
    exact ⟨_, ⟨hfound, rfl⟩, rfl⟩

/-- Identifiers of notes and items of a valid document pass the check of identifiers. -/
theorem validateIdentifier_of_mem_noteIds {description : String} (h : document.WellFormed)
    (hmem : noteId ∈ document.noteIds) : validateIdentifier noteId description = .ok () := by
  obtain ⟨note, hnote, rfl⟩ := mem_map.mp hmem
  exact validateIdentifier_of_allocated (by decide) (h.pages note hnote).id

/-- A change of one note that keeps its identifier. -/
theorem wellFormed_modifyNote {f : NotePage → NotePage} {nextItemId : Nat} (h : document.WellFormed)
    (hid : ∀ note, (f note).id = note.id) (hnext : document.nextItemId ≤ nextItemId)
    (hitems : (itemIdsOf (modifyKey NotePage.id noteId f document.notes)).Nodup) :
    ({ document with nextItemId }.modifyNote noteId f).WellFormed ↔
      ∀ note ∈ document.notes, note.id = noteId →
        PageFits document.nextNoteId nextItemId (f note) := by
  have hids : ({ document with nextItemId }.modifyNote noteId f).noteIds = document.noteIds :=
    map_key_modifyKey fun note _ => hid note
  constructor
  · intro hmodified note hnote heq
    exact hmodified.pages (f note) (mem_modifyKey.mpr ⟨note, hnote, .inl ⟨heq, rfl⟩⟩)
  · intro hfits
    refine { h with
      nonempty := fun hempty => h.nonempty (map_eq_nil_iff.mp hempty)
      count := Nat.le_trans (Nat.le_of_eq length_modifyKey) h.count
      nextItemId := Nat.lt_of_lt_of_le h.nextItemId hnext
      pages := fun note hnote => ?_, noteIds := ?_, itemIds := hitems, active := ?_ }
    · obtain ⟨old, hold, ⟨heq, rfl⟩ | ⟨-, rfl⟩⟩ := mem_modifyKey.mp hnote
      · exact hfits old hold heq
      · have hpage := h.pages note hold
        exact { hpage with
          items := fun item hitem => ⟨(hpage.items item hitem).id.mono hnext, (hpage.items item hitem).text⟩ }
    · rw [hids]
      exact h.noteIds
    · rw [hids]
      exact h.active

/-- Changes that add no item. -/
theorem itemIdsOf_modifyKey_sublist {f : NotePage → NotePage} {notes : List NotePage}
    (noteId : String) (hf : ∀ note, ((f note).items.map ChecklistItem.id).Sublist
      (note.items.map ChecklistItem.id)) :
    (itemIdsOf (modifyKey NotePage.id noteId f notes)).Sublist (itemIdsOf notes) := by
  induction notes with
  | nil => exact List.Sublist.refl _
  | cons note notes ih =>
    rw [modifyKey, map_cons, itemIdsOf_cons, itemIdsOf_cons]
    refine List.Sublist.append ?_ ih
    split
    · exact hf note
    · exact List.Sublist.refl _

theorem allocated_of_mem_itemIds (h : document.WellFormed) (hmem : itemId ∈ document.itemIds) :
    Allocated "local-" document.nextItemId itemId := by
  obtain ⟨note, hnote, hid⟩ := mem_flatMap.mp hmem
  obtain ⟨item, hitem, rfl⟩ := mem_map.mp hid
  exact ((h.pages note hnote).items item hitem).id

theorem allocated_of_mem_noteIds (h : document.WellFormed) (hmem : noteId ∈ document.noteIds) :
    Allocated "note-" document.nextNoteId noteId := by
  obtain ⟨note, hnote, rfl⟩ := mem_map.mp hmem
  exact (h.pages note hnote).id

/-- The added item is new in every note. -/
theorem nodup_itemIdsOf_addItem {item : ChecklistItem} (h : document.WellFormed)
    (hmem : noteId ∈ document.noteIds) (hnew : item.id ∉ document.itemIds) :
    (itemIdsOf (modifyKey NotePage.id noteId
      (fun note => { note with items := note.items ++ [item] }) document.notes)).Nodup := by
  have hnotes := h.noteIds
  have hitems := h.itemIds
  unfold noteIds at hmem hnotes
  unfold itemIds at hnew hitems
  obtain ⟨note, hnote, hid⟩ := mem_map.mp hmem
  obtain ⟨before, after, hsplit⟩ := append_of_mem hnote
  rw [hsplit] at hnotes hitems hnew ⊢
  rw [modifyKey_append_cons hid hnotes]
  unfold itemIdsOf at hitems hnew ⊢
  rw [flatMap_append, flatMap_cons, ← append_assoc] at hitems hnew ⊢
  rw [map_append, map_singleton, ← append_assoc, append_assoc,
    singleton_append, nodup_middle, nodup_cons]
  exact ⟨hnew, hitems⟩

theorem wellFormed_addNote (h : document.WellFormed) (hbound : document.nextNoteId < u64Max) :
    ({ document with
      nextNoteId := document.nextNoteId + 1
      notes := document.notes ++ [⟨"note-" ++ toString document.nextNoteId, title, "", []⟩]
      activeNoteId := "note-" ++ toString document.nextNoteId } : NotesDocument).WellFormed ↔
      TitleFits title ∧ document.notes.length < notesPageMaxCount := by
  constructor
  · intro hadded
    have hpage := hadded.pages _ (mem_append_right _ mem_cons_self)
    have hcount := hadded.count
    rw [length_append, length_singleton] at hcount
    exact ⟨hpage.title, hcount⟩
  · rintro ⟨htitle, hcount⟩
    have hids : (document.notes ++
        [(⟨"note-" ++ toString document.nextNoteId, title, "", []⟩ : NotePage)]).map NotePage.id =
          document.noteIds ++ ["note-" ++ toString document.nextNoteId] := map_append
    refine { h with
      nonempty := by simp, count := ?_, nextNoteId := Nat.succ_pos _, pages := ?_, noteIds := ?_
      itemIds := ?_, active := ?_ }
    · rw [length_append, length_singleton]
      exact hcount
    · intro note hnote
      rcases mem_append.mp hnote with hold | hnew
      · exact { h.pages note hold with id := (h.pages note hold).id.mono (Nat.le_succ _) }
      · rw [mem_singleton.mp hnew]
        exact ⟨⟨document.nextNoteId, rfl, h.nextNoteId, Nat.le_of_lt hbound, Nat.lt_succ_self _⟩, htitle,
          Nat.zero_le _, Nat.zero_le _, nofun⟩
    · unfold noteIds
      rw [hids, nodup_append]
      refine ⟨h.noteIds, nodup_singleton _, ?_⟩
      rintro id hid _ hnew rfl
      have hallocated := allocated_of_mem_noteIds h hid
      rw [mem_singleton.mp hnew] at hallocated
      exact not_allocated_next _ _ hallocated
    · unfold itemIds itemIdsOf
      rw [flatMap_append, flatMap_singleton, map_nil, append_nil]
      exact h.itemIds
    · unfold noteIds
      rw [hids]
      exact mem_append_right _ mem_cons_self

theorem itemIdsOf_sublist {notes others : List NotePage} (h : notes.Sublist others) :
    (itemIdsOf notes).Sublist (itemIdsOf others) := by
  induction h with
  | slnil => exact List.Sublist.refl _
  | cons note _ ih =>
    rw [itemIdsOf_cons]
    exact ih.trans (sublist_append_right _ _)
  | cons_cons note _ ih =>
    rw [itemIdsOf_cons, itemIdsOf_cons]
    exact (List.Sublist.refl _).append ih

section

variable (h : document.WellFormed) (hmem : noteId ∈ document.noteIds) (hlast : document.notes.length ≠ 1)

include h hmem hlast

theorem removeKey_ne_nil :
    removeKey NotePage.id noteId document.notes ≠ [] := by
  obtain ⟨note, hnote, hid⟩ := mem_map.mp hmem
  have hlength : (document.notes.eraseP fun note => note.id = noteId).length =
      document.notes.length - 1 := length_eraseP_of_mem hnote (decide_eq_true hid)
  have hpos := length_pos_of_mem hnote
  rw [eraseP_eq_removeKey h.noteIds] at hlength
  intro hempty
  rw [hempty, length_nil] at hlength
  omega

theorem wellFormed_removeNote :
    ({ document with
      notes := removeKey NotePage.id noteId document.notes
      activeNoteId :=
        if document.activeNoteId = noteId then document.neighbour noteId
        else document.activeNoteId } : NotesDocument).WellFormed := by
  have hnonempty := removeKey_ne_nil h hmem hlast
  have hsublist : (removeKey NotePage.id noteId document.notes).Sublist document.notes :=
    filter_sublist
  refine { h with
    nonempty := hnonempty, count := Nat.le_trans hsublist.length_le h.count
    pages := fun note hnote => h.pages note (hsublist.subset hnote)
    noteIds := nodup_map_removeKey h.noteIds
    itemIds := h.itemIds.sublist (itemIdsOf_sublist hsublist), active := ?_ }
  change (if document.activeNoteId = noteId then document.neighbour noteId
    else document.activeNoteId) ∈ (removeKey NotePage.id noteId document.notes).map NotePage.id
  split
  · unfold neighbour
    dsimp only
    have hpos := length_pos_iff.mpr hnonempty
    rw [getElem?_eq_getElem (by omega)]
    exact mem_map_of_mem (getElem_mem _)
  · next hother => exact mem_map_removeKey.mpr ⟨h.active, hother⟩

end

/-! ### The commands -/

theorem addNote_eq_ok (h : document.WellFormed) :
    document.addNote title = .ok next ↔ ¬(NotesCommand.addNote title).Blocked document ∧
      next = (NotesCommand.addNote title).effect document := by
  unfold addNote checkedAdd
  rw [check_bind_eq_ok]
  simp only [NotesCommand.Blocked, not_or, not_not, Nat.not_le]
  by_cases hbound : document.nextNoteId + 1 ≤ u64Max
  · rw [if_pos hbound]
    rw [finish_eq_ok, valid_iff]
    constructor
    · rintro ⟨-, hrevision, hadded, rfl⟩
      obtain ⟨htitle, hcount⟩ := (wellFormed_addNote h hbound).mp hadded
      exact ⟨⟨htitle, hcount, hbound, hrevision⟩, rfl⟩
    · rintro ⟨⟨htitle, hcount, -, hrevision⟩, rfl⟩
      exact ⟨valid_iff.mpr h, hrevision, (wellFormed_addNote h hbound).mpr ⟨htitle, hcount⟩, rfl⟩
  · rw [if_neg hbound]
    exact ⟨fun h => (nomatch h.2), fun h => absurd h.1.2.2.1 hbound⟩

theorem setActiveNote_eq_ok (h : document.WellFormed) :
    document.setActiveNote noteId = .ok next ↔
      ¬(NotesCommand.setActiveNote noteId).Blocked document ∧
        next = (NotesCommand.setActiveNote noteId).effect document := by
  unfold setActiveNote
  rw [check_bind_eq_ok, check_bind_eq_ok]
  simp only [NotesCommand.Blocked, NotesCommand.effect]
  by_cases hactive : document.activeNoteId = noteId
  · rw [if_pos hactive, if_pos hactive]
    constructor
    · rintro ⟨-, -, hnext⟩
      exact ⟨fun hblocked => hblocked.1 hactive, (Except.ok.inj hnext).symm⟩
    · rintro ⟨-, rfl⟩
      exact ⟨validateIdentifier_of_mem_noteIds h (hactive ▸ h.active), valid_iff.mpr h, rfl⟩
  · rw [if_neg hactive, if_neg hactive, mutate_eq_ok (valid_iff.mpr h)]
    simp only [reject_bind_eq_ok, note_eq_none_iff, not_not]
    constructor
    · rintro ⟨-, -, candidate, ⟨hmem, hcandidate⟩, hrevision, -, rfl⟩
      cases hcandidate
      refine ⟨fun hblocked => hblocked.2.elim (fun hunknown => hunknown hmem)
        (Nat.not_le_of_lt hrevision), rfl⟩
    · rintro ⟨hfree, rfl⟩
      rw [not_and_or, not_or, not_not, not_not, Nat.not_le] at hfree
      obtain ⟨hmem, hrevision⟩ := hfree.resolve_left hactive
      refine ⟨validateIdentifier_of_mem_noteIds h hmem, valid_iff.mpr h, _,
        ⟨hmem, rfl⟩, hrevision, valid_iff.mpr { h with active := hmem }, rfl⟩

/-- The commands that change one note in place. -/
theorem mutate_noteMut_eq_ok {P : NotePage → Prop} (f : NotePage → NotePage) (h : document.WellFormed)
    (hchange : ∀ note ∈ document.notes, ∀ other, change note = .ok other ↔ P note ∧ other = f note)
    (hid : ∀ note, (f note).id = note.id) (hitems : ∀ note, ((f note).items.map ChecklistItem.id).Sublist
      (note.items.map ChecklistItem.id)) :
    (document.mutate fun candidate => candidate.noteMut noteId change) = .ok next ↔
      (∃ note ∈ document.notes, note.id = noteId ∧ P note) ∧ document.revision < u64Max ∧
        (∀ note ∈ document.notes, note.id = noteId →
          PageFits document.nextNoteId document.nextItemId (f note)) ∧
        next = (document.modifyNote noteId f).bump := by
  have hnodup := h.itemIds.sublist (itemIdsOf_modifyKey_sublist noteId hitems)
  have hvalid : (document.modifyNote noteId f).Valid ↔ _ :=
    valid_iff.trans (wellFormed_modifyNote h hid (Nat.le_refl _) hnodup)
  rw [mutate_eq_ok (valid_iff.mpr h)]
  simp only [noteMut_eq_ok f h.noteIds hchange]
  constructor
  · rintro ⟨candidate, ⟨hfound, rfl⟩, hrevision, hmodified, rfl⟩
    exact ⟨hfound, hrevision, hvalid.mp hmodified, rfl⟩
  · rintro ⟨hfound, hrevision, hfits, rfl⟩
    exact ⟨_, ⟨hfound, rfl⟩, hrevision, hvalid.mpr hfits, rfl⟩

/-- A change that does not fail. -/
theorem ok_eq_ok_iff {α : Type} {a b : α} : (Except.ok a : Except NotesError α) = .ok b ↔ True ∧ b = a := by
  rw [Except.ok.injEq, true_and, eq_comm]

theorem exists_note_iff :
    (∃ note ∈ document.notes, note.id = noteId ∧ True) ↔ noteId ∈ document.noteIds := by
  simp only [and_true]
  exact mem_map.symm

section

variable (h : document.WellFormed)

include h

theorem updateNote_eq_ok {body : String} :
    document.updateNote noteId title body = .ok next ↔
      ¬(NotesCommand.updateNote noteId title body).Blocked document ∧
        next = (NotesCommand.updateNote noteId title body).effect document := by
  unfold updateNote
  rw [check_bind_eq_ok, mutate_noteMut_eq_ok (fun note => { note with title, body }) h
    (fun _ _ _ => ok_eq_ok_iff) (fun _ => rfl) fun _ => List.Sublist.refl _, exists_note_iff]
  simp only [NotesCommand.Blocked, not_or, not_not, Nat.not_lt, Nat.not_le]
  constructor
  · rintro ⟨-, hmem, hrevision, hfits, rfl⟩
    obtain ⟨note, hnote, hid⟩ := mem_map.mp hmem
    have hpage := hfits note hnote hid
    exact ⟨⟨hmem, hpage.title, hpage.body, hrevision⟩, rfl⟩
  · rintro ⟨⟨hmem, htitle, hbody, hrevision⟩, rfl⟩
    exact ⟨validateIdentifier_of_mem_noteIds h hmem, hmem, hrevision,
      fun note hnote _ => { h.pages note hnote with title := htitle, body := hbody }, rfl⟩

theorem removeNote_eq_ok :
    document.removeNote noteId = .ok next ↔
      ¬(NotesCommand.removeNote noteId).Blocked document ∧
        next = (NotesCommand.removeNote noteId).effect document := by
  unfold removeNote
  rw [check_bind_eq_ok, mutate_eq_ok (valid_iff.mpr h)]
  simp only [NotesCommand.Blocked, not_or, not_not, Nat.not_le]
  cases hindex : document.notes.findIdx? (fun note => note.id = noteId) with
  | none =>
    constructor
    · rintro ⟨-, candidate, hcandidate, -⟩
      cases hcandidate
    · rintro ⟨⟨hmem, -⟩, -⟩
      exact absurd hmem (not_mem_of_findIdx? hindex)
  | some index =>
    obtain ⟨hmem, hfind, herase⟩ := findIdx?_key_eq_some h.noteIds hindex
    dsimp only
    rw [herase]
    simp only [reject_bind_eq_ok]
    constructor
    · rintro ⟨-, candidate, ⟨hlast, hcandidate⟩, hrevision, -, rfl⟩
      cases hcandidate
      refine ⟨⟨hmem, hlast, hrevision⟩, ?_⟩
      simp only [NotesCommand.effect, neighbour, hfind]
    · rintro ⟨⟨-, hlast, hrevision⟩, rfl⟩
      refine ⟨validateIdentifier_of_mem_noteIds h hmem, _, ⟨hlast, rfl⟩, hrevision, ?_, ?_⟩
      · have hremoved := wellFormed_removeNote h hmem hlast
        simp only [neighbour, hfind] at hremoved
        exact valid_iff.mpr hremoved
      · simp only [NotesCommand.effect, neighbour, hfind]

theorem addItemTo_eq_ok {text : String} :
    document.addItemTo noteId text = .ok next ↔
      ¬(NotesCommand.addItem noteId text).Blocked document ∧
        next = (NotesCommand.addItem noteId text).effect document := by
  let item : ChecklistItem := ⟨"local-" ++ toString document.nextItemId, text, false⟩
  let add (note : NotePage) : NotePage := { note with items := note.items ++ [item] }
  let counted : NotesDocument := { document with nextItemId := document.nextItemId + 1 }
  unfold addItemTo checkedAdd
  rw [check_bind_eq_ok, check_bind_eq_ok]
  simp only [NotesCommand.Blocked, not_or, not_not, Nat.not_lt, Nat.not_le]
  by_cases hbound : document.nextItemId + 1 ≤ u64Max
  · have hitem : ItemFits (document.nextItemId + 1) item ↔ text.utf8ByteSize ≤ notesItemMaxBytes :=
      ⟨fun hfits => hfits.text, fun htext => ⟨⟨document.nextItemId, rfl, h.nextItemId,
        Nat.le_of_lt hbound, Nat.lt_succ_self _⟩, htext⟩⟩
    have hnew : item.id ∉ document.itemIds := fun hmem =>
      not_allocated_next _ _ (allocated_of_mem_itemIds h hmem)
    rw [if_pos hbound]
    rw [bind_eq_ok]
    change (_ ∧ _ ∧ ∃ candidate, counted.noteMut noteId (fun note => .ok (add note)) =
      .ok candidate ∧ candidate.finish = .ok next) ↔ _
    have hmut : ∀ candidate, counted.noteMut noteId (fun note => .ok (add note)) = .ok candidate ↔
        noteId ∈ document.noteIds ∧ candidate = counted.modifyNote noteId add := by
      intro candidate
      have hnodup : counted.noteIds.Nodup := h.noteIds
      rw [noteMut_eq_ok add hnodup fun _ _ _ => ok_eq_ok_iff]
      exact and_congr_left fun _ => exists_note_iff
    have hvalid : noteId ∈ document.noteIds → ((counted.modifyNote noteId add).Valid ↔
        ∀ note ∈ document.notes, note.id = noteId →
          PageFits document.nextNoteId (document.nextItemId + 1) (add note)) := fun hmem =>
      valid_iff.trans (wellFormed_modifyNote h (fun _ => rfl) (Nat.le_succ _)
        (nodup_itemIdsOf_addItem h hmem hnew))
    simp only [hmut, finish_eq_ok]
    constructor
    · rintro ⟨-, -, candidate, ⟨hmem, rfl⟩, hrevision, hadded, rfl⟩
      have hfits := (hvalid hmem).mp hadded
      obtain ⟨note, hnote, hid⟩ := mem_map.mp hmem
      refine ⟨⟨hmem, ?_, ?_, hbound, hrevision⟩, rfl⟩
      · rintro ⟨other, hother, heq, hcount⟩
        have hle := (hfits other hother heq).count
        rw [length_append, length_singleton] at hle
        omega
      · exact hitem.mp ((hfits note hnote hid).items item
          (mem_append_right _ mem_cons_self))
    · rintro ⟨⟨hmem, hcount, htext, -, hrevision⟩, rfl⟩
      refine ⟨validateIdentifier_of_mem_noteIds h hmem, valid_iff.mpr h, _, ⟨hmem, rfl⟩, hrevision,
        (hvalid hmem).mpr fun note hnote hid => ?_, rfl⟩
      have hpage := h.pages note hnote
      refine { hpage with count := ?_, items := ?_ }
      · have hroom : note.items.length < notesItemMaxCount :=
          Nat.lt_of_not_le fun hle => hcount ⟨note, hnote, hid, hle⟩
        rw [length_append, length_singleton]
        exact hroom
      · intro other hother
        rcases mem_append.mp hother with hold | hlast
        · have hfits := hpage.items other hold
          exact ⟨hfits.id.mono (Nat.le_succ _), hfits.text⟩
        · rw [mem_singleton.mp hlast]
          exact hitem.mpr htext
  · rw [if_neg hbound]
    exact ⟨fun h => (nomatch h.2.2), fun h => absurd h.1.2.2.2.1 hbound⟩

/-! ### Items -/

theorem nodup_items {note : NotePage} (hnote : note ∈ document.notes) :
    (note.items.map ChecklistItem.id).Nodup := by
  refine h.itemIds.sublist ?_
  have hsingle := itemIdsOf_sublist (singleton_sublist.mpr hnote)
  rw [itemIdsOf_cons] at hsingle
  exact (sublist_append_left _ _).trans hsingle

theorem validateIdentifier_of_hasItem {description : String} (hitem : document.HasItem noteId itemId) :
    noteId ∈ document.noteIds ∧ validateIdentifier itemId description = .ok () := by
  obtain ⟨note, hnote, hid, hmem⟩ := hitem
  obtain ⟨item, hitem, rfl⟩ := mem_map.mp hmem
  refine ⟨mem_map.mpr ⟨note, hnote, hid⟩, ?_⟩
  exact validateIdentifier_of_allocated (by decide) ((h.pages note hnote).items item hitem).id

end

/-- A change of one item in place. -/
theorem mutate_itemMut_eq_ok (f : ChecklistItem → ChecklistItem) (h : document.WellFormed)
    (hid : ∀ item, (f item).id = item.id) :
    (document.mutate fun candidate => candidate.itemMut noteId itemId f) = .ok next ↔
      document.HasItem noteId itemId ∧ document.revision < u64Max ∧
        (∀ note ∈ document.notes, note.id = noteId → ∀ item ∈ note.items, item.id = itemId →
          (f item).text.utf8ByteSize ≤ notesItemMaxBytes) ∧
        next = (document.modifyNote noteId (NotePage.modifyItem itemId f)).bump := by
  have hitems : ∀ note : NotePage, (note.modifyItem itemId f).items.map ChecklistItem.id =
      note.items.map ChecklistItem.id := NotePage.itemIds_modifyItem hid
  have hchange : ∀ note ∈ document.notes, ∀ other,
      (updateFirst (fun item : ChecklistItem => item.id = itemId) (fun item => .ok (f item))
        "unknown checklist item ID" note.items).map (fun items => { note with items }) = .ok other ↔
        itemId ∈ note.items.map ChecklistItem.id ∧ other = note.modifyItem itemId f := by
    intro note hnote other
    rw [map_eq_ok]
    simp only [updateFirst_eq_ok f (nodup_items h hnote) fun _ _ _ => ok_eq_ok_iff, and_true,
      mem_map]
    constructor
    · rintro ⟨items, ⟨hfound, rfl⟩, rfl⟩
      exact ⟨hfound, rfl⟩
    · rintro ⟨hfound, rfl⟩
      exact ⟨_, ⟨hfound, rfl⟩, rfl⟩
  unfold itemMut
  rw [mutate_noteMut_eq_ok _ h hchange (fun _ => rfl) fun note => (hitems note ▸ List.Sublist.refl _)]
  refine and_congr_right fun _ => and_congr_right fun _ => and_congr_left fun _ => ?_
  refine forall_congr' fun note => forall_congr' fun hnote => forall_congr' fun _ => ?_
  have hpage := h.pages note hnote
  constructor
  · intro hfits item hitem heq
    exact (hfits.items (f item) (mem_modifyKey.mpr ⟨item, hitem, .inl ⟨heq, rfl⟩⟩)).text
  · intro htext
    refine { hpage with
      count := Nat.le_trans (Nat.le_of_eq length_modifyKey) hpage.count, items := fun item hmem => ?_ }
    obtain ⟨old, hold, ⟨heq, rfl⟩ | ⟨-, rfl⟩⟩ := mem_modifyKey.mp hmem
    · exact ⟨hid old ▸ (hpage.items old hold).id, htext old hold heq⟩
    · exact hpage.items item hold

theorem setItemTextIn_eq_ok {text : String} (h : document.WellFormed) :
    document.setItemTextIn noteId itemId text = .ok next ↔
      ¬(NotesCommand.setItemText noteId itemId text).Blocked document ∧
        next = (NotesCommand.setItemText noteId itemId text).effect document := by
  unfold setItemTextIn
  rw [check_bind_eq_ok, check_bind_eq_ok,
    mutate_itemMut_eq_ok (fun item => { item with text }) h fun _ => rfl]
  simp only [NotesCommand.Blocked, not_or, not_not, Nat.not_lt, Nat.not_le]
  constructor
  · rintro ⟨-, -, hitem, hrevision, htext, rfl⟩
    refine ⟨⟨hitem, ?_, hrevision⟩, rfl⟩
    obtain ⟨note, hnote, hid, hmem⟩ := hitem
    obtain ⟨item, hitem, heq⟩ := mem_map.mp hmem
    exact htext note hnote hid item hitem heq
  · rintro ⟨⟨hitem, htext, hrevision⟩, rfl⟩
    obtain ⟨hmem, hvalid⟩ := validateIdentifier_of_hasItem h hitem
    exact ⟨validateIdentifier_of_mem_noteIds h hmem, hvalid, hitem, hrevision,
      fun _ _ _ _ _ _ => htext, rfl⟩

theorem setCheckedIn_eq_ok {checked : Bool} (h : document.WellFormed) :
    document.setCheckedIn noteId itemId checked = .ok next ↔
      ¬(NotesCommand.setChecked noteId itemId checked).Blocked document ∧
        next = (NotesCommand.setChecked noteId itemId checked).effect document := by
  unfold setCheckedIn
  rw [check_bind_eq_ok, check_bind_eq_ok,
    mutate_itemMut_eq_ok (fun item => { item with checked }) h fun _ => rfl]
  simp only [NotesCommand.Blocked, not_or, not_not, Nat.not_le]
  constructor
  · rintro ⟨-, -, hitem, hrevision, -, rfl⟩
    exact ⟨⟨hitem, hrevision⟩, rfl⟩
  · rintro ⟨⟨hitem, hrevision⟩, rfl⟩
    obtain ⟨hmem, hvalid⟩ := validateIdentifier_of_hasItem h hitem
    exact ⟨validateIdentifier_of_mem_noteIds h hmem, hvalid, hitem, hrevision,
      fun note hnote _ item hitem _ => ((h.pages note hnote).items item hitem).text, rfl⟩

theorem removeItemFrom_eq_ok (h : document.WellFormed) :
    document.removeItemFrom noteId itemId = .ok next ↔
      ¬(NotesCommand.removeItem noteId itemId).Blocked document ∧
        next = (NotesCommand.removeItem noteId itemId).effect document := by
  unfold removeItemFrom
  rw [check_bind_eq_ok, check_bind_eq_ok,
    mutate_noteMut_eq_ok (P := fun note => itemId ∈ note.items.map ChecklistItem.id)
      (fun note => { note with items := removeKey ChecklistItem.id itemId note.items }) h ?_
      (fun _ => rfl) fun _ => filter_sublist.map _]
  · simp only [NotesCommand.Blocked, not_or, not_not, Nat.not_le]
    constructor
    · rintro ⟨-, -, hitem, hrevision, -, rfl⟩
      exact ⟨⟨hitem, hrevision⟩, rfl⟩
    · rintro ⟨⟨hitem, hrevision⟩, rfl⟩
      obtain ⟨hmem, hvalid⟩ := validateIdentifier_of_hasItem h hitem
      refine ⟨validateIdentifier_of_mem_noteIds h hmem, hvalid, hitem, hrevision,
        fun note hnote _ => ?_, rfl⟩
      have hpage := h.pages note hnote
      exact { hpage with
        count := Nat.le_trans (length_filter_le _ _) hpage.count
        items := fun item hitem => hpage.items item (mem_of_mem_filter hitem) }
  · intro note hnote other
    split
    · next hindex =>
      exact ⟨nofun, fun hfound => absurd hfound.1 (not_mem_of_findIdx? hindex)⟩
    · next index hindex =>
      obtain ⟨hmem, -, herase⟩ := findIdx?_key_eq_some (nodup_items h hnote) hindex
      rw [herase, Except.ok.injEq]
      exact ⟨fun hsame => ⟨hmem, hsame.symm⟩, fun hsame => hsame.2.symm⟩

end NotesDocument

/-- On a valid document a command succeeds exactly when nothing blocks it, with its effect. -/
theorem NotesCommand.apply_eq_ok {document next : NotesDocument} (h : document.WellFormed)
    (command : NotesCommand) :
    command.apply document = .ok next ↔
      ¬command.Blocked document ∧ next = command.effect document := by
  cases command with
  | addNote title => exact NotesDocument.addNote_eq_ok h
  | setActiveNote id => exact NotesDocument.setActiveNote_eq_ok h
  | updateNote id title body => exact NotesDocument.updateNote_eq_ok h
  | removeNote id => exact NotesDocument.removeNote_eq_ok h
  | addItem noteId text => exact NotesDocument.addItemTo_eq_ok h
  | setItemText noteId id text => exact NotesDocument.setItemTextIn_eq_ok h
  | setChecked noteId id checked => exact NotesDocument.setCheckedIn_eq_ok h
  | removeItem noteId id => exact NotesDocument.removeItemFrom_eq_ok h

/-! ### Validity -/

namespace NotesDocument

variable {document candidate next : NotesDocument}

theorem valid_of_finish (h : candidate.finish = .ok next) : next.Valid := by
  obtain ⟨-, hvalid, rfl⟩ := finish_eq_ok.mp h
  exact hvalid

theorem valid_of_mutate {mutation : NotesDocument → Except NotesError NotesDocument}
    (h : document.mutate mutation = .ok next) : document.Valid ∧ next.Valid := by
  obtain ⟨hvalid, h⟩ := check_bind_eq_ok.mp h
  obtain ⟨candidate, -, hfinish⟩ := bind_eq_ok.mp h
  exact ⟨hvalid, valid_of_finish hfinish⟩

end NotesDocument

/-- A command that succeeds was applied to a valid document and leaves one. -/
theorem NotesCommand.valid_of_apply {document next : NotesDocument} {command : NotesCommand}
    (h : command.apply document = .ok next) : document.Valid ∧ next.Valid := by
  cases command with
  | addNote title =>
    obtain ⟨hvalid, h⟩ := check_bind_eq_ok.mp h
    refine ⟨hvalid, ?_⟩
    split at h
    · cases h
    · exact NotesDocument.valid_of_finish h
  | setActiveNote id =>
    obtain ⟨-, h⟩ := check_bind_eq_ok.mp h
    obtain ⟨hvalid, h⟩ := check_bind_eq_ok.mp h
    split at h
    · cases h
      exact ⟨hvalid, hvalid⟩
    · exact NotesDocument.valid_of_mutate h
  | addItem noteId text =>
    obtain ⟨-, h⟩ := check_bind_eq_ok.mp h
    obtain ⟨hvalid, h⟩ := check_bind_eq_ok.mp h
    refine ⟨hvalid, ?_⟩
    split at h
    · cases h
    · obtain ⟨candidate, -, hfinish⟩ := bind_eq_ok.mp h
      exact NotesDocument.valid_of_finish hfinish
  | updateNote | removeNote => exact NotesDocument.valid_of_mutate (check_bind_eq_ok.mp h).2
  | setItemText | setChecked | removeItem =>
    exact NotesDocument.valid_of_mutate (check_bind_eq_ok.mp (check_bind_eq_ok.mp h).2).2

end OverCrow.Notes
