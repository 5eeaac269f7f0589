import OverCrow.Base.Keyed
import OverCrow.Notes.Document

/-!
# Valid notes documents

What `NotesDocument::validate` accepts, said of the document as a whole instead of check by check:
the bounds of every note and item, and that the identifiers are numbered, distinct and below the
counters.
-/

namespace OverCrow.Notes
open OverCrow.Base List

/-- An identifier with the stem that was given out before the counter reached `next`. -/
def Allocated (stem : String) (next : Nat) (identifier : String) : Prop :=
  ∃ number, identifier = stem ++ toString number ∧ 0 < number ∧ number ≤ u64Max ∧ number < next

/-- The bounds of a title. -/
def TitleFits (title : String) : Prop :=
  isBlank title = false ∧ title.utf8ByteSize ≤ notesTitleMaxBytes
  deriving Decidable

structure ItemFits (nextItemId : Nat) (item : ChecklistItem) : Prop where
  id : Allocated "local-" nextItemId item.id
  text : item.text.utf8ByteSize ≤ notesItemMaxBytes

structure PageFits (nextNoteId nextItemId : Nat) (note : NotePage) : Prop where
  id : Allocated "note-" nextNoteId note.id
  title : TitleFits note.title
  body : note.body.utf8ByteSize ≤ notesNoteMaxBytes
  count : note.items.length ≤ notesItemMaxCount
  items : ∀ item ∈ note.items, ItemFits nextItemId item

/-- The identifiers of the items of the notes. -/
def itemIdsOf (notes : List NotePage) : List String :=
  notes.flatMap fun note => note.items.map ChecklistItem.id

theorem itemIdsOf_cons (note : NotePage) (notes : List NotePage) :
    itemIdsOf (note :: notes) = note.items.map ChecklistItem.id ++ itemIdsOf notes :=
  flatMap_cons

namespace NotesDocument

/-- The identifiers of the notes. -/
def noteIds (document : NotesDocument) : List String := document.notes.map NotePage.id

/-- The identifiers of the items of all notes. -/
def itemIds (document : NotesDocument) : List String := itemIdsOf document.notes

structure WellFormed (document : NotesDocument) : Prop where
  schema : document.schemaVersion = notesSchemaVersion
  identity : document.id = "global"
  provider : document.provider = {}
  nonempty : document.notes ≠ []
  count : document.notes.length ≤ notesPageMaxCount
  nextNoteId : 0 < document.nextNoteId
  nextItemId : 0 < document.nextItemId
  pages : ∀ note ∈ document.notes, PageFits document.nextNoteId document.nextItemId note
  noteIds : document.noteIds.Nodup
  itemIds : document.itemIds.Nodup
  active : document.activeNoteId ∈ document.noteIds

end NotesDocument

/-! ### Identifiers -/

variable {description identifier : String}

theorem validateIdentifier_eq_ok :
    validateIdentifier identifier description = .ok () ↔
      identifier ≠ "" ∧ identifier.utf8ByteSize ≤ notesIdentifierMaxBytes := by
  unfold validateIdentifier
  rw [reject_bind_eq_ok, reject_eq_ok, String.isEmpty_iff, Nat.not_lt]

variable {stem : String}

theorem numberedIdentifier_eq_ok {number : Nat} :
    numberedIdentifier identifier stem description = .ok number ↔
      identifier = stem ++ toString number ∧ 0 < number ∧ number ≤ u64Max := by
  have hnumber : (do
      let suffix ← stripStem stem identifier
      let number ← parseUnsigned u64Max suffix
      if number > 0 ∧ toString number = suffix then some number else none) = some number ↔
        identifier = stem ++ toString number ∧ 0 < number ∧ number ≤ u64Max := by
    simp only [Option.bind_eq_bind, Option.bind_eq_some_iff, Option.ite_none_right_eq_some,
      stripStem_eq_some]
    constructor
    · rintro ⟨suffix, rfl, other, hparse, ⟨hpos, hsuffix⟩, hother⟩
      cases hother
      exact ⟨congrArg _ hsuffix.symm, hpos, parseUnsigned_le hparse⟩
    · rintro ⟨rfl, hpos, hle⟩
      exact ⟨_, rfl, number, parseUnsigned_toString hle, ⟨hpos, rfl⟩, rfl⟩
  rw [← hnumber]
  unfold numberedIdentifier
  dsimp only
  split
  · next other heq =>
    rw [heq, Except.ok.injEq, Option.some.injEq]
  · next heq =>
    rw [heq]
    exact ⟨nofun, nofun⟩

/-- An identifier that was given out is short enough. -/
theorem validateIdentifier_of_allocated {next : Nat}
    (hstem : 0 < stem.utf8ByteSize ∧ stem.utf8ByteSize ≤ 44)
    (h : Allocated stem next identifier) : validateIdentifier identifier description = .ok () := by
  obtain ⟨number, rfl, -, hle, -⟩ := h
  have hdigits : (toString number).utf8ByteSize ≤ 20 :=
    utf8ByteSize_toString_le (by decide) (Nat.lt_of_le_of_lt hle (by decide))
  rw [validateIdentifier_eq_ok]
  have hsize : (stem ++ toString number).utf8ByteSize =
      stem.utf8ByteSize + (toString number).utf8ByteSize := String.utf8ByteSize_append
  constructor
  · intro hempty
    rw [hempty] at hsize
    change 0 = _ at hsize
    omega
  · unfold notesIdentifierMaxBytes
    omega

theorem Allocated.mono {m n : Nat} (h : Allocated stem m identifier)
    (hle : m ≤ n) : Allocated stem n identifier := by
  obtain ⟨number, heq, hpos, hbound, hlt⟩ := h
  exact ⟨number, heq, hpos, hbound, Nat.lt_of_lt_of_le hlt hle⟩

/-- The identifier that the counter gives out next was not given out before. -/
theorem not_allocated_next (stem : String) (next : Nat) :
    ¬Allocated stem next (stem ++ toString next) := by
  rintro ⟨number, heq, -, -, hlt⟩
  have hsame : next = number := eq_of_toString_eq (String.append_right_inj stem |>.mp heq)
  omega

/-! ### Items and notes -/

/-- Identifiers that are distinct and not among those seen, which are seen then as well. -/
def Adds (seen ids out : List String) : Prop :=
  ids.Nodup ∧ (∀ id ∈ ids, id ∉ seen) ∧ out = ids.reverse ++ seen

theorem adds_singleton {id : String} {seen out : List String} :
    Adds seen [id] out ↔ id ∉ seen ∧ out = id :: seen := by
  simp [Adds]

theorem adds_append {ids others seen out : List String} :
    Adds seen (ids ++ others) out ↔ ∃ between, Adds seen ids between ∧ Adds between others out := by
  simp only [Adds, nodup_append, reverse_append, append_assoc, mem_append,
    mem_reverse]
  constructor
  · rintro ⟨⟨hids, hothers, happart⟩, hseen, rfl⟩
    exact ⟨_, ⟨hids, fun id hid => hseen id (.inl hid), rfl⟩, hothers, by grind, by simp⟩
  · rintro ⟨_, ⟨hids, hseen, rfl⟩, hothers, hnew, rfl⟩
    grind

theorem adds_cons {id : String} {ids seen out : List String} :
    Adds seen (id :: ids) out ↔ ∃ between, Adds seen [id] between ∧ Adds between ids out :=
  @adds_append [id] ids seen out

theorem validateItem_eq_ok {next : Nat} {late : String} {seen out : List String}
    {item : ChecklistItem} :
    validateItem next late seen item = .ok out ↔ ItemFits next item ∧ Adds seen [item.id] out := by
  unfold validateItem
  rw [check_bind_eq_ok, bind_eq_ok, adds_singleton]
  simp only [reject_bind_eq_ok, numberedIdentifier_eq_ok]
  constructor
  · rintro ⟨-, number, ⟨heq, hpos, hle⟩, hlt, hseen, htext, hout⟩
    exact ⟨⟨⟨number, heq, hpos, hle, Nat.lt_of_not_le hlt⟩, Nat.le_of_not_lt htext⟩, hseen,
      (Except.ok.inj hout).symm⟩
  · rintro ⟨hfits, hseen, rfl⟩
    obtain ⟨number, heq, hpos, hle, hlt⟩ := hfits.id
    exact ⟨validateIdentifier_of_allocated (by decide) hfits.id, number, ⟨heq, hpos, hle⟩,
      Nat.not_le_of_lt hlt, hseen, Nat.not_lt_of_le hfits.text, rfl⟩

/-- The checks of a list of items, with the identifiers seen before it. -/
theorem foldlM_validateItem_eq_ok {next : Nat} {late : String} {items : List ChecklistItem}
    {seen out : List String} :
    items.foldlM (validateItem next late) seen = .ok out ↔
      (∀ item ∈ items, ItemFits next item) ∧ Adds seen (items.map ChecklistItem.id) out := by
  induction items generalizing seen with
  | nil =>
    simp only [foldlM_nil]
    change Except.ok seen = .ok out ↔ _
    simp [Adds, eq_comm]
  | cons item items ih =>
    simp only [foldlM_cons, bind_eq_ok, validateItem_eq_ok, ih, forall_mem_cons,
      map_cons]
    rw [adds_cons]
    grind

theorem validateTitle_eq_ok {title : String} : validateTitle title = .ok () ↔ TitleFits title := by
  unfold validateTitle TitleFits
  rw [reject_bind_eq_ok, reject_eq_ok, Bool.not_eq_true, Nat.not_lt]

theorem validateTitle_bind_eq_ok {α : Type} {title : String} {f : Unit → Except NotesError α}
    {a : α} : (validateTitle title >>= f) = .ok a ↔ TitleFits title ∧ f () = .ok a := by
  rw [check_bind_eq_ok, validateTitle_eq_ok]

variable {out seen : List String × List String}

theorem validatePage_eq_ok {nextNoteId nextItemId : Nat} {note : NotePage} :
    validatePage nextNoteId nextItemId seen note = .ok out ↔
      PageFits nextNoteId nextItemId note ∧ Adds seen.1 [note.id] out.1 ∧
        Adds seen.2 (note.items.map ChecklistItem.id) out.2 := by
  unfold validatePage
  rw [check_bind_eq_ok, bind_eq_ok, adds_singleton]
  simp only [numberedIdentifier_eq_ok, reject_bind_eq_ok, validateTitle_bind_eq_ok]
  constructor
  · rintro ⟨-, number, ⟨heq, hpos, hle⟩, hlt, hseen, htitle, hbody, hcount, h⟩
    obtain ⟨ids, hitems, hout⟩ := bind_eq_ok.mp h
    obtain ⟨hfits, hadds⟩ := foldlM_validateItem_eq_ok.mp hitems
    cases hout
    exact ⟨⟨⟨number, heq, hpos, hle, Nat.lt_of_not_le hlt⟩, htitle, Nat.le_of_not_lt hbody,
      Nat.le_of_not_lt hcount, hfits⟩, ⟨hseen, rfl⟩, hadds⟩
  · obtain ⟨noteIds, itemIds⟩ := out
    rintro ⟨hfits, ⟨hseen, rfl⟩, hadds⟩
    obtain ⟨number, heq, hpos, hle, hlt⟩ := hfits.id
    exact ⟨validateIdentifier_of_allocated (by decide) hfits.id, number, ⟨heq, hpos, hle⟩,
      Nat.not_le_of_lt hlt, hseen, hfits.title, Nat.not_lt_of_le hfits.body,
      Nat.not_lt_of_le hfits.count, bind_eq_ok.mpr
        ⟨_, foldlM_validateItem_eq_ok.mpr ⟨hfits.items, hadds⟩, rfl⟩⟩

/-- The checks of a list of notes, with the identifiers seen before it. -/
theorem foldlM_validatePage_eq_ok {nextNoteId nextItemId : Nat} {notes : List NotePage} :
    notes.foldlM (validatePage nextNoteId nextItemId) seen = .ok out ↔
      (∀ note ∈ notes, PageFits nextNoteId nextItemId note) ∧
        Adds seen.1 (notes.map NotePage.id) out.1 ∧ Adds seen.2 (itemIdsOf notes) out.2 := by
  induction notes generalizing seen with
  | nil =>
    simp only [foldlM_nil]
    change Except.ok seen = .ok out ↔ _
    simp [Adds, itemIdsOf, Prod.ext_iff, eq_comm]
  | cons note notes ih =>
    simp only [foldlM_cons, bind_eq_ok, validatePage_eq_ok, ih, forall_mem_cons,
      map_cons, itemIdsOf_cons, Prod.exists]
    rw [adds_cons, adds_append]
    grind

theorem validateLocalIdentity_eq_ok {id : String} {provider : NotesProviderRef} :
    validateLocalIdentity id provider = .ok () ↔ id = "global" ∧ provider = {} := by
  obtain ⟨kind, remoteId⟩ := provider
  constructor
  · intro h
    obtain ⟨-, h⟩ := check_bind_eq_ok.mp h
    obtain ⟨hid, h⟩ := reject_bind_eq_ok.mp h
    obtain ⟨-, h⟩ := check_bind_eq_ok.mp h
    have hlocal : ¬(kind ≠ "local" ∨ remoteId.isSome = true) := by
      cases remoteId with
      | none => exact reject_eq_ok.mp h
      | some remote => exact reject_eq_ok.mp (check_bind_eq_ok.mp h).2
    rw [not_or, not_not, Bool.not_eq_true, Option.isSome_eq_false_iff, Option.isNone_iff_eq_none]
      at hlocal
    obtain ⟨rfl, rfl⟩ := hlocal
    exact ⟨not_not.mp hid, rfl⟩
  · rintro ⟨rfl, h⟩
    cases h
    decide

namespace NotesDocument

/-- A document is valid exactly when it is well formed. -/
theorem valid_iff {document : NotesDocument} : document.Valid ↔ document.WellFormed := by
  unfold Valid validate
  rw [reject_bind_eq_ok, check_bind_eq_ok, reject_bind_eq_ok, reject_bind_eq_ok, reject_bind_eq_ok,
    bind_eq_ok, validateLocalIdentity_eq_ok]
  simp only [foldlM_validatePage_eq_ok, reject_eq_ok]
  constructor
  · rintro ⟨hschema, ⟨hid, hprovider⟩, hnonempty, hcount, hcounters,
      ⟨seen, items⟩, ⟨hpages, ⟨hnotes, -, rfl⟩, hitems, -⟩, hactive⟩
    rw [not_or] at hcounters
    refine ⟨not_not.mp hschema, hid, hprovider, ?_, Nat.le_of_not_lt hcount,
      Nat.pos_of_ne_zero hcounters.1, Nat.pos_of_ne_zero hcounters.2, hpages, hnotes, hitems, ?_⟩
    · rintro hempty
      exact hnonempty (isEmpty_iff.mpr hempty)
    · have hmem := not_not.mp hactive
      rw [append_nil] at hmem
      exact mem_reverse.mp hmem
  · intro h
    refine ⟨not_not.mpr h.schema, ⟨h.identity, h.provider⟩, ?_, Nat.not_lt_of_le h.count, ?_,
      (_, _), ⟨h.pages, ⟨h.noteIds, nofun, rfl⟩, h.itemIds, nofun, rfl⟩, ?_⟩
    · rw [List.isEmpty_iff]
      exact h.nonempty
    · rw [not_or]
      exact ⟨Nat.ne_of_gt h.nextNoteId, Nat.ne_of_gt h.nextItemId⟩
    · rw [not_not, append_nil]
      exact mem_reverse.mpr h.active

/-! ### Finding notes -/

variable {document : NotesDocument} {id : String}

theorem note_eq_none_iff : document.note id = none ↔ id ∉ document.noteIds := by
  unfold note noteIds
  rw [find?_eq_none, mem_map]
  simp

/-- With distinct identifiers the note found is the only one. -/
theorem note_eq_some_iff (h : document.noteIds.Nodup) {note : NotePage} :
    document.note id = some note ↔ note ∈ document.notes ∧ note.id = id := by
  constructor
  · intro hfind
    have hid := find?_some (p := fun note : NotePage => note.id = id) hfind
    exact ⟨mem_of_find?_eq_some hfind, of_decide_eq_true hid⟩
  · rintro ⟨hmem, rfl⟩
    cases hfind : document.note note.id with
    | none => exact absurd (mem_map_of_mem hmem) (note_eq_none_iff.mp hfind)
    | some other =>
      have hother := mem_of_find?_eq_some hfind
      have hid := find?_some (p := fun other : NotePage => other.id = note.id) hfind
      rw [inj_on_of_nodup_map h hother hmem (of_decide_eq_true hid)]

end NotesDocument

end OverCrow.Notes
