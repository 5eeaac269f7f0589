import OverCrow.Base.Run
import OverCrow.Core.Broker

/-!
# Sessions of the broker

What the history of the broker shows about its sessions and bindings, and what holds whenever a
round waits. While a session is being closed the broker owns nothing, and the availability is still
the one that was published before.
-/

namespace OverCrow.Core.Portal
open OverCrow.Base OverCrow.Config OverCrow.Protocol List Await

def Entry.IsDesired : Entry → Prop
  | desired _ => True
  | _ => False

/-- Every session that was owned has been closed. -/
def AllClosed (history : List Entry) : Prop :=
  ∀ definitions session, .opened definitions session ∈ history → .closed session.number ∈ history

/-- Since every bind of these definitions something else has been desired. -/
def Fresh (definitions : List ShortcutDefinition) (history : List Entry) : Prop :=
  ∀ before after, history = before ++ .bind definitions :: after →
    ∃ desired, .desired desired ∈ after ∧ desired ≠ .bind definitions

/-- The last that was desired. -/
def LastDesired (desired : DesiredBinding) (history : List Entry) : Prop :=
  Since (¬Entry.IsDesired ·) (· = .desired desired) history

/-- What an entry says about those before it. -/
def Justified (before : List Entry) : Entry → Prop
  | .bind definitions =>
    LastDesired (.bind definitions) before ∧ Fresh definitions before ∧ AllClosed before
  | .opened _ session => AllClosed before ∧ ∀ definitions other,
      .opened definitions other ∈ before → other.number ≠ session.number
  | .closing number => (∃ definitions session,
      .opened definitions session ∈ before ∧ session.number = number) ∧ .closing number ∉ before
  | .closed number => .closing number ∈ before ∧ .closed number ∉ before
  | .acted action => ∃ earlier id definitions session,
      before = earlier ++ [.activated session.handle id] ∧
        .opened definitions session ∈ before ∧ .closing session.number ∉ before ∧
        ∃ definition ∈ definitions, definition.id = id ∧ definition.action = action
  | .returned => AllClosed before
  | _ => True

/-- What holds at every step. -/
structure Good (b : Broker) : Prop where
  justified : Each Justified b.history
  desired : LastDesired b.desired b.history
  once : ∀ definitions, b.desired = .bind definitions → b.attempted ≠ some definitions →
    Fresh definitions b.history
  attempted : ∀ definitions, b.owned.definitions = some definitions →
    b.attempted = some definitions
  numbers : ∀ definitions session, .opened definitions session ∈ b.history →
    session.number < b.sessions
  live : ∀ definitions session, b.owned = .live definitions session →
    .opened definitions session ∈ b.history ∧ .closing session.number ∉ b.history

/-- Every session is closed or live. -/
def Accounted (b : Broker) : Prop :=
  ∀ definitions session, .opened definitions session ∈ b.history →
    .closed session.number ∈ b.history ∨ b.owned = .live definitions session

/-- What holds at every step at which no session is being closed. -/
structure Steady (b : Broker) : Prop extends Good b where
  accounted : Accounted b
  available : b.availability = .available ↔ b.owned.IsLive

/-- A session is being closed. -/
structure Closing (b : Broker) : Prop extends Good b where
  idle : b.owned = .idle
  last : ∃ number, b.history.getLast? = some (.closing number)

/-- A binding or live session is the desired one. -/
def Matching (b : Broker) : Prop :=
  ∀ definitions, b.owned.definitions = some definitions → b.desired = .bind definitions

/-- What holds whenever a round waits. -/
def Waiting (b : Broker) : Prop := Matching b ∧ (Steady b ∨ Closing b)

/-! ### Entries -/

section Entries

variable {b : Broker} {history : List Entry} {e : Entry}
  {definitions : List ShortcutDefinition}
  {definitions : List ShortcutDefinition}

theorem fresh_nil (definitions : List ShortcutDefinition) : Fresh definitions [] := by
  intro before after hsplit
  simp at hsplit

theorem Fresh.append (h : Fresh definitions history) (he : e ≠ .bind definitions) :
    Fresh definitions (history ++ [e]) := by
  intro before after hsplit
  induction after using reverseRecOn with
  | nil =>
    obtain ⟨-, hlast⟩ := append_inj' hsplit rfl
    cases hlast
    exact absurd rfl he
  | append_singleton after last _ =>
    rw [← cons_append, ← append_assoc] at hsplit
    obtain ⟨desired, hmem, hne⟩ := h before after (append_inj' hsplit rfl).1
    exact ⟨desired, mem_append_left _ hmem, hne⟩

/-- What is not desired has not been bound since something else was desired: when it was bound it
was the last desired, so that there is a later one. -/
theorem fresh_of_desired {desired : DesiredBinding}
    (hjustified : Each Justified history) (hdesired : LastDesired desired history)
    (hne : desired ≠ .bind definitions) : Fresh definitions history := by
  rintro before after rfl
  have hbound : LastDesired (.bind definitions) before := (hjustified before _ after rfl).1
  obtain ⟨earlier, _, later, hsplit, rfl, hlater⟩ := hdesired
  rcases append_eq_append_iff.mp hsplit with ⟨rest, -, hrest⟩ | ⟨rest, rfl, hrest⟩
  · cases rest with
    | nil => cases hrest
    | cons first rest =>
      obtain ⟨-, rfl⟩ := cons.inj hrest
      exact ⟨desired, by simp, hne⟩
  · cases rest with
    | nil => cases hrest
    | cons first rest =>
      obtain ⟨rfl, rfl⟩ := cons.inj hrest
      have hlast : LastDesired desired (earlier ++ .desired desired :: rest) :=
        ⟨earlier, _, rest, rfl, rfl, fun e he => hlater e (mem_append_left _ he)⟩
      obtain ⟨e, -, rfl, hsame⟩ := hlast.unique hbound
        (by rintro _ rfl; exact not_not.mpr trivial) (by rintro _ rfl; exact not_not.mpr trivial)
      cases hsame
      exact absurd rfl hne

theorem exists_opened_of_closing {number : Nat} (hjustified : Each Justified history)
    (h : .closing number ∈ history) :
    ∃ definitions session, .opened definitions session ∈ history ∧ session.number = number := by
  obtain ⟨before, after, rfl⟩ := append_of_mem h
  obtain ⟨⟨definitions, session, hopened, hnumber⟩, -⟩ := hjustified before _ after rfl
  exact ⟨definitions, session, mem_append_left _ hopened, hnumber⟩

theorem closing_of_closed {number : Nat} (hjustified : Each Justified history)
    (h : .closed number ∈ history) : .closing number ∈ history := by
  obtain ⟨before, after, rfl⟩ := append_of_mem h
  exact mem_append_left _ (hjustified before _ after rfl).1

theorem AllClosed.append (h : AllClosed history)
    (he : ∀ definitions session, e ≠ .opened definitions session) : AllClosed (history ++ [e]) := by
  intro definitions session hmem
  have hold := mem_of_mem_append_singleton hmem (he definitions session).symm
  exact mem_append_left _ (h definitions session hold)

/-- The entries that say nothing about what is desired, bound or owned. -/
theorem Good.record (h : Good b) (he : Justified b.history e) (hdesired : ¬e.IsDesired)
    (hbind : ∀ definitions, e ≠ .bind definitions)
    (hopened : ∀ definitions session, e ≠ .opened definitions session)
    (hclosing : ∀ definitions session, b.owned = .live definitions session →
      e ≠ .closing session.number) : Good (b.record e) :=
  { h with
    justified := each_append_singleton.mpr ⟨h.justified, he⟩
    desired := since_append_singleton.mpr (.inr ⟨hdesired, h.desired⟩)
    once := fun definitions hbound hattempted =>
      (h.once definitions hbound hattempted).append (hbind definitions)
    numbers := fun definitions session hmem => h.numbers definitions session
      (mem_of_mem_append_singleton hmem (hopened definitions session).symm)
    live := fun definitions session howned => by
      obtain ⟨hmem, hnot⟩ := h.live definitions session howned
      refine ⟨mem_append_left _ hmem, fun hmem => hnot ?_⟩
      exact mem_of_mem_append_singleton hmem (hclosing definitions session howned).symm }

theorem Good.setAvailability (h : Good b) (availability : ShortcutAvailability) :
    Good { b with availability } :=
  { h with }

theorem Good.release (h : Good b) : Good { b with owned := .idle } :=
  { h with attempted := nofun, live := nofun }

theorem Good.setAttempted (h : Good b) (hidle : b.owned = .idle)
    {attempted : Option (List ShortcutDefinition)}
    (honce : ∀ definitions, b.desired = .bind definitions → attempted ≠ some definitions →
      Fresh definitions b.history) : Good { b with attempted } := by
  obtain ⟨⟩ := b
  cases hidle
  exact { h with once := honce, attempted := nofun }

/-- Something is desired. -/
theorem Good.desire (h : Good b) (desired : DesiredBinding) :
    Good (({ b with desired } : Broker).record (.desired desired)) :=
  { h with
    justified := each_append_singleton.mpr ⟨h.justified, trivial⟩
    desired := since_append_singleton.mpr (.inl rfl)
    once := fun definitions hbound hattempted => by
      refine Fresh.append ?_ nofun
      by_cases hsame : b.desired = .bind definitions
      · exact h.once definitions hsame hattempted
      · exact fresh_of_desired h.justified h.desired hsame
    numbers := fun definitions session hmem =>
      h.numbers definitions session (mem_of_mem_append_singleton hmem nofun)
    live := fun definitions session howned => by
      obtain ⟨hmem, hnot⟩ := h.live definitions session howned
      exact ⟨mem_append_left _ hmem, fun hmem => hnot (mem_of_mem_append_singleton hmem nofun)⟩ }

/-- The portal is called for what is desired. -/
theorem Good.bind (h : Good b)
    (hdesired : b.desired = .bind definitions) (hattempted : b.attempted ≠ some definitions)
    (hclosed : AllClosed b.history) (availability : ShortcutAvailability) :
    Good { b with
      attempted := some definitions, availability, history := b.history ++ [.bind definitions]
      owned := .binding definitions } where
  justified := each_append_singleton.mpr
    ⟨h.justified, hdesired ▸ h.desired, h.once definitions hdesired hattempted, hclosed⟩
  desired := since_append_singleton.mpr (.inr ⟨id, h.desired⟩)
  once := by
    intro other hother hne
    rw [hdesired] at hother
    cases hother
    exact absurd rfl hne
  attempted _ howned := howned
  numbers other session hmem := h.numbers other session (mem_of_mem_append_singleton hmem nofun)
  live := nofun

/-- The bind has completed with a session. -/
theorem Good.open (h : Good b) (handle : String)
    (howned : b.owned = .binding definitions) (hclosed : AllClosed b.history)
    (availability : ShortcutAvailability) :
    Good { b with
      owned := .live definitions ⟨b.sessions, handle⟩, sessions := b.sessions + 1, availability
      history := b.history ++ [.opened definitions ⟨b.sessions, handle⟩] } where
  justified := each_append_singleton.mpr ⟨h.justified, hclosed, fun other session hmem =>
    Nat.ne_of_lt (h.numbers other session hmem)⟩
  desired := since_append_singleton.mpr (.inr ⟨id, h.desired⟩)
  once other hother hne := (h.once other hother hne).append nofun
  attempted other hother := h.attempted other (by rwa [howned])
  numbers other session hmem := by
    rcases mem_append.mp hmem with hmem | hmem
    · exact Nat.lt_succ_of_lt (h.numbers other session hmem)
    · cases mem_singleton.mp hmem
      exact Nat.lt_succ_self _
  live other session hlive := by
    cases hlive
    refine ⟨by simp, fun hmem => ?_⟩
    obtain ⟨other, session, hopened, hnumber⟩ :=
      exists_opened_of_closing h.justified (mem_of_mem_append_singleton hmem nofun)
    exact absurd hnumber (Nat.ne_of_lt (h.numbers other session hopened))

end Entries

/-! ### Rounds -/

section Rounds

variable {b : Broker}
  {owned : OwnedBinding} {definitions : List ShortcutDefinition}

/-- No session is owned or being closed. -/
theorem Steady.allClosed (h : Steady b) (hlive : ¬b.owned.IsLive) : AllClosed b.history := by
  intro definitions session hmem
  rcases h.accounted definitions session hmem with hclosed | howned
  · exact hclosed
  · exact absurd (by rw [howned]; exact trivial) hlive

/-- Without a session, and with an availability that says so. -/
theorem Good.steady (h : Good b) (hlive : ¬b.owned.IsLive) (hclosed : AllClosed b.history)
    (havailability : b.availability ≠ .available) : Steady b where
  toGood := h
  accounted definitions session hmem := .inl (hclosed definitions session hmem)
  available := iff_of_false havailability hlive

theorem Accounted.append {b' : Broker} {e : Entry} (h : Accounted b)
    (hhistory : b'.history = b.history ++ [e]) (howned : b'.owned = b.owned)
    (he : ∀ definitions session, e ≠ .opened definitions session) : Accounted b' := by
  intro definitions session hmem
  rw [hhistory] at hmem ⊢
  rw [howned]
  have hold := mem_of_mem_append_singleton hmem (he definitions session).symm
  exact (h definitions session hold).imp_left (mem_append_left _)

/-- The entries of an activation. -/
theorem Steady.record (h : Steady b) {e : Entry} (he : Justified b.history e)
    (hkind : (∃ handle id, e = .activated handle id) ∨ ∃ action, e = .acted action) :
    Steady (b.record e) := by
  have hkinds : ¬e.IsDesired ∧ (∀ definitions, e ≠ .bind definitions) ∧
      (∀ definitions session, e ≠ .opened definitions session) ∧ ∀ number, e ≠ .closing number := by
    rcases hkind with ⟨handle, name, rfl⟩ | ⟨action, rfl⟩ <;> exact ⟨id, nofun, nofun, nofun⟩
  obtain ⟨hdesired, hbind, hopened, hclosing⟩ := hkinds
  exact ⟨h.toGood.record he hdesired hbind hopened fun _ _ _ => hclosing _,
    h.accounted.append rfl rfl hopened, h.available⟩

/-- What is owned is released: nothing is owned and every session is closed. -/
theorem wp_releaseOwned {Q : Except ShortcutError Unit → Broker → Prop} (h : Steady b)
    (hQ : ∀ result b', Good b' → b'.owned = .idle → AllClosed b'.history →
      b'.desired = b.desired → b'.attempted = b.attempted → Q result b') :
    releaseOwned.Wp Waiting Q b := by
  have hidle (hlive : ¬b.owned.IsLive) : Q (.ok ()) { b with owned := .idle } :=
    hQ _ _ h.toGood.release rfl (h.allClosed hlive) rfl rfl
  rw [releaseOwned, wp_bind, wp_reads]
  cases howned : b.owned with
  | idle | binding => exact hidle (by rw [howned]; exact id)
  | live definitions session =>
    obtain ⟨hopened, hnot⟩ := h.live definitions session howned
    have hclosing : Good (({ b with owned := .idle } : Broker).record (.closing session.number)) :=
      h.toGood.release.record ⟨⟨definitions, session, hopened, rfl⟩, hnot⟩ id nofun nofun nofun
    refine ⟨⟨nofun, .inr ⟨hclosing, rfl, session.number, getLast?_concat⟩⟩, fun outcome => ?_⟩
    refine hQ _ _ (hclosing.record ?_ id nofun nofun nofun) rfl ?_ rfl rfl
    · refine ⟨mem_append_right _ mem_cons_self, fun hmem => ?_⟩
      have hmem : .closed session.number ∈ b.history := by simpa [Broker.record] using hmem
      exact hnot (closing_of_closed h.justified hmem)
    · intro other others hmem
      have hmem : .opened other others ∈ b.history := by simpa [Broker.record] using hmem
      rcases h.accounted other others hmem with hclosed | hlive
      · simp [Broker.record, hclosed]
      · rw [howned] at hlive
        cases hlive
        simp [Broker.record]

theorem wp_releaseAfterStreamLoss (h : Steady b) (error : String) :
    (releaseAfterStreamLoss error).Wp Waiting (fun _ => Steady) b := by
  rw [releaseAfterStreamLoss, wp_bind]
  refine wp_releaseOwned h fun result b' hgood hidle hclosed _ _ => ?_
  have hlive : ¬b'.owned.IsLive := by rw [hidle]; exact id
  cases result with
  | ok | error => exact (hgood.setAvailability _).steady hlive hclosed nofun

/-- The broker returns with every session closed. -/
theorem wp_close (h : Steady b) :
    close.Wp Waiting (fun _ b' => Steady b' ∧ AllClosed b'.history) b := by
  rw [close, wp_bind]
  refine wp_releaseOwned h fun result b' hgood hidle hclosed _ _ => ?_
  have hlive : ¬b'.owned.IsLive := by rw [hidle]; exact id
  have hreturned : Good (b'.record .returned) := by
    refine hgood.record hclosed id nofun nofun fun _ _ howned => ?_
    rw [hidle] at howned
    cases howned
  have hall : AllClosed (b'.history ++ [.returned]) := hclosed.append nofun
  cases result with
  | ok _ => exact ⟨(hreturned.setAvailability .disabled).steady hlive hall nofun, hall⟩
  | error error =>
    exact ⟨(hreturned.setAvailability (unavailable error.message)).steady hlive hall nofun, hall⟩

/-- Nothing is owned, and if the portal is not to be called the availability says so. -/
theorem wp_reconcileDesired_idle (h : Good b) (hidle : b.owned = .idle) (hclosed : AllClosed b.history)
    (havailability : b.availability ≠ .available ∨
      ∀ definitions, b.desired = .bind definitions → b.attempted ≠ some definitions) :
    reconcileDesired.Wp Waiting (fun _ b' => Steady b' ∧ Matching b') b := by
  have hlive : ¬b.owned.IsLive := by rw [hidle]; exact id
  have hmatching : Matching b := by
    intro definitions howned
    rw [hidle] at howned
    cases howned
  rw [reconcileDesired, wp_bind, wp_reads]
  dsimp only [id]
  cases hdesired : b.desired with
  | disabled =>
    have hgood : Good { b with attempted := none } := h.setAttempted hidle (by simp [hdesired])
    exact ⟨(hgood.setAvailability .disabled).steady hlive hclosed nofun, hmatching⟩
  | invalid message =>
    have hgood : Good { b with attempted := none } := h.setAttempted hidle (by simp [hdesired])
    exact ⟨(hgood.setAvailability (unavailable message)).steady hlive hclosed nofun, hmatching⟩
  | bind definitions =>
    dsimp only
    split
    · next hcall =>
      refine ⟨(h.bind hdesired hcall.2 hclosed .binding).steady id (hclosed.append nofun) nofun,
        fun other hother => ?_⟩
      cases hother
      exact hdesired
    · next hcall =>
      have hattempted : b.attempted = some definitions := by
        by_contra hne
        exact hcall ⟨hidle, hne⟩
      refine ⟨h.steady hlive hclosed (havailability.resolve_right fun hall => ?_), hmatching⟩
      exact hall definitions hdesired hattempted

theorem OwnedBinding.definitions_eq_none :
    owned.definitions = none ↔ owned = .idle := by
  cases owned <;> simp [definitions]

theorem ownedMatches_iff {desired : DesiredBinding} :
    ownedMatches owned desired = true ↔
      ∀ definitions, owned.definitions = some definitions → desired = .bind definitions := by
  unfold ownedMatches OwnedBinding.definitions
  cases owned <;> cases desired <;> simp [eq_comm]

/-- What is owned is desired: the portal is not called. -/
theorem wp_reconcileDesired_owned (h : Steady b)
    (howned : b.owned.definitions = some definitions) (hdesired : b.desired = .bind definitions) :
    reconcileDesired.Wp Waiting (fun _ b' => Steady b' ∧ Matching b') b := by
  rw [reconcileDesired, wp_bind, wp_reads]
  dsimp only [id]
  rw [hdesired]
  dsimp only
  have hcall : ¬(b.owned = .idle ∧ b.attempted ≠ some definitions) :=
    fun hcall => hcall.2 (h.attempted definitions howned)
  rw [if_neg hcall]
  refine ⟨h, fun other hother => ?_⟩
  rw [howned, Option.some_inj] at hother
  rw [hdesired, hother]

theorem wp_reconcile (h : Steady b) :
    reconcile.Wp Waiting (fun _ b' => Steady b' ∧ Matching b') b := by
  rw [reconcile, wp_bind, wp_reads]
  dsimp only [id]
  split
  · next hmatches =>
    cases hdefinitions : b.owned.definitions with
    | some definitions =>
      exact wp_reconcileDesired_owned h hdefinitions (ownedMatches_iff.mp hmatches _ hdefinitions)
    | none =>
      have hidle : b.owned = .idle := OwnedBinding.definitions_eq_none.mp hdefinitions
      have hlive : ¬b.owned.IsLive := by rw [hidle]; exact id
      exact wp_reconcileDesired_idle h.toGood hidle (h.allClosed hlive)
        (.inl fun havailable => hlive (h.available.mp havailable))
  · next hmatches =>
    rw [wp_bind]
    refine wp_releaseOwned h fun result b' hgood hidle hclosed hdesired hattempted => ?_
    have hlive : ¬b'.owned.IsLive := by rw [hidle]; exact id
    cases result with
    | ok _ =>
      refine wp_reconcileDesired_idle hgood hidle hclosed (.inr fun definitions hbind hsame => ?_)
      -- What is owned was attempted, so that what is desired would be owned.
      refine hmatches (ownedMatches_iff.mpr fun other howned => ?_)
      have hother : b.attempted = some other := h.attempted other howned
      rw [← hattempted, hsame, Option.some_inj] at hother
      rw [← hdesired, hbind, hother]
    | error error =>
      refine ⟨((hgood.setAttempted hidle fun definitions hbind hne => absurd ?_ hne).setAvailability _).steady
        hlive hclosed fun h => (by cases h), fun definitions howned => ?_⟩
      · rw [← hdesired, hbind]
      rw [hidle] at howned
      cases howned

/-- What a round leaves behind at its end. -/
def RoundDone (result : RoundEnd) (b : Broker) : Prop :=
  Steady b ∧ (result.isSome → AllClosed b.history)

theorem wp_onControl (h : Steady b) (control : Control) :
    (onControl control).Wp Waiting RoundDone b := by
  cases control with
  | shutdown =>
    rw [onControl, wp_bind]
    exact (wp_close h).mono (fun _ hb => hb) fun _ _ hb => ⟨hb.1, fun _ => hb.2⟩
  | changed snapshot settings profile =>
    exact ⟨⟨h.toGood.desire (desiredBinding snapshot settings profile),
      h.accounted.append rfl rfl nofun, h.available⟩, nofun⟩

theorem wp_onBound (h : Steady b)
    (howned : b.owned = .binding definitions) (result : Except ShortcutError String) :
    (onBound result).Wp Waiting RoundDone b := by
  have hclosed : AllClosed b.history := h.allClosed (by rw [howned]; exact id)
  rw [onBound, wp_bind, wp_reads]
  dsimp only [id]
  rw [howned]
  cases result with
  | ok handle =>
    refine ⟨⟨h.toGood.open handle howned hclosed .available, ?_, iff_of_true rfl trivial⟩, nofun⟩
    intro other session hmem
    rcases mem_append.mp hmem with hmem | hmem
    · exact .inl (mem_append_left _ (hclosed other session hmem))
    · cases mem_singleton.mp hmem
      exact .inr rfl
  | error error =>
    exact ⟨(h.toGood.release.setAvailability _).steady id hclosed nofun, nofun⟩

/-- The action of an activation is that of a live definition. -/
theorem activatedAction_eq_some {handle id : String}
    {action : ShortcutAction} (h : activatedAction owned handle id = some action) :
    ∃ definitions session, owned = .live definitions session ∧ session.handle = handle ∧
      ∃ definition ∈ definitions, definition.id = id ∧ definition.action = action := by
  cases owned with
  | idle | binding => cases h
  | live definitions session =>
    obtain ⟨hhandle, hfind⟩ := Option.ite_none_right_eq_some.mp h
    obtain ⟨definition, hfind, haction⟩ := Option.map_eq_some_iff.mp hfind
    exact ⟨definitions, session, rfl, hhandle, definition, mem_of_find?_eq_some hfind,
      by simpa using find?_some hfind, haction⟩

theorem wp_onActivation (h : Steady b) (hmatching : Matching b)
    (result : Except ShortcutError ShortcutEvent) :
    (onActivation result).Wp Waiting RoundDone b := by
  have hlost (error : String) : (releaseAfterStreamLoss error).Wp Waiting
      (fun _ b' => RoundDone none b') b :=
    (wp_releaseAfterStreamLoss h error).mono (fun _ hb => hb) fun _ _ hb => ⟨hb, nofun⟩
  match result with
  | .error _ | .ok .closed | .ok .ownerLost => exact wp_bind.mpr (hlost _)
  | .ok .malformed => exact ⟨h, nofun⟩
  | .ok (.activated handle id) =>
    have hactivated : Steady (b.record (.activated handle id)) :=
      h.record trivial (.inl ⟨handle, id, rfl⟩)
    rw [onActivation, wp_bind]
    refine wp_modify.mpr (wp_bind.mpr (wp_reads.mpr ?_))
    cases haction : activatedAction b.owned handle id with
    | none =>
      rw [Broker.record, haction]
      exact ⟨hactivated, nofun⟩
    | some action =>
      obtain ⟨definitions, session, howned, rfl, hdefinition⟩ := activatedAction_eq_some haction
      obtain ⟨hopened, hnot⟩ := h.live definitions session howned
      have hacted : Steady ((b.record (.activated session.handle id)).record (.acted action)) := by
        refine hactivated.record ⟨b.history, id, definitions, session, rfl, ?_, ?_, hdefinition⟩
          (.inr ⟨action, rfl⟩)
        · exact mem_append_left _ hopened
        · simpa [Broker.record] using hnot
      rw [Broker.record, haction]
      exact ⟨⟨hmatching, .inl hacted⟩, fun _ => ⟨hacted, nofun⟩⟩

theorem wp_waitForEvent (h : Steady b) (hmatching : Matching b) :
    waitForEvent.Wp Waiting RoundDone b := by
  rw [waitForEvent, wp_bind, wp_reads]
  cases howned : b.owned with
  | idle => exact ⟨⟨hmatching, .inl h⟩, wp_onControl h⟩
  | binding definitions =>
    refine ⟨⟨hmatching, .inl h⟩, fun answer => ?_⟩
    cases answer with
    | inl control => exact wp_onControl h control
    | inr result => exact wp_onBound h howned result
  | live definitions session =>
    refine ⟨⟨hmatching, .inl h⟩, fun answer => ?_⟩
    cases answer with
    | inl control => exact wp_onControl h control
    | inr result => exact wp_onActivation h hmatching result

theorem wp_round (h : Steady b) (shutdown : Bool) : (round shutdown).Wp Waiting RoundDone b := by
  rw [round]
  split
  · exact wp_bind.mpr
      ((wp_close h).mono (fun _ hb => hb) fun _ _ hb => ⟨hb.1, fun _ => hb.2⟩)
  · exact wp_bind.mpr
      ((wp_reconcile h).mono (fun _ hb => hb) fun _ _ hb => wp_waitForEvent hb.1 hb.2)

end Rounds

/-! ### The task -/

namespace Machine

variable {m m' : Machine}

/-- What holds of the task where it stands. -/
def Inv (m : Machine) : Prop :=
  match m.position with
  | .between => Steady m.broker
  | .waiting program => program.Wp Waiting RoundDone m.broker ∧ Waiting m.broker
  | .returned _ => Steady m.broker ∧ AllClosed m.broker.history
  | .aborted => Waiting m.broker

theorem inv_settle {program : Round RoundEnd} {b : Broker} (h : program.Wp Waiting RoundDone b)
    (hcases : (∃ result, program = .done result) ∨ ∃ request next, program = .wait request next) :
    (settle (program, b)).Inv := by
  rcases hcases with ⟨result, rfl⟩ | ⟨request, next, rfl⟩
  · cases result with
    | none => exact h.1
    | some result => exact ⟨h.1, h.2 rfl⟩
  · exact ⟨h, h.1⟩

theorem inv_start (snapshot : CoreSnapshot) (settings : ShortcutSettings)
    (profile : WidgetProfile) : (start snapshot settings profile).Inv := by
  have hgood : Good (start snapshot settings profile).broker :=
    { justified := each_append_singleton.mpr ⟨each_nil, trivial⟩
      desired := ⟨[], _, [], rfl, rfl, nofun⟩
      once := fun definitions _ _ => Fresh.append (fresh_nil definitions) nofun
      attempted := nofun
      numbers := by simp [start]
      live := nofun }
  exact hgood.steady id (by simp [AllClosed, start]) nofun

theorem inv_step {action : Action} (h : m.Inv) (hstep : m.step action = some m') : m'.Inv := by
  obtain ⟨b, position⟩ := m
  cases action with
  | begin shutdown =>
    cases position with
    | between =>
      cases hstep
      exact inv_settle (wp_round h shutdown).advance (advance_cases _ _)
    | waiting | returned | aborted => cases hstep
  | resume answer =>
    cases position with
    | waiting program =>
      cases hstep
      exact inv_settle (h.1.resume answer) (resume_cases _ _ _)
    | between | returned | aborted => cases hstep
  | abort =>
    cases position with
    | waiting program =>
      cases hstep
      exact h.2
    | between | returned | aborted => cases hstep

theorem Inv.steady_or_closing (h : m.Inv) : Steady m.broker ∨ Closing m.broker := by
  obtain ⟨b, position⟩ := m
  cases position with
  | between => exact .inl h
  | waiting program => exact h.2.2
  | returned result => exact .inl h.1
  | aborted => exact h.2

theorem Inv.good (h : m.Inv) : Good m.broker :=
  h.steady_or_closing.elim (·.toGood) (·.toGood)

/-- Whenever the task waits. -/
theorem Inv.matching (h : m.Inv) {program : Round RoundEnd} (hwaits : m.position = .waiting program) :
    Matching m.broker := by
  rw [Inv, hwaits] at h
  exact h.2.1

theorem Inv.allClosed (h : m.Inv) {result : Except ShortcutError Unit}
    (hreturned : m.position = .returned result) : AllClosed m.broker.history := by
  rw [Inv, hreturned] at h
  exact h.2

end Machine

/-- A game is active, the overlay's shortcut is enabled. -/
def activeSnapshot : CoreSnapshot := { activeGame := some default }

/-- The portal binds, the shortcut is activated, and the session takes too long to close. -/
def expected : ∀ request, Answer request
  | .control => .shutdown
  | .bound => .inr (.ok "session")
  | .event => .inr (.ok (.activated "session" shortcutId))
  | .close _ => .elapsed
  | .act _ => ()

/-- Instead of an activation, no game is active any more. -/
def gameLost : ∀ request, Answer request
  | .event => .inl (.changed {} {} {})
  | request => expected request

/-- The shortcut is bound. -/
def boundActions : List Action := [.begin false, .resume expected, .begin false]

end OverCrow.Core.Portal
