import OverCrow.Notes.Service

/-!
# The copies of the notes document

Whatever the interleaving of the owner and the worker, the pending candidate is the desired
document, the desired document is the committed one when nothing is pending or in flight, and
the committed one is what the repository holds, except while a save that replaced the content is
not settled yet.
-/

namespace OverCrow.Notes.NotesSystem
open OverCrow.Base Option

/-- The candidate that was handed to `save` and whose result is not settled. -/
def inFlight (s : NotesSystem) : Option NotesDocument :=
  match s.worker with
  | .saving candidate => some candidate
  | .settling candidate _ => some candidate
  | _ => none

/-- The candidate that has replaced the repository's content and is not settled. -/
def unsettled (s : NotesSystem) : Option NotesDocument :=
  match s.worker with
  | .settling candidate result => if replaces result then some candidate else none
  | _ => none

/-- The owner has a worker as long as it uses the service. -/
structure Live (s : NotesSystem) : Prop where
  closing : s.shutdown = true → s.owner = .closing ∨ s.owner = .closed
  returned : s.worker = .returned → s.shutdown = true
  available : s.owner ≠ .unavailable
  publishing : ∀ update accepted, s.owner = .publishing update accepted → accepted = true
  notifying : ∀ accepted, s.owner = .notifying accepted → accepted = true

/-- Where the pending, the desired and the committed document and their edits agree. -/
structure Tracked (s : NotesSystem) : Prop where
  unready : s.worker = .starting → s.state.ready = false ∧ s.state.pending = none
  pending : ∀ candidate, s.state.pending = some candidate → s.state.desired = candidate
  idle : s.state.pending = none → s.inFlight = none →
    s.state.desired = s.state.committed ∧ s.ledger.desired = s.ledger.committed
  busy : ∀ candidate, s.inFlight = some candidate → s.state.pending = none →
    s.state.desired = candidate ∧ s.ledger.desired = s.ledger.inFlight
  contained : s.inFlight ≠ none → s.ledger.inFlight ⊆ s.ledger.desired
  valid : ∀ candidate, s.state.pending = some candidate ∨ s.inFlight = some candidate →
    candidate.Valid
  seen : s.worker = .checking ∨ s.worker = .returned →
    s.state.pending = none ∨ s.ledger.unseen = true

variable {s t : NotesSystem} {a : Action}
  {candidate : NotesDocument}

theorem live_start (content : Except NotesError NotesDocument) : (start content).Live where
  closing h := nomatch h
  returned h := nomatch h
  available h := nomatch h
  publishing _ _ h := nomatch h
  notifying _ h := nomatch h

/-- A step of an owner that has not begun to close the service. -/
theorem Live.owner (h : s.Live) (hopen : s.owner ≠ .closing ∧ s.owner ≠ .closed) {state : WorkerState}
    {slot : UpdateSlot} {notified wake : Bool} {ledger : Ledger} {owner : OwnerPhase}
    (havailable : owner ≠ .unavailable)
    (hpublishing : ∀ update accepted, owner = .publishing update accepted → accepted = true)
    (hnotifying : ∀ accepted, owner = .notifying accepted → accepted = true) :
    Live { s with state, slot, notified, wake, ledger, owner } where
  closing hclosed := absurd (h.closing hclosed) (not_or.mpr hopen)
  returned := h.returned
  available := havailable
  publishing := hpublishing
  notifying := hnotifying

theorem Live.step (h : s.Live) (ht : Transition s a t) : t.Live := by
  cases ht with
  | rejected command error hcandidate => exact h
  | accepted command candidate howner hcandidate =>
    refine h.owner (howner ▸ ⟨nofun, nofun⟩) nofun ?_ nofun
    rintro update accepted ⟨⟩
    rfl
  | polled howner =>
    refine h.owner (howner ▸ ⟨nofun, nofun⟩) ?_ ?_ ?_ <;> split <;> nofun
  | closing howner =>
    exact ⟨fun _ => .inl rfl, fun _ => rfl, nofun, nofun, nofun⟩
  | ownerStale update accepted howner hstale =>
    obtain rfl := h.publishing update accepted howner
    exact h.owner (howner ▸ ⟨nofun, nofun⟩) nofun nofun nofun
  | ownerPublished update accepted howner hfresh =>
    obtain rfl := h.publishing update accepted howner
    refine h.owner (howner ▸ ⟨nofun, nofun⟩) nofun nofun ?_
    rintro accepted ⟨⟩
    rfl
  | ownerNotified accepted howner =>
    obtain rfl := h.notifying accepted howner
    exact h.owner (howner ▸ ⟨nofun, nofun⟩) nofun nofun nofun
  | woken howner | tookSlot howner => exact h.owner (howner ▸ ⟨nofun, nofun⟩) nofun nofun nofun
  | unwoken howner hworker =>
    have hphase := h.closing (h.returned hworker)
    rw [howner] at hphase
    rcases hphase with hphase | hphase <;> cases hphase
  | gaveUp howner => exact absurd howner h.available
  | closed howner => exact ⟨fun _ => .inr rfl, h.returned, nofun, nofun, nofun⟩
  | loaded | workerPublished | awoken | foundNone | tookPending | saved | settled =>
    exact { h with returned := nofun }
  | workerStale _ _ next | workerNotified _ next =>
    cases next <;> exact { h with returned := nofun }
  | checked result hworker =>
    refine { h with returned := fun hreturned => ?_ }
    by_cases hshutdown : s.shutdown = true
    · exact hshutdown
    · rw [if_neg hshutdown] at hreturned
      cases hreturned

theorem tracked_start (content : Except NotesError NotesDocument) : (start content).Tracked where
  unready _ := ⟨rfl, rfl⟩
  pending _ h := nomatch h
  idle _ _ := ⟨rfl, rfl⟩
  busy _ h := nomatch h
  contained h := absurd rfl h
  valid _ h := nomatch h
  seen h := nomatch h

theorem inFlight_of_worker {phase : WorkerPhase} (hworker : s.worker = phase)
    (h : (∀ candidate, phase ≠ .saving candidate) ∧
      ∀ candidate result, phase ≠ .settling candidate result) : s.inFlight = none := by
  unfold inFlight
  rw [hworker]
  cases phase with
  | saving candidate => exact absurd rfl (h.1 candidate)
  | settling candidate result => exact absurd rfl (h.2 candidate result)
  | starting | publishing | notifying | waiting | taking | checking | returned => rfl

theorem Tracked.accepted {command : NotesCommand} (h : s.Tracked)
    (hcandidate : s.state.candidate command = .ok candidate) : (s.accept command candidate).Tracked where
  unready hworker := by
    have hready := (WorkerState.candidate_eq_ok hcandidate).1
    rw [(h.unready hworker).1] at hready
    cases hready
  pending _ hpending := some.inj hpending
  idle hpending := nomatch hpending
  busy _ _ hpending := nomatch hpending
  contained hflight := List.subset_append_of_subset_left _ (h.contained hflight)
  valid other hother := by
    rcases hother with hpending | hflight
    · rw [← some.inj hpending]
      exact (WorkerState.candidate_eq_ok hcandidate).2.2
    · exact h.valid other (.inr hflight)
  seen _ := .inr rfl

theorem Tracked.loaded (h : s.Tracked) (hworker : s.worker = .starting) : s.load.Tracked := by
  obtain ⟨-, hpending⟩ := h.unready hworker
  obtain ⟨hsame, hledger⟩ := h.idle hpending (inFlight_of_worker hworker ⟨nofun, nofun⟩)
  have hstate : s.load.state.pending = none ∧ s.load.state.desired = s.load.state.committed := by
    unfold load WorkerState.loaded
    cases s.content with
    | ok document => exact ⟨hpending, rfl⟩
    | error error => exact ⟨hpending, hsame⟩
  exact
    { unready := nofun
      pending := fun _ hcandidate => (nomatch hstate.1.symm.trans hcandidate)
      idle := fun _ _ => ⟨hstate.2, hledger⟩
      busy := fun _ hbusy => nomatch hbusy
      contained := fun hbusy => absurd rfl hbusy
      valid := fun _ hcandidate =>
        hcandidate.elim (fun hpending => nomatch hstate.1.symm.trans hpending) fun hbusy => nomatch hbusy
      seen := nofun }

theorem Tracked.tookPending (h : s.Tracked)
    (hpending : s.state.pending = some candidate) : (s.takePending candidate).Tracked where
  unready hworker := nomatch hworker
  pending _ hnone := nomatch hnone
  idle _ hflight := nomatch hflight
  busy _ hflight _ := ⟨(h.pending candidate hpending).trans (some.inj hflight), rfl⟩
  contained _ := List.Subset.refl _
  valid other hother := by
    rcases hother with hnone | hflight
    · cases hnone
    · rw [← some.inj hflight]
      exact h.valid candidate (.inl hpending)
  seen hworker := nomatch hworker

theorem Tracked.settled (h : s.Tracked) (candidate : NotesDocument)
    (result : Except NotesError Unit) : (s.settle candidate result).Tracked := by
  have hstate := s.state.settle_state candidate result
  unfold settle
  dsimp only
  rw [hstate]
  exact
    { unready := nofun
      pending := fun newer hpending => by
        have hsome : s.state.pending = some newer := hpending
        rw [hsome]
        exact h.pending newer hsome
      idle := fun hpending _ => by
        have hnone : s.state.pending = none := hpending
        dsimp only [Ledger.settle]
        rw [hnone]
        exact ⟨rfl, rfl⟩
      busy := fun _ hbusy => nomatch hbusy
      contained := fun hbusy => absurd rfl hbusy
      valid := fun newer hnewer => by
        rcases hnewer with hpending | hbusy
        · exact h.valid newer (.inl hpending)
        · cases hbusy
      seen := nofun }

theorem Tracked.step (h : s.Tracked) (hlive : s.Live) (ht : Transition s a t) : t.Tracked := by
  cases ht with
  | rejected command error hcandidate => exact h
  | accepted command candidate howner hcandidate => exact h.accepted hcandidate
  | polled | closing | ownerStale | ownerPublished | ownerNotified | woken | unwoken | tookSlot
  | closed => exact { h with }
  | gaveUp howner => exact absurd howner hlive.available
  | loaded result hworker => exact h.loaded hworker
  | workerStale _ _ next hworker | workerNotified _ next hworker =>
    obtain ⟨_, _, _, _, _, _, _, _, _⟩ := s
    cases hworker
    cases next <;> exact { h with unready := nofun, seen := nofun }
  | workerPublished _ _ _ hworker | awoken _ hworker | saved _ _ hworker =>
    obtain ⟨_, _, _, _, _, _, _, _, _⟩ := s
    cases hworker
    exact { h with unready := nofun, seen := nofun }
  | foundNone result hworker hpending =>
    obtain ⟨_, _, _, _, _, _, _, _, _⟩ := s
    cases hworker
    exact { h with unready := nofun, seen := fun _ => .inl hpending }
  | tookPending result candidate hworker hpending => exact h.tookPending hpending
  | checked result hworker =>
    obtain ⟨_, _, _, _, shutdown, _, _, _, _⟩ := s
    cases hworker
    cases shutdown with
    | true => exact { h with unready := nofun, seen := fun _ => h.seen (.inl rfl) }
    | false => exact { h with unready := nofun, seen := nofun }
  | settled result saved candidate hworker => exact h.settled candidate saved

/-! ### Where the documents come from -/

/-- A document made from the loaded one by the edits, in order. -/
def Built (document : NotesDocument) (edits : List Edit) (built : NotesDocument) : Prop :=
  (edits.map Edit.command).foldlM NotesCommand.apply document = .ok built

theorem Built.append {document built next : NotesDocument} {edits : List Edit} {edit : Edit}
    (h : Built document edits built) (happly : edit.command.apply built = .ok next) :
    Built document (edits ++ [edit]) next := by
  unfold Built at h ⊢
  rw [List.map_append, List.foldlM_append, h]
  change (edit.command.apply built >>= pure) = .ok next
  rw [happly]
  rfl

/-- What the copies contain and what the repository holds, once the document is loaded. -/
structure Faithful (document : NotesDocument) (s : NotesSystem) : Prop where
  unready : s.state.ready = false → s.worker = .starting ∧ s.content = .ok document ∧
    s.ledger.committed = [] ∧ s.ledger.desired = []
  content : s.state.ready = true → s.content = .ok (s.unsettled.getD s.state.committed)
  committed : s.state.ready = true → Built document s.ledger.committed s.state.committed
  desired : s.state.ready = true → Built document s.ledger.desired s.state.desired
  inFlight : ∀ candidate, s.inFlight = some candidate →
    Built document s.ledger.inFlight candidate
  accepted : s.ledger.committed.Sublist s.ledger.accepted ∧
    s.ledger.desired.Sublist s.ledger.accepted ∧ s.ledger.inFlight.Sublist s.ledger.accepted

variable {document : NotesDocument}

theorem faithful_start (document : NotesDocument) : Faithful document (start (.ok document)) where
  unready _ := ⟨rfl, rfl, rfl, rfl⟩
  content h := nomatch h
  committed h := nomatch h
  desired h := nomatch h
  inFlight _ h := nomatch h
  accepted := ⟨List.Sublist.refl _, List.Sublist.refl _, List.Sublist.refl _⟩

section

variable (h : Faithful document s)

include h

/-- A worker that has started has loaded the document. -/
theorem Faithful.ready (hworker : s.worker ≠ .starting) : s.state.ready = true := by
  cases hready : s.state.ready with
  | true => rfl
  | false => exact absurd (h.unready hready).1 hworker

theorem Faithful.accept {command : NotesCommand} (hcandidate : s.state.candidate command = .ok candidate) :
    Faithful document (s.accept command candidate) := by
  obtain ⟨hready, happly, -⟩ := WorkerState.candidate_eq_ok hcandidate
  obtain ⟨hcommitted, hdesired, hflight⟩ := h.accepted
  exact
    { unready := fun hunready => by
        have hloading : s.state.ready = false := hunready
        rw [hready] at hloading
        cases hloading
      content := h.content
      committed := h.committed
      desired := fun _ => (h.desired hready).append happly
      inFlight := h.inFlight
      accepted := ⟨hcommitted.trans (List.sublist_append_left _ _),
        hdesired.append (List.Sublist.refl _), hflight.trans (List.sublist_append_left _ _)⟩ }

theorem Faithful.loaded (hunready : s.state.ready = false) : Faithful document s.load := by
  obtain ⟨-, hcontent, hcommitted, hdesired⟩ := h.unready hunready
  unfold load
  rw [hcontent]
  have hbuilt : Built document [] document := rfl
  exact
    { unready := nofun
      content := fun _ => rfl
      committed := fun _ => by
        rw [hcommitted]
        exact hbuilt
      desired := fun _ => by
        rw [hdesired]
        exact hbuilt
      inFlight := nofun
      accepted := h.accepted }

theorem Faithful.tookPending (htracked : s.Tracked) (hworker : s.worker = .taking)
    (hpending : s.state.pending = some candidate) : Faithful document (s.takePending candidate) := by
  have hready : s.state.ready = true := h.ready (by rw [hworker]; nofun)
  obtain ⟨_, _, _, _, _, _, _, _, _⟩ := s
  cases hworker
  exact { h with
    unready := fun hunready => (nomatch hready.symm.trans hunready)
    inFlight := fun other hother => by
      have hdesired := h.desired hready
      rw [htracked.pending candidate hpending, some.inj hother] at hdesired
      exact hdesired
    accepted := ⟨h.accepted.1, h.accepted.2.1, h.accepted.2.1⟩ }

theorem Faithful.saved (hworker : s.worker = .saving candidate) (result : Except NotesError Unit) :
    Faithful document (s.save candidate result) := by
  have hready : s.state.ready = true := h.ready (by rw [hworker]; nofun)
  obtain ⟨_, _, _, _, _, _, _, _, _⟩ := s
  cases hworker
  refine { h with
    unready := fun hunready => (nomatch hready.symm.trans hunready), content := fun _ => ?_ }
  unfold save unsettled
  dsimp only
  by_cases hreplaces : replaces result = true
  · rw [if_pos hreplaces, if_pos hreplaces]
    rfl
  · rw [if_neg hreplaces, if_neg hreplaces]
    exact h.content hready

theorem Faithful.settled {result : Except NotesError Unit}
    (hworker : s.worker = .settling candidate result) : Faithful document (s.settle candidate result) := by
  have hready : s.state.ready = true := h.ready (by rw [hworker]; nofun)
  have hbuilt : Built document s.ledger.inFlight candidate := by
    refine h.inFlight candidate ?_
    unfold NotesSystem.inFlight
    rw [hworker]
  have hcontent := h.content hready
  unfold unsettled at hcontent
  rw [hworker] at hcontent
  dsimp only at hcontent
  obtain ⟨hcommitted, hdesired, hflight⟩ := h.accepted
  -- the committed document and its edits after the settle step
  have hnext : Built document (if replaces result then s.ledger.inFlight else s.ledger.committed)
      (if replaces result then candidate else s.state.committed) := by
    split
    · exact hbuilt
    · exact h.committed hready
  have hsublist : (if replaces result then s.ledger.inFlight else s.ledger.committed).Sublist
      s.ledger.accepted := by
    split
    · exact hflight
    · exact hcommitted
  have hstate := s.state.settle_state candidate result
  unfold settle
  dsimp only
  rw [hstate]
  refine ⟨?_, fun _ => ?_, fun _ => hnext, fun _ => ?_, nofun, hsublist, ?_, List.nil_sublist _⟩
  · intro hunready
    have hloading : s.state.ready = false := hunready
    rw [hready] at hloading
    cases hloading
  · rw [hcontent]
    by_cases hreplaces : replaces result = true
    · rw [if_pos hreplaces, if_pos hreplaces]
      rfl
    · rw [if_neg hreplaces, if_neg hreplaces]
      rfl
  · dsimp only [Ledger.settle]
    split
    · exact hnext
    · exact h.desired hready
  · dsimp only [Ledger.settle]
    split
    · exact hsublist
    · exact hdesired

theorem Faithful.step (hlive : s.Live) (htracked : s.Tracked)
    (ht : Transition s a t) : Faithful document t := by
  cases ht with
  | rejected command error hcandidate => exact h
  | accepted command candidate howner hcandidate => exact h.accept hcandidate
  | polled | closing | ownerStale | ownerPublished | ownerNotified | woken | unwoken | tookSlot
  | closed => exact { h with }
  | gaveUp howner => exact absurd howner hlive.available
  | loaded result hworker => exact h.loaded (htracked.unready hworker).1
  | workerStale _ _ next hworker | workerNotified _ next hworker =>
    obtain ⟨_, _, _, _, _, _, _, _, _⟩ := s
    cases hworker
    cases next <;> exact { h with unready := fun hunready => (nomatch (h.unready hunready).1) }
  | workerPublished _ _ _ hworker | awoken _ hworker | foundNone _ hworker =>
    obtain ⟨_, _, _, _, _, _, _, _, _⟩ := s
    cases hworker
    exact { h with unready := fun hunready => (nomatch (h.unready hunready).1) }
  | tookPending result candidate hworker hpending => exact h.tookPending htracked hworker hpending
  | checked result hworker =>
    obtain ⟨_, _, _, _, shutdown, _, _, _, _⟩ := s
    cases hworker
    cases shutdown <;> exact { h with unready := fun hunready => (nomatch (h.unready hunready).1) }
  | saved result candidate hworker => exact h.saved hworker result
  | settled result saved candidate hworker => exact h.settled hworker

end

/-! ### Runs -/

variable {content : Except NotesError NotesDocument}

/-- The owner and the tracked copies over whole runs. -/
theorem live_tracked_of_reaches (h : Reaches step (start content) s) : s.Live ∧ s.Tracked := by
  refine reaches_invariant (P := fun s => s.Live ∧ s.Tracked) ?_
    ⟨live_start content, tracked_start content⟩ h
  intro s a t hs hstep
  have ht := transition_of_step hstep
  exact ⟨hs.1.step ht, hs.2.step hs.1 ht⟩

theorem faithful_of_reaches (h : Reaches step (start (.ok document)) s) : Faithful document s := by
  have hall := reaches_invariant (P := fun s => s.Live ∧ s.Tracked ∧ Faithful document s) ?_
    ⟨live_start _, tracked_start _, faithful_start document⟩ h
  · exact hall.2.2
  · intro s a t hs hstep
    have ht := transition_of_step hstep
    exact ⟨hs.1.step ht, hs.2.1.step hs.1 ht, hs.2.2.step hs.1 hs.2.1 ht⟩

/-- The worker loads the document and publishes it. -/
def loadSteps : List Action := List.replicate 3 (.work (.ok ()))

/-- A command is sent, its update is published and the worker is woken. -/
def sendSteps (command : NotesCommand) : List Action := [.send command, .proceed, .proceed, .proceed]

/-- The candidate that the worker hands to `save`. -/
def saving (s : NotesSystem) : Option NotesDocument :=
  match s.worker with
  | .saving candidate => some candidate
  | _ => none

theorem worker_of_saving (h : s.saving = some candidate) : s.worker = .saving candidate := by
  unfold saving at h
  split at h
  · next other hworker =>
    cases h
    exact hworker
  · cases h

/-- The thread of the worker has ended. -/
def isReturned : WorkerPhase → Bool
  | .returned => true
  | _ => false

end OverCrow.Notes.NotesSystem
