import OverCrow.Notes.Consistency

/-!
# Every accepted edit can be saved

No wake-up of the worker is lost: until the service is shut down, it comes to save what is pending.
-/

namespace OverCrow.Notes
open OverCrow.Base List

/-- The owner is about to wake the worker. -/
@[simp]
def OwnerPhase.wakes : OwnerPhase → Bool
  | publishing _ _ | notifying _ | waking => true
  | _ => false

/-- The steps after which the worker has settled the save of a pending candidate. -/
@[simp]
def WorkerPhase.left : WorkerPhase → Nat
  | saving _ => 10
  | settling _ _ => 9
  | publishing _ _ => 7
  | notifying _ => 6
  | checking => 5
  | waiting => 4
  | taking => 3
  | _ => 0

namespace NotesSystem

variable {s t : NotesSystem} {a : Action} {content : Except NotesError NotesDocument}

/-- With nothing pending, only the save in flight is to be settled. -/
@[simp]
def left (s : NotesSystem) : Nat := s.worker.left - if s.state.pending = none then 8 else 0

/-- A save that is yet to be settled has replaced the content. -/
@[simp]
def Saves (s : NotesSystem) : Prop :=
  ∀ candidate result, s.worker = .settling candidate result → replaces result = true

/-- The worker takes what is pending, or was or will be woken. -/
def Awake (s : NotesSystem) : Prop :=
  s.state.pending = none ∨ s.worker = .taking ∨ s.wake = true ∨ s.owner.wakes = true

theorem Awake.step (h : s.Awake) (hlive : s.Live) (htracked : s.Tracked) (ht : Transition s a t) :
    t.Awake := by
  unfold Awake at *
  cases ht with
  | rejected => exact h
  | accepted | woken | closed | awoken | tookPending => simp [accept, takePending]
  | ownerStale update accepted howner | ownerPublished update accepted howner =>
    simp [hlive.publishing update accepted howner, OwnerPhase.published]
  | ownerNotified accepted howner => simp [hlive.notifying accepted howner, OwnerPhase.published]
  | unwoken howner hworker =>
    have hclosing := hlive.closing (hlive.returned hworker)
    simp [howner] at hclosing
  | gaveUp howner => exact absurd howner hlive.available
  | loaded _ hworker =>
    left
    rw [← (htracked.unready hworker).2]
    unfold load WorkerState.loaded
    cases s.content <;> rfl
  | _ => grind [takeSlot, foundNone, save, settle, WorkerState.settle_state, OwnerPhase.wakes]

theorem awake_of_reaches (h : Reaches step (start content) s) : s.Live ∧ s.Tracked ∧ s.Awake := by
  refine reaches_invariant (P := fun s => s.Live ∧ s.Tracked ∧ s.Awake) (fun s a t hs hstep => ?_)
    ⟨live_start content, tracked_start content, .inl rfl⟩ h
  have ht := transition_of_step hstep
  exact ⟨hs.1.step ht, hs.2.1.step hs.1 ht, hs.2.2.step hs.1 hs.2.1 ht⟩

/-- While something is to be saved, the worker has a step that brings it nearer. -/
theorem exists_work (h : Reaches step (start content) s) (hsaves : s.Saves) (hidle : s.owner = .idle)
    (hbusy : s.inFlight = none → s.state.pending ≠ none) :
    ∃ t, step s (.work (.ok ())) = some t ∧ t.left < s.left ∧ t.Saves ∧ t.owner = .idle ∧
      t.state.ready = s.state.ready ∧ t.state.desired = s.state.desired := by
  obtain ⟨⟨hclosing, hreturned, -⟩, ⟨hunready, -, -, hcandidate, -⟩, hawake⟩ := awake_of_reaches h
  cases hworker : s.worker with
  | publishing update next =>
    cases hslot : s.slot.publish update <;> cases next <;>
      simp_all [step, work, inFlight, AfterPublish.phase]
  | notifying next => cases next <;> simp_all [step, work, inFlight, AfterPublish.phase]
  | _ =>
    cases hpending : s.state.pending <;>
      simp_all [Awake, step, work, inFlight, save, settle, takePending, WorkerState.settle_state, replaces]

/-- From every reached state in which the owner is in no call and no failed save is to be settled, at most
ten steps of the worker bring what is desired into the repository. -/
theorem worker_saves_desired {document : NotesDocument} (h : Reaches step (start (.ok document)) s)
    (hsaves : s.Saves) (hidle : s.owner = .idle) (hready : s.state.ready = true) :
    ∃ n ≤ s.left, ∃ t, run step s (replicate n (.work (.ok ()))) = some t ∧
      t.state.pending = none ∧ t.inFlight = none ∧ t.content = .ok s.state.desired := by
  induction hn : s.left using Nat.strongRecOn generalizing s with
  | ind n ih =>
    by_cases hdone : s.inFlight = none ∧ s.state.pending = none
    · refine ⟨0, Nat.zero_le _, s, rfl, hdone.2, hdone.1, ?_⟩
      have hunsettled : s.unsettled = none := by
        cases hworker : s.worker <;> simp_all [inFlight, unsettled]
      rw [(faithful_of_reaches h).content hready, hunsettled,
        ((awake_of_reaches h).2.1.idle hdone.2 hdone.1).1]
      rfl
    · obtain ⟨t, hstep, hleft, hsaves, hidle, ht, hdesired⟩ :=
        exists_work h hsaves hidle fun hflight hpending => hdone ⟨hflight, hpending⟩
      obtain ⟨actions, hrun⟩ := h
      have hreaches := run_append hrun (run_cons_eq_some.mpr ⟨t, hstep, run_nil _ t⟩)
      obtain ⟨m, hm, last, hlast, hsaved⟩ :=
        ih t.left (hn ▸ hleft) ⟨_, hreaches⟩ hsaves hidle (ht.trans hready) rfl
      exact ⟨m + 1, by omega, last, run_cons_eq_some.mpr ⟨t, hstep, hlast⟩, hdesired ▸ hsaved⟩

theorem worker_saves_desired_raids :
    ∃ s n t, Reaches step (start (.ok {})) s ∧ s.state.pending.isSome ∧
      run step s (replicate n (.work (.ok ()))) = some t ∧ t.content = .ok s.state.desired := by
  have hreaches : Reaches step (start (.ok {})) _ := ⟨loadSteps ++ sendSteps (.addNote "Raids"), rfl⟩
  obtain ⟨n, -, t, ht, -, -, hcontent⟩ := worker_saves_desired hreaches
    (fun _ _ h => WorkerPhase.noConfusion h) rfl rfl
  exact ⟨_, n, t, hreaches, rfl, ht, hcontent⟩

end NotesSystem

end OverCrow.Notes
