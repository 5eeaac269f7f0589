import OverCrow.Notes.Consistency

/-!
# Reports of lost edits

A save that fails while nothing newer is pending takes its edits out of the desired document. The
update that says so waits in the slot, or in the worker that is about to publish it. The
receiver is given it unless a command is sent meanwhile: the update of the command takes its
place.
-/

namespace OverCrow.Notes
open OverCrow.Base List Option WorkerState

/-- An update that reports a failure after which nothing is left to be saved. -/
def PublishedNotesUpdate.ReportsLoss (u : PublishedNotesUpdate) : Prop :=
  u.update.error.isSome = true ∧ u.update.savePending = false ∧ u.update.durabilityWarning = false
  deriving Decidable

namespace WorkerState

variable {state : WorkerState} {candidate : NotesDocument} {result : Except NotesError Unit}

/-- The number of the next update. -/
def nextGeneration (state : WorkerState) : Nat := saturatingAdd u64Max state.updateGeneration 1

theorem nextGeneration_eq (h : state.updateGeneration < u64Max) :
    state.nextGeneration = state.updateGeneration + 1 := Nat.min_eq_left h

theorem settle_generation : (state.settle candidate result).1.generation = state.nextGeneration := by
  unfold settle
  cases result with
  | ok => rfl
  | error error =>
    dsimp only
    split <;> rfl

/-- A settled save reports a loss when it did not replace the content and nothing is pending. -/
theorem reportsLoss_settle :
    (state.settle candidate result).1.ReportsLoss ↔
      replaces result = false ∧ state.pending = none := by
  unfold settle
  cases result with
  | ok => exact ⟨fun h => (nomatch h.1), fun h => (nomatch h.1)⟩
  | error error =>
    dsimp only
    split
    · next hcommitted =>
      have hreplaces : replaces (.error error) = true := hcommitted
      rw [hreplaces]
      exact ⟨fun h => (nomatch h.2.2), fun h => (nomatch h.1)⟩
    · next hcommitted =>
      have hreplaces : replaces (.error error) = false := Bool.not_eq_true _ ▸ hcommitted
      rw [hreplaces]
      constructor
      · intro h
        exact ⟨rfl, isSome_eq_false_iff.mp h.2.1 |> isNone_iff_eq_none.mp⟩
      · intro h
        refine ⟨rfl, ?_, rfl⟩
        rw [h.2]
        rfl

end WorkerState

namespace NotesSystem

/-- The update that the worker is about to publish. -/
def workerUpdate (s : NotesSystem) : Option PublishedNotesUpdate :=
  match s.worker with
  | .publishing update _ => some update
  | _ => none

/-- The update that the owner is about to publish. -/
def ownerUpdate (s : NotesSystem) : Option PublishedNotesUpdate :=
  match s.owner with
  | .publishing update _ => some update
  | _ => none

/-- The updates of the worker that the receiver may still be given. -/
def outstanding (s : NotesSystem) : List PublishedNotesUpdate :=
  s.slot.latest.toList ++ s.workerUpdate.toList

/-- The receiver was given, or may still be given, a report that is not older than any failed save
of the edit. -/
def Told (s : NotesSystem) (edit : Edit) : Prop :=
  ∃ u ∈ s.ledger.given ++ s.outstanding, u.ReportsLoss ∧
    (∃ failed ∈ s.ledger.failures, edit ∈ failed.edits) ∧
    ∀ failed ∈ s.ledger.failures, edit ∈ failed.edits → failed.generation ≤ u.generation

/-- The numbers of the updates, and what an outstanding report says of the state. -/
structure Reported (s : NotesSystem) : Prop where
  failures : ∀ failed ∈ s.ledger.failures, failed.generation ≤ s.state.updateGeneration
  newest : s.slot.newestGeneration ≤ s.state.updateGeneration
  latest : ∀ u, s.slot.latest = some u → u.generation = s.slot.newestGeneration
  worker : ∀ u, s.workerUpdate = some u → u.generation ≤ s.state.updateGeneration
  owner : ∀ u, s.ownerUpdate = some u →
    u.generation ≤ s.state.updateGeneration ∧ ¬u.ReportsLoss
  starting : s.worker = .starting → s.slot.latest = none ∧ s.ownerUpdate = none
  quiet : ∀ u ∈ s.outstanding, u.ReportsLoss →
    s.state.pending = none ∧ s.inFlight = none ∧ u.generation = s.state.updateGeneration
  fresh : ∀ u, s.workerUpdate = some u → u.ReportsLoss →
    s.slot.newestGeneration < u.generation ∧
      ∀ v, s.ownerUpdate = some v → v.generation < u.generation
  covered : ∀ edit ∈ s.ledger.accepted, edit ∈ s.ledger.desired ∨ s.Told edit

variable {s t : NotesSystem} {a : Action} {content : Except NotesError NotesDocument}
  {candidate : NotesDocument} {update : PublishedNotesUpdate} {result : Except NotesError Unit}

theorem reported_start (content : Except NotesError NotesDocument) : (start content).Reported where
  failures _ h := nomatch h
  newest := Nat.le_refl 0
  latest _ h := nomatch h
  worker _ h := nomatch h
  owner _ h := nomatch h
  starting _ := ⟨rfl, rfl⟩
  quiet _ h := nomatch h
  fresh _ h := nomatch h
  covered _ h := nomatch h

theorem mem_outstanding {u : PublishedNotesUpdate} :
    u ∈ s.outstanding ↔ s.slot.latest = some u ∨ s.workerUpdate = some u := by
  rw [outstanding, mem_append, mem_toList, mem_toList]

theorem workerUpdate_of_worker {phase : WorkerPhase} (hworker : s.worker = phase)
    (h : ∀ update next, phase ≠ .publishing update next) : s.workerUpdate = none := by
  unfold workerUpdate
  rw [hworker]
  cases phase with
  | publishing update next => exact absurd rfl (h update next)
  | starting | notifying | waiting | taking | checking | saving | settling | returned => rfl

/-- A report is not lost when it stays outstanding or is given. -/
theorem Told.mono {edit : Edit} (h : s.Told edit)
    (hreports : ∀ u ∈ s.ledger.given ++ s.outstanding, u.ReportsLoss →
      u ∈ t.ledger.given ++ t.outstanding)
    (hfailures : t.ledger.failures = s.ledger.failures) : t.Told edit := by
  obtain ⟨u, hu, hloss, hfailed, hnewer⟩ := h
  unfold Told
  rw [hfailures]
  exact ⟨u, hreports u hu hloss, hloss, hfailed, hnewer⟩

/-- What was accepted stays desired or reported. -/
theorem Reported.covered_mono (h : s.Reported) (haccepted : t.ledger.accepted = s.ledger.accepted)
    (hdesired : t.ledger.desired = s.ledger.desired)
    (hfailures : t.ledger.failures = s.ledger.failures) (hgiven : s.ledger.given ⊆ t.ledger.given)
    (hreports : ∀ u ∈ s.outstanding, u.ReportsLoss → u ∈ t.ledger.given ++ t.outstanding) (edit : Edit)
    (hedit : edit ∈ t.ledger.accepted) : edit ∈ t.ledger.desired ∨ t.Told edit := by
  rw [haccepted] at hedit
  rw [hdesired]
  refine (h.covered edit hedit).imp_right fun htold => htold.mono (fun u hu hloss => ?_) hfailures
  rcases mem_append.mp hu with hu | hu
  · exact mem_append_left _ (hgiven hu)
  · exact hreports u hu hloss

/-- The owner goes on without an update. -/
theorem Reported.ownerStep (h : s.Reported) {notified wake shutdown : Bool} {owner : OwnerPhase}
    (howner : ∀ update accepted, owner ≠ .publishing update accepted) :
    ({ s with notified, wake, shutdown, owner } : NotesSystem).Reported := by
  have hnone : ({ s with notified, wake, shutdown, owner } : NotesSystem).ownerUpdate = none := by
    cases owner with
    | publishing update accepted => exact absurd rfl (howner update accepted)
    | _ => rfl
  exact { h with
    owner := fun _ hu => (nomatch hnone.symm.trans hu), starting := fun hs => ⟨(h.starting hs).1, hnone⟩
    fresh := fun u hu hloss => ⟨(h.fresh u hu hloss).1, fun _ hv => (nomatch hnone.symm.trans hv)⟩ }

/-- Without an outstanding report, what was reported was given. -/
theorem Told.given {edit : Edit} (h : s.Told edit) (hnone : ∀ u ∈ s.outstanding, ¬u.ReportsLoss) :
    ∃ u ∈ s.ledger.given, u.ReportsLoss ∧
      (∃ failed ∈ s.ledger.failures, edit ∈ failed.edits) ∧
      ∀ failed ∈ s.ledger.failures, edit ∈ failed.edits → failed.generation ≤ u.generation := by
  obtain ⟨u, hu, hloss, hfailed⟩ := h
  rcases mem_append.mp hu with hgiven | houtstanding
  · exact ⟨u, hgiven, hloss, hfailed⟩
  · exact absurd hloss (hnone u houtstanding)

section

variable (h : s.Reported)

include h

theorem Reported.accepted {command : NotesCommand}
    (hworker : s.worker ≠ .starting) (hgeneration : s.state.updateGeneration < u64Max)
    (hnone : ∀ u ∈ s.outstanding, ¬u.ReportsLoss) : (s.accept command candidate).Reported := by
  have hnext : (s.accept command candidate).state.updateGeneration =
      s.state.updateGeneration + 1 := nextGeneration_eq hgeneration
  refine { h with
    failures := fun failed hfailed => ?_, newest := ?_, worker := fun u hu => ?_, owner := ?_
    starting := fun hs => absurd hs hworker, quiet := fun u hu hloss => absurd hloss (hnone u hu)
    fresh := fun u hu hloss => absurd hloss (hnone u (mem_outstanding.mpr (.inr hu)))
    covered := fun edit hedit => ?_ }
  · rw [hnext]
    exact Nat.le_succ_of_le (h.failures failed hfailed)
  · rw [hnext]
    exact Nat.le_succ_of_le h.newest
  · rw [hnext]
    exact Nat.le_succ_of_le (h.worker u hu)
  · rintro u ⟨⟩
    exact ⟨Nat.le_refl _, fun hloss => nomatch hloss.1⟩
  · rcases mem_append.mp hedit with hold | hnew
    · rcases h.covered edit hold with hdesired | htold
      · exact .inl (mem_append_left _ hdesired)
      · exact .inr (htold.mono (fun _ hu _ => hu) rfl)
    · exact .inl (mem_append_right _ hnew)

theorem Reported.ownerPublished {accepted : Bool} (howner : s.owner = .publishing update accepted)
    (hfresh : s.slot.newestGeneration < update.generation) :
    ({ s with
      slot := ⟨update.generation, some update⟩
      owner := .notifying accepted } : NotesSystem).Reported := by
  obtain ⟨_, _, _, _, _, _, _, _, _⟩ := s
  cases howner
  obtain ⟨hgeneration, hquiet⟩ := h.owner update rfl
  refine { h with
    newest := hgeneration, latest := ?_, owner := fun _ hu => (nomatch hu)
    starting := fun hstarting => (nomatch (h.starting hstarting).2), quiet := fun u hu hloss => ?_
    fresh := fun u hu hloss => ⟨(h.fresh u hu hloss).2 update rfl, fun _ hv => (nomatch hv)⟩
    covered := h.covered_mono rfl rfl rfl (List.Subset.refl _) fun u hu hloss => ?_ }
  · rintro u ⟨⟩
    rfl
  · rcases mem_outstanding.mp hu with hlatest | hworker
    · cases hlatest
      exact absurd hloss hquiet
    · exact h.quiet u (mem_outstanding.mpr (.inr hworker)) hloss
  · refine mem_append_right _ (mem_outstanding.mpr (.inr ?_))
    refine (mem_outstanding.mp hu).resolve_left fun hlatest => ?_
    -- a report in the slot has the newest number, so nothing takes its place
    have hnumber := (h.quiet u hu hloss).2.2
    have hnewest := h.latest u hlatest
    omega

theorem Reported.tookSlot : s.takeSlot.Reported := by
  refine { h with
    latest := fun _ hu => (nomatch hu), owner := fun _ hu => (nomatch hu), starting := fun _ => ⟨rfl, rfl⟩
    quiet := fun u hu => ?_
    fresh := fun u hu hloss => ⟨(h.fresh u hu hloss).1, fun _ hv => (nomatch hv)⟩
    covered := h.covered_mono rfl rfl rfl (subset_append_left _ _) fun u hu _ => ?_ }
  · rcases mem_outstanding.mp hu with hlatest | hupdate
    · cases hlatest
    · exact h.quiet u (mem_outstanding.mpr (.inr hupdate))
  · rcases mem_append.mp hu with hlatest | hupdate
    · exact mem_append_left _ (mem_append_right _ hlatest)
    · exact mem_append_right _ (mem_append_right _ hupdate)

theorem Reported.loaded (htracked : s.Tracked) (hworker : s.worker = .starting)
    (hgeneration : s.state.updateGeneration < u64Max) : s.load.Reported := by
  obtain ⟨hlatest, howner⟩ := h.starting hworker
  obtain ⟨-, hpending⟩ := htracked.unready hworker
  have hload : s.load.state.updateGeneration = s.state.updateGeneration + 1 ∧
      s.load.state.pending = none ∧
      ∀ u, s.load.workerUpdate = some u → u.generation = s.state.updateGeneration + 1 := by
    have hnext := nextGeneration_eq hgeneration
    unfold load WorkerState.loaded
    cases s.content with
    | ok | error => exact ⟨hnext, hpending, fun u hu => by cases hu; exact hnext⟩
  obtain ⟨hnext, hidle, hupdate⟩ := hload
  refine { h with
    failures := fun failed hfailed => ?_, newest := ?_, worker := fun u hu => ?_
    owner := fun u hu => (nomatch howner.symm.trans hu), starting := nofun, quiet := fun u hu _ => ?_
    fresh := fun u hu _ => ⟨?_, fun v hv => (nomatch howner.symm.trans hv)⟩
    covered := h.covered_mono rfl rfl rfl (List.Subset.refl _) fun u hu _ => ?_ }
  · rw [hnext]
    exact Nat.le_succ_of_le (h.failures failed hfailed)
  · rw [hnext]
    exact Nat.le_succ_of_le h.newest
  · exact Nat.le_of_eq ((hupdate u hu).trans hnext.symm)
  · rcases mem_outstanding.mp hu with hslot | hworker
    · cases hlatest.symm.trans hslot
    · exact ⟨hidle, rfl, (hupdate u hworker).trans hnext.symm⟩
  · rw [hupdate u hu]
    exact Nat.lt_succ_of_le h.newest
  · rcases mem_outstanding.mp hu with hslot | hgone
    · exact mem_append_right _ (mem_outstanding.mpr (.inl hslot))
    · cases (workerUpdate_of_worker hworker nofun).symm.trans hgone

/-- The worker goes on after an update that it need not publish or has published. -/
theorem Reported.workerStale {next : AfterPublish} (hworker : s.worker = .publishing update next)
    (hstale : update.generation ≤ s.slot.newestGeneration) :
    ({ s with worker := next.phase } : NotesSystem).Reported := by
  obtain ⟨_, _, _, _, _, _, _, _, _⟩ := s
  cases hworker
  cases next with
  | wait | take =>
    refine { h with
      worker := fun _ hu => (nomatch hu), starting := nofun, quiet := fun u hu hloss => ?_
      fresh := fun _ hu => (nomatch hu)
      covered := h.covered_mono rfl rfl rfl (List.Subset.refl _) fun u hu hloss => ?_ }
    · rcases mem_outstanding.mp hu with hlatest | hgone
      · exact h.quiet u (mem_outstanding.mpr (.inl hlatest)) hloss
      · cases hgone
    · refine mem_append_right _ (mem_outstanding.mpr (.inl ?_))
      refine (mem_outstanding.mp hu).resolve_right fun hsame => ?_
      cases hsame
      exact Nat.not_lt.mpr hstale (h.fresh update rfl hloss).1

theorem Reported.workerPublished {next : AfterPublish} (hworker : s.worker = .publishing update next)
    (hfresh : s.slot.newestGeneration < update.generation) :
    ({ s with
      slot := ⟨update.generation, some update⟩
      worker := .notifying next } : NotesSystem).Reported := by
  obtain ⟨_, _, _, _, _, _, _, _, _⟩ := s
  cases hworker
  refine { h with
    newest := h.worker update rfl, latest := ?_, worker := fun _ hu => (nomatch hu), starting := nofun
    quiet := fun u hu hloss => ?_, fresh := fun _ hu => (nomatch hu)
    covered := h.covered_mono rfl rfl rfl (List.Subset.refl _) fun u hu hloss => ?_ }
  · rintro u ⟨⟩
    rfl
  · rcases mem_outstanding.mp hu with hlatest | hgone
    · cases hlatest
      exact h.quiet update (mem_outstanding.mpr (.inr rfl)) hloss
    · cases hgone
  · refine mem_append_right _ (mem_outstanding.mpr (.inl ?_))
    refine (mem_outstanding.mp hu).resolve_left fun hlatest => ?_
    -- a report in the slot has the newest number
    have hnumber := (h.quiet u hu hloss).2.2
    have hnewest := h.latest u hlatest
    have hgeneration := h.worker update rfl
    omega

theorem Reported.tookPending (hworker : s.worker = .taking) (hpending : s.state.pending = some candidate) :
    (s.takePending candidate).Reported := by
  obtain ⟨_, _, _, _, _, _, _, _, _⟩ := s
  cases hworker
  refine { h with
    worker := fun _ hu => (nomatch hu), starting := nofun
    quiet := fun u hu hloss => (nomatch hpending.symm.trans (h.quiet u hu hloss).1)
    fresh := fun _ hu => (nomatch hu)
    covered := h.covered_mono rfl rfl rfl (List.Subset.refl _) fun _ hu _ => mem_append_right _ hu }

end

theorem mem_failures_settle {failed : FailedSave} :
    failed ∈ (s.settle candidate result).ledger.failures ↔ failed ∈ s.ledger.failures ∨
      replaces result = false ∧ failed = ⟨s.state.nextGeneration, s.ledger.inFlight⟩ := by
  dsimp only [settle, Ledger.settle]
  rw [settle_generation]
  by_cases hreplaces : replaces result = true
  · rw [if_pos hreplaces, hreplaces]
    exact ⟨.inl, fun h => h.elim id fun hnew => nomatch hnew.1⟩
  · rw [if_neg hreplaces, mem_append, mem_singleton]
    exact or_congr_right ⟨fun h => ⟨Bool.eq_false_iff.mpr hreplaces, h⟩, fun h => h.2⟩

section

variable (h : s.Reported) (htracked : s.Tracked) (hworker : s.worker = .settling candidate result)
  (hgeneration : s.state.updateGeneration < u64Max)

include h htracked hworker hgeneration

/-- The edits after a settled save. Those of a failed save with nothing newer pending are reported
by the update that the worker publishes next. -/
theorem Reported.covered_settle
    (hnone : ∀ u ∈ s.outstanding, ¬u.ReportsLoss) (edit : Edit) (hedit : edit ∈ s.ledger.accepted) :
    edit ∈ (s.settle candidate result).ledger.desired ∨ (s.settle candidate result).Told edit := by
  have hflight : s.inFlight = some candidate := by
    unfold inFlight
    rw [hworker]
  have hcontained : s.ledger.inFlight ⊆ s.ledger.desired :=
    htracked.contained (by rw [hflight]; nofun)
  by_cases hdesired : edit ∈ s.ledger.desired
  · cases hpending : s.state.pending with
    | some newer =>
      left
      dsimp only [settle, Ledger.settle]
      rw [hpending]
      exact hdesired
    | none =>
      have hsame := (htracked.busy candidate hflight hpending).2
      cases hreplaces : replaces result with
      | true =>
        left
        dsimp only [settle, Ledger.settle]
        rw [hpending, hreplaces, if_pos rfl, ← hsame]
        exact hdesired
      | false =>
        rw [hsame] at hdesired
        right
        refine ⟨(s.state.settle candidate result).1, ?_, ?_, ?_, ?_⟩
        · exact mem_append_right _ (mem_outstanding.mpr (.inr rfl))
        · exact reportsLoss_settle.mpr ⟨hreplaces, hpending⟩
        · exact ⟨_, mem_failures_settle.mpr (.inr ⟨hreplaces, rfl⟩), hdesired⟩
        · intro failed hfailed _
          rw [settle_generation]
          rcases mem_failures_settle.mp hfailed with hold | ⟨-, rfl⟩
          · rw [nextGeneration_eq hgeneration]
            exact Nat.le_succ_of_le (h.failures failed hold)
          · exact Nat.le_refl _
  · -- what is not desired was given up before and is not part of this save
    obtain ⟨u, hu, hloss, ⟨failed, hfailed, hmem⟩, hnewer⟩ :=
      ((h.covered edit hedit).resolve_left hdesired).given hnone
    right
    refine ⟨u, mem_append_left _ hu, hloss, ⟨failed, ?_, hmem⟩, ?_⟩
    · exact mem_failures_settle.mpr (.inl hfailed)
    · intro other hother hin
      rcases mem_failures_settle.mp hother with hold | ⟨-, rfl⟩
      · exact hnewer other hold hin
      · exact absurd (hcontained hin) hdesired

theorem Reported.settled : (s.settle candidate result).Reported := by
  have hnone : ∀ u ∈ s.outstanding, ¬u.ReportsLoss := by
    intro u hu hloss
    have hflight := (h.quiet u hu hloss).2.1
    unfold inFlight at hflight
    rw [hworker] at hflight
    cases hflight
  have hstate := s.state.settle_state candidate result
  have hnext : (s.settle candidate result).state.updateGeneration =
      s.state.updateGeneration + 1 := by
    unfold settle
    dsimp only
    rw [hstate]
    exact nextGeneration_eq hgeneration
  have hpending : (s.settle candidate result).state.pending = s.state.pending := by
    unfold settle
    dsimp only
    rw [hstate]
  have hnumber : (s.state.settle candidate result).1.generation = s.state.updateGeneration + 1 :=
    settle_generation.trans (nextGeneration_eq hgeneration)
  refine { h with
    failures := fun failed hfailed => ?_, newest := ?_, worker := ?_, owner := fun u hu => ?_
    starting := nofun, quiet := fun u hu hloss => ?_, fresh := ?_
    covered := h.covered_settle htracked hworker hgeneration hnone }
  · rw [hnext]
    rcases mem_failures_settle.mp hfailed with hold | ⟨-, rfl⟩
    · exact Nat.le_succ_of_le (h.failures failed hold)
    · exact Nat.le_of_eq (nextGeneration_eq hgeneration)
  · rw [hnext]
    exact Nat.le_succ_of_le h.newest
  · rintro u ⟨⟩
    rw [hnext]
    exact Nat.le_of_eq hnumber
  · rw [hnext]
    exact ⟨Nat.le_succ_of_le (h.owner u hu).1, (h.owner u hu).2⟩
  · rw [hpending, hnext]
    rcases mem_outstanding.mp hu with hlatest | hsame
    · exact absurd hloss (hnone u (mem_outstanding.mpr (.inl hlatest)))
    · cases hsame
      exact ⟨(reportsLoss_settle.mp hloss).2, rfl, hnumber⟩
  · rintro u ⟨⟩ _
    rw [hnumber]
    exact ⟨Nat.lt_succ_of_le h.newest, fun v hv => Nat.lt_succ_of_le (h.owner v hv).1⟩

end

/-- No command is sent while a report is outstanding, and the updates can still be numbered. -/
def AfterReports (s : NotesSystem) (a : Action) : Prop :=
  s.state.updateGeneration < u64Max ∧
    match a with
    | .send _ => ∀ u ∈ s.outstanding, ¬u.ReportsLoss
    | _ => True

instance (s : NotesSystem) (a : Action) : Decidable (AfterReports s a) := by
  unfold AfterReports
  cases a <;> infer_instance

theorem Reported.step (h : s.Reported) (hlive : s.Live) (htracked : s.Tracked)
    (hafter : AfterReports s a) (ht : Transition s a t) : t.Reported := by
  obtain ⟨hgeneration, hsend⟩ := hafter
  cases ht with
  | rejected command error hcandidate => exact h
  | accepted command candidate howner hcandidate =>
    refine h.accepted (fun hstarting => ?_) hgeneration hsend
    have hready := (candidate_eq_ok hcandidate).1
    rw [(htracked.unready hstarting).1] at hready
    cases hready
  | polled howner =>
    refine h.ownerStep fun _ _ => ?_
    cases s.notified <;> nofun
  | closing | woken | unwoken | closed => exact h.ownerStep nofun
  | ownerStale _ accepted | ownerNotified accepted => cases accepted <;> exact h.ownerStep nofun
  | ownerPublished update accepted howner hfresh => exact h.ownerPublished howner hfresh
  | gaveUp howner => exact absurd howner hlive.available
  | tookSlot howner => exact h.tookSlot
  | loaded result hworker => exact h.loaded htracked hworker hgeneration
  | workerStale result update next hworker hstale => exact h.workerStale hworker hstale
  | workerPublished result update next hworker hfresh => exact h.workerPublished hworker hfresh
  | workerNotified _ next hworker =>
    obtain ⟨_, _, _, _, _, _, _, _, _⟩ := s
    cases hworker
    cases next <;> exact { h with starting := nofun }
  | awoken _ hworker | foundNone _ hworker | saved _ _ hworker =>
    obtain ⟨_, _, _, _, _, _, _, _, _⟩ := s
    cases hworker
    exact { h with starting := nofun }
  | tookPending result candidate hworker hpending => exact h.tookPending hworker hpending
  | checked _ hworker =>
    obtain ⟨_, _, _, _, shutdown, _, _, _, _⟩ := s
    cases hworker
    cases shutdown <;> exact { h with starting := nofun }
  | settled result saved candidate hworker => exact h.settled htracked hworker hgeneration

/-! ### Runs -/

theorem reported_of_run {actions : List Action} (hafter : Along step AfterReports (start content) actions)
    (hrun : run step (start content) actions = some s) : s.Reported := by
  have hall := run_invariant_along (P := fun s => s.Live ∧ s.Tracked ∧ s.Reported) ?_
    ⟨live_start content, tracked_start content, reported_start content⟩ hafter hrun
  · exact hall.2.2
  · intro s a t hs hc hstep
    have ht := transition_of_step hstep
    exact ⟨hs.1.step ht, hs.2.1.step hs.1 ht, hs.2.2.step hs.1 hs.2.1 hc ht⟩

/-- When commands are only sent after the receiver has been given the reports of earlier losses,
no accepted edit is lost silently: once nothing is pending, in flight or outstanding, an edit that
the committed document lacks was part of a failed save, and the receiver was given an error that is
not older than any of them. -/
theorem losses_reported {actions : List Action} {edit : Edit}
    (hafter : Along step AfterReports (start content) actions)
    (hrun : run step (start content) actions = some s) (hpending : s.state.pending = none)
    (hflight : s.inFlight = none) (hdrained : s.outstanding = [])
    (haccepted : edit ∈ s.ledger.accepted) (hlost : edit ∉ s.ledger.committed) :
    ∃ u ∈ s.ledger.given, u.update.error.isSome = true ∧
      (∃ failed ∈ s.ledger.failures, edit ∈ failed.edits) ∧
      ∀ failed ∈ s.ledger.failures, edit ∈ failed.edits → failed.generation ≤ u.generation := by
  have hreported := reported_of_run hafter hrun
  obtain ⟨-, htracked⟩ := live_tracked_of_reaches ⟨actions, hrun⟩
  have hdesired : edit ∉ s.ledger.desired := by
    rw [(htracked.idle hpending hflight).2]
    exact hlost
  have htold := (hreported.covered edit haccepted).resolve_left hdesired
  have hnone : ∀ u ∈ s.outstanding, ¬u.ReportsLoss := by
    rw [hdrained]
    nofun
  obtain ⟨u, hu, hloss, hfailed⟩ := htold.given hnone
  exact ⟨u, hu, hloss.1, hfailed⟩

/-- The worker takes the pending candidate, its save fails, and the failure is settled. -/
def failedSaveSteps : List Action :=
  [.work (.ok ()), .work (.ok ()), .work (.error (.repository "disk full")), .work (.ok ())]

theorem losses_reported_after_failed_save :
    ∃ s edit, Reaches step (start (.ok {})) s ∧ edit ∈ s.ledger.accepted ∧
      edit ∉ s.ledger.committed ∧ ∃ u ∈ s.ledger.given, u.update.error.isSome = true := by
  let actions := loadSteps ++ sendSteps (.addNote "Raids") ++ failedSaveSteps ++
    replicate 2 (.work (.ok ())) ++ [.takeLatest, .proceed]
  let edit : Edit := ⟨0, .addNote "Raids"⟩
  have hafter : Along step AfterReports (start (.ok {})) actions := by decide +kernel
  have hrun : ((run step (start (.ok {})) actions).map fun s =>
      ((s.state.pending, s.inFlight, s.outstanding), s.ledger.accepted, s.ledger.committed)) =
        some ((none, none, []), [edit], []) := by
    decide +kernel
  obtain ⟨s, hs, heq⟩ := map_eq_some_iff.mp hrun
  simp only [Prod.mk.injEq] at heq
  obtain ⟨⟨hpending, hflight, hdrained⟩, haccepted, hcommitted⟩ := heq
  have hmem : edit ∈ s.ledger.accepted := haccepted ▸ mem_cons_self
  have hlost : edit ∉ s.ledger.committed := hcommitted ▸ not_mem_nil
  obtain ⟨u, hu, herror, -⟩ :=
    losses_reported hafter hs hpending hflight hdrained hmem hlost
  exact ⟨s, edit, ⟨actions, hs⟩, hmem, hlost, u, hu, herror⟩

/-- A command that is sent while the report of a failed save is in the slot takes its place. Once
the second command is saved and the slot is drained, the first one is gone and the receiver was
given no error. -/
theorem loss_overwritten_by_send :
    ∃ s edit, Reaches step (start (.ok {})) s ∧ s.state.pending = none ∧ s.inFlight = none ∧
      s.outstanding = [] ∧ edit ∈ s.ledger.accepted ∧ edit ∉ s.ledger.committed ∧
      ∀ u ∈ s.ledger.given, u.update.error = none := by
  let actions := loadSteps ++ sendSteps (.addNote "Raids") ++ failedSaveSteps ++
    replicate 2 (.work (.ok ())) ++ sendSteps (.addNote "Later") ++
    replicate 5 (.work (.ok ())) ++ [.takeLatest, .proceed]
  let edit : Edit := ⟨0, .addNote "Raids"⟩
  have hrun : ((run step (start (.ok {})) actions).map fun s =>
      ((s.state.pending, s.inFlight, s.outstanding), decide (edit ∈ s.ledger.accepted),
        decide (edit ∈ s.ledger.committed), s.ledger.given.map fun u => u.update.error)) =
        some ((none, none, []), true, false, [none]) := by
    decide +kernel
  obtain ⟨s, hs, heq⟩ := map_eq_some_iff.mp hrun
  simp only [Prod.mk.injEq, decide_eq_true_eq, decide_eq_false_iff_not] at heq
  obtain ⟨⟨hpending, hflight, hdrained⟩, haccepted, hlost, hgiven⟩ := heq
  refine ⟨s, edit, ⟨actions, hs⟩, hpending, hflight, hdrained, haccepted, hlost, ?_⟩
  intro u hu
  have herror : u.update.error ∈ s.ledger.given.map fun u => u.update.error :=
    mem_map_of_mem hu
  rw [hgiven] at herror
  exact mem_singleton.mp herror

end NotesSystem

end OverCrow.Notes
