import OverCrow.Base.History
import OverCrow.Base.Run
import OverCrow.Control.Updates

/-!
# What the update controller keeps

One thread at a time is in an operation, so that what it finds at one place still holds at the next.
`UpdateInv` is what holds between any two steps, and `At` what the operation knows where it stands;
the log then justifies every query, installation and observation by what happened before it.
-/

namespace OverCrow.Control
open OverCrow.Base

/-! ### What the log shows -/

namespace UpdateEffect

/-- A query made for a check at the given time. -/
def QueryAt (now : Nat) (effect : UpdateEffect) : Prop :=
  ∃ q force result, effect = .query q force now result

/-- The candidate is what the last query returned. -/
def Latest (candidate : UpdateCandidate) (log : List UpdateEffect) : Prop :=
  Since (fun effect => ∀ now, ¬effect.QueryAt now)
    (fun effect => ∃ q force now, effect = .query q force now (.ok (some candidate))) log

/-- The package was just downloaded, and the installation prepared since. -/
def Prepared (asset : UpdateAsset) (package : VerifiedPackage) (log : List UpdateEffect) : Prop :=
  ∃ older shown,
    log = older ++ [.download asset (.ok package), .beforeInstall (.ok ()), .observe shown shown]

/-- What an effect is justified by. A query is made at the time that its check has read. -/
def Justified (before : List UpdateEffect) : UpdateEffect → Prop
  | .query _ force now _ => ∀ effect ∈ before, ∀ earlier, effect.QueryAt earlier →
      earlier + minimumInterval force ≤ now
  | .install package _ _ => ∃ candidate asset, Latest candidate before ∧
      candidate.asset = some asset ∧ Prepared asset package before
  | .observe shown stored => shown = stored
  | .download _ _ => True
  | .beforeInstall _ => True

theorem not_queryAt {effect : UpdateEffect}
    (h : ∀ q force now result, effect ≠ .query q force now result) (now : Nat) : ¬effect.QueryAt now := by
  rintro ⟨q, force, result, rfl⟩
  exact h q force now result rfl

theorem Latest.append {candidate : UpdateCandidate} {log : List UpdateEffect} {effect : UpdateEffect}
    (h : Latest candidate log) (heffect : ∀ now, ¬effect.QueryAt now) :
    Latest candidate (log ++ [effect]) :=
  since_append_singleton.mpr (.inr ⟨heffect, h⟩)

end UpdateEffect

open UpdateEffect

/-! ### What is stored -/

/-- What holds between any two steps. -/
structure UpdateInv (u : Updater) (s : UpdateShared) : Prop where
  available : s.inner.state.phase = .available → ∃ candidate, s.inner.candidate = some candidate ∧
    candidate.asset ≠ none ∧ s.inner.state.latestVersion = some candidate.version.text ∧
    u.target ≠ .manual
  cleared : s.inner.state.phase = .upToDate ∨ s.inner.state.phase = .checking →
    s.inner.candidate = none
  failed : s.inner.checkFailureActive = true → s.inner.candidate = none
  latest : ∀ candidate, s.inner.candidate = some candidate → Latest candidate s.log
  justified : Each Justified s.log
  attempted : ∀ effect ∈ s.log, ∀ now, effect.QueryAt now →
    ∃ last, s.inner.lastAttempt = some last ∧ now ≤ last
  past : ∀ last, s.inner.lastAttempt = some last → last ≤ s.clock

/-- A check that may query: the candidate is gone, and every query was early enough. -/
structure Attempting (s : UpdateShared) (force : Bool) (now : Nat) : Prop where
  candidate : s.inner.candidate = none
  lastAttempt : s.inner.lastAttempt = some now
  spaced : ∀ effect ∈ s.log, ∀ earlier, effect.QueryAt earlier →
    earlier + minimumInterval force ≤ now

/-- The asset of the stored candidate. -/
def Chosen (s : UpdateShared) (asset : UpdateAsset) : Prop :=
  ∃ candidate, s.inner.candidate = some candidate ∧ candidate.asset = some asset

/-- A candidate that a query has just returned. -/
def Returned (s : UpdateShared) (candidate : Option UpdateCandidate) : Prop :=
  ∀ found, candidate = some found → Latest found s.log

/-- What the operation knows at its place. -/
def At (s : UpdateShared) : UpdatePlace → Prop
  | .compareInterval _ now => now = s.clock
  | .publishChecking force now => now = s.clock ∧
      ∀ last, s.inner.lastAttempt = some last → last + minimumInterval force ≤ now
  | .observeChecking force now shown => shown = s.inner.state ∧ Attempting s force now
  | .query force now => Attempting s force now
  | .clearCheckFailure _ candidate => s.inner.candidate = none ∧ Returned s candidate
  | .publishFound _ candidate => s.inner.checkFailureActive = false ∧ Returned s candidate
  | .publishDownloading asset => Chosen s asset
  | .observeDownloading asset shown => shown = s.inner.state ∧ Chosen s asset
  | .download asset => Chosen s asset
  | .beforeInstall asset package => Chosen s asset ∧
      ∃ older, s.log = older ++ [.download asset (.ok package)]
  | .publishInstalling asset package => Chosen s asset ∧
      ∃ older, s.log = older ++ [.download asset (.ok package), .beforeInstall (.ok ())]
  | .observeInstalling asset package shown => shown = s.inner.state ∧ Chosen s asset ∧
      ∃ older, s.log = older ++ [.download asset (.ok package), .beforeInstall (.ok ())]
  | .install asset package => Chosen s asset ∧ Prepared asset package s.log
  | .markFailure stage _ => stage = .check → s.inner.candidate = none
  | .observeResult shown => shown = s.inner.state
  | _ => True

namespace UpdateInv

variable {u : Updater} {s : UpdateShared}

section

variable (h : UpdateInv u s)

include h

/-- An effect that is no query is logged. -/
theorem record {effect : UpdateEffect} (heffect : ∀ now, ¬effect.QueryAt now)
    (hjustified : Justified s.log effect) : UpdateInv u (s.record effect) :=
  { h with
    latest := fun candidate hcandidate => (h.latest candidate hcandidate).append heffect
    justified := each_append_singleton.mpr ⟨h.justified, hjustified⟩
    attempted := fun other hother now hquery => by
      rcases List.mem_append.mp hother with hmem | hmem
      · exact h.attempted other hmem now hquery
      · exact absurd (List.mem_singleton.mp hmem ▸ hquery) (heffect now) }

theorem observe : UpdateInv u (s.observe s.inner.state) :=
  h.record (not_queryAt nofun) rfl

theorem query {force : Bool} {now : Nat} (hattempt : Attempting s force now)
    (q : ReleaseQuery) (result : Except UpdateError (Option UpdateCandidate)) :
    UpdateInv u (s.record (.query q force now result)) :=
  { h with
    latest := fun candidate hcandidate => nomatch hattempt.candidate.symm.trans hcandidate
    justified := each_append_singleton.mpr ⟨h.justified, hattempt.spaced⟩
    attempted := fun other hother earlier hquery => by
      rcases List.mem_append.mp hother with hmem | hmem
      · exact h.attempted other hmem earlier hquery
      · obtain ⟨_, _, _, hsame⟩ := hquery
        rw [List.mem_singleton.mp hmem] at hsame
        cases hsame
        exact ⟨now, hattempt.lastAttempt, Nat.le_refl now⟩ }

theorem checking {now : Nat} (hnow : now = s.clock) : UpdateInv u (s.update (·.checking now)) where
  available := nofun
  cleared _ := rfl
  failed _ := rfl
  latest := nofun
  justified := h.justified
  attempted effect hmem earlier hquery := by
    obtain ⟨last, hlast, hle⟩ := h.attempted effect hmem earlier hquery
    exact ⟨now, rfl, Nat.le_trans hle (hnow ▸ h.past last hlast)⟩
  past last hlast := by
    cases hlast
    exact Nat.le_of_eq hnow

theorem found {now : Nat} {candidate : Option UpdateCandidate}
    (hflag : s.inner.checkFailureActive = false) (hreturned : Returned s candidate) :
    UpdateInv u (s.update fun inner => inner.found u now candidate) := by
  cases candidate with
  | none =>
    exact { h with
      available := nofun, cleared := fun _ => rfl, failed := fun _ => rfl, latest := nofun }
  | some candidate =>
    refine { h with
      available := fun hphase => ⟨candidate, rfl, ?_⟩, cleared := fun hphase => ?_
      failed := fun hactive => ?_, latest := ?_ }
    · have hnot : ¬(u.target = .manual ∨ candidate.asset = none) := by
        intro hmanual
        change (if _ then _ else _) = _ at hphase
        rw [if_pos hmanual] at hphase
        cases hphase
      rw [not_or] at hnot
      exact ⟨hnot.2, rfl, hnot.1⟩
    · change (if _ then _ else _) = _ ∨ (if _ then _ else _) = _ at hphase
      split at hphase
      · rcases hphase with hphase | hphase <;> cases hphase
      · rcases hphase with hphase | hphase <;> cases hphase
    · exact absurd (hflag.symm.trans hactive) Bool.noConfusion
    · rintro _ ⟨⟩
      exact hreturned candidate rfl

/-- A phase of an installation or of a failure. -/
theorem setPhase {state : ControlUpdateState}
    (hphase : state.phase ≠ .available ∧ state.phase ≠ .upToDate ∧ state.phase ≠ .checking) :
    UpdateInv u (s.update fun inner => { inner with state := state }) :=
  { h with
    available := fun havailable => absurd havailable hphase.1
    cleared := fun hcleared => (hcleared.elim hphase.2.1 hphase.2.2).elim }

theorem setFailure {stage : FailureStage} {active : Bool}
    (hstage : active = true → stage = .check → s.inner.candidate = none) :
    UpdateInv u (s.update (·.setFailure active stage)) := by
  cases stage with
  | install => exact { h with }
  | check => exact { h with failed := fun hactive => hstage hactive rfl }

end

end UpdateInv

/-! ### Operations exclude each other -/

/-- The thread is in an operation. -/
def UpdatePlace.running : UpdatePlace → Prop
  | .outside _ => False
  | .beginOperation _ => False
  | _ => True

/-- What an operation keeps until it gives back its guard. -/
def Inside (u : Updater) (s : UpdateShared) (place : UpdatePlace) : Prop :=
  UpdateInv u s ∧ At s place

section Rules

variable {u : Updater} {a b : UpdateShared} {l m : UpdatePlace} {input : UpdateInput}

theorem advance_wait (hl : ¬l.running) (hadvance : advance u a l input = some (b, m))
    (hm : ¬m.running) : b = a := by
  cases l with
  | outside last =>
    cases input with
    | call call =>
      cases hadvance
      rfl
    | _ => cases hadvance
  | beginOperation call =>
    cases input with
    | go =>
      rw [advance] at hadvance
      split at hadvance
      · cases hadvance
        rfl
      · cases call with
        | check | installAvailableUpdate =>
          cases hadvance
          exact absurd trivial hm
    | _ => cases hadvance
  | _ => exact absurd trivial hl

theorem advance_enter (hl : ¬l.running) (hadvance : advance u a l input = some (b, m))
    (hm : m.running) : a.active = false ∧ b.active = true ∧ (UpdateInv u a → Inside u b m) := by
  cases l with
  | outside last =>
    cases input with
    | call call =>
      cases hadvance
      exact hm.elim
    | _ => cases hadvance
  | beginOperation call =>
    cases input with
    | go =>
      rw [advance] at hadvance
      split at hadvance
      · cases hadvance
        exact hm.elim
      · next hactive =>
        refine ⟨(Bool.not_eq_true _).mp hactive, ?_⟩
        cases call with
        | check | installAvailableUpdate =>
          cases hadvance
          exact ⟨rfl, fun h => ⟨{ h with }, trivial⟩⟩
    | _ => cases hadvance
  | _ => exact absurd trivial hl

end Rules

/-! ### The steps of an operation -/

section Steps

/-- An attempt is not too recent: the interval has passed since the last one. -/
theorem interval_passed {inner : UpdateInner} {force : Bool} {now last : Nat}
    (hrecent : inner.tooRecent force now = false) (hlast : inner.lastAttempt = some last)
    (hle : last ≤ now) : last + minimumInterval force ≤ now := by
  have hnot : ¬now - last < minimumInterval force := by
    simpa [UpdateInner.tooRecent, checkedDurationSince, checkedSub, hlast, hle] using hrecent
  omega

namespace Inside

variable {u : Updater} {s : UpdateShared} {force : Bool} {now : Nat} {asset : UpdateAsset}
  {package : VerifiedPackage} {shown : ControlUpdateState}
  {candidate : Option UpdateCandidate}

theorem readClock (h : Inside u s (.readClock force)) (hle : s.clock ≤ now) :
    Inside u { s with clock := now } (.compareInterval force now) := by
  obtain ⟨hinv, -⟩ := h
  exact ⟨{ hinv with past := fun last hlast => Nat.le_trans (hinv.past last hlast) hle }, rfl⟩

theorem compareInterval (h : Inside u s (.compareInterval force now))
    (hrecent : s.inner.tooRecent force now = false) : Inside u s (.publishChecking force now) := by
  obtain ⟨hinv, hnow⟩ := h
  refine ⟨hinv, hnow, fun last hlast => interval_passed hrecent hlast ?_⟩
  exact Nat.le_trans (hinv.past last hlast) (Nat.le_of_eq hnow.symm)

theorem publishChecking (h : Inside u s (.publishChecking force now)) :
    Inside u (s.update (·.checking now))
      (.observeChecking force now (s.inner.checking now).state) := by
  obtain ⟨hinv, hnow, hinterval⟩ := h
  refine ⟨hinv.checking hnow, rfl, rfl, rfl, fun effect hmem earlier hquery => ?_⟩
  obtain ⟨last, hlast, hle⟩ := hinv.attempted effect hmem earlier hquery
  exact Nat.le_trans (Nat.add_le_add_right hle _) (hinterval last hlast)

theorem observeChecking (h : Inside u s (.observeChecking force now shown)) :
    Inside u (s.observe shown) (.query force now) := by
  obtain ⟨hinv, rfl, hattempt⟩ := h
  refine ⟨hinv.observe, hattempt.candidate, hattempt.lastAttempt, fun effect hmem earlier hquery => ?_⟩
  rcases List.mem_append.mp hmem with hmem | hmem
  · exact hattempt.spaced effect hmem earlier hquery
  · rw [List.mem_singleton.mp hmem] at hquery
    obtain ⟨_, _, _, ⟨⟩⟩ := hquery

theorem query_ok (h : Inside u s (.query force now)) (q : ReleaseQuery)
    (candidate : Option UpdateCandidate) :
    Inside u (s.record (.query q force now (.ok candidate))) (.clearCheckFailure now candidate) := by
  obtain ⟨hinv, hattempt⟩ := h
  refine ⟨hinv.query hattempt q _, hattempt.candidate, fun found hfound => ?_⟩
  exact since_append_singleton.mpr (.inl ⟨q, force, now, hfound ▸ rfl⟩)

theorem query_error (h : Inside u s (.query force now)) (q : ReleaseQuery) (error : UpdateError) :
    Inside u (s.record (.query q force now (.error error))) (.markFailure .check error) :=
  ⟨h.1.query h.2 q _, fun _ => h.2.candidate⟩

theorem clearCheckFailure (h : Inside u s (.clearCheckFailure now candidate)) :
    Inside u (s.update (·.setFailure false .check)) (.publishFound now candidate) :=
  ⟨h.1.setFailure nofun, rfl, h.2.2⟩

theorem publishFound (h : Inside u s (.publishFound now candidate)) :
    Inside u (s.update fun inner => inner.found u now candidate)
      (.observeResult (s.inner.found u now candidate).state) :=
  ⟨h.1.found h.2.1 h.2.2, rfl⟩

theorem selectCandidate (h : Inside u s .selectCandidate)
    (hasset : s.inner.assetToInstall u = some asset) : Inside u s (.publishDownloading asset) := by
  obtain ⟨candidate, hcandidate, hselect⟩ := Option.bind_eq_some_iff.mp hasset
  refine ⟨h.1, candidate, hcandidate, ?_⟩
  split at hselect
  · cases hselect
  · exact hselect

theorem publishDownloading (h : Inside u s (.publishDownloading asset)) :
    Inside u (s.update (·.enter .downloading))
      (.observeDownloading asset (s.inner.enter .downloading).state) :=
  ⟨h.1.setPhase ⟨nofun, nofun, nofun⟩, rfl, h.2⟩

theorem observeDownloading (h : Inside u s (.observeDownloading asset shown)) :
    Inside u (s.observe shown) (.download asset) := by
  obtain ⟨hinv, rfl, hchosen⟩ := h
  exact ⟨hinv.observe, hchosen⟩

theorem download (h : Inside u s (.download asset)) (result : Except UpdateError VerifiedPackage) :
    UpdateInv u (s.record (.download asset result)) :=
  h.1.record (not_queryAt nofun) trivial

theorem beforeInstall (h : Inside u s (.beforeInstall asset package))
    (result : Except UpdateError Unit) : UpdateInv u (s.record (.beforeInstall result)) :=
  h.1.record (not_queryAt nofun) trivial

theorem prepared (h : Inside u s (.beforeInstall asset package)) :
    Inside u (s.record (.beforeInstall (.ok ()))) (.publishInstalling asset package) := by
  obtain ⟨older, hlog⟩ := h.2.2
  refine ⟨h.beforeInstall _, h.2.1, older, ?_⟩
  rw [UpdateShared.record, hlog, List.append_assoc]
  rfl

theorem publishInstalling (h : Inside u s (.publishInstalling asset package)) :
    Inside u (s.update (·.enter .installing))
      (.observeInstalling asset package (s.inner.enter .installing).state) :=
  ⟨h.1.setPhase ⟨nofun, nofun, nofun⟩, rfl, h.2⟩

theorem observeInstalling (h : Inside u s (.observeInstalling asset package shown)) :
    Inside u (s.observe shown) (.install asset package) := by
  obtain ⟨hinv, rfl, hchosen, older, hlog⟩ := h
  refine ⟨hinv.observe, hchosen, older, s.inner.state, ?_⟩
  rw [UpdateShared.observe, UpdateShared.record, hlog, List.append_assoc]
  rfl

theorem install (h : Inside u s (.install asset package)) (result : Except UpdateError InstallOutcome) :
    UpdateInv u (s.record (.install package u.target result)) := by
  obtain ⟨hinv, ⟨candidate, hcandidate, hasset⟩, hprepared⟩ := h
  exact hinv.record (not_queryAt nofun)
    ⟨candidate, asset, hinv.latest candidate hcandidate, hasset, hprepared⟩

theorem publishInstalled {outcome : InstallOutcome} (h : Inside u s (.publishInstalled outcome)) :
    Inside u (s.update (·.enter outcome.phase))
      (.observeResult (s.inner.enter outcome.phase).state) := by
  refine ⟨h.1.setPhase ?_, rfl⟩
  cases outcome with
  | installed | restartRequired => exact ⟨nofun, nofun, nofun⟩

theorem observeResult (h : Inside u s (.observeResult shown)) : UpdateInv u (s.observe shown) := by
  obtain ⟨hinv, rfl⟩ := h
  exact hinv.observe

end Inside

/-- A step within an operation, or the one that gives the guard back. -/
theorem advance_running {u : Updater} {a b : UpdateShared} {l m : UpdatePlace} {input : UpdateInput}
    (hl : l.running) (h : Inside u a l) (hadvance : advance u a l input = some (b, m)) :
    Inside u b m ∧ (m.running ∧ b.active = a.active ∨ ¬m.running ∧ b.active = false) := by
  unfold advance at hadvance
  split at hadvance
  · exact hl.elim
  · exact hl.elim
  -- The steps of `check`.
  · split at hadvance
    · next hle =>
      cases hadvance
      exact ⟨h.readClock hle, .inl ⟨trivial, rfl⟩⟩
    · cases hadvance
  · split at hadvance
    · cases hadvance
      exact ⟨⟨h.1, trivial⟩, .inl ⟨trivial, rfl⟩⟩
    · next hrecent =>
      cases hadvance
      exact ⟨h.compareInterval ((Bool.not_eq_true _).mp hrecent), .inl ⟨trivial, rfl⟩⟩
  · cases hadvance
    exact ⟨h.publishChecking, .inl ⟨trivial, rfl⟩⟩
  · cases hadvance
    exact ⟨h.observeChecking, .inl ⟨trivial, rfl⟩⟩
  · next force now result =>
    cases result with
    | ok candidate =>
      cases hadvance
      exact ⟨h.query_ok _ candidate, .inl ⟨trivial, rfl⟩⟩
    | error error =>
      cases hadvance
      exact ⟨h.query_error _ error, .inl ⟨trivial, rfl⟩⟩
  · cases hadvance
    exact ⟨h.clearCheckFailure, .inl ⟨trivial, rfl⟩⟩
  · cases hadvance
    exact ⟨h.publishFound, .inl ⟨trivial, rfl⟩⟩
  -- The steps of `install_available_update`.
  · split at hadvance
    · cases hadvance
      exact ⟨⟨h.1, trivial⟩, .inl ⟨trivial, rfl⟩⟩
    · next hasset =>
      cases hadvance
      exact ⟨h.selectCandidate hasset, .inl ⟨trivial, rfl⟩⟩
  · cases hadvance
    exact ⟨h.publishDownloading, .inl ⟨trivial, rfl⟩⟩
  · cases hadvance
    exact ⟨h.observeDownloading, .inl ⟨trivial, rfl⟩⟩
  · next asset result =>
    cases result with
    | ok package =>
      cases hadvance
      exact ⟨⟨h.download _, h.2, a.log, rfl⟩, .inl ⟨trivial, rfl⟩⟩
    | error error =>
      cases hadvance
      exact ⟨⟨h.download _, nofun⟩, .inl ⟨trivial, rfl⟩⟩
  · next asset package result =>
    cases result with
    | ok _ =>
      cases hadvance
      exact ⟨h.prepared, .inl ⟨trivial, rfl⟩⟩
    | error error =>
      cases hadvance
      exact ⟨⟨h.beforeInstall _, nofun⟩, .inl ⟨trivial, rfl⟩⟩
  · cases hadvance
    exact ⟨h.publishInstalling, .inl ⟨trivial, rfl⟩⟩
  · cases hadvance
    exact ⟨h.observeInstalling, .inl ⟨trivial, rfl⟩⟩
  · next asset package result =>
    cases result with
    | ok outcome =>
      cases hadvance
      exact ⟨⟨h.install _, trivial⟩, .inl ⟨trivial, rfl⟩⟩
    | error error =>
      cases hadvance
      exact ⟨⟨h.install _, nofun⟩, .inl ⟨trivial, rfl⟩⟩
  · cases hadvance
    exact ⟨⟨h.1.setFailure nofun, trivial⟩, .inl ⟨trivial, rfl⟩⟩
  · cases hadvance
    exact ⟨h.publishInstalled, .inl ⟨trivial, rfl⟩⟩
  -- The steps of `publish_failure`, and the end.
  · cases hadvance
    exact ⟨⟨h.1.setFailure fun _ => h.2, trivial⟩, .inl ⟨trivial, rfl⟩⟩
  · cases hadvance
    exact ⟨⟨h.1.setPhase ⟨nofun, nofun, nofun⟩, rfl⟩, .inl ⟨trivial, rfl⟩⟩
  · cases hadvance
    exact ⟨⟨h.observeResult, trivial⟩, .inl ⟨trivial, rfl⟩⟩
  · cases hadvance
    obtain ⟨hinv, -⟩ := h
    exact ⟨⟨{ hinv with }, trivial⟩, .inr ⟨id, rfl⟩⟩
  · cases hadvance

end Steps

/-! ### Every run -/

/-- `operation_active` admits one operation at a time. -/
theorem exclusive_updates (u : Updater) :
    Threads.Exclusive (advance u) UpdatePlace.running UpdateShared.active (Inside u) (UpdateInv u) where
  wait := advance_wait
  enter := advance_enter
  work hl h hadvance hm := by
    obtain ⟨hinside, ⟨-, hactive⟩ | ⟨hnot, -⟩⟩ := advance_running hl h hadvance
    · exact ⟨hactive, hinside⟩
    · exact absurd hm hnot
  leave hl h hadvance hm := by
    obtain ⟨hinside, ⟨hrunning, -⟩ | ⟨-, hactive⟩⟩ := advance_running hl h hadvance
    · exact absurd hrunning hm
    · exact ⟨hactive, hinside.1⟩

namespace UpdateController

/-- What holds in every state that the threads reach. -/
abbrev Owned (u : Updater) (s : UpdateController) : Prop :=
  Threads.Owned UpdatePlace.running UpdateShared.active (Inside u) (UpdateInv u) s

theorem updateInv_start (u : Updater) : UpdateInv u { inner := .start u } where
  available := nofun
  cleared _ := rfl
  failed _ := rfl
  latest := nofun
  justified := each_nil
  attempted _ hmem := absurd hmem List.not_mem_nil
  past := nofun

theorem owned_start (u : Updater) : Owned u (start u) where
  unique _ _ h := h.elim
  free _ := ⟨updateInv_start u, fun _ => id⟩
  busy hactive := absurd hactive Bool.false_ne_true

variable {u : Updater} {s : UpdateController}

theorem owned_of_reaches (h : Reaches (step u) (start u) s) : Owned u s :=
  reaches_invariant (fun _ _ _ hs hstep => hs.step (exclusive_updates u) hstep) (owned_start u) h

theorem Owned.inv (h : Owned u s) : UpdateInv u s.shared := by
  cases hactive : s.shared.active with
  | false => exact (h.free hactive).1
  | true =>
    obtain ⟨i, -, hinside⟩ := h.busy hactive
    exact hinside.1

/-- In every state that any threads reach, with any answers of the collaborators: one operation at
a time, the others fail without an effect; the stored state and candidate fit together; and every
query, installation and observation of the log is justified by what stands before it. -/
theorem updates_are_safe (h : Reaches (step u) (start u) s) :
    (∀ i j, (s.threads i).running → (s.threads j).running → i = j) ∧
    (∀ i j call, (s.threads i).running → s.threads j = .beginOperation call →
      ∀ input t, step u s (j, input) = some t →
        t.shared = s.shared ∧ t.threads j = .outside (some (.error .operationBusy))) ∧
    (s.shared.inner.state.phase = .available → ∃ candidate,
      s.shared.inner.candidate = some candidate ∧ candidate.asset ≠ none ∧
      s.shared.inner.state.latestVersion = some candidate.version.text ∧ u.target ≠ .manual) ∧
    (s.shared.inner.state.phase = .upToDate ∨ s.shared.inner.state.phase = .checking ∨
      s.shared.inner.checkFailureActive = true → s.shared.inner.candidate = none) ∧
    Each Justified s.shared.log := by
  have howned := owned_of_reaches h
  have hinv := howned.inv
  refine ⟨howned.unique, fun i j call hi hj input t hstep => ?_, hinv.available, ?_, hinv.justified⟩
  · have hactive := (howned.of_running hi).1
    obtain ⟨after, hadvance, rfl⟩ := Option.map_eq_some_iff.mp hstep
    rw [hj] at hadvance
    cases input with
    | go =>
      rw [advance, if_pos hactive] at hadvance
      cases hadvance
      exact ⟨rfl, Function.update_self j _ _⟩
    | _ => cases hadvance
  · rintro (hphase | hphase | hfailed)
    · exact hinv.cleared (.inl hphase)
    · exact hinv.cleared (.inr hphase)
    · exact hinv.failed hfailed

def sampleUpdater : Updater := ⟨⟨0, 9, 0, "", ""⟩, .arch, fun _ => ""⟩

def sampleCandidate : UpdateCandidate where
  version := ⟨1, 0, 0, "", ""⟩
  releasePage := "https://github.com/Valhallab/PlayerVox-OverCrow/releases"
  asset := some ⟨"overcrow-bin-1.0.0-1-x86_64.pkg.tar.zst", "", 1, Vector.replicate 32 0⟩

/-- A thread checks and finds a candidate; another one is busy meanwhile. -/
def sampleCheck : List (Nat × UpdateInput) :=
  [(0, .call (.check true)), (0, .go), (0, .clock 5), (0, .go), (0, .go), (0, .go),
    (1, .call .installAvailableUpdate), (1, .go), (0, .release (.ok (some sampleCandidate))),
    (0, .go), (0, .go), (0, .go), (0, .go)]

theorem updates_are_safe_after_check :
    ∃ s, run (step sampleUpdater) (start sampleUpdater) sampleCheck = some s ∧
      s.shared.inner.state.phase = .available ∧
      s.threads 1 = .outside (some (.error .operationBusy)) ∧ Each Justified s.shared.log :=
  ⟨_, rfl, rfl, rfl, (updates_are_safe ⟨sampleCheck, rfl⟩).2.2.2.2⟩

end UpdateController

end OverCrow.Control
