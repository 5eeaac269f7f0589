import OverCrow.Core.Runtime

/-!
# Authority of the active game

The active game always stands for a process of the installed map that the current
settings authorise, under the identity and the process instance the runtime accepted;
without an active game nothing of an earlier one is left. The invariant is proved of the
constructed runtime and of every operation, and so of every run.
-/

namespace OverCrow.Core.CoreRuntime
open OverCrow.Base OverCrow.Config OverCrow.Protocol Option

/-- The game stands for the process with its pid: the process is installed, authorised by the
current settings under the game's Steam application, and is the one the metadata names. -/
def Authorised (r : CoreRuntime) (game : GameWindow) : Prop :=
  ∃ pid process, game.pid = some pid ∧ r.processes[pid]? = some process ∧
    (GameAllowlist.fromSettings r.settings).allowsIdentity
      (classifyProcessIdentity pid r.processes) = true ∧
    (classifyProcessIdentity pid r.processes).steamAppId = game.steamAppId ∧
    (some (classifyProcessIdentity pid r.processes) == r.metadata.activeIdentity) = true ∧
    r.metadata.activeProcess = some ⟨pid, process.startTicks⟩

/-- Nothing of an earlier game is left. -/
structure Inert (r : CoreRuntime) : Prop where
  passive : r.state.snapshot.overlayMode = .passive
  lease : r.metadata.bridgeLastReport = none
  identity : r.metadata.activeIdentity = none
  process : r.metadata.activeProcess = none
  timing : r.metadata.activeTiming = none
  floor : r.metadata.timingFloor = none
  telemetry : r.metadata.telemetry = none
  stopwatch : r.metadata.manualStopwatch = {}

/-- The authority invariant. -/
structure Authority (r : CoreRuntime) : Prop where
  active : ∀ game, r.state.snapshot.activeGame = some game → r.Authorised game
  inactive : r.state.snapshot.activeGame = none → r.Inert

variable {game : GameWindow} {processes : ProcessMap}

private theorem matchingProcessIdentity_some {allowlist : GameAllowlist} {identity : ProcessIdentity}
    (h : matchingProcessIdentity game processes allowlist = some identity) :
    ∃ pid, game.pid = some pid ∧ identity = classifyProcessIdentity pid processes ∧
      allowlist.allowsIdentity identity = true ∧ identity.steamAppId = game.steamAppId := by
  cases hp : game.pid with
  | none => simp [matchingProcessIdentity, hp] at h
  | some pid =>
    simp only [matchingProcessIdentity, hp, bind_eq_bind, bind_some] at h
    split at h
    · next hc =>
      cases h
      rw [Bool.and_eq_true, beq_iff_eq] at hc
      exact ⟨pid, rfl, rfl, hc.1, hc.2.symm⟩
    · cases h

private theorem activeGameProcess_some {current : ProcessInstance × Option ProcessTiming}
    (h : activeGameProcess game processes = some current) :
    ∃ pid process, game.pid = some pid ∧ processes[pid]? = some process ∧
      current.1 = ⟨pid, process.startTicks⟩ := by
  cases hp : game.pid with
  | none => simp [activeGameProcess, hp] at h
  | some pid =>
    cases hq : processes[pid]? with
    | none => simp [activeGameProcess, hp, hq] at h
    | some process =>
      simp only [activeGameProcess, hp, hq, bind_eq_bind, bind_some] at h
      cases h
      exact ⟨pid, process, rfl, hq, rfl⟩

private theorem activeGameProcess_of_present
    {pid : UInt32} {process : ProcessInfo} (hp : game.pid = some pid)
    (hq : processes[pid]? = some process) :
    activeGameProcess game processes = some (⟨pid, process.startTicks⟩, process.timing) := by
  simp [activeGameProcess, hp, hq]

variable {r : CoreRuntime}

/-- A game accepted as current is authorised in the runtime that accepts it. -/
theorem authorised_of_activeGameIsCurrent
    (h : activeGameIsCurrent game r.metadata.activeIdentity r.metadata.activeProcess r.processes
      (GameAllowlist.fromSettings r.settings) = true) : r.Authorised game := by
  rw [activeGameIsCurrent, Bool.and_eq_true, any_eq_true, any_eq_true] at h
  obtain ⟨⟨identity, hm, hi⟩, current, hc, hp⟩ := h
  obtain ⟨pid, hpid, rfl, hallowed, hsteam⟩ := matchingProcessIdentity_some hm
  obtain ⟨pid', process, hpid', hprocess, hcurrent⟩ := activeGameProcess_some hc
  rw [hpid] at hpid'
  cases hpid'
  rw [beq_iff_eq, hcurrent] at hp
  exact ⟨pid, process, hpid, hprocess, hallowed, hsteam, hi, hp.symm⟩

/-! ### Each way an operation ends -/

/-- Publishing touches the watch channel only. -/
theorem Authority.publishSnapshot (h : r.Authority) (snapshot : CoreSnapshot) :
    (r.publishSnapshot snapshot).1.Authority :=
  { h with inactive := fun hn => { h.inactive hn with } }

/-- Dropping the game establishes the invariant whatever held before. -/
theorem authority_dropGame (r : CoreRuntime) : r.dropGame.Authority where
  active game h := by simp [dropGame] at h
  inactive _ := ⟨rfl, rfl, rfl, rfl, rfl, rfl, rfl, rfl⟩

/-- Clearing the game establishes the invariant whatever held before. -/
theorem authority_clearGame (r : CoreRuntime) : r.clearGame.1.Authority :=
  (authority_dropGame r).publishSnapshot _

private theorem allowedProcess_some {observation : WindowObservation}
    {allowed : AllowedProcess} (h : r.allowedProcess observation = some allowed) :
    ∃ pid process, observation.pid = some pid ∧ r.processes[pid]? = some process ∧
      (GameAllowlist.fromSettings r.settings).allowsIdentity
        (classifyProcessIdentity pid r.processes) = true ∧
      allowed.identity = classifyProcessIdentity pid r.processes ∧
      allowed.inst = ⟨pid, process.startTicks⟩ := by
  cases hp : observation.pid with
  | none => simp [allowedProcess, hp] at h
  | some pid =>
    cases hq : r.processes[pid]? with
    | none => simp [allowedProcess, hp, hq] at h
    | some process =>
      simp only [allowedProcess, hp, hq, bind_eq_bind, bind_some] at h
      split at h
      · next hc =>
        cases h
        exact ⟨pid, process, rfl, hq, hc, rfl, rfl⟩
      · cases h

/-- An observation of either window source establishes the invariant whatever held before. -/
theorem authority_applyObservation (r : CoreRuntime) (observation : WindowObservation)
    (lease : Option Instant) (observedAt : Instant) :
    (r.applyObservation observation lease observedAt).1.Authority := by
  unfold applyObservation
  cases ha : r.allowedProcess observation with
  | none => exact (authority_dropGame r).publishSnapshot _
  | some allowed =>
    apply Authority.publishSnapshot
    obtain ⟨pid, process, hpid, hprocess, hallowed, hidentity, hinst⟩ := allowedProcess_some ha
    refine ⟨?_, fun hn => by simp at hn⟩
    intro game hgame
    rw [CoreState.activeGame_observeGame, some.injEq] at hgame
    subst hgame
    refine ⟨pid, process, hpid, hprocess, hallowed, ?_, ?_, ?_⟩
    · rw [← hidentity]
      rfl
    · change (some (classifyProcessIdentity pid r.processes) == some allowed.identity) = true
      rw [hidentity, some_beq_some]
      exact ProcessIdentity.beq_self _
    · change some allowed.inst = _
      rw [hinst]

/-! ### Refreshing a game that is still valid -/

private theorem activeIdentity_refreshActiveProcess (metadata : RuntimeMetadata)
    (game : Option GameWindow) (processes : ProcessMap) (observedAt : Instant) :
    (metadata.refreshActiveProcess game processes observedAt).activeIdentity =
      metadata.activeIdentity := by
  unfold RuntimeMetadata.refreshActiveProcess
  split
  · rfl
  · simp only [RuntimeMetadata.resetStopwatchForChangedProcess]
    split <;> rfl

private theorem activeProcess_refreshActiveProcess {metadata : RuntimeMetadata}
    {pid : UInt32} {process : ProcessInfo}
    (hp : game.pid = some pid) (hq : processes[pid]? = some process) (observedAt : Instant) :
    (metadata.refreshActiveProcess (some game) processes observedAt).activeProcess =
      some ⟨pid, process.startTicks⟩ := by
  simp [RuntimeMetadata.refreshActiveProcess, activeGameProcess_of_present hp hq]

/-- Authority of a game outlives a refresh of the accepted process. -/
theorem Authorised.refreshActiveProcess (h : r.Authorised game) (observedAt : Instant) :
    Authorised { r with
      metadata := r.metadata.refreshActiveProcess (some game) r.processes observedAt } game := by
  obtain ⟨pid, process, hpid, hprocess, hallowed, hsteam, hidentity, hinst⟩ := h
  refine ⟨pid, process, hpid, hprocess, hallowed, hsteam, ?_, ?_⟩
  · rw [activeIdentity_refreshActiveProcess]
    exact hidentity
  · exact activeProcess_refreshActiveProcess hpid hprocess observedAt

/-- Without a game the refresh keeps the runtime inert. -/
theorem Inert.refreshActiveProcess (h : r.Inert) (processes : ProcessMap) (observedAt : Instant) :
    Inert { r with metadata := r.metadata.refreshActiveProcess none processes observedAt } :=
  { h with process := rfl, timing := rfl, floor := rfl, stopwatch := rfl }

/-- Refreshing a runtime whose processes or settings were just replaced: a game that is no
longer current is dropped, a current one is refreshed. -/
theorem authority_refresh {s : CoreRuntime} (hr : r.Authority) (hstate : s.state = r.state)
    (hmetadata : s.metadata = r.metadata) (observedAt : Instant) :
    Authority (if s.gameIsValid then
      { s with
        metadata := s.metadata.refreshActiveProcess s.state.snapshot.activeGame s.processes
          observedAt }
      else s.dropGame) := by
  split
  · next hv =>
    rw [gameIsValid] at hv
    cases hg : s.state.snapshot.activeGame with
    | none =>
      have hs : s.Inert := by
        obtain ⟨⟩ := s
        cases hstate
        cases hmetadata
        exact { hr.inactive hg with }
      exact ⟨fun game h => (some_ne_none game (h.symm.trans hg)).elim,
        fun _ => hs.refreshActiveProcess _ _⟩
    | some game =>
      rw [hg, all_some] at hv
      refine ⟨?_, fun h => (some_ne_none game (hg.symm.trans h)).elim⟩
      intro other hother
      rw [hg, some.injEq] at hother
      subst hother
      exact (authorised_of_activeGameIsCurrent hv).refreshActiveProcess observedAt
  · exact authority_dropGame s

/-- The telemetry of a refresh does not bear on authority; without a game it is cleared. -/
theorem Authority.refreshTelemetry (h : r.Authority)
    (temperatures : TemperatureSnapshot) (ticksPerSecond : Nat) (observedAt : Instant) :
    Authority { r with
      metadata := r.metadata.refreshTelemetry r.state.snapshot.activeGame r.processes
        temperatures ticksPerSecond observedAt } := by
  cases hgame : r.state.snapshot.activeGame with
  | none =>
    exact ⟨fun game hsome => (nomatch hgame.symm.trans hsome),
      fun _ => { h.inactive hgame with telemetry := rfl }⟩
  | some game =>
    exact ⟨h.active, fun hnone => nomatch hgame.symm.trans hnone⟩

/-! ### Construction, one operation and a whole run -/

theorem authority_withSettingsAndWidgetProfile (state : CoreState)
    (processes : ProcessMap) (settings : LifecycleSettings) (widgetProfile : WidgetProfile)
    (now : Instant) :
    (withSettingsAndWidgetProfile state processes settings widgetProfile now).Authority := by
  unfold withSettingsAndWidgetProfile
  cases hm : state.snapshot.activeGame.bind fun game => matchingProcessIdentity game processes
      (GameAllowlist.fromSettings (((validateEnabledSettings settings).toOption).getD {})) with
  | none =>
    simp only [hm]
    exact ⟨fun game h => (by cases h), fun _ => ⟨rfl, rfl, rfl, rfl, rfl, rfl, rfl, rfl⟩⟩
  | some identity =>
    simp only [hm]
    obtain ⟨game, hg, hmatch⟩ := bind_eq_some_iff.mp hm
    obtain ⟨pid, hpid, rfl, hallowed, hsteam⟩ := matchingProcessIdentity_some hmatch
    -- An authorised identity belongs to a present process, so the accepted process is known.
    obtain ⟨process, hprocess⟩ := present_of_allowsIdentity hallowed
    refine ⟨?_, fun h => (some_ne_none game (hg.symm.trans h)).elim⟩
    intro other hother
    change state.snapshot.activeGame = some other at hother
    rw [hg, some.injEq] at hother
    subst hother
    refine ⟨pid, process, hpid, hprocess, hallowed, hsteam, ?_, ?_⟩
    · rw [some_beq_some]
      exact ProcessIdentity.beq_self _
    · simp [hg, activeGameProcess_of_present hpid hprocess]

/-- An update of the overlay mode keeps the invariant if it stays passive without a game. -/
private theorem Authority.overlay (h : r.Authority) (state : CoreState)
    (hgame : state.snapshot.activeGame = r.state.snapshot.activeGame)
    (hmode : r.state.snapshot.activeGame = none → state.snapshot.overlayMode = .passive) :
    Authority { r with state } := by
  refine ⟨fun game hg => h.active game (hgame.symm.trans hg), fun hn => ?_⟩
  have hnone := hgame.symm.trans hn
  have hi := h.inactive hnone
  exact { hi with passive := hmode hnone }

/-- The stopwatch only moves while there is a game. -/
private theorem Authority.stopwatch (h : r.Authority)
    (manualStopwatch : ManualStopwatch) (enabled : Bool) :
    Authority (if enabled && r.state.snapshot.activeGame.isSome then
      { r with metadata := { r.metadata with manualStopwatch } } else r) := by
  split
  · next hc =>
    rw [Bool.and_eq_true, isSome_iff_exists] at hc
    obtain ⟨-, game, hg⟩ := hc
    exact ⟨h.active, fun hn => (some_ne_none game (hg.symm.trans hn)).elim⟩
  · exact h

private theorem authority_installRefreshSnapshotAt (h : r.Authority)
    (newProcesses : ProcessMap) (temperatures : TemperatureSnapshot) (ticksPerSecond : Nat)
    (observedAt : Instant) :
    (r.installRefreshSnapshotAt newProcesses temperatures ticksPerSecond observedAt).1.Authority := by
  apply Authority.publishSnapshot
  have hr := authority_refresh (s := { r with
    processes := newProcesses
    selectedRunningTx :=
      snapshotHasSelectedProcess (GameAllowlist.fromSettings r.settings) newProcesses })
    h rfl rfl observedAt
  split at hr
  · next hv =>
    rw [if_pos hv]
    exact hr.refreshTelemetry temperatures ticksPerSecond observedAt
  · next hv =>
    rw [if_neg hv]
    exact hr

/-- One operation keeps the invariant. -/
theorem authority_apply (h : r.Authority) (op : Operation) :
    (r.apply op).Authority := by
  cases op with
  | applyBridgeObservationAt observation reportedAt =>
    simp only [apply, applyBridgeObservationAt]
    split
    · exact authority_applyObservation r observation _ _
    · exact authority_clearGame r
  | applyX11Observation observation observedAt =>
    simp only [apply, applyX11Observation]
    split
    · exact authority_clearGame r
    · split
      · exact h
      · split
        · exact authority_applyObservation r _ _ _
        · exact authority_clearGame r
  | clearGame => exact authority_clearGame r
  | expireBridgeLeaseAt now =>
    simp only [apply, expireBridgeLeaseAt]
    split
    · exact h
    · split
      · exact h
      · exact authority_clearGame r
  | installRefreshSnapshotAt processes temperatures ticksPerSecond observedAt =>
    exact authority_installRefreshSnapshotAt h processes temperatures ticksPerSecond observedAt
  | reloadSettings settings refreshedAt now =>
    simp only [apply, reloadSettings]
    split
    · exact h
    · apply Authority.publishSnapshot
      refine authority_refresh h ?_ ?_ refreshedAt <;> rfl
  | reloadWidgetProfile profile now =>
    simp only [apply, reloadWidgetProfile]
    split
    · exact h
    · exact { h with inactive := fun hn => { h.inactive hn with } }
  | toggleOverlay now =>
    exact (h.overlay _ (CoreState.activeGame_toggleOverlay _)
      (CoreState.overlayMode_toggleOverlay_of_none _)).publishSnapshot _
  | setOverlayInteractive interactive now =>
    exact (h.overlay _ (CoreState.activeGame_setOverlayInteractive _ _)
      (CoreState.overlayMode_setOverlayInteractive_of_none _ _)).publishSnapshot _
  | toggleManualStopwatchAt | resetManualStopwatchAt => exact (h.stopwatch _ _).publishSnapshot _

/-- A run keeps the invariant. -/
theorem authority_applyAll (h : r.Authority) (ops : List Operation) :
    (r.applyAll ops).Authority := by
  induction ops generalizing r with
  | nil => exact h
  | cons op ops ih => exact ih (authority_apply h op)

/-- In every run of the constructed runtime the active game is authorised, and without one
nothing of an earlier game is left. -/
theorem authority_of_run (state : CoreState) (processes : ProcessMap)
    (settings : LifecycleSettings) (widgetProfile : WidgetProfile) (now : Instant)
    (ops : List Operation) :
    ((withSettingsAndWidgetProfile state processes settings widgetProfile now).applyAll
      ops).Authority :=
  authority_applyAll (authority_withSettingsAndWidgetProfile state processes settings
    widgetProfile now) ops

end OverCrow.Core.CoreRuntime
