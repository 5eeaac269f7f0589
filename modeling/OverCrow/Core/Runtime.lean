import OverCrow.Config.Widgets
import OverCrow.Core.Telemetry

/-!
# Core runtime

`crates/overcrow-core/src/runtime.rs`. Every mutation holds the runtime's mutation lock
from its first read to its last write, so each operation is one function on the state.
A call to `Instant::now()` is an argument. The watch channels are the values they hold;
shortcut availability is published by another component and is left out.
-/

namespace OverCrow.Core
open OverCrow.Base OverCrow.Config OverCrow.Protocol

/-- `runtime.rs:24`. -/
def bridgeLeaseTimeout : Duration := fromSecs 5

/-- `runtime.rs:27`. -/
def overlayAppId : String := "io.github.overcrow.Overlay"

/-- `runtime.rs:30`. -/
inductive RuntimeSettingsError where
  | disabled
  | invalid (error : SettingsError)
  deriving DecidableEq

/-- `Display` of `RuntimeSettingsError`, `runtime.rs:35`. -/
def RuntimeSettingsError.message : RuntimeSettingsError → String
  | .disabled => "lifecycle settings are disabled"
  | .invalid error => "invalid lifecycle settings: " ++ error.message

/-- `runtime.rs:59`. -/
structure ProcessInstance where
  pid : UInt32
  startTicks : UInt64
  deriving DecidableEq

/-- `runtime.rs:64`. -/
structure AllowedProcess where
  identity : ProcessIdentity
  inst : ProcessInstance
  timing : Option ProcessTiming

/-- `runtime.rs:47`. -/
structure RuntimeMetadata where
  bridgeLastReport : Option Instant := none
  activeIdentity : Option ProcessIdentity := none
  activeProcess : Option ProcessInstance := none
  activeTiming : Option ProcessTiming := none
  timingFloor : Option ProcessTiming := none
  telemetry : Option GameTelemetry := none
  telemetrySampler : TelemetrySampler := {}
  manualStopwatch : ManualStopwatch := {}

/-- `runtime.rs:71`. -/
structure CoreRuntime where
  state : CoreState
  processes : ProcessMap
  settings : LifecycleSettings
  widgetProfile : WidgetProfile
  snapshotTx : VersionedCoreSnapshot
  selectedRunningTx : Bool
  shortcutSettingsTx : ShortcutSettings
  widgetProfileTx : WidgetProfile
  metadata : RuntimeMetadata

/-- `crates/overcrow-core/src/window.rs:6`. -/
structure WindowObservation where
  pid : Option UInt32
  appId : Option String
  title : String
  rect : Rect
  scale : F64
  backend : String

/-- `window.rs:16`. -/
def WindowObservation.intoGame (observation : WindowObservation)
    (classification : ProcessClassification) : GameWindow where
  pid := observation.pid
  steamAppId := classification.steamAppId
  appId := observation.appId
  title := observation.title
  rect := observation.rect
  scale := observation.scale
  backend := observation.backend

/-- `crates/overcrow-core/src/hwmon.rs:14`. -/
structure TemperatureSnapshot where
  cpuMillicelsius : Option Int := none
  gpuMillicelsius : Option Int := none

/-! ### Free functions of the runtime -/

/-- `runtime.rs:709`. -/
def validateEnabledSettings (settings : LifecycleSettings) :
    Except RuntimeSettingsError LifecycleSettings :=
  match settings.validate with
  | .error error => .error (.invalid error)
  | .ok settings => if settings.enabled then .ok settings else .error .disabled

/-- `runtime.rs:719`. -/
def observationHasValidGeometry (observation : WindowObservation) : Bool :=
  observation.scale.isFinite && BinaryFloat.lt (.ofBits 0) observation.scale &&
    0 < observation.rect.width && 0 < observation.rect.height

/-- `runtime.rs:726`. -/
def classificationFromIdentity (identity : ProcessIdentity) : ProcessClassification where
  steamAppId := identity.steamAppId
  isGameCandidate := identity.gameCandidate

/-- `runtime.rs:733`. -/
def snapshotHasSelectedProcess (allowlist : GameAllowlist) (processes : ProcessMap) : Bool :=
  allowlist.anySelectedProcess processes.keys fun pid => classifyProcessIdentity pid processes

/-- `runtime.rs:742`. -/
def matchingProcessIdentity (game : GameWindow) (processes : ProcessMap)
    (allowlist : GameAllowlist) : Option ProcessIdentity := do
  let pid ← game.pid
  let identity := classifyProcessIdentity pid processes
  if allowlist.allowsIdentity identity && game.steamAppId == identity.steamAppId then
    some identity
  else none

/-- `runtime.rs:753`. -/
def activeGameProcess (game : GameWindow) (processes : ProcessMap) :
    Option (ProcessInstance × Option ProcessTiming) := do
  let pid ← game.pid
  let process ← processes[pid]?
  some (⟨pid, process.startTicks⟩, process.timing)

/-- `runtime.rs:845`. A changed process
starts from its own timing; the same process never falls below its floor. -/
def reconcileProcessTiming (previousInstance : Option ProcessInstance)
    (previousFloor : Option ProcessTiming) (currentInstance : ProcessInstance)
    (currentTiming : Option ProcessTiming) (observedAt : Instant) :
    Option ProcessTiming × Option ProcessTiming :=
  if previousInstance ≠ some currentInstance then (currentTiming, currentTiming)
  else match currentTiming with
    | none => (none, previousFloor)
    | some current =>
      let current := match previousFloor with
        | some previous =>
          let floor := previous.elapsedAt observedAt
          if current.elapsedAt observedAt < floor then ⟨floor, observedAt⟩ else current
        | none => current
      (some current, some current)

/-- `runtime.rs:871`. -/
def snapshotWithRuntime (snapshot : CoreSnapshot) (timing : Option ProcessTiming)
    (telemetry : Option GameTelemetry) (manualStopwatch : ManualStopwatchSnapshot)
    (now : Instant) : CoreSnapshot :=
  { snapshot with
    sessionElapsedMs := snapshot.activeGame.bind fun _ =>
      timing.map fun timing => millisU64 (timing.elapsedAt now)
    telemetry := snapshot.activeGame.bind fun _ => telemetry
    manualStopwatch }

/-- `runtime.rs:886`. -/
def activeGameIsCurrent (game : GameWindow) (acceptedIdentity : Option ProcessIdentity)
    (acceptedProcess : Option ProcessInstance) (processes : ProcessMap)
    (allowlist : GameAllowlist) : Bool :=
  ((matchingProcessIdentity game processes allowlist).any fun identity =>
    some identity == acceptedIdentity) &&
  ((activeGameProcess game processes).any fun current => some current.1 == acceptedProcess)

/-- `runtime.rs:906`. The elapsed
session time, and the elapsed stopwatch time while it runs, are not changes. -/
def snapshotStateChanged (current next : CoreSnapshot) : Bool :=
  current.activeGame != next.activeGame || current.overlayMode != next.overlayMode ||
    current.telemetry != next.telemetry ||
    current.manualStopwatch.running != next.manualStopwatch.running ||
    (!next.manualStopwatch.running &&
      current.manualStopwatch.elapsedMs != next.manualStopwatch.elapsedMs)

namespace RuntimeMetadata

/-- The block that clears the active game's metadata, repeated by every operation that
drops a game, for example `runtime.rs:326-333`. -/
def clearActive (metadata : RuntimeMetadata) : RuntimeMetadata :=
  { metadata with
    bridgeLastReport := none
    activeIdentity := none
    activeProcess := none
    activeTiming := none
    timingFloor := none
    telemetry := none
    telemetrySampler := {}
    manualStopwatch := metadata.manualStopwatch.reset }

/-- `runtime.rs:793`. -/
def resetTelemetryForChangedGroup (metadata : RuntimeMetadata) (allowed : AllowedProcess) :
    RuntimeMetadata :=
  if metadata.activeProcess ≠ some allowed.inst ∨
      metadata.activeIdentity.bind ProcessIdentity.steamAppId ≠ allowed.identity.steamAppId then
    { metadata with telemetry := none, telemetrySampler := {} }
  else metadata

/-- `runtime.rs:806`. -/
def resetStopwatchForChangedProcess (metadata : RuntimeMetadata)
    (currentInstance : ProcessInstance) : RuntimeMetadata :=
  if metadata.activeProcess ≠ some currentInstance then
    { metadata with manualStopwatch := metadata.manualStopwatch.reset }
  else metadata

/-- The metadata of an accepted observation, `runtime.rs:308-323`
and `:369-384`; the two window sources differ in the lease they leave. -/
def observe (metadata : RuntimeMetadata) (allowed : AllowedProcess) (lease : Option Instant)
    (observedAt : Instant) : RuntimeMetadata :=
  let metadata := metadata.resetTelemetryForChangedGroup allowed
  let metadata := metadata.resetStopwatchForChangedProcess allowed.inst
  let timing := reconcileProcessTiming metadata.activeProcess metadata.timingFloor
    allowed.inst allowed.timing observedAt
  { metadata with
    activeTiming := timing.1
    timingFloor := timing.2
    bridgeLastReport := lease
    activeIdentity := some allowed.identity
    activeProcess := some allowed.inst }

/-- `runtime.rs:768`. -/
def refreshActiveProcess (metadata : RuntimeMetadata) (game : Option GameWindow)
    (processes : ProcessMap) (observedAt : Instant) : RuntimeMetadata :=
  match game.bind fun game => activeGameProcess game processes with
  | none =>
    { metadata with
      activeProcess := none
      activeTiming := none
      timingFloor := none
      manualStopwatch := metadata.manualStopwatch.reset }
  | some (inst, timing) =>
    let metadata := metadata.resetStopwatchForChangedProcess inst
    let timing := reconcileProcessTiming metadata.activeProcess metadata.timingFloor
      inst timing observedAt
    { metadata with
      activeTiming := timing.1
      timingFloor := timing.2
      activeProcess := some inst }

/-- `runtime.rs:815`. -/
def refreshTelemetry (metadata : RuntimeMetadata) (game : Option GameWindow)
    (processes : ProcessMap) (temperatures : TemperatureSnapshot) (ticksPerSecond : Nat)
    (observedAt : Instant) : RuntimeMetadata :=
  match game with
  | none => { metadata with telemetry := none, telemetrySampler := {} }
  | some game =>
    let sampled := match game.pid.bind fun pid =>
        collectProcessSample pid game.steamAppId processes observedAt with
      | some sample => metadata.telemetrySampler.observe sample ticksPerSecond
      | none => ({}, {})
    { metadata with
      telemetrySampler := sampled.1
      telemetry := some
        { sampled.2 with
          cpuTemperatureMillicelsius := temperatures.cpuMillicelsius
          gpuTemperatureMillicelsius := temperatures.gpuMillicelsius } }

end RuntimeMetadata

/-- `CoreRuntime::publish_snapshot`, `runtime.rs:627`, on the value
of the watch channel: a changed snapshot takes the next revision. -/
def publishVersioned (published : VersionedCoreSnapshot) (snapshot : CoreSnapshot) :
    VersionedCoreSnapshot :=
  if snapshotStateChanged published.snapshot snapshot then
    ⟨saturatingAdd u64Max published.revision 1, snapshot⟩
  else published

/-- A publication keeps the value, or replaces it under the next revision. -/
theorem publishVersioned_cases (published : VersionedCoreSnapshot) (snapshot : CoreSnapshot) :
    publishVersioned published snapshot = published ∨
      publishVersioned published snapshot =
        ⟨saturatingAdd u64Max published.revision 1, snapshot⟩ := by
  unfold publishVersioned
  split
  · exact .inr rfl
  · exact .inl rfl

/-! ### Operations -/

namespace CoreRuntime

/-- `runtime.rs:101`. -/
def withSettingsAndWidgetProfile (state : CoreState) (processes : ProcessMap)
    (settings : LifecycleSettings) (widgetProfile : WidgetProfile) (now : Instant) :
    CoreRuntime :=
  let settings := ((validateEnabledSettings settings).toOption).getD {}
  let widgetProfile := (widgetProfile.validate.toOption).getD {}
  let allowlist := GameAllowlist.fromSettings settings
  let activeIdentity := state.snapshot.activeGame.bind fun game =>
    matchingProcessIdentity game processes allowlist
  let activeProcessTiming := activeIdentity.bind fun _ =>
    state.snapshot.activeGame.bind fun game => activeGameProcess game processes
  let activeProcess := activeProcessTiming.map Prod.fst
  let activeTiming := activeProcessTiming.bind Prod.snd
  let state := if activeIdentity.isNone then state.clearGame else state
  { state, processes, settings, widgetProfile
    snapshotTx := ⟨0, snapshotWithRuntime state.snapshot activeTiming none {} now⟩
    selectedRunningTx := snapshotHasSelectedProcess allowlist processes
    shortcutSettingsTx := settings.shortcut
    widgetProfileTx := widgetProfile
    metadata := { activeIdentity, activeProcess, activeTiming, timingFloor := activeTiming } }

/-- `runtime.rs:218`. -/
def snapshotAt (r : CoreRuntime) (now : Instant) : CoreSnapshot :=
  snapshotWithRuntime r.state.snapshot r.metadata.activeTiming r.metadata.telemetry
    (r.metadata.manualStopwatch.snapshotAt now) now

/-- `runtime.rs:627`. -/
def publishSnapshot (r : CoreRuntime) (snapshot : CoreSnapshot) : CoreRuntime × CoreSnapshot :=
  ({ r with snapshotTx := publishVersioned r.snapshotTx snapshot }, snapshot)

/-- Publish the snapshot of the current state and metadata, as most operations end. -/
def publishAt (r : CoreRuntime) (now : Instant) : CoreRuntime × CoreSnapshot :=
  r.publishSnapshot (r.snapshotAt now)

/-- Drop the active game and its metadata, without publishing. -/
def dropGame (r : CoreRuntime) : CoreRuntime :=
  { r with state := r.state.clearGame, metadata := r.metadata.clearActive }

/-- `CoreRuntime::clear_game` with `clear_game_locked`,
`runtime.rs:342,595`. -/
def clearGame (r : CoreRuntime) : CoreRuntime × CoreSnapshot :=
  let r := r.dropGame
  r.publishSnapshot r.state.snapshot

/-- `runtime.rs:230`. -/
def toggleManualStopwatchAt (r : CoreRuntime) (now : Instant) : CoreRuntime × CoreSnapshot :=
  let r := if r.widgetProfile.manualStopwatch.enabled && r.state.snapshot.activeGame.isSome then
      { r with metadata :=
        { r.metadata with manualStopwatch := r.metadata.manualStopwatch.toggle now } }
    else r
  r.publishAt now

/-- `runtime.rs:248`. -/
def resetManualStopwatchAt (r : CoreRuntime) (now : Instant) : CoreRuntime × CoreSnapshot :=
  let r := if r.widgetProfile.manualStopwatch.enabled && r.state.snapshot.activeGame.isSome then
      { r with metadata :=
        { r.metadata with manualStopwatch := r.metadata.manualStopwatch.reset } }
    else r
  r.publishAt now

/-- `runtime.rs:266`. -/
def toggleOverlay (r : CoreRuntime) (now : Instant) : CoreRuntime × CoreSnapshot :=
  publishAt { r with state := r.state.toggleOverlay } now

/-- `runtime.rs:275`. -/
def setOverlayInteractive (r : CoreRuntime) (interactive : Bool) (now : Instant) :
    CoreRuntime × CoreSnapshot :=
  publishAt { r with state := r.state.setOverlayInteractive interactive } now

/-- `runtime.rs:609`. -/
def allowedProcess (r : CoreRuntime) (observation : WindowObservation) :
    Option AllowedProcess := do
  let pid ← observation.pid
  let allowlist := GameAllowlist.fromSettings r.settings
  let process ← r.processes[pid]?
  let identity := classifyProcessIdentity pid r.processes
  if allowlist.allowsIdentity identity then
    some { identity, inst := ⟨pid, process.startTicks⟩, timing := process.timing }
  else none

/-- The common end of the two window sources, `runtime.rs:304-340`
and `:364-402`: an authorised observation becomes the active game with the given lease, any
other one drops the game. -/
def applyObservation (r : CoreRuntime) (observation : WindowObservation)
    (lease : Option Instant) (observedAt : Instant) : CoreRuntime × CoreSnapshot :=
  let r := match r.allowedProcess observation with
    | some allowed =>
      { r with
        state := r.state.observeGame
          (observation.intoGame (classificationFromIdentity allowed.identity))
        metadata := r.metadata.observe allowed lease observedAt }
    | none => r.dropGame
  r.publishAt observedAt

/-- `runtime.rs:294`. -/
def applyBridgeObservationAt (r : CoreRuntime) (observation : WindowObservation)
    (reportedAt : Instant) : CoreRuntime × CoreSnapshot :=
  if observationHasValidGeometry observation then
    r.applyObservation observation (some reportedAt) reportedAt
  else r.clearGame

/-- `runtime.rs:347`. Focus on
the overlay itself changes nothing. -/
def applyX11Observation (r : CoreRuntime) (observation : Option WindowObservation)
    (observedAt : Instant) : CoreRuntime × CoreSnapshot :=
  match observation with
  | none => r.clearGame
  | some observation =>
    if observation.appId = some overlayAppId then (r, r.snapshotAt observedAt)
    else if observationHasValidGeometry observation then
      r.applyObservation observation none observedAt
    else r.clearGame

/-- `runtime.rs:405`. -/
def expireBridgeLeaseAt (r : CoreRuntime) (now : Instant) : CoreRuntime × Bool :=
  match r.metadata.bridgeLastReport with
  | none => (r, false)
  | some reportedAt =>
    if durationSince now reportedAt < bridgeLeaseTimeout then (r, false)
    else (r.clearGame.1, true)

/-- Whether the active game, if any, still stands for the accepted process under the current
process map and settings, `runtime.rs:465,531`. -/
def gameIsValid (r : CoreRuntime) : Bool :=
  r.state.snapshot.activeGame.all fun game =>
    activeGameIsCurrent game r.metadata.activeIdentity r.metadata.activeProcess r.processes
      (GameAllowlist.fromSettings r.settings)

/-- `runtime.rs:443`. -/
def installRefreshSnapshotAt (r : CoreRuntime) (newProcesses : ProcessMap)
    (temperatures : TemperatureSnapshot) (ticksPerSecond : Nat) (observedAt : Instant) :
    CoreRuntime × CoreSnapshot :=
  let r := { r with
    processes := newProcesses
    selectedRunningTx :=
      snapshotHasSelectedProcess (GameAllowlist.fromSettings r.settings) newProcesses }
  let r := if r.gameIsValid then
      let metadata := r.metadata.refreshActiveProcess r.state.snapshot.activeGame r.processes
        observedAt
      { r with
        metadata := metadata.refreshTelemetry r.state.snapshot.activeGame r.processes
          temperatures ticksPerSecond observedAt }
    else r.dropGame
  r.publishAt observedAt

/-- `runtime.rs:510`. The refresh of
the active process and the published snapshot read the clock separately. -/
def reloadSettings (r : CoreRuntime) (settings : LifecycleSettings)
    (refreshedAt now : Instant) : CoreRuntime × Except RuntimeSettingsError CoreSnapshot :=
  match validateEnabledSettings settings with
  | .error error => (r, .error error)
  | .ok settings =>
    let r := { r with
      settings
      shortcutSettingsTx := settings.shortcut
      selectedRunningTx :=
        snapshotHasSelectedProcess (GameAllowlist.fromSettings settings) r.processes }
    let r := if r.gameIsValid then
        { r with
          metadata := r.metadata.refreshActiveProcess r.state.snapshot.activeGame r.processes
            refreshedAt }
      else r.dropGame
    let published := r.publishAt now
    (published.1, .ok published.2)

/-- `runtime.rs:569`. -/
def reloadWidgetProfile (r : CoreRuntime) (profile : WidgetProfile) (now : Instant) :
    CoreRuntime × Except WidgetProfileError CoreSnapshot :=
  match profile.validate with
  | .error error => (r, .error error)
  | .ok profile =>
    let r := { r with
      widgetProfile := profile
      -- The channel compares by floating-point equality and keeps an equal profile.
      widgetProfileTx := if r.widgetProfileTx == profile then r.widgetProfileTx else profile }
    let published := r.publishAt now
    (published.1, .ok published.2)

/-! ### Runs -/

/-- A call of one of the runtime's operations with its arguments and clock readings. -/
inductive Operation where
  | applyBridgeObservationAt (observation : WindowObservation) (reportedAt : Instant)
  | applyX11Observation (observation : Option WindowObservation) (observedAt : Instant)
  | clearGame
  | expireBridgeLeaseAt (now : Instant)
  | installRefreshSnapshotAt (processes : ProcessMap) (temperatures : TemperatureSnapshot)
      (ticksPerSecond : Nat) (observedAt : Instant)
  | reloadSettings (settings : LifecycleSettings) (refreshedAt now : Instant)
  | reloadWidgetProfile (profile : WidgetProfile) (now : Instant)
  | toggleOverlay (now : Instant)
  | setOverlayInteractive (interactive : Bool) (now : Instant)
  | toggleManualStopwatchAt (now : Instant)
  | resetManualStopwatchAt (now : Instant)

/-- The runtime after one operation. -/
def apply (r : CoreRuntime) : Operation → CoreRuntime
  | .applyBridgeObservationAt observation reportedAt =>
    (r.applyBridgeObservationAt observation reportedAt).1
  | .applyX11Observation observation observedAt => (r.applyX11Observation observation observedAt).1
  | .clearGame => r.clearGame.1
  | .expireBridgeLeaseAt now => (r.expireBridgeLeaseAt now).1
  | .installRefreshSnapshotAt processes temperatures ticksPerSecond observedAt =>
    (r.installRefreshSnapshotAt processes temperatures ticksPerSecond observedAt).1
  | .reloadSettings settings refreshedAt now => (r.reloadSettings settings refreshedAt now).1
  | .reloadWidgetProfile profile now => (r.reloadWidgetProfile profile now).1
  | .toggleOverlay now => (r.toggleOverlay now).1
  | .setOverlayInteractive interactive now => (r.setOverlayInteractive interactive now).1
  | .toggleManualStopwatchAt now => (r.toggleManualStopwatchAt now).1
  | .resetManualStopwatchAt now => (r.resetManualStopwatchAt now).1

/-- The runtime after a finite sequence of operations. -/
def applyAll (r : CoreRuntime) (ops : List Operation) : CoreRuntime := ops.foldl apply r

private theorem snapshotTx_publishAt {r s : CoreRuntime} (h : s.snapshotTx = r.snapshotTx)
    (now : Instant) :
    ∃ snapshot, (s.publishAt now).1.snapshotTx = publishVersioned r.snapshotTx snapshot :=
  ⟨s.snapshotAt now, by rw [← h]; rfl⟩

private theorem snapshotTx_applyObservation (r : CoreRuntime) (observation : WindowObservation)
    (lease : Option Instant) (observedAt : Instant) :
    ∃ snapshot, (r.applyObservation observation lease observedAt).1.snapshotTx =
      publishVersioned r.snapshotTx snapshot := by
  apply snapshotTx_publishAt
  split <;> rfl

/-- An operation leaves the published snapshot alone or publishes one snapshot over it. -/
theorem snapshotTx_apply (r : CoreRuntime) (op : Operation) :
    (r.apply op).snapshotTx = r.snapshotTx ∨
      ∃ snapshot, (r.apply op).snapshotTx = publishVersioned r.snapshotTx snapshot := by
  have hclear : ∃ snapshot, r.clearGame.1.snapshotTx = publishVersioned r.snapshotTx snapshot :=
    ⟨_, rfl⟩
  cases op with
  | applyBridgeObservationAt observation reportedAt =>
    simp only [apply, applyBridgeObservationAt]
    split
    · exact .inr (snapshotTx_applyObservation r observation _ _)
    · exact .inr hclear
  | applyX11Observation observation observedAt =>
    simp only [apply, applyX11Observation]
    split
    · exact .inr hclear
    · split
      · exact .inl rfl
      · split
        · exact .inr (snapshotTx_applyObservation r _ _ _)
        · exact .inr hclear
  | clearGame => exact .inr hclear
  | expireBridgeLeaseAt now =>
    simp only [apply, expireBridgeLeaseAt]
    split
    · exact .inl rfl
    · split
      · exact .inl rfl
      · exact .inr hclear
  | installRefreshSnapshotAt processes temperatures ticksPerSecond observedAt =>
    refine .inr (snapshotTx_publishAt ?_ observedAt)
    split <;> rfl
  | reloadSettings settings refreshedAt now =>
    simp only [apply, reloadSettings]
    split
    · exact .inl rfl
    · refine .inr (snapshotTx_publishAt ?_ now)
      split <;> rfl
  | reloadWidgetProfile profile now =>
    simp only [apply, reloadWidgetProfile]
    split
    · exact .inl rfl
    · exact .inr (snapshotTx_publishAt rfl now)
  | toggleOverlay now | setOverlayInteractive _ now => exact .inr (snapshotTx_publishAt rfl now)
  | toggleManualStopwatchAt now | resetManualStopwatchAt now =>
    refine .inr (snapshotTx_publishAt ?_ now)
    split <;> rfl

end CoreRuntime

end OverCrow.Core
