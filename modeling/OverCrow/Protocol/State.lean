import OverCrow.Base.Float

/-!
# Shared Core state

`crates/overcrow-protocol/src/state.rs`. The snapshot that Core publishes and the
state it is read from. Equality of snapshots is the derived `PartialEq`: it compares
the scale as a floating-point number, so a snapshot with a NaN scale differs from itself.
-/

namespace OverCrow.Protocol
open OverCrow.Base

/-- `state.rs:4`. -/
structure Rect where
  x : Int
  y : Int
  width : Nat
  height : Nat
  deriving DecidableEq, Inhabited

/-- `state.rs:12`. -/
structure GameWindow where
  pid : Option UInt32
  steamAppId : Option UInt32
  appId : Option String
  title : String
  rect : Rect
  scale : F64
  backend : String
  deriving BEq, DecidableEq, Inhabited

/-- `state.rs:23`. -/
inductive OverlayMode where
  | passive
  | interactive
  deriving DecidableEq, Inhabited

/-- `state.rs:31`. -/
structure GameTelemetry where
  cpuPercentHundredths : Option Nat := none
  residentBytes : Option Nat := none
  cpuTemperatureMillicelsius : Option Int := none
  gpuTemperatureMillicelsius : Option Int := none
  deriving DecidableEq, Inhabited

/-- `state.rs:40`. -/
structure ManualStopwatchSnapshot where
  elapsedMs : Nat := 0
  running : Bool := false
  deriving DecidableEq, Inhabited

/-- `state.rs:47`. -/
structure CoreSnapshot where
  activeGame : Option GameWindow := none
  overlayMode : OverlayMode := .passive
  sessionElapsedMs : Option Nat := none
  telemetry : Option GameTelemetry := none
  manualStopwatch : ManualStopwatchSnapshot := {}
  deriving BEq, DecidableEq, Inhabited

/-- `state.rs:59`. -/
structure VersionedCoreSnapshot where
  revision : Nat
  snapshot : CoreSnapshot
  deriving BEq, DecidableEq, Inhabited

/-- `state.rs:65`. -/
structure CoreState where
  snapshot : CoreSnapshot := {}
  deriving DecidableEq, Inhabited

namespace CoreState

/-- `state.rs:74`. -/
def observeGame (s : CoreState) (game : GameWindow) : CoreState :=
  { s with snapshot := { s.snapshot with activeGame := some game } }

/-- `state.rs:78`. -/
def clearGame (s : CoreState) : CoreState :=
  { s with snapshot :=
    { s.snapshot with activeGame := none, overlayMode := .passive, sessionElapsedMs := none } }

/-- `state.rs:84`. -/
def toggleOverlay (s : CoreState) : CoreState :=
  if s.snapshot.activeGame.isNone then
    { s with snapshot := { s.snapshot with overlayMode := .passive } }
  else
    { s with snapshot := { s.snapshot with overlayMode := match s.snapshot.overlayMode with
      | .passive => .interactive
      | .interactive => .passive } }

/-- `state.rs:96`. -/
def setOverlayInteractive (s : CoreState) (interactive : Bool) : CoreState :=
  { s with snapshot := { s.snapshot with overlayMode :=
    if interactive && s.snapshot.activeGame.isSome then .interactive else .passive } }

section

variable (s : CoreState)

include s

@[simp] theorem activeGame_observeGame (game : GameWindow) :
    (s.observeGame game).snapshot.activeGame = some game := rfl

@[simp] theorem activeGame_clearGame : s.clearGame.snapshot.activeGame = none := rfl

@[simp] theorem overlayMode_clearGame : s.clearGame.snapshot.overlayMode = .passive := rfl

@[simp] theorem activeGame_toggleOverlay : s.toggleOverlay.snapshot.activeGame = s.snapshot.activeGame := by
  unfold toggleOverlay
  split <;> rfl

@[simp] theorem activeGame_setOverlayInteractive (interactive : Bool) :
    (s.setOverlayInteractive interactive).snapshot.activeGame = s.snapshot.activeGame := rfl

/-- Toggling cannot leave the passive mode without a game. -/
theorem overlayMode_toggleOverlay_of_none (h : s.snapshot.activeGame = none) :
    s.toggleOverlay.snapshot.overlayMode = .passive := by
  simp [toggleOverlay, h]

/-- Requesting interaction cannot leave the passive mode without a game. -/
theorem overlayMode_setOverlayInteractive_of_none (interactive : Bool) (h : s.snapshot.activeGame = none) :
    (s.setOverlayInteractive interactive).snapshot.overlayMode = .passive := by
  simp [setOverlayInteractive, h]

end

end CoreState

end OverCrow.Protocol
