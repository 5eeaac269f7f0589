import Mathlib.Data.List.DropRight
import OverCrow.Base.Run
import OverCrow.Gnome.Accelerator
import OverCrow.Protocol.State

/-!
# The bridge of the GNOME extension

`GnomeBridgeRuntime` of `integrations/gnome/extension.js`. A callback finds the windows and the focus
of the compositor as they are then; calls to Core are answered in any later order. Signals that a
call makes the compositor emit are callbacks of their own: where the extension goes on after such a
call, the rest of the callback is a step of its own. What was raised, sent and read is recorded for
the present owner of Core.
-/

namespace OverCrow.Gnome
open OverCrow.Base OverCrow.Protocol Option

/-! ### Windows -/

/-- A window of the compositor. -/
abbrev Window := Nat

structure Rect where
  x : Int
  y : Int
  width : Int
  height : Int
  deriving DecidableEq

/-- What the methods of a window return; `none` where a method fails or has nothing. -/
structure WindowState where
  minimized : Bool := false
  hidden : Bool := false
  overrideRedirect : Bool := false
  pid : Option Int
  sandboxedAppId : Option String := none
  gtkApplicationId : Option String := none
  wmClass : Option String
  frameRect : Option Rect
  monitor : Option Int
  /-- `get_monitor_scale` of its monitor as text, if it is a finite number above zero. -/
  scale : Option String
  /-- The title as `boundedTitle` cuts it. -/
  title : String := ""
  deriving DecidableEq

/-- `INT32_MIN` and `INT32_MAX`, `extension.js:23`. -/
def int32Min : Int := -2147483648

def int32Max : Int := 2147483647

/-- `extension.js:21`. -/
def maxAppIdCodeUnits : Nat := 256

/-- White space as `String.prototype.trim` removes it. -/
def isTrimmed (c : Char) : Bool :=
  let n := c.toNat
  (9 ≤ n && n ≤ 13) || n = 0x20 || n = 0xA0 || n = 0x1680 || (0x2000 ≤ n && n ≤ 0x200A) ||
    n = 0x2028 || n = 0x2029 || n = 0x202F || n = 0x205F || n = 0x3000 || n = 0xFEFF

/-- `extension.js:40`. -/
def boundedIdentity (value : String) : Option String :=
  let trimmed := (value.toList.dropWhile isTrimmed).rdropWhile isTrimmed
  if codeUnits trimmed = 0 || maxAppIdCodeUnits < codeUnits trimmed ||
      trimmed.contains (Char.ofNat 0) then none
  else some (String.ofList trimmed)

/-- `extension.js:60`. -/
def finiteInteger (minimum maximum : Int) (value : Int) : Option Int :=
  if minimum ≤ value && value ≤ maximum then some value else none

/-- `extension.js:77`. -/
def windowIdentity (window : WindowState) : Option String :=
  [window.sandboxedAppId, window.gtkApplicationId, window.wmClass].findSome? (·.bind boundedIdentity)

/-- `extension.js:11`. -/
def overlayAppId : String := "io.github.overcrow.Overlay"

/-- What `_normalizedWindow` returns. -/
structure Report where
  pid : Int
  title : String
  appId : String
  rect : Rect
  scale : String
  deriving DecidableEq

/-- The numbers of a rectangle that `_normalizedWindow` and `_snapshotRect` accept. -/
def boundedRect (rect : Rect) : Option Rect := do
  let x ← finiteInteger int32Min int32Max rect.x
  let y ← finiteInteger int32Min int32Max rect.y
  let width ← finiteInteger 1 int32Max rect.width
  let height ← finiteInteger 1 int32Max rect.height
  some ⟨x, y, width, height⟩

/-- What a callback finds. -/
structure Desktop where
  focus : Option Window := none
  window : Window → WindowState
  /-- `list_all_windows`. -/
  windows : List Window := []
  /-- The action of an accelerator that can be grabbed and allowed. -/
  grab : String → Option Nat := fun _ => none

namespace Desktop

variable (e : Desktop)

/-- `extension.js:94`. -/
def isOverlayWindow (window : Window) : Bool := windowIdentity (e.window window) = some overlayAppId

/-- `extension.js:457`. -/
def normalizedWindow (window : Window) : Option Report :=
  let state := e.window window
  if e.isOverlayWindow window || state.minimized || state.hidden || state.overrideRedirect then none
  else do
    let pid ← state.pid.bind (finiteInteger 1 int32Max)
    let identity ← windowIdentity state
    let rect ← state.frameRect
    let _ ← state.monitor.bind (finiteInteger 0 int32Max)
    let rect ← boundedRect rect
    let scale ← state.scale
    some ⟨pid, state.title, identity, rect, scale⟩

end Desktop

/-! ### Calls -/

/-- What a window request is for. -/
inductive Intent where
  | report (window : Window) (retries : Nat)
  | clear
  deriving DecidableEq

/-- A request of `_queueWindowRequest`. -/
structure WindowRequest where
  intent : Intent
  serial : Nat
  deriving DecidableEq

/-- What `_requestSnapshot` is followed by. -/
inductive Continuation where
  | nothing
  /-- `_handleFocusWindow` with the focus then, `extension.js:262`. -/
  | handleFocus
  /-- The end of a window request, `extension.js:578-588`. -/
  | finish (request : WindowRequest) (canRetry : Bool)
  deriving DecidableEq

/-- The states of `_reportShortcutAvailability`. -/
inductive Availability where
  | disabled
  | available
  | conflict
  deriving DecidableEq

/-- A call to Core. -/
inductive CallKind where
  /-- `ReportWindow` or `ClearWindow`. -/
  | window (request : WindowRequest) (canRetry : Bool)
  /-- `SnapshotVersioned`. -/
  | snapshot (intentSerial : Nat) (next : Continuation)
  /-- `GnomeShortcutDefinitions`. -/
  | definitions (serial : Nat)
  /-- `ReportGnomeShortcutAvailability`. -/
  | availability (state : Availability)
  /-- The method of an accelerator. -/
  | accelerator
  deriving DecidableEq

/-- A call that was not answered, with the generation that it belongs to. -/
structure Call where
  generation : Nat
  kind : CallKind
  deriving DecidableEq

/-- The active game of a snapshot. -/
inductive ActiveGame where
  | null
  /-- Not what `_applySnapshotJson` accepts. -/
  | invalid
  | game (pid : Int) (appId : String) (rect : Rect)
  deriving DecidableEq

/-- What `_applySnapshotJson` finds in a text. -/
inductive SnapshotText where
  /-- No text, too long, no JSON or no envelope. -/
  | malformed
  | envelope (revision : Nat) (mode : Option OverlayMode) (active : ActiveGame)
  deriving DecidableEq

/-- A definition of `parseShortcutDefinitions`. -/
structure ShortcutDefinition where
  id : String
  accelerator : String
  deriving DecidableEq

/-- An answer. A reply without a text is a failure. -/
inductive Answer where
  | failed
  /-- The text of a window call or of an accelerator's method is not read. -/
  | text
  | snapshot (text : SnapshotText)
  /-- What `parseShortcutDefinitions` returns. -/
  | definitions (parsed : Option (List ShortcutDefinition))
  deriving DecidableEq

/-! ### The bridge -/

/-- `GnomeBridgeRuntime`, `extension.js:162`. -/
structure Bridge where
  started : Bool := true
  /-- `_coreOwner` is not null. -/
  attached : Bool := false
  generation : Nat := 0
  /-- The keys of `_windowSignals`. -/
  windowSignals : List Window := []
  focusGrace : Bool := false
  /-- The request that the retry timer is for. -/
  candidateRetry : Option (Window × Nat) := none
  overlayWindow : Option Window := none
  candidateWindow : Option Window := none
  gameWindow : Option Window := none
  mode : OverlayMode := .passive
  lastSnapshotRevision : Option Nat := none
  /-- The report itself stands for its JSON text. -/
  lastReportSignature : Option Report := none
  clearAuthorityFence : Bool := false
  windowRequestInFlight : Bool := false
  pendingWindowRequest : Option WindowRequest := none
  windowIntentSerial : Nat := 0
  actionToShortcut : List (Nat × String) := []
  shortcutSignature : Option (List ShortcutDefinition) := none
  shortcutRequestSerial : Nat := 0
  reportedAvailability : Option Availability := none
  calls : List Call := []
  /-- What is left of the callback of a snapshot. -/
  rest : Option Continuation := none
  /-- The intents that were raised for the present owner. -/
  raised : List WindowRequest := []
  /-- The requests that were sent, each with the report or as `ClearWindow`. -/
  sent : List (WindowRequest × Option Report) := []
  /-- The snapshots applied that belong to an intent, each with the last intent raised then. -/
  reads : List (WindowRequest × Option WindowRequest) := []
  deriving DecidableEq

/-- `extension.js:15`. -/
def maxCandidateRetries : Nat := 6

namespace Bridge

variable (e : Desktop) (s : Bridge)

/-- `extension.js:1025`. -/
def callCore (kind : CallKind) : Bridge :=
  if s.attached then { s with calls := s.calls ++ [⟨s.generation, kind⟩] } else s

/-- `extension.js:961`. -/
def requestSnapshot (next : Continuation) (intentSerial : Nat) : Bridge :=
  s.callCore (.snapshot intentSerial next)

/-- `extension.js:979`. -/
def reportShortcutAvailability (state : Availability) : Bridge :=
  if !s.attached || s.reportedAvailability = some state then s
  else { s with reportedAvailability := some state }.callCore (.availability state)

/-- `extension.js:928`. -/
def releaseShortcuts : Bridge := { s with actionToShortcut := [], shortcutSignature := none }

/-- `extension.js:747`. -/
def applyPassiveState : Bridge :=
  { s with mode := .passive, candidateWindow := none, gameWindow := none
    }.releaseShortcuts.reportShortcutAvailability .disabled

/-- `extension.js:1095`. -/
def cancelCandidateRetry : Bridge := { s with candidateRetry := none }

/-- `extension.js:551`. -/
def dispatchWindowRequest (request : WindowRequest) : Bridge :=
  let s := { s with windowRequestInFlight := true }
  match request.intent with
  | .report window _ =>
    let report := e.normalizedWindow window
    { s with lastReportSignature := report, sent := s.sent ++ [(request, report)]
      }.callCore (.window request report.isSome)
  | .clear => { s with sent := s.sent ++ [(request, none)] }.callCore (.window request false)

/-- `extension.js:543`. -/
def queueWindowRequest (request : WindowRequest) : Bridge :=
  if s.windowRequestInFlight then { s with pendingWindowRequest := some request }
  else s.dispatchWindowRequest e request

/-- The next intent. -/
def raiseIntent (intent : Intent) : Bridge :=
  let request := ⟨intent, s.windowIntentSerial + 1⟩
  { s with windowIntentSerial := s.windowIntentSerial + 1, raised := s.raised ++ [request]
    }.queueWindowRequest e request

/-- `extension.js:532`. -/
def requestClear : Bridge :=
  ({ s.cancelCandidateRetry with lastReportSignature := none, clearAuthorityFence := true
    }.applyPassiveState).raiseIntent e .clear

/-- `extension.js:508`. -/
def requestReport (window : Window) (force : Bool) (retries : Nat) : Bridge :=
  match e.normalizedWindow window with
  | none =>
    if some window = s.gameWindow || some window = s.candidateWindow then s.requestClear e else s
  | some report =>
    if !force && s.lastReportSignature = some report then s
    else { s with clearAuthorityFence := false }.raiseIntent e (.report window retries)

/-- `extension.js:601`. -/
def finishWindowRequest : Bridge :=
  let s' := { s with windowRequestInFlight := false, pendingWindowRequest := none }
  match s.pendingWindowRequest with
  | none => s'
  | some pending => s'.dispatchWindowRequest e pending

/-- `extension.js:609`. -/
def scheduleCandidateRetry (request : WindowRequest) : Bridge :=
  let s := s.cancelCandidateRetry
  match request.intent with
  | .clear => s
  | .report window retries =>
    if retries = 0 || !s.attached || (e.normalizedWindow window).isNone then s
    else { s with candidateWindow := some window, candidateRetry := some (window, retries) }

/-- The reported window has become the game, `extension.js:581-584`. -/
def accepted (request : WindowRequest) : Bool :=
  match request.intent with
  | .report window _ => request.serial = s.windowIntentSerial && s.gameWindow = some window
  | .clear => false

/-- What follows the snapshot of a window request, `extension.js:578-588`. -/
def finishRequest (request : WindowRequest) (canRetry : Bool) : Bridge :=
  let current := request.serial = s.windowIntentSerial
  let accepted := s.accepted request
  let s := s.finishWindowRequest e
  if current && canRetry && !accepted then s.scheduleCandidateRetry e request else s

/-- The failure of a window request, `extension.js:591-598`. -/
def failRequest (request : WindowRequest) (canRetry : Bool) : Bridge :=
  let current := request.serial = s.windowIntentSerial
  let s := if current then s.applyPassiveState else s
  let s := s.finishWindowRequest e
  if current && canRetry then s.scheduleCandidateRetry e request else s

/-- `extension.js:768`. -/
def findGameWindow (pid : Int) (appId : String) (activeRect : Rect) : Option Window :=
  let candidates := s.windowSignals.filterMap fun window =>
    (e.normalizedWindow window).bind fun normalized =>
      if normalized.pid = pid ∧ normalized.appId = appId then some (window, normalized) else none
  match candidates.find? fun candidate => some candidate.1 = e.focus with
  | some focused => some focused.1
  | none =>
    match candidates.filter fun candidate => candidate.2.rect = activeRect with
    | [exact_] => some exact_.1
    | _ =>
      match candidates with
      | [candidate] => some candidate.1
      | _ => none

/-- `extension.js:792`: what it does to the overlay is left to
the compositor. -/
def placeOverlay : Bridge :=
  match s.overlayWindow, s.gameWindow with
  | some _, some game => if (e.normalizedWindow game).isNone then s.requestClear e else s
  | _, _ => s

/-- `extension.js:855`. -/
def refreshShortcuts : Bridge :=
  { s with shortcutRequestSerial := s.shortcutRequestSerial + 1
    }.callCore (.definitions (s.shortcutRequestSerial + 1))

/-- The loop of `_applyShortcuts`, `extension.js:896-923`; none if an accelerator
could not be grabbed. -/
def grabAll : List ShortcutDefinition → List (Nat × String) → Option (List (Nat × String))
  | [], grabbed => some grabbed
  | definition :: definitions, grabbed =>
    match e.grab definition.accelerator with
    | none => none
    | some action =>
      grabAll definitions (grabbed.filter (·.1 ≠ action) ++ [(action, definition.id)])

/-- `extension.js:881`. -/
def applyShortcuts (definitions : List ShortcutDefinition) : Bridge :=
  if s.shortcutSignature = some definitions then
    s.reportShortcutAvailability (if definitions.isEmpty then .disabled else .available)
  else
    let s := s.releaseShortcuts
    if definitions.isEmpty then
      { s with shortcutSignature := some definitions }.reportShortcutAvailability .disabled
    else
      match grabAll e definitions [] with
      | none => s.releaseShortcuts.reportShortcutAvailability .conflict
      | some grabbed =>
        { s with actionToShortcut := grabbed, shortcutSignature := some definitions
          }.reportShortcutAvailability .available

/-- The callbacks of `_refreshShortcuts`, `extension.js:861-877`. -/
def receiveDefinitions (serial : Nat) (parsed : Option (List ShortcutDefinition)) : Bridge :=
  if serial ≠ s.shortcutRequestSerial then s
  else
    match parsed with
    | none => s.releaseShortcuts.reportShortcutAvailability .conflict
    | some definitions => s.applyShortcuts e definitions

/-- The game that a snapshot names is shown, `extension.js:694-725`. What is
activated is left to the compositor. -/
def showGame (game : Window) : Bridge :=
  if e.focus.isSome && e.focus ≠ s.overlayWindow && e.focus ≠ some game then
    match e.focus with
    | none => s
    | some focus =>
      { s with candidateWindow := some focus }.cancelCandidateRetry.requestReport e focus true
        maxCandidateRetries
  else
    { s.cancelCandidateRetry with gameWindow := some game, candidateWindow := some game
      }.placeOverlay e |>.refreshShortcuts

/-- `extension.js:640`. -/
def applySnapshotJson : SnapshotText → Bridge
  | .malformed => s.applyPassiveState
  | .envelope revision mode active =>
    if s.lastSnapshotRevision.any (revision < ·) then s
    else
      let s := { s with lastSnapshotRevision := some revision }
      match mode with
      | none => s.applyPassiveState
      | some mode =>
        let s := { s with mode := mode }
        if s.clearAuthorityFence && active ≠ .null then s.applyPassiveState
        else
          match active with
          | .null => s.applyPassiveState
          | .invalid => s.applyPassiveState
          | .game pid appId rect =>
            match finiteInteger 1 int32Max pid, boundedIdentity appId, boundedRect rect with
            | some pid, some appId, some rect =>
              match s.findGameWindow e pid appId rect with
              | none => s.requestClear e
              | some game => s.showGame e game
            | _, _, _ => s.applyPassiveState

/-- `extension.js:429`. -/
def handleFocusWindow : Option Window → Bridge
  | none => s
  | some window =>
    if !s.attached then s
    else if e.isOverlayWindow window then
      let s := { s with overlayWindow := some window }.placeOverlay e
      match s.gameWindow with
      | none => s
      | some game => if s.mode = .passive then s else s.requestReport e game true 0
    else
      let s := s.cancelCandidateRetry
      if s.mode = .interactive && some window = s.gameWindow && s.overlayWindow.isSome then s
      else
        let s := if s.gameWindow.isSome && some window ≠ s.gameWindow then s.applyPassiveState else s
        { s with candidateWindow := some window }.requestReport e window true maxCandidateRetries

/-- `extension.js:406`. -/
def onFocusChanged : Bridge :=
  let s := { s with focusGrace := false }
  match e.focus with
  | none => { s with focusGrace := true }
  | some window => s.handleFocusWindow e (some window)

/-- `extension.js:337`. -/
def attachWindow (window : Window) : Bridge :=
  if s.windowSignals.contains window then s
  else { s with windowSignals := s.windowSignals ++ [window] }

/-- `extension.js:362`. -/
def onWindowIdentityChanged (window : Window) : Bridge :=
  if e.isOverlayWindow window then { s with overlayWindow := some window }.placeOverlay e
  else if some window ≠ e.focus then s
  else
    { s.cancelCandidateRetry with candidateWindow := some window
      }.requestReport e window true maxCandidateRetries

/-- `extension.js:374`. -/
def onWindowChanged (window : Window) : Bridge :=
  if some window = s.overlayWindow then s.placeOverlay e
  else if some window = s.gameWindow || some window = s.candidateWindow then
    (s.requestReport e window false 0).placeOverlay e
  else s

/-- `extension.js:389`. -/
def onWindowUnmanaged (window : Window) : Bridge :=
  let s := { s with windowSignals := s.windowSignals.filter (· ≠ window) }
  if some window = s.overlayWindow then { s with overlayWindow := none }
  else if some window = s.candidateWindow || some window = s.gameWindow then
    { s with candidateWindow := none, gameWindow := none }.requestClear e
  else s

/-- `extension.js:272`. -/
def detachCore : Bridge :=
  { s.releaseShortcuts with
    attached := false
    generation := s.generation + 1
    windowSignals := []
    focusGrace := false
    candidateRetry := none
    overlayWindow := none
    candidateWindow := none
    gameWindow := none
    mode := .passive
    lastSnapshotRevision := none
    lastReportSignature := none
    clearAuthorityFence := false
    windowRequestInFlight := false
    pendingWindowRequest := none
    windowIntentSerial := s.windowIntentSerial + 1
    shortcutRequestSerial := s.shortcutRequestSerial + 1
    reportedAvailability := none }

/-- `extension.js:310`. -/
def attachCompositor : Bridge :=
  e.windows.foldl (fun s window =>
    let s := s.attachWindow window
    if e.isOverlayWindow window then { s with overlayWindow := some window } else s) s

/-- `extension.js:228`; the records start anew. -/
def onCoreAppeared : Bridge :=
  if !s.started then s
  else
    let s := s.detachCore
    let s := { s with attached := true, generation := s.generation + 1,
                      raised := [], sent := [], reads := [] }
    let s := s.attachCompositor e
    s.requestSnapshot .handleFocus s.windowIntentSerial

/-- `extension.js:267`. -/
def onCoreVanished : Bridge := if s.attached then s.detachCore else s

/-- `extension.js:213`. The calls that it makes last are not answered. -/
def stop : Bridge := if s.started then { s.detachCore with started := false } else s

/-! ### Steps -/

/-- Run what follows a snapshot. -/
def continue_ : Continuation → Bridge
  | .nothing => s
  | .handleFocus => s.handleFocusWindow e e.focus
  | .finish request canRetry => s.finishRequest e request canRetry

/-- The callback of a snapshot up to its continuation, `extension.js:970-973`. -/
def receiveSnapshot (intentSerial : Nat) (next : Continuation) (text : SnapshotText) : Bridge :=
  let s' :=
    if intentSerial = s.windowIntentSerial then
      let reads := match next with
        | .finish request _ => [(request, s.raised.getLast?)]
        | _ => []
      { s with reads := s.reads ++ reads }.applySnapshotJson e text
    else s
  { s' with rest := some next }

/-- The callbacks of a call; a kind of answer that the call cannot have is a failure. -/
def receive : CallKind → Answer → Bridge
  | .window request canRetry, .failed => s.failRequest e request canRetry
  | .window request canRetry, _ => s.requestSnapshot (.finish request canRetry) request.serial
  | .snapshot intentSerial next, .snapshot text => s.receiveSnapshot e intentSerial next text
  | .snapshot _ (.finish request canRetry), _ => s.failRequest e request canRetry
  | .snapshot _ _, _ => s
  | .definitions serial, .definitions parsed => s.receiveDefinitions e serial parsed
  | .definitions serial, _ => s.receiveDefinitions e serial none
  | .availability state, .failed =>
    if s.reportedAvailability = some state then { s with reportedAvailability := none } else s
  | .availability _, _ => s
  | .accelerator, .failed => s
  | .accelerator, _ => s.requestSnapshot .nothing s.windowIntentSerial

/-- An answer to one of the calls; those of another generation are not read,
`extension.js:1050-1056`. -/
def answer (index : Nat) (answer : Answer) : Option Bridge :=
  s.calls[index]?.map fun call =>
    let s := { s with calls := s.calls.eraseIdx index }
    if call.generation ≠ s.generation || !s.attached then s else s.receive e call.kind answer

/-- The retry timer, `extension.js:622-637`. -/
def retryCandidate (window : Window) (retries : Nat) : Bridge :=
  let s := s.cancelCandidateRetry
  if e.focus ≠ some window && e.focus ≠ s.overlayWindow then s
  else { s with candidateWindow := some window }.requestReport e window true (retries - 1)

/-- The keepalive timer, `extension.js:251-260`. -/
def keepalive : Bridge :=
  match s.gameWindow with
  | none => s
  | some game =>
    if e.focus = some game || e.focus = s.overlayWindow then s.requestReport e game true 0 else s

/-- The timer of the focus, `extension.js:414-421`. -/
def settleFocus : Bridge :=
  let s := { s with focusGrace := false }
  match e.focus with
  | none => s.requestClear e
  | some settled => s.handleFocusWindow e (some settled)

/-- `extension.js:952`. -/
def onAccelerator (action : Nat) : Bridge :=
  if s.actionToShortcut.any (·.1 = action) then s.callCore .accelerator else s

/-- A signal of the compositor. -/
inductive Signal where
  | windowCreated (window : Window)
  | identityChanged (window : Window)
  | windowChanged (window : Window)
  | unmanaged (window : Window)
  | restacked
  | focusChanged
  | acceleratorActivated (action : Nat)
  deriving DecidableEq

/-- The handlers that `_attachCompositor` and `_attachWindow` connect. -/
def signal : Signal → Bridge
  | .windowCreated window => (s.attachWindow window).onWindowIdentityChanged e window
  | .identityChanged window => s.onWindowIdentityChanged e window
  | .windowChanged window => s.onWindowChanged e window
  | .unmanaged window => s.onWindowUnmanaged e window
  | .restacked => s.placeOverlay e
  | .focusChanged => s.onFocusChanged e
  | .acceleratorActivated action => s.onAccelerator action

inductive Event where
  | coreAppeared
  | coreVanished
  | stop
  | signal (signal : Signal)
  | snapshotChanged (text : SnapshotText)
  | settleFocus
  | retryCandidate
  | keepalive
  | answer (index : Nat) (answer : Answer)
  /-- The rest of a callback. -/
  | rest
  deriving DecidableEq

/-- A callback with what it finds. Signals alone come while a callback is not at its end. -/
def step (s : Bridge) (callback : Desktop × Event) : Option Bridge :=
  let e := callback.1
  match s.rest, callback.2 with
  | _, .signal signal => if s.attached then some (s.signal e signal) else none
  | some next, .rest => some ({ s with rest := none }.continue_ e next)
  | some _, _ => none
  | none, .coreAppeared => some (s.onCoreAppeared e)
  | none, .coreVanished => some s.onCoreVanished
  | none, .stop => some s.stop
  | none, .snapshotChanged text => if s.attached then some (s.applySnapshotJson e text) else none
  | none, .settleFocus => if s.attached && s.focusGrace then some (s.settleFocus e) else none
  | none, .retryCandidate =>
    match s.candidateRetry with
    | some (window, retries) => if s.attached then some (s.retryCandidate e window retries) else none
    | none => none
  | none, .keepalive => if s.attached then some (s.keepalive e) else none
  | none, .answer index answer => s.answer e index answer
  | none, .rest => none

/-- The extension as `start` leaves it, `extension.js:201`. -/
def start : Bridge := {}

/-! ### What the handlers change -/

section Changes

variable {e s}

theorem callCore_eq (kind : CallKind) : s.callCore kind =
    { s with calls := s.calls ++ if s.attached then [⟨s.generation, kind⟩] else [] } := by
  unfold callCore
  split
  · rfl
  · rw [List.append_nil]

/-- New calls that report the availability of shortcuts. -/
def Reporting (s : Bridge) (calls : List Call) : Prop :=
  ∀ call ∈ calls, call.generation = s.generation ∧ ∃ state, call.kind = .availability state

theorem reporting_nil : Reporting s [] := fun _ hmem => absurd hmem List.not_mem_nil

theorem reportShortcutAvailability_eq (s : Bridge) (state : Availability) :
    ∃ reported calls, Reporting s calls ∧ s.reportShortcutAvailability state =
      { s with reportedAvailability := reported, calls := s.calls ++ calls } := by
  unfold reportShortcutAvailability
  split
  · exact ⟨s.reportedAvailability, [], reporting_nil, by rw [List.append_nil]⟩
  · refine ⟨some state, _, ?_, callCore_eq _⟩
    split
    · exact fun call hcall => List.mem_singleton.mp hcall ▸ ⟨rfl, state, rfl⟩
    · exact reporting_nil

theorem applyPassiveState_eq (s : Bridge) :
    ∃ reported calls, Reporting s calls ∧ s.applyPassiveState =
      { s with
        mode := .passive, candidateWindow := none, gameWindow := none, actionToShortcut := []
        shortcutSignature := none, reportedAvailability := reported, calls := s.calls ++ calls } :=
  reportShortcutAvailability_eq
    { s with mode := .passive, candidateWindow := none, gameWindow := none }.releaseShortcuts .disabled

/-- A request is sent as a call of its own. -/
theorem dispatchWindowRequest_eq (e : Desktop) (s : Bridge) (request : WindowRequest) :
    ∃ signature report canRetry, s.dispatchWindowRequest e request =
      { s with
        windowRequestInFlight := true, lastReportSignature := signature
        sent := s.sent ++ [(request, report)]
        calls := s.calls ++ if s.attached then [⟨s.generation, .window request canRetry⟩] else [] } := by
  unfold dispatchWindowRequest
  cases hintent : request.intent with
  | report | clear => exact ⟨_, _, _, callCore_eq _⟩

/-- A request is sent at once, or it waits for the one that is outstanding. -/
theorem raiseIntent_cases (e : Desktop) (s : Bridge) (intent : Intent) :
    (s.windowRequestInFlight = true ∧ s.raiseIntent e intent =
      { s with
        windowIntentSerial := s.windowIntentSerial + 1
        raised := s.raised ++ [⟨intent, s.windowIntentSerial + 1⟩]
        pendingWindowRequest := some ⟨intent, s.windowIntentSerial + 1⟩ }) ∨
    s.windowRequestInFlight = false ∧ ∃ signature report canRetry, s.raiseIntent e intent =
      { s with
        windowIntentSerial := s.windowIntentSerial + 1
        raised := s.raised ++ [⟨intent, s.windowIntentSerial + 1⟩]
        windowRequestInFlight := true, lastReportSignature := signature
        sent := s.sent ++ [(⟨intent, s.windowIntentSerial + 1⟩, report)]
        calls := s.calls ++ if s.attached then
          [⟨s.generation, .window ⟨intent, s.windowIntentSerial + 1⟩ canRetry⟩] else [] } := by
  unfold raiseIntent queueWindowRequest
  dsimp only
  split
  · next hflight => exact .inl ⟨hflight, rfl⟩
  · next hflight =>
    exact .inr ⟨Bool.eq_false_iff.mpr hflight, dispatchWindowRequest_eq e _ _⟩

/-- A report is raised, a clear is raised, or nothing happens. -/
theorem requestReport_cases (e : Desktop) (s : Bridge) (window : Window) (force : Bool)
    (retries : Nat) :
    s.requestReport e window force retries = s ∨
    s.requestReport e window force retries = s.requestClear e ∨
    s.requestReport e window force retries =
      { s with clearAuthorityFence := false }.raiseIntent e (.report window retries) := by
  unfold requestReport
  split
  · split
    · exact .inr (.inl rfl)
    · exact .inl rfl
  · split
    · exact .inl rfl
    · exact .inr (.inr rfl)

theorem placeOverlay_cases (e : Desktop) (s : Bridge) :
    s.placeOverlay e = s ∨ s.placeOverlay e = s.requestClear e := by
  unfold placeOverlay
  split
  · split
    · exact .inr rfl
    · exact .inl rfl
  · exact .inl rfl

theorem attachWindow_eq (s : Bridge) (window : Window) :
    ∃ windows, s.attachWindow window = { s with windowSignals := windows } := by
  unfold attachWindow
  split
  · exact ⟨s.windowSignals, rfl⟩
  · exact ⟨_, rfl⟩

theorem attachCompositor_eq (e : Desktop) (s : Bridge) :
    ∃ windows overlay, s.attachCompositor e =
      { s with windowSignals := windows, overlayWindow := overlay } := by
  unfold attachCompositor
  induction e.windows generalizing s with
  | nil => exact ⟨s.windowSignals, s.overlayWindow, rfl⟩
  | cons window rest ih =>
    obtain ⟨windows, hwindows⟩ := attachWindow_eq s window
    obtain ⟨windows', overlay, hrest⟩ := ih (if e.isOverlayWindow window then
      { s.attachWindow window with overlayWindow := some window } else s.attachWindow window)
    refine ⟨windows', overlay, hrest.trans ?_⟩
    rw [hwindows]
    split <;> rfl

/-- What a step can be. -/
inductive Steps (e : Desktop) (s : Bridge) : Event → Bridge → Prop
  | signal (signal : Signal) (hattached : s.attached = true) :
    Steps e s (.signal signal) (s.signal e signal)
  | rest (next : Continuation) (hrest : s.rest = some next) :
    Steps e s .rest ({ s with rest := none }.continue_ e next)
  | coreAppeared (hrest : s.rest = none) : Steps e s .coreAppeared (s.onCoreAppeared e)
  | coreVanished (hrest : s.rest = none) : Steps e s .coreVanished s.onCoreVanished
  | stop (hrest : s.rest = none) : Steps e s .stop s.stop
  | snapshotChanged (text : SnapshotText) (hrest : s.rest = none) (hattached : s.attached = true) :
    Steps e s (.snapshotChanged text) (s.applySnapshotJson e text)
  | settleFocus (hrest : s.rest = none) (hattached : s.attached = true) :
    Steps e s .settleFocus (s.settleFocus e)
  | retryCandidate (window : Window) (retries : Nat) (hrest : s.rest = none)
    (hattached : s.attached = true) : Steps e s .retryCandidate (s.retryCandidate e window retries)
  | keepalive (hrest : s.rest = none) (hattached : s.attached = true) :
    Steps e s .keepalive (s.keepalive e)
  | stale (index : Nat) (answer : Answer) (call : Call) (hrest : s.rest = none)
    (hcall : s.calls[index]? = some call)
    (hstale : call.generation ≠ s.generation ∨ s.attached = false) :
    Steps e s (.answer index answer) { s with calls := s.calls.eraseIdx index }
  | answer (index : Nat) (answer : Answer) (call : Call) (hrest : s.rest = none)
    (hcall : s.calls[index]? = some call) (hgeneration : call.generation = s.generation)
    (hattached : s.attached = true) :
    Steps e s (.answer index answer)
      ({ s with calls := s.calls.eraseIdx index }.receive e call.kind answer)

theorem steps_of_answer {index : Nat} {answer : Answer} {t : Bridge} (hrest : s.rest = none)
    (h : s.answer e index answer = some t) : Steps e s (.answer index answer) t := by
  obtain ⟨call, hcall, rfl⟩ := map_eq_some_iff.mp h
  dsimp only
  split
  · next hstale =>
    rw [Bool.or_eq_true, decide_eq_true_eq, Bool.not_eq_true'] at hstale
    exact .stale index answer call hrest hcall hstale
  · next hcurrent =>
    rw [Bool.or_eq_true, decide_eq_true_eq, Bool.not_eq_true', not_or, not_not,
      Bool.not_eq_false] at hcurrent
    exact .answer index answer call hrest hcall hcurrent.1 hcurrent.2

theorem steps_of_step {event : Event} {t : Bridge} (h : s.step (e, event) = some t) :
    Steps e s event t := by
  unfold step at h
  cases hrest : s.rest with
  | some next =>
    rw [hrest] at h
    cases event with
    | signal signal =>
      obtain ⟨hattached, h⟩ := ite_none_right_eq_some.mp h
      cases h
      exact .signal signal hattached
    | rest =>
      cases h
      exact .rest next hrest
    | _ => cases h
  | none =>
    rw [hrest] at h
    cases event with
    | signal signal =>
      obtain ⟨hattached, h⟩ := ite_none_right_eq_some.mp h
      cases h
      exact .signal signal hattached
    | coreAppeared =>
      cases h
      exact .coreAppeared hrest
    | coreVanished =>
      cases h
      exact .coreVanished hrest
    | stop =>
      cases h
      exact .stop hrest
    | snapshotChanged text =>
      obtain ⟨hattached, h⟩ := ite_none_right_eq_some.mp h
      cases h
      exact .snapshotChanged text hrest hattached
    | settleFocus =>
      obtain ⟨hattached, h⟩ := ite_none_right_eq_some.mp h
      cases h
      exact .settleFocus hrest (Bool.and_eq_true_iff.mp hattached).1
    | retryCandidate =>
      dsimp only at h
      split at h
      · next window retries _ =>
        obtain ⟨hattached, h⟩ := ite_none_right_eq_some.mp h
        cases h
        exact .retryCandidate window retries hrest hattached
      · cases h
    | keepalive =>
      obtain ⟨hattached, h⟩ := ite_none_right_eq_some.mp h
      cases h
      exact .keepalive hrest hattached
    | answer index answer => exact steps_of_answer hrest h
    | rest => cases h

end Changes

end Bridge

/-- A desktop with a game that has the focus. -/
def gameDesktop : Desktop where
  focus := some 1
  window := fun _ =>
    { pid := some 42, wmClass := some "game", frameRect := some ⟨0, 0, 640, 480⟩, monitor := some 0
      scale := some "1" }
  windows := [1]
  grab := fun _ => some 7

end OverCrow.Gnome
