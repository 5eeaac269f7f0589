import Mathlib.Data.Rat.Floor
import OverCrow.Base.Mealy

/-!
# The KWin script

`integrations/kwin/contents/code/main.js`. An event finds the windows and the active window of the
compositor as they are then. What the script assigns to an overlay changes it, and the compositor
tells the script of the change at once: the handler of the change runs inside the assignment.
-/

namespace OverCrow.KWin
open OverCrow.Base

/-- A window of the compositor. -/
abbrev Window := Nat

/-- A rectangle; none is a number that is not finite. -/
structure Geometry where
  x : Option Rat
  y : Option Rat
  width : Option Rat
  height : Option Rat
  deriving DecidableEq

/-- The properties of a window that the script reads, or assigns and reads. -/
structure WindowState where
  resourceClass : String := ""
  deleted : Bool := false
  managed : Bool := true
  minimized : Bool := false
  hidden : Bool := false
  caption : String := ""
  pid : Option Rat := none
  frameGeometry : Option Geometry := none
  /-- Its output, with `devicePixelRatio` as text if it is a finite number above zero. -/
  output : Option (Option String) := none
  /-- The ids of its desktops. -/
  desktops : Option (List String) := none
  activities : Option (List String) := none
  deriving DecidableEq

/-- What `normalizedWindow` returns. -/
structure Report where
  pid : Int
  title : String
  appId : String
  x : Int
  y : Int
  width : Int
  height : Int
  scale : String
  deriving DecidableEq

/-- `main.js:6`. -/
def overlayAppId : String := "io.github.overcrow.Overlay"

/-- `main.js:9`. -/
def int32Max : Int := 2147483647

/-- `main.js:10`. -/
def int32Min : Int := -2147483648

/-- `main.js:132`. `Math.round` takes the half up. -/
def finiteInteger (value : Option Rat) (minimum maximum : Int) : Option Int := do
  let number ← value
  let rounded := (number + 1 / 2).floor
  if rounded < minimum || maximum < rounded then none else some rounded

namespace WindowState

/-- `main.js:22`. -/
def isOverlay (window : WindowState) : Bool := window.resourceClass = overlayAppId

/-- `main.js:144`. -/
def normalizedWindow (window : WindowState) : Option Report :=
  if window.deleted || !window.managed || window.minimized || window.hidden || window.isOverlay then
    none
  else do
    let output ← window.output
    let pid ← finiteInteger window.pid 1 int32Max
    let geometry ← window.frameGeometry
    let x ← finiteInteger geometry.x int32Min int32Max
    let y ← finiteInteger geometry.y int32Min int32Max
    let width ← finiteInteger geometry.width 1 int32Max
    let height ← finiteInteger geometry.height 1 int32Max
    if window.resourceClass = "" then none
    else
      let scale ← output
      some ⟨pid, window.caption, window.resourceClass, x, y, width, height, scale⟩

end WindowState

/-- `main.js:61`. -/
def sameScope (left right : Option (List String)) : Bool := left.isSome && left = right

/-- What an event finds. -/
structure Desktop where
  /-- `workspace.activeWindow`. -/
  active : Option Window := none
  window : Window → WindowState
  /-- `workspace.stackingOrder`. -/
  stackingOrder : List Window := []
  /-- Changes that the script makes are told to it inside of one another at most so deep. -/
  depth : Nat := 4

/-- A call to Core. The report itself stands for the arguments of the call. -/
inductive Call where
  | reportWindow (report : Report)
  | clearWindow
  deriving DecidableEq

/-- What an event makes the script do. -/
inductive Action where
  /-- `handleActiveWindow` begins. -/
  | handled (window : Option Window)
  | call (call : Call)
  deriving DecidableEq

/-- The variables of the script, the windows as it finds and leaves them, and what the present event
has made it do. -/
structure Script where
  lastReportableWindow : Option Window := none
  /-- The report itself stands for its JSON text. -/
  lastReportSignature : Option Report := none
  overlayWindows : List Window := []
  overlayBeingPlaced : Option Window := none
  nullActivationPending : Bool := false
  windows : Window → WindowState := fun _ => {}
  made : List Action := []

namespace Script

/-- The handler of a change, which the compositor runs inside an assignment. -/
abbrev Emit := Script → Window → Script

variable (d : Desktop) (emit : Emit) (s : Script)

/-- `main.js:22`; null is none. -/
def isOverlay (window : Option Window) : Bool := window.any fun window => (s.windows window).isOverlay

/-- `main.js:144`; null has no report. -/
def normalizedWindow (window : Option Window) : Option Report :=
  window.bind fun window => (s.windows window).normalizedWindow

/-- `main.js:26`. -/
def forgetOverlay (window : Window) : Script :=
  { s with overlayWindows := s.overlayWindows.filter (· ≠ window) }

/-- `main.js:30`. -/
def rememberOverlay (window : Window) : Script :=
  if s.overlayWindows.contains window then s
  else { s with overlayWindows := s.overlayWindows ++ [window] }

/-- `main.js:85`. -/
def reportableGeometry (window : Option Window) : Option Geometry :=
  if (s.normalizedWindow window).isNone then none
  else window.bind fun window => (s.windows window).frameGeometry

/-- An assignment to properties of a window: a change is told at once. -/
def assign (window : Window) (state : WindowState) : Script :=
  if s.windows window = state then s
  else emit { s with windows := Function.update s.windows window state } window

/-- The desktops of `syncOverlayScope`, `main.js:77-79`. -/
def syncDesktops (window last : Window) : Script :=
  if sameScope (s.windows window).desktops (s.windows last).desktops then s
  else s.assign emit window { s.windows window with desktops := (s.windows last).desktops }

/-- The activities of `syncOverlayScope`, `main.js:80-82`. -/
def syncActivities (window last : Window) : Script :=
  if sameScope (s.windows window).activities (s.windows last).activities then s
  else s.assign emit window { s.windows window with activities := (s.windows last).activities }

/-- `main.js:73`. The window that was reported last
is read again after the first assignment. -/
def syncOverlayScope (window : Window) : Script :=
  match s.lastReportableWindow with
  | none => s
  | some last =>
    let s := s.syncDesktops emit window last
    match s.lastReportableWindow with
    | none => s
    | some last => s.syncActivities emit window last

/-- The placement of an overlay, `main.js:113-122`. -/
def placeOverlay (window : Window) : Script :=
  match s.reportableGeometry s.lastReportableWindow with
  | none => s
  | some geometry =>
    if s.overlayBeingPlaced = some window || (s.windows window).frameGeometry = some geometry then s
    else
      let previouslyPlacedOverlay := s.overlayBeingPlaced
      { { s with overlayBeingPlaced := some window }.assign emit window
          { s.windows window with frameGeometry := some geometry } with
        overlayBeingPlaced := previouslyPlacedOverlay }

/-- `main.js:99`. -/
def configureOverlay (window : Window) : Bool × Script :=
  if !s.isOverlay (some window) then (false, s)
  else if (s.windows window).deleted then (false, s)
  else (true, ((s.rememberOverlay window).syncOverlayScope emit window).placeOverlay emit window)

/-- `main.js:126`. -/
def syncOverlays : Script :=
  s.overlayWindows.foldl (fun s overlay => (s.configureOverlay emit overlay).2) s

/-- `callDBus`. -/
def callDBus (call : Call) : Script := { s with made := s.made ++ [.call call] }

/-- `main.js:190`. -/
def clearWindow : Script := { s with lastReportSignature := none }.callDBus .clearWindow

/-- `main.js:195`. -/
def reportWindow (window : Option Window) (force : Bool) : Bool × Script :=
  match s.normalizedWindow window with
  | none => (false, s)
  | some report =>
    let s := { s with lastReportableWindow := window }.syncOverlays emit
    if !force && s.lastReportSignature = some report then (true, s)
    else (true, { s with lastReportSignature := some report }.callDBus (.reportWindow report))

/-- `reportWindow`, and `clearWindow` for a window that cannot be reported. -/
def reportOrClear (window : Option Window) (force : Bool) : Script :=
  match s.reportWindow emit window force with
  | (true, s) => s
  | (false, s) => { s with lastReportableWindow := none }.clearWindow

/-- `main.js:226`. -/
def handleActiveWindow (window : Option Window) : Script :=
  let s := { s with made := s.made ++ [Action.handled window] }
  match window with
  | none => s.reportOrClear emit none true
  | some window =>
    if s.isOverlay (some window) then
      let s := (s.configureOverlay emit window).2
      s.reportOrClear emit s.lastReportableWindow true
    else s.reportOrClear emit (some window) true

/-- `main.js:242`. -/
def handleTrackedChange (window : Window) : Script :=
  match s.configureOverlay emit window with
  | (true, s) => s
  | (false, s) =>
    if some window = d.active then s.handleActiveWindow emit (some window)
    else if some window = s.lastReportableWindow && s.isOverlay d.active then
      s.reportOrClear emit (some window) false
    else s

/-- The handler of a change inside assignments that are nested at most so deep. -/
def told : Nat → Emit
  | 0 => fun s _ => s
  | n + 1 => fun s window => s.handleTrackedChange d (told n) window

/-- `main.js:36`. -/
def forgetTrackedWindow (window : Window) : Script :=
  let s := s.forgetOverlay window
  if some window = s.lastReportableWindow then { s with lastReportableWindow := none }.clearWindow
  else s

/-- `main.js:263`. -/
def handleWindowActivation (window : Option Window) : Script :=
  match window.or d.active with
  | some active => { s with nullActivationPending := false }.handleActiveWindow emit (some active)
  | none => { s with nullActivationPending := true }

/-- `main.js:275`. -/
def handleKeepalive : Script :=
  match d.active with
  | some active => { s with nullActivationPending := false }.handleActiveWindow emit (some active)
  | none => if s.nullActivationPending then s else s.handleActiveWindow emit none

/-- The timer of a null activation, `main.js:321-327`. -/
def handleNullActivationTimer : Script :=
  if !s.nullActivationPending then s
  else { s with nullActivationPending := false }.handleActiveWindow emit d.active

/-- `workspace.windowAdded`, `main.js:329`. -/
def handleWindowAdded (window : Window) : Script :=
  let s := (s.configureOverlay emit window).2
  if some window = d.active then s.handleActiveWindow emit (some window) else s

/-- The script is loaded, `main.js:310-339`. -/
def load : Script :=
  (d.stackingOrder.foldl (fun s window => (s.configureOverlay emit window).2) s).handleActiveWindow
    emit d.active

end Script

/-- An event. -/
inductive Event where
  | loaded
  | windowAdded (window : Window)
  | windowRemoved (window : Window)
  | closed (window : Window)
  /-- A property of the window has changed. -/
  | changed (window : Window)
  | activated (window : Option Window)
  | keepalive
  | nullActivationTimer
  deriving DecidableEq

/-- An event with what it finds. -/
abbrev Input := Desktop × Event

namespace Script

/-- The handlers that the script connects. -/
def handle (d : Desktop) (emit : Emit) (s : Script) : Event → Script
  | .loaded => s.load d emit
  | .windowAdded window => s.handleWindowAdded d emit window
  | .windowRemoved window => s.forgetTrackedWindow window
  | .closed window => s.forgetTrackedWindow window
  | .changed window => s.handleTrackedChange d emit window
  | .activated window => s.handleWindowActivation d emit window
  | .keepalive => s.handleKeepalive d emit
  | .nullActivationTimer => s.handleNullActivationTimer d emit

/-- An event: what it makes the script do, and the script after it. -/
def step (s : Script) (input : Input) : List Action × Script :=
  let s := { s with windows := input.1.window, made := [] }
  let s := s.handle input.1 (told input.1 input.1.depth) input.2
  (s.made, s)

end Script

end OverCrow.KWin
