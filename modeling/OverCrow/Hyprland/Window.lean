import OverCrow.Base.Text
import OverCrow.Protocol.State

/-!
# Hyprland windows

The answers of Hyprland about windows and monitors, `crates/overcrow-hyprland/src/model.rs`, and
the commands that the bridge addresses to windows. An address carries the check that `parse` makes.
-/

namespace OverCrow.Hyprland
open OverCrow.Base OverCrow.Protocol

/-- `model.rs:4`. -/
def overlayAppId : String := "io.github.overcrow.Overlay"

/-! ### Addresses -/

/-- The check of `WindowAddress::parse`. -/
def isWindowAddress (value : String) : Bool :=
  (stripStem "0x" value).any fun digits =>
    !digits.isEmpty && digits.utf8ByteSize ≤ 16 && digits.toList.all isAsciiHexdigit

/-- `model.rs:68`. -/
@[ext]
structure WindowAddress where
  text : String
  valid : isWindowAddress text = true
  deriving DecidableEq

namespace WindowAddress

/-- `model.rs:71`. -/
def parse (value : String) : Option WindowAddress :=
  if h : isWindowAddress value = true then some ⟨value, h⟩ else none

theorem parse_eq_some {value : String} {address : WindowAddress} :
    parse value = some address ↔ value = address.text := by
  unfold parse
  constructor
  · intro h
    split at h
    · exact congrArg text (Option.some.inj h)
    · cases h
  · rintro rfl
    exact dif_pos address.valid

end WindowAddress

/-! ### Windows and monitors -/

/-- `i32::try_from`. -/
def toI32 (n : Int) : Option Int := if -2 ^ 31 ≤ n ∧ n < 2 ^ 31 then some n else none

/-- `u32::try_from`, then only positive values that are also an `i32`. -/
def toExtent (n : Int) : Option Nat := if 0 < n ∧ n < 2 ^ 31 then some n.toNat else none

/-- `model.rs:47`. Its name is not read. -/
structure HyprWorkspace where
  id : Int
  deriving DecidableEq

/-- `model.rs:7`, with `position` for `at` and
`appClass` for `class`. -/
structure HyprWindow where
  address : String
  mapped : Bool := false
  hidden : Bool := false
  position : Int × Int
  size : Int × Int
  monitor : Int
  appClass : String
  title : String := ""
  pid : Int
  workspace : Option HyprWorkspace := none
  tags : List String := []
  deriving DecidableEq

/-- `model.rs:53`. -/
structure HyprMonitor where
  id : Int
  scale : F64
  focused : Bool := false
  activeWorkspace : Option Int := none
  deriving DecidableEq

namespace HyprWindow

/-- `model.rs:27`. -/
def rect (window : HyprWindow) : Option Rect := do
  let x ← toI32 window.position.1
  let y ← toI32 window.position.2
  let width ← toExtent window.size.1
  let height ← toExtent window.size.2
  return ⟨x, y, width, height⟩

/-- A visible window of the process and application that is not the overlay,
`crates/overcrow-hyprland/src/bridge.rs:474`, `crates/overcrow-hyprland/src/geometry.rs:46`. -/
def isGame (pid : UInt32) (appId : String) (window : HyprWindow) : Bool :=
  window.mapped && !window.hidden && window.pid == pid.toNat && window.appClass == appId &&
    window.appClass != overlayAppId

/-- A visible window of the overlay, `bridge.rs:375`,
`geometry.rs:75`. -/
def isOverlay (window : HyprWindow) : Bool :=
  window.mapped && !window.hidden && window.appClass == overlayAppId

end HyprWindow

/-- The element of a list that has only one. -/
def exactlyOne {α : Type} : List α → Option α
  | [a] => some a
  | _ => none

theorem exactlyOne_eq_some {α : Type} {l : List α} {a : α} : exactlyOne l = some a ↔ l = [a] := by
  unfold exactlyOne
  split
  · rw [Option.some_inj, List.cons.injEq, and_iff_left rfl]
  · next hne =>
    constructor
    · nofun
    · intro h
      exact absurd h (hne a)

/-! ### Reports -/

/-- `model.rs:88`. -/
structure WindowReport where
  address : WindowAddress
  pid : Int
  title : String
  appId : String
  rect : Rect
  scale : F64
  workspaceId : Int
  deriving DecidableEq

namespace WindowReport

/-- `model.rs:99`. -/
def fromWindow (window : HyprWindow) (monitors : List HyprMonitor) : Option WindowReport :=
  if !window.mapped || window.hidden || window.appClass.isEmpty then none
  else do
    let address ← WindowAddress.parse window.address
    let pid ← (toI32 window.pid).filter (0 < ·)
    let rect ← window.rect
    let scale ← (monitors.find? (·.id == window.monitor)).map (·.scale)
    if !scale.isFinite || scale.le (.ofBits 0) then none
    else do
      let workspaceId ← (window.workspace.map (·.id)).filter (0 < ·)
      return ⟨address, pid, window.title, window.appClass, rect, scale, workspaceId⟩

/-- `model.rs:129`. -/
def isOverlay (report : WindowReport) : Bool := report.appId == overlayAppId

end WindowReport

/-! ### Commands -/

/-- The commands that the bridge addresses to a window,
`bridge.rs:242,260,319,341`,
`geometry.rs:164-193`. -/
inductive WindowCommand where
  | tagWindow (add : Bool) (tag : String) (address : WindowAddress)
  | focusWindow (address : WindowAddress)
  | resizeWindowPixel (width height : Nat) (address : WindowAddress)
  | moveWindowPixel (x y : Int) (address : WindowAddress)
  | moveToWorkspaceSilent (workspaceId : Int) (address : WindowAddress)
  | alterZorder (address : WindowAddress)
  deriving DecidableEq

namespace WindowCommand

/-- The window that the command is for. -/
def address : WindowCommand → WindowAddress
  | tagWindow _ _ address | focusWindow address | resizeWindowPixel _ _ address
  | moveWindowPixel _ _ address | moveToWorkspaceSilent _ address | alterZorder address => address

/-- The text that is dispatched. -/
def text : WindowCommand → String
  | tagWindow add tag address =>
    "dispatch tagwindow " ++ (if add then "+" else "-") ++ tag ++ " address:" ++ address.text
  | focusWindow address => "dispatch focuswindow address:" ++ address.text
  | resizeWindowPixel width height address =>
    "dispatch resizewindowpixel exact " ++ toString width ++ " " ++ toString height ++
      ",address:" ++ address.text
  | moveWindowPixel x y address =>
    "dispatch movewindowpixel exact " ++ toString x ++ " " ++ toString y ++
      ",address:" ++ address.text
  | moveToWorkspaceSilent workspaceId address =>
    "dispatch movetoworkspacesilent " ++ toString workspaceId ++ ",address:" ++ address.text
  | alterZorder address => "dispatch alterzorder top,address:" ++ address.text

end WindowCommand

/-! ### A game for the examples -/

/-- A visible window on the first workspace. -/
def sampleWindow (address appClass : String) (pid : Int) (position : Int × Int) : HyprWindow where
  address
  mapped := true
  position
  size := (2417, 1680)
  monitor := 0
  appClass
  pid
  workspace := some ⟨1⟩

/-- An interactive snapshot with a game. -/
def sampleSnapshot : CoreSnapshot where
  activeGame := some ⟨some 136279, none, some "steam_app_1623730", "Pal", ⟨12, 36, 2417, 1680⟩,
    .ofBits 0x3ff0000000000000, "wayland"⟩
  overlayMode := .interactive

end OverCrow.Hyprland
