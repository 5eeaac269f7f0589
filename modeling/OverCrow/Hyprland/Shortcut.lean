import OverCrow.Base.Text

/-!
# Hyprland shortcut reconcilers

`ShortcutReconciler` of `crates/overcrow-hyprland/src/shortcut.rs` and `sync_shortcuts_once` of
`crates/overcrow-hyprland/src/bridge.rs`. The compositor is given by its answers.
-/

namespace OverCrow.Hyprland
open OverCrow.Base

/-- `shortcut.rs:25`. -/
inductive ShortcutBackend where
  | lua
  | compatibility
  deriving DecidableEq

/-- The overlay's action, its legacy name, and those of the stopwatch,
`shortcut.rs:6-17`. -/
def portalShortcutName : String := "com.playervox.OverCrow:toggle-overlay"
def legacyPortalShortcutName : String := ":toggle-overlay"
def toggleManualStopwatchPortalAction : String := "com.playervox.OverCrow:toggle-manual-stopwatch"
def legacyToggleManualStopwatchPortalAction : String := ":toggle-manual-stopwatch"
def resetManualStopwatchPortalAction : String := "com.playervox.OverCrow:reset-manual-stopwatch"
def legacyResetManualStopwatchPortalAction : String := ":reset-manual-stopwatch"

/-- `shortcut.rs:8`. -/
def bindDescription : String := "OverCrow overlay"

/-- The modifiers with their masks, `shortcut.rs:19-22`. -/
def modifierMasks : List (UInt32 × String) :=
  [(64, "SUPER"), (4, "CTRL"), (8, "ALT"), (1, "SHIFT")]

/-- `shortcut.rs:51`. -/
structure ShortcutSpec where
  keys : String
  key : String
  modmask : UInt32
  portalAction : String
  description : String
  deriving DecidableEq

/-- `shortcut.rs:309`. -/
structure GlobalShortcut where
  name : String
  deriving DecidableEq

/-- `shortcut.rs:316`. -/
structure HyprBinding where
  modmask : UInt32
  key : String
  description : String
  dispatcher : String
  arg : String
  deriving DecidableEq

/-- `shortcut.rs:299`. -/
def legacyPortalAction (action : String) : Option String :=
  if action = portalShortcutName then some legacyPortalShortcutName
  else if action = toggleManualStopwatchPortalAction then
    some legacyToggleManualStopwatchPortalAction
  else if action = resetManualStopwatchPortalAction then
    some legacyResetManualStopwatchPortalAction
  else none

namespace ShortcutSpec

/-- `shortcut.rs:256`. -/
def compatibilityModifiers (spec : ShortcutSpec) : String :=
  " ".intercalate (modifierMasks.filterMap fun (bit, name) =>
    if spec.modmask &&& bit ≠ 0 then some name else none)

/-- `shortcut.rs:202`. -/
def bindRequestForAction (spec : ShortcutSpec) (backend : ShortcutBackend) (action : String) :
    String :=
  match backend with
  | .lua =>
    "eval hl.bind(\"" ++ spec.keys ++ "\", hl.dsp.global(\"" ++ action ++
      "\"), \x7b description = \"" ++ spec.description ++ "\" \x7d)"
  | .compatibility =>
    "keyword bindd " ++ spec.compatibilityModifiers ++ ", " ++ spec.key ++ ", " ++
      spec.description ++ ", global, " ++ action

/-- `shortcut.rs:218`. -/
def unbindRequest (spec : ShortcutSpec) : ShortcutBackend → String
  | .lua => "eval hl.unbind(\"" ++ spec.keys ++ "\")"
  | .compatibility => "keyword unbind " ++ spec.compatibilityModifiers ++ ", " ++ spec.key

/-- `shortcut.rs:229`. -/
def matchesAccelerator (spec : ShortcutSpec) (binding : HyprBinding) : Bool :=
  binding.modmask == spec.modmask && binding.key == spec.key

/-- `shortcut.rs:239`. -/
def ownsAction (spec : ShortcutSpec) (binding : HyprBinding) (action : String) : Bool :=
  spec.matchesAccelerator binding && binding.description == spec.description &&
    binding.dispatcher == "global" && binding.arg == action

/-- `shortcut.rs:233`. -/
def owns (spec : ShortcutSpec) (binding : HyprBinding) : Bool :=
  spec.ownsAction binding spec.portalAction ||
    (legacyPortalAction spec.portalAction).any fun action => spec.ownsAction binding action

/-- `shortcut.rs:246`. -/
def advertisedPortalAction (spec : ShortcutSpec) (globals : List GlobalShortcut) :
    Option String :=
  if globals.any (·.name = spec.portalAction) then some spec.portalAction
  else (legacyPortalAction spec.portalAction).filter fun action => globals.any (·.name = action)

end ShortcutSpec

/-- `shortcut.rs:325`. -/
inductive ShortcutDecision where
  | idle
  | waitForPortal
  | bind (request : String)
  | unbind (request : String)
  | conflict
  | ambiguousOwnership
  deriving DecidableEq

/-- `shortcut.rs:335`. -/
inductive ReconcileState where
  | unknown
  | absent
  | owned
  | conflict
  deriving DecidableEq

/-- `shortcut.rs:343`. -/
structure ShortcutReconciler where
  spec : ShortcutSpec
  backend : ShortcutBackend
  state : ReconcileState := .unknown
  lastDesired : Option Bool := none
  warningReported : Bool := false
  deriving DecidableEq

namespace ShortcutReconciler

/-- `shortcut.rs:366`. -/
def invalidate (r : ShortcutReconciler) : ShortcutReconciler := { r with state := .unknown }

/-- `shortcut.rs:370`. -/
def markBound (r : ShortcutReconciler) : ShortcutReconciler :=
  { r with state := .owned, warningReported := false }

/-- `shortcut.rs:375`. -/
def markUnbound (r : ShortcutReconciler) : ShortcutReconciler :=
  { r with state := .absent, warningReported := false }

/-- `shortcut.rs:384`. -/
def takeWarning (r : ShortcutReconciler) : Bool × ShortcutReconciler :=
  if r.state ≠ .conflict ∨ r.warningReported then (false, r)
  else (true, { r with warningReported := true })

/-- `shortcut.rs:477`. -/
def observeDesired (r : ShortcutReconciler) (desired : Bool) : ShortcutReconciler :=
  if r.lastDesired ≠ some desired then
    { r with lastDesired := some desired, state := .unknown, warningReported := false }
  else r

/-- `shortcut.rs:392`. -/
def needsProbe (r : ShortcutReconciler) (desired : Bool) : Bool × ShortcutReconciler :=
  let r := r.observeDesired desired
  let settled := match desired, r.state with
    | true, .owned | true, .conflict | false, .absent | false, .conflict => true
    | _, _ => false
  (!settled, r)

/-- `plan` when the shortcut is not to be bound,
`shortcut.rs:429-452`. -/
def planUnbound (r : ShortcutReconciler) (desired : Bool) (owned foreign : Nat) :
    ShortcutDecision × ShortcutReconciler :=
  match owned, foreign with
  | 0, _ =>
    (if desired then .waitForPortal else .idle, { r with state := .absent, warningReported := false })
  | 1, 0 =>
    (.unbind (r.spec.unbindRequest r.backend), { r with state := .owned, warningReported := false })
  | _, _ => (.ambiguousOwnership, { r with state := .conflict })

/-- `plan` for an advertised action, `shortcut.rs:454-475`. -/
def planBound (r : ShortcutReconciler) (action : String) (matching : List HyprBinding)
    (owned foreign : Nat) : ShortcutDecision × ShortcutReconciler :=
  let desiredOwned := matching.countP fun binding => r.spec.ownsAction binding action
  if desiredOwned = 1 ∧ owned = 1 ∧ foreign = 0 then
    (.idle, { r with state := .owned, warningReported := false })
  else if desiredOwned = 0 ∧ owned = 1 ∧ foreign = 0 then
    (.unbind (r.spec.unbindRequest r.backend), { r with state := .owned, warningReported := false })
  else if ¬matching.isEmpty then (.conflict, { r with state := .conflict })
  else (.bind (r.spec.bindRequestForAction r.backend action), { r with warningReported := false })

/-- `shortcut.rs:402`. -/
def plan (r : ShortcutReconciler) (desired : Bool) (globals : List GlobalShortcut)
    (bindings : List HyprBinding) : ShortcutDecision × ShortcutReconciler :=
  let advertised := r.spec.advertisedPortalAction globals
  let r := r.observeDesired (desired && advertised.isSome)
  let matching := bindings.filter r.spec.matchesAccelerator
  let owned := matching.countP r.spec.owns
  let foreign := matching.length - owned
  match desired, advertised with
  | true, some action =>
    if r.state = .conflict then (.conflict, r) else r.planBound action matching owned foreign
  | desired, _ => r.planUnbound desired owned foreign

end ShortcutReconciler

/-- The compositor as one `sync_shortcuts_once` meets it: its answers, how many more requests it
takes, and those it has taken. -/
structure Desktop where
  globalShortcuts : List GlobalShortcut
  bindings : List HyprBinding
  budget : Nat
  dispatched : List String := []

/-- `desktop.dispatch`. -/
def Desktop.dispatch (desktop : Desktop) (request : String) : Option Desktop :=
  if desktop.budget = 0 then none
  else some { desktop with
    budget := desktop.budget - 1, dispatched := desktop.dispatched ++ [request] }

/-- One round of the loop of `sync_shortcuts_once`,
`bridge.rs:549-583`. -/
def syncShortcut (desired : Bool) (desktop : Desktop) (r : ShortcutReconciler) :
    Option (Desktop × ShortcutReconciler) :=
  match r.plan desired desktop.globalShortcuts desktop.bindings with
  | (.bind request, r) => (desktop.dispatch request).map (·, r.markBound)
  | (.unbind request, r) => (desktop.dispatch request).map (·, r.markUnbound)
  | (.conflict, r) => some (desktop, r.takeWarning.2)
  | (.ambiguousOwnership, r) => some (desktop, r.takeWarning.2)
  | (.idle, r) => some (desktop, r)
  | (.waitForPortal, r) => some (desktop, r)

/-- The loop of `sync_shortcuts_once` over the reconcilers and whether each is to be probed. -/
def syncShortcuts (desired : Bool) (desktop : Desktop) :
    List (Bool × ShortcutReconciler) → Option (Desktop × List ShortcutReconciler)
  | [] => some (desktop, [])
  | (probe, r) :: rest => do
    let (desktop, r) ← if probe then syncShortcut desired desktop r else some (desktop, r)
    let (desktop, rest) ← syncShortcuts desired desktop rest
    return (desktop, r :: rest)

/-- `bridge.rs:537`. The queries may fail. -/
def syncShortcutsOnce (desired : Bool) (desktop : Option Desktop)
    (reconcilers : List ShortcutReconciler) : Option (List ShortcutReconciler) :=
  let probed := reconcilers.map fun r => r.needsProbe desired
  if probed.all (!·.1) then some (probed.map Prod.snd)
  else desktop.bind fun desktop => (syncShortcuts desired desktop probed).map Prod.snd

end OverCrow.Hyprland
