import OverCrow.Base.Await
import OverCrow.Base.History
import OverCrow.Config.Widgets
import OverCrow.Core.PortalTrigger
import OverCrow.Protocol.State

/-!
# The portal's shortcut broker

`PortalShortcutBroker` of `crates/overcrow-core/src/shortcut.rs`. A round of the loop of `run` is a
program that waits for an event, for a session to close and for the runtime to act. What the portal,
the sessions and the channels answer is not determined. The history records what the broker does.
-/

namespace OverCrow.Core.Portal
open OverCrow.Base OverCrow.Config OverCrow.Protocol Await

/-- `shortcut.rs:98`. -/
inductive ShortcutAction where
  | toggleOverlay
  | toggleManualStopwatch
  | resetManualStopwatch
  deriving DecidableEq

/-- `shortcut.rs:105`. -/
structure ShortcutDefinition where
  id : String
  description : String
  accelerator : String
  action : ShortcutAction
  deriving DecidableEq

/-- The ids, descriptions and accelerators, `shortcut.rs:24-33`. -/
def shortcutId : String := "toggle-overlay"
def shortcutDescription : String := "Open or close the OverCrow overlay"
def toggleManualStopwatchId : String := "toggle-manual-stopwatch"
def toggleManualStopwatchDescription : String := "Start or pause the OverCrow manual stopwatch"
def resetManualStopwatchId : String := "reset-manual-stopwatch"
def resetManualStopwatchDescription : String := "Reset the OverCrow manual stopwatch"
def toggleManualStopwatchAccelerator : String := "Meta+Alt+P"
def resetManualStopwatchAccelerator : String := "Meta+Alt+R"

/-- The characters that fit into a number of bytes. -/
def takeBytes : Nat → List Char → List Char
  | _, [] => []
  | bytes, c :: rest =>
    if c.utf8Size ≤ bytes then c :: takeBytes (bytes - c.utf8Size) rest else []

/-- `shortcut.rs:697`. -/
def boundedMessage (message : String) (maxBytes : Nat) : String :=
  if message.utf8ByteSize ≤ maxBytes then message
  else String.ofList (takeBytes maxBytes message.toList)

/-- `shortcut.rs:149`. -/
inductive ShortcutAvailability where
  | disabled
  | binding
  | available
  | unavailable (message : String)
  deriving DecidableEq

/-- `shortcut.rs:160`. -/
def unavailable (error : String) : ShortcutAvailability := .unavailable (boundedMessage error 240)

/-- `shortcut.rs:346`. -/
inductive DesiredBinding where
  | disabled
  | bind (definitions : List ShortcutDefinition)
  | invalid (message : String)
  deriving DecidableEq

/-- The loop of `desired_shortcuts` over the accelerators,
`shortcut.rs:660-667`. -/
def checkUnique (canonicalAccelerators : List String) :
    List ShortcutDefinition → Except ShortcutError Unit
  | [] => .ok ()
  | definition :: rest => do
    let trigger ← portalTrigger definition.accelerator
    if trigger ∈ canonicalAccelerators then
      .error ⟨"shortcut accelerators must be unique within the portal session"⟩
    else checkUnique (trigger :: canonicalAccelerators) rest

/-- `shortcut.rs:619`. -/
def desiredShortcuts (snapshot : CoreSnapshot) (settings : ShortcutSettings)
    (profile : WidgetProfile) : Except ShortcutError (List ShortcutDefinition) :=
  if snapshot.activeGame.isNone then .ok []
  else
    let overlay : List ShortcutDefinition :=
      if settings.enabled then
        [⟨shortcutId, shortcutDescription, settings.accelerator, .toggleOverlay⟩]
      else []
    let stopwatch : List ShortcutDefinition :=
      if profile.manualStopwatch.enabled then
        [⟨toggleManualStopwatchId, toggleManualStopwatchDescription,
            toggleManualStopwatchAccelerator, .toggleManualStopwatch⟩,
          ⟨resetManualStopwatchId, resetManualStopwatchDescription,
            resetManualStopwatchAccelerator, .resetManualStopwatch⟩]
      else []
    (checkUnique [] (overlay ++ stopwatch)).map fun _ => overlay ++ stopwatch

/-- `shortcut.rs:607`. -/
def desiredBinding (snapshot : CoreSnapshot) (settings : ShortcutSettings)
    (profile : WidgetProfile) : DesiredBinding :=
  match desiredShortcuts snapshot settings profile with
  | .ok definitions => if definitions = [] then .disabled else .bind definitions
  | .error error => .invalid error.message

/-- A session: which one it is, and its handle. -/
structure ShortcutSession where
  number : Nat
  handle : String
  deriving DecidableEq

/-- `shortcut.rs:333`. -/
inductive OwnedBinding where
  | idle
  | binding (definitions : List ShortcutDefinition)
  | live (definitions : List ShortcutDefinition) (session : ShortcutSession)
  deriving DecidableEq

/-- The definitions of a binding or live session. -/
def OwnedBinding.definitions : OwnedBinding → Option (List ShortcutDefinition)
  | idle => none
  | binding definitions => some definitions
  | live definitions _ => some definitions

def OwnedBinding.IsLive : OwnedBinding → Prop
  | live _ _ => True
  | _ => False

/-- What the broker does: it learns what is desired, calls the portal, owns a session, begins and
ends to close it, hears of an activation, executes an action, returns. -/
inductive Entry where
  | desired (desired : DesiredBinding)
  | bind (definitions : List ShortcutDefinition)
  | opened (definitions : List ShortcutDefinition) (session : ShortcutSession)
  | closing (number : Nat)
  | closed (number : Nat)
  | activated (handle id : String)
  | acted (action : ShortcutAction)
  | returned
  deriving DecidableEq

/-- `PortalShortcutBroker`, `shortcut.rs:327`, with the variables of
`run`, the availability that is published and the number of the next session. -/
structure Broker where
  owned : OwnedBinding := .idle
  desired : DesiredBinding
  attempted : Option (List ShortcutDefinition) := none
  availability : ShortcutAvailability := .disabled
  sessions : Nat := 0
  history : List Entry := []
  deriving DecidableEq

/-- `shortcut.rs:178`. -/
inductive ShortcutEvent where
  | activated (sessionHandle shortcutId : String)
  | malformed
  | closed
  | ownerLost
  deriving DecidableEq

/-- `wait_for_control`, `shortcut.rs:671`: the shutdown, or another event,
after which the three channels are read. -/
inductive Control where
  | shutdown
  | changed (snapshot : CoreSnapshot) (settings : ShortcutSettings) (profile : WidgetProfile)

/-- `tokio::time::timeout` of a `close`. -/
inductive CloseOutcome where
  | finished (result : Except ShortcutError Unit)
  | elapsed

/-- What a round waits for. -/
inductive Request where
  | control
  | bound
  | event
  | close (session : ShortcutSession)
  | act (action : ShortcutAction)

/-- A completed bind comes with the handle of its session. -/
def Answer : Request → Type
  | .control => Control
  | .bound => Control ⊕ Except ShortcutError String
  | .event => Control ⊕ Except ShortcutError ShortcutEvent
  | .close _ => CloseOutcome
  | .act _ => Unit

abbrev Round := Await Broker Request Answer

/-! ### The rounds -/

def Broker.record (b : Broker) (entry : Entry) : Broker :=
  { b with history := b.history ++ [entry] }

def record (entry : Entry) : Round Unit := modify fun b => b.record entry

/-- `shortcut.rs:602`. -/
def publishAvailability (availability : ShortcutAvailability) : Round Unit :=
  modify fun b => { b with availability }

def setOwned (owned : OwnedBinding) : Round Unit := modify fun b => { b with owned }

def setAttempted (attempted : Option (List ShortcutDefinition)) : Round Unit :=
  modify fun b => { b with attempted }

/-- The result of a `close` with its timeout. -/
def CloseOutcome.result : CloseOutcome → Except ShortcutError Unit
  | finished result => result
  | elapsed => .error ⟨"global shortcut session close timed out"⟩

/-- `shortcut.rs:591`. -/
def releaseOwned : Round (Except ShortcutError Unit) := do
  match ← reads Broker.owned with
  | .idle | .binding _ => do
    setOwned .idle
    return .ok ()
  | .live _ session => do
    setOwned .idle
    record (.closing session.number)
    let outcome ← (request (Request.close session) : Round CloseOutcome)
    record (.closed session.number)
    return outcome.result

/-- `shortcut.rs:410`. -/
def close : Round (Except ShortcutError Unit) := do
  let result ← releaseOwned
  match result with
  | .ok () => publishAvailability .disabled
  | .error error => publishAvailability (unavailable error.message)
  record .returned
  return result

/-- `shortcut.rs:582`. -/
def releaseAfterStreamLoss (error : String) : Round Unit := do
  match ← releaseOwned with
  | .ok () => publishAvailability (unavailable error)
  | .error close =>
    publishAvailability (unavailable (error ++ "; session close failed: " ++ close.message))

/-- `owned_matches` of `reconcile`, `shortcut.rs:539-546`. -/
def ownedMatches (owned : OwnedBinding) (desired : DesiredBinding) : Bool :=
  match owned, desired with
  | .binding definitions, .bind desired | .live definitions _, .bind desired =>
    definitions = desired
  | .idle, _ => true
  | _, _ => false

/-- The end of `reconcile`, `shortcut.rs:558-579`. -/
def reconcileDesired : Round Unit := do
  let b ← reads id
  match b.desired with
  | .disabled => do
    setAttempted none
    publishAvailability .disabled
  | .invalid message => do
    setAttempted none
    publishAvailability (unavailable message)
  | .bind definitions =>
    if b.owned = .idle ∧ b.attempted ≠ some definitions then do
      setAttempted (some definitions)
      publishAvailability .binding
      record (.bind definitions)
      setOwned (.binding definitions)

/-- `shortcut.rs:534`. -/
def reconcile : Round Unit := do
  let b ← reads id
  if ownedMatches b.owned b.desired then reconcileDesired
  else
    match ← releaseOwned with
    | .ok () => reconcileDesired
    | .error error => do
      setAttempted (match b.desired with
        | .bind definitions => some definitions
        | .disabled | .invalid _ => none)
      publishAvailability (unavailable ("failed to release global shortcut: " ++ error.message))

/-- The loop goes on or returns. -/
abbrev RoundEnd := Option (Except ShortcutError Unit)

/-- The events of `wait_for_control`, `shortcut.rs:454-465`. -/
def onControl : Control → Round RoundEnd
  | .shutdown => do
    let result ← close
    return some result
  | .changed snapshot settings profile => do
    modify fun b => { b with desired := desiredBinding snapshot settings profile }
    record (.desired (desiredBinding snapshot settings profile))
    return none

/-- A bind has completed, `shortcut.rs:466-484`. -/
def onBound (result : Except ShortcutError String) : Round RoundEnd := do
  let b ← reads id
  match b.owned with
  | .binding definitions =>
    match result with
    | .ok handle => do
      modify fun b => { b with
        owned := .live definitions ⟨b.sessions, handle⟩, sessions := b.sessions + 1 }
      record (.opened definitions ⟨b.sessions, handle⟩)
      publishAvailability .available
      return none
    | .error error => do
      setOwned .idle
      publishAvailability (unavailable error.message)
      return none
  | _ => do
    setOwned .idle
    return none

/-- The action of an activation, `shortcut.rs:489-500`. -/
def activatedAction (owned : OwnedBinding) (sessionHandle shortcutId : String) :
    Option ShortcutAction :=
  match owned with
  | .live definitions session =>
    if session.handle = sessionHandle then
      (definitions.find? fun definition => definition.id = shortcutId).map (·.action)
    else none
  | _ => none

/-- An event of the session, `shortcut.rs:485-529`. -/
def onActivation (result : Except ShortcutError ShortcutEvent) : Round RoundEnd := do
  match result with
  | .ok (.activated sessionHandle shortcutId) => do
    record (.activated sessionHandle shortcutId)
    match activatedAction (← reads Broker.owned) sessionHandle shortcutId with
    | some action => do
      record (.acted action)
      (request (Request.act action) : Round Unit)
    | none => pure ()
  | .ok .malformed => pure ()
  | .ok .closed => releaseAfterStreamLoss "global shortcut session closed"
  | .ok .ownerLost => releaseAfterStreamLoss "desktop portal owner disappeared or was replaced"
  | .error error => releaseAfterStreamLoss error.message
  return none

/-- The event that the loop waits for, `shortcut.rs:436-531`. -/
def waitForEvent : Round RoundEnd := do
  match ← reads Broker.owned with
  | .idle => do
    let control ← (request Request.control : Round Control)
    onControl control
  | .binding _ => do
    match ← (request Request.bound : Round (Control ⊕ Except ShortcutError String)) with
    | .inl control => onControl control
    | .inr result => onBound result
  | .live _ _ => do
    match ← (request Request.event : Round (Control ⊕ Except ShortcutError ShortcutEvent)) with
    | .inl control => onControl control
    | .inr result => onActivation result

/-- A round of the loop of `run`, `shortcut.rs:430-531`, with the value of
the shutdown channel at its beginning. -/
def round (shutdown : Bool) : Round RoundEnd :=
  if shutdown then do
    let result ← close
    return some result
  else do
    reconcile
    waitForEvent

/-- Where `run` stands. -/
inductive Position where
  | between
  | waiting (program : Round RoundEnd)
  | returned (result : Except ShortcutError Unit)
  | aborted

/-- The task of `run`. -/
structure Machine where
  broker : Broker
  position : Position := .between

/-- What can happen: a round begins, its wait is answered, or the task is aborted. -/
inductive Action where
  | begin (shutdown : Bool)
  | resume (answer : ∀ request, Answer request)
  | abort

namespace Machine

/-- `run` before its loop, `shortcut.rs:420-428`. -/
def start (snapshot : CoreSnapshot) (settings : ShortcutSettings) (profile : WidgetProfile) :
    Machine where
  broker :=
    { desired := desiredBinding snapshot settings profile
      history := [.desired (desiredBinding snapshot settings profile)] }

/-- A round has run to its next wait or to its end. -/
def settle (position : Round RoundEnd × Broker) : Machine where
  broker := position.2
  position :=
    match position.1 with
    | .done none => .between
    | .done (some result) => .returned result
    | program => .waiting program

def step (m : Machine) : Action → Option Machine
  | .begin shutdown =>
    match m.position with
    | .between => some (settle ((round shutdown).advance m.broker))
    | _ => none
  | .resume answer =>
    match m.position with
    | .waiting program => some (settle (program.resume answer m.broker))
    | _ => none
  | .abort =>
    match m.position with
    | .waiting _ => some { m with position := .aborted }
    | _ => none

end Machine

end OverCrow.Core.Portal
