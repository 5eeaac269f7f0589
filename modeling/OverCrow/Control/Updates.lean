import OverCrow.Base.Exclusive
import OverCrow.Base.Machine
import OverCrow.Control.Release

/-!
# The update controller

`UpdateController`, `crates/overcrow-control/src/updates.rs:196-560`, called from any number of
threads. A thread runs without interruption through a section under the lock and through a call of a
collaborator; `Place` is where it stands between two of these. The calls of the collaborators and of
the observers are logged.
-/

namespace OverCrow.Control
open OverCrow.Base

/-- `updates.rs:36`. -/
inductive UpdatePhase where
  | idle
  | checking
  | upToDate
  | available
  | downloading
  | installing
  | installed
  | restartRequired
  | manual
  | failed
  deriving DecidableEq

/-- `updates.rs:26`. -/
def controlUpdateSchemaVersion : Nat := 1

/-- `updates.rs:77`. -/
structure ControlUpdateState where
  schemaVersion : Nat
  phase : UpdatePhase
  currentVersion : String
  latestVersion : Option String
  installKind : UpdateInstallKind
  lastCheckedAt : Option String
  error : Option UpdateErrorCode
  deriving DecidableEq

/-- `updates.rs:206`. -/
structure UpdateInner where
  state : ControlUpdateState
  candidate : Option UpdateCandidate
  lastAttempt : Option Nat
  checkFailureActive : Bool
  installFailureActive : Bool

/-- `updates.rs:576`. -/
inductive FailureStage where
  | check
  | install
  deriving DecidableEq

/-- What a controller is made for, and the text of a time, `updates.rs:601`. -/
structure Updater where
  current : Version
  target : PackageTarget
  timestamp : Nat → String

/-- `updates.rs:29`. -/
def automaticCheckInterval : Duration := fromSecs (6 * 60 * 60)

/-- `updates.rs:30`. -/
def manualCheckInterval : Duration := fromSecs 60

/-- The least time between two queries, `updates.rs:362-366`. -/
def minimumInterval (force : Bool) : Duration :=
  if force then manualCheckInterval else automaticCheckInterval

namespace UpdateInner

/-- `new`, `updates.rs:282-305`. -/
def start (u : Updater) : UpdateInner where
  state :=
    { schemaVersion := controlUpdateSchemaVersion
      phase := .idle
      currentVersion := u.current.text
      latestVersion := none
      installKind := u.target.installKind
      lastCheckedAt := none
      error := none }
  candidate := none
  lastAttempt := none
  checkFailureActive := false
  installFailureActive := false

/-- The last attempt is too recent, `updates.rs:369-375`. -/
def tooRecent (inner : UpdateInner) (force : Bool) (now : Nat) : Bool :=
  (inner.lastAttempt.bind fun last => checkedDurationSince now last).any
    (· < minimumInterval force)

/-- `updates.rs:378-384`. -/
def checking (inner : UpdateInner) (now : Nat) : UpdateInner :=
  { inner with
    lastAttempt := some now
    candidate := none
    state := { inner.state with phase := .checking, latestVersion := none, error := none } }

/-- `updates.rs:395-417`. -/
def found (u : Updater) (inner : UpdateInner) (now : Nat) : Option UpdateCandidate → UpdateInner
  | some candidate =>
    { inner with
      candidate := some candidate
      state := { inner.state with
        lastCheckedAt := some (u.timestamp now)
        error := none
        latestVersion := some candidate.version.text
        phase := if u.target = .manual ∨ candidate.asset = none then .manual else .available } }
  | none =>
    { inner with
      candidate := none
      state := { inner.state with
        lastCheckedAt := some (u.timestamp now)
        error := none
        latestVersion := none
        phase := .upToDate } }

/-- The updates of `install_available_update`: `updates.rs:446-449`,
`460-463` and `467-473`. -/
def enter (inner : UpdateInner) (phase : UpdatePhase) : UpdateInner :=
  { inner with state := { inner.state with phase := phase, error := none } }

/-- `updates.rs:538-541`. -/
def failed (inner : UpdateInner) (error : UpdateError) : UpdateInner :=
  { inner with state := { inner.state with phase := .failed, error := some error.code } }

/-- The flag of a stage, `updates.rs:517-524` and `545-552`. -/
def setFailure (inner : UpdateInner) (active : Bool) : FailureStage → UpdateInner
  | .check => { inner with checkFailureActive := active }
  | .install => { inner with installFailureActive := active }

/-- The asset to install, `updates.rs:438-445`. -/
def assetToInstall (u : Updater) (inner : UpdateInner) : Option UpdateAsset :=
  inner.candidate.bind fun candidate => if u.target = .manual then none else candidate.asset

end UpdateInner

/-- The phase after an installation, `updates.rs:468-471`. -/
def InstallOutcome.phase : InstallOutcome → UpdatePhase
  | installed => .installed
  | restartRequired => .restartRequired

/-- A call of a collaborator or of an observer, with what is stored then. -/
inductive UpdateEffect where
  | query (query : ReleaseQuery) (force : Bool) (now : Nat)
      (result : Except UpdateError (Option UpdateCandidate))
  | download (asset : UpdateAsset) (result : Except UpdateError VerifiedPackage)
  | beforeInstall (result : Except UpdateError Unit)
  | install (package : VerifiedPackage) (target : PackageTarget)
      (result : Except UpdateError InstallOutcome)
  | observe (shown stored : ControlUpdateState)

/-- What the threads share: `active` is `operation_active`, and `clock` the last reading. -/
structure UpdateShared where
  inner : UpdateInner
  active : Bool := false
  clock : Nat := 0
  log : List UpdateEffect := []

inductive UpdateCall where
  | check (force : Bool)
  | installAvailableUpdate

abbrev UpdateResult := Except UpdateError ControlUpdateState

/-- Where a thread stands. -/
inductive UpdatePlace where
  | outside (last : Option UpdateResult)
  | beginOperation (call : UpdateCall)
  | readClock (force : Bool)
  | compareInterval (force : Bool) (now : Nat)
  | publishChecking (force : Bool) (now : Nat)
  | observeChecking (force : Bool) (now : Nat) (shown : ControlUpdateState)
  | query (force : Bool) (now : Nat)
  | clearCheckFailure (now : Nat) (candidate : Option UpdateCandidate)
  | publishFound (now : Nat) (candidate : Option UpdateCandidate)
  | selectCandidate
  | publishDownloading (asset : UpdateAsset)
  | observeDownloading (asset : UpdateAsset) (shown : ControlUpdateState)
  | download (asset : UpdateAsset)
  | beforeInstall (asset : UpdateAsset) (package : VerifiedPackage)
  | publishInstalling (asset : UpdateAsset) (package : VerifiedPackage)
  | observeInstalling (asset : UpdateAsset) (package : VerifiedPackage) (shown : ControlUpdateState)
  | install (asset : UpdateAsset) (package : VerifiedPackage)
  | clearInstallFailure (outcome : InstallOutcome)
  | publishInstalled (outcome : InstallOutcome)
  | markFailure (stage : FailureStage) (error : UpdateError)
  | publishFailure (error : UpdateError)
  | observeResult (shown : ControlUpdateState)
  | dropGuard (result : UpdateResult)

/-- What a step is given: the call of the thread, the clock, or the answer of a collaborator. -/
inductive UpdateInput where
  | call (call : UpdateCall)
  | go
  | clock (now : Nat)
  | release (result : Except UpdateError (Option UpdateCandidate))
  | package (result : Except UpdateError VerifiedPackage)
  | prepared (result : Except UpdateError Unit)
  | installed (result : Except UpdateError InstallOutcome)

namespace UpdateShared

def record (s : UpdateShared) (effect : UpdateEffect) : UpdateShared :=
  { s with log := s.log ++ [effect] }

/-- The observer is called after the lock was given back, `updates.rs:499-505`. -/
def observe (s : UpdateShared) (shown : ControlUpdateState) : UpdateShared :=
  s.record (.observe shown s.inner.state)

/-- A section under the lock. -/
def update (s : UpdateShared) (f : UpdateInner → UpdateInner) : UpdateShared :=
  { s with inner := f s.inner }

end UpdateShared

/-- One step of a thread in `check`, `install_available_update`, `publish_failure` or at the guard,
`updates.rs:356-543,590-598`. -/
def advance (u : Updater) (s : UpdateShared) :
    UpdatePlace → UpdateInput → Option (UpdateShared × UpdatePlace)
  | .outside _, .call call => some (s, .beginOperation call)
  | .beginOperation call, .go =>
    if s.active then some (s, .outside (some (.error .operationBusy)))
    else
      let s := { s with active := true }
      match call with
      | .check force => some (s, .readClock force)
      | .installAvailableUpdate => some (s, .selectCandidate)
  -- `check`
  | .readClock force, .clock now =>
    if s.clock ≤ now then some ({ s with clock := now }, .compareInterval force now) else none
  | .compareInterval force now, .go =>
    if s.inner.tooRecent force now then some (s, .dropGuard (.ok s.inner.state))
    else some (s, .publishChecking force now)
  | .publishChecking force now, .go =>
    let s := s.update (·.checking now)
    some (s, .observeChecking force now s.inner.state)
  | .observeChecking force now shown, .go => some (s.observe shown, .query force now)
  | .query force now, .release result =>
    let query := ⟨u.current, ReleaseChannel.fromCurrent u.current, u.target⟩
    let s := s.record (.query query force now result)
    match result with
    | .ok candidate => some (s, .clearCheckFailure now candidate)
    | .error error => some (s, .markFailure .check error)
  | .clearCheckFailure now candidate, .go =>
    some (s.update (·.setFailure false .check), .publishFound now candidate)
  | .publishFound now candidate, .go =>
    let s := s.update fun inner => inner.found u now candidate
    some (s, .observeResult s.inner.state)
  -- `install_available_update`
  | .selectCandidate, .go =>
    match s.inner.assetToInstall u with
    | none => some (s, .dropGuard (.error .unavailable))
    | some asset => some (s, .publishDownloading asset)
  | .publishDownloading asset, .go =>
    let s := s.update (·.enter .downloading)
    some (s, .observeDownloading asset s.inner.state)
  | .observeDownloading asset shown, .go => some (s.observe shown, .download asset)
  | .download asset, .package result =>
    let s := s.record (.download asset result)
    match result with
    | .ok package => some (s, .beforeInstall asset package)
    | .error error => some (s, .markFailure .install error)
  | .beforeInstall asset package, .prepared result =>
    let s := s.record (.beforeInstall result)
    match result with
    | .ok _ => some (s, .publishInstalling asset package)
    | .error error => some (s, .markFailure .install error)
  | .publishInstalling asset package, .go =>
    let s := s.update (·.enter .installing)
    some (s, .observeInstalling asset package s.inner.state)
  | .observeInstalling asset package shown, .go => some (s.observe shown, .install asset package)
  | .install _ package, .installed result =>
    let s := s.record (.install package u.target result)
    match result with
    | .ok outcome => some (s, .clearInstallFailure outcome)
    | .error error => some (s, .markFailure .install error)
  | .clearInstallFailure outcome, .go =>
    some (s.update (·.setFailure false .install), .publishInstalled outcome)
  | .publishInstalled outcome, .go =>
    let s := s.update (·.enter outcome.phase)
    some (s, .observeResult s.inner.state)
  -- `publish_failure`
  | .markFailure stage error, .go =>
    some (s.update (·.setFailure true stage), .publishFailure error)
  | .publishFailure error, .go =>
    let s := s.update (·.failed error)
    some (s, .observeResult s.inner.state)
  | .observeResult shown, .go => some (s.observe shown, .dropGuard (.ok shown))
  | .dropGuard result, .go => some ({ s with active := false }, .outside (some result))
  | _, _ => none

/-- The threads and what they share. -/
abbrev UpdateController := Threads UpdateShared UpdatePlace

namespace UpdateController

def start (u : Updater) : UpdateController where
  shared := { inner := .start u }
  threads _ := .outside none

def step (u : Updater) (s : UpdateController) (event : Nat × UpdateInput) :
    Option UpdateController :=
  Threads.step (advance u) s event

end UpdateController

end OverCrow.Control
