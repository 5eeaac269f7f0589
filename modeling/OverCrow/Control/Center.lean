import OverCrow.Base.Run
import OverCrow.Control.Lifecycle

/-!
# The Control Center

`ControlController`, `crates/overcrow-control/src/app.rs:233-830`, with its lifecycle worker and
the settings file. The worker is a thread of its own: it runs a transaction, takes a snapshot, and
its completion is polled later. Diagnostics are computed from this state and are left out.
-/

namespace OverCrow.Control
open OverCrow.Base OverCrow.Config

/-- `app.rs:139`. -/
inductive NoticeOperation where
  | selectionSave
  | refresh
  | picker
  | lifecycle
  deriving DecidableEq

/-- `UiNoticeLevel`, `app.rs:133`. -/
inductive NoticeLevel where
  | warning
  | error
  deriving DecidableEq

/-- `app.rs:100`. -/
inductive SaveOutcome where
  | saved
  | committedWithWarning
  | rolledBack
  | unchanged
  deriving DecidableEq

/-- `app.rs:115`. -/
inductive PickerResult where
  | selected (path : PathBuf)
  | cancelledOrUnavailable
  | failed (worker : String)

/-- The thread of `request_master_toggle`, `app.rs:505-516`. -/
inductive Worker where
  | operating (requested : Bool) (settings : OrderedSettings)
  | snapshotting (requested : Bool) (result : Except LifecycleError Unit)
  | finished (requested : Bool) (result : Except LifecycleError Unit) (load : Load OrderedSettings)
      (status : LifecycleStatus)

/-- A selection write: whether a worker was there, and the last known status. -/
structure SelectionWrite where
  working : Bool
  status : LifecycleStatus
  deriving DecidableEq

/-- The controller and the settings file. -/
structure ControlCenter where
  model : ControlModel
  status : LifecycleStatus
  worker : Option Worker := none
  notices : NoticeOperation → Option (NoticeLevel × String) := fun _ => none
  disk : Disk
  /-- The selection writes that were issued. -/
  writes : List SelectionWrite := []

namespace ControlCenter

variable (identity : Identity) (path : PathBuf)

/-- `app.rs:812`. -/
def setNotice (s : ControlCenter) (operation : NoticeOperation) (level : NoticeLevel)
    (message : String) : ControlCenter :=
  { s with notices := fun other =>
      if other = operation then some (level, message) else s.notices other }

/-- `app.rs:821`. -/
def clearNotice (s : ControlCenter) (operation : NoticeOperation) : ControlCenter :=
  { s with notices := fun other => if other = operation then none else s.notices other }

/-- `app.rs:537`. -/
def selectionEditingEnabled (s : ControlCenter) : Bool :=
  s.worker.isNone && s.status = .disabled

/-- A change of the model, and whether it changed the selection. -/
abbrev Mutation := ControlModel → Except SelectionError (ControlModel × Bool)

/-- The write of a transaction, `app.rs:772-803`, with the settings from
before the change. -/
def saveTransaction (faults : SaveFaults) (prior : OrderedSettings) (s : ControlCenter) :
    SaveOutcome × ControlCenter :=
  let (result, disk) :=
    (ControlModel.saveSelections identity path faults s.model.settings).exec s.disk
  let s := { s with
    disk := disk
    writes := s.writes ++ [SelectionWrite.mk s.worker.isSome s.status] }
  match result with
  | .ok _ => (.saved, s.clearNotice .selectionSave)
  | .error error =>
    if settingsSaveWasCommitted error then
      (.committedWithWarning, s.setNotice .selectionSave .warning
        s!"Change was applied, but settings durability could not be confirmed: {error.message}")
    else
      let s := { s with model := { s.model with settings := prior } }
      (.rolledBack, s.setNotice .selectionSave .error
        s!"Could not save game selection: {error.message}")

/-- `app.rs:750`. -/
def selectionTransaction (faults : SaveFaults) (mutate : Mutation) (s : ControlCenter) :
    Except SelectionError SaveOutcome × ControlCenter :=
  if !s.selectionEditingEnabled then (.ok .unchanged, s)
  else
    match mutate s.model with
    | .error error => (.error error, s)
    | .ok (model, changed) =>
      if !changed then (.ok .unchanged, { s with model := model })
      else
        let (outcome, s) := saveTransaction identity path faults s.model.settings
          { s with model := model }
        (.ok outcome, s)

/-- The change of `set_steam_selected`, `app.rs:573-578`. -/
def setSteamSelectedMutation (appId : UInt32) (selected : Bool) : Mutation := fun model =>
  let changed := model.setSteamSelected appId selected
  .ok (changed, model.settings.selectedSteamAppIds.contains appId !=
    changed.settings.selectedSteamAppIds.contains appId)

/-- The change of `remove_manual_game`, `app.rs:583`. -/
def removeManualGameMutation (id : String) : Mutation := fun model =>
  let changed := model.removeManualGame id
  .ok (changed, changed.settings.manualGames.length != model.settings.manualGames.length)

/-- The change of `handle_picker_result`, `app.rs:739`. -/
def addManualGameMutation (name : String) (executable : PathBuf) : Mutation := fun model =>
  (model.addManualGame identity name executable).map fun changed => (changed, true)

/-- `app.rs:846`. -/
def nativeGameName (path : PathBuf) : Option String :=
  (fileName path).bind fun name =>
    let name := trim (String.ofList name)
    if name.isEmpty then none else some name

/-- `app.rs:721`. -/
def handlePickerResult (faults : SaveFaults) (s : ControlCenter) : PickerResult → ControlCenter
  | .cancelledOrUnavailable => s.clearNotice .picker
  | .failed worker =>
    s.setNotice .picker .error s!"Could not add native game: picker worker failed: {worker}"
  | .selected executable =>
    let s := s.clearNotice .picker
    match nativeGameName executable with
    | none =>
      s.setNotice .picker .error "Could not add native game: executable name is unavailable"
    | some name =>
      match selectionTransaction identity path faults
        (addManualGameMutation identity name executable) s with
      | (.ok _, s) => s
      | (.error error, s) =>
        s.setNotice .picker .error s!"Could not add native game: {error.message}"

/-- `poll_refresh` with the result of discovery, `app.rs:631`. -/
def pollRefresh (s : ControlCenter) : Except String (List SteamGame) → ControlCenter
  | .ok games =>
    let s := { s with model := { s.model with games := games } }
    s.clearNotice .refresh
  | .error error => s.setNotice .refresh .error s!"Game discovery failed: {error}"

/-- `app.rs:471`. -/
def requestMasterToggle (requested : Bool) (spawning : Option String) (s : ControlCenter) :
    ControlCenter :=
  if s.worker.isSome then s
  else if requested && s.status = .warning then
    s.setNotice .lifecycle .error "Clean up the settings warning before enabling OverCrow"
  else if requested && s.model.settings.selectedSteamAppIds.isEmpty &&
      s.model.settings.manualGames.isEmpty then
    s.setNotice .lifecycle .error "Select at least one game before enabling OverCrow"
  else
    match spawning with
    | some error =>
      s.setNotice .lifecycle .error s!"Could not start lifecycle transaction: {error}"
    | none =>
      { s.clearNotice .lifecycle with worker := some (.operating requested s.model.settings) }

/-- The worker's transaction, `app.rs:506-510`. -/
def workerTransaction (c : Collaborators) (s : ControlCenter) : Option ControlCenter :=
  match s.worker with
  | some (.operating requested settings) =>
    let (result, after) :=
      if requested then enable c path settings { disk := s.disk }
      else disable c path { disk := s.disk }
    some { s with disk := after.disk, worker := some (.snapshotting requested result) }
  | _ => none

/-- The worker's snapshot, `app.rs:511-515`. -/
def workerSnapshot (io : LoadIo) (s : ControlCenter) : Option ControlCenter :=
  match s.worker with
  | some (.snapshotting requested result) =>
    let (load, status) := lifecycleSnapshot io s.disk
    some { s with worker := some (.finished requested result load status) }
  | _ => none

/-- `app.rs:541`. -/
def pollLifecycle (s : ControlCenter) : ControlCenter :=
  match s.worker with
  | some (.finished _ result load status) =>
    let s := { s with
      worker := none
      model := s.model.applySettingsLoad identity load
      status := status }
    match result with
    | .ok _ => s.clearNotice .lifecycle
    | .error error =>
      s.setNotice .lifecycle .error s!"Lifecycle transaction failed: {error.message}"
  | _ => s

/-- What happens to the controller, and what the file system and the collaborators then do. -/
inductive Event where
  | setSteamSelected (appId : UInt32) (selected : Bool) (faults : SaveFaults)
  | removeManualGame (id : String) (faults : SaveFaults)
  | pickerResult (result : PickerResult) (faults : SaveFaults)
  | refreshCompleted (report : Except String (List SteamGame))
  | masterToggle (requested : Bool) (spawning : Option String)
  | workerTransaction (c : Collaborators)
  | workerSnapshot (io : LoadIo)
  | pollLifecycle

def step (s : ControlCenter) : Event → Option ControlCenter
  | .setSteamSelected appId selected faults =>
    some (selectionTransaction identity path faults (setSteamSelectedMutation appId selected) s).2
  | .removeManualGame id faults =>
    some (selectionTransaction identity path faults (removeManualGameMutation id) s).2
  | .pickerResult result faults => some (handlePickerResult identity path faults s result)
  | .refreshCompleted report => some (s.pollRefresh report)
  | .masterToggle requested spawning => some (s.requestMasterToggle requested spawning)
  | .workerTransaction c => s.workerTransaction path c
  | .workerSnapshot io => s.workerSnapshot io
  | .pollLifecycle => some (s.pollLifecycle identity)

/-- `production`, `app.rs:248`: a load for the model, which does not
fail, and one for the status. -/
def start (syntaxError : String) (io : LoadIo) (disk : Disk) : ControlCenter :=
  let load := lifecycleStore.load { syntaxError := syntaxError } disk
  { model := ControlModel.applySettingsLoad identity { settings := load.value } load
    status := (lifecycleSnapshot io disk).2
    disk := disk }

end ControlCenter

end OverCrow.Control
