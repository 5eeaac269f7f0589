import OverCrow.Config.Saving

/-!
# Commits of Warframe preferences

`crates/overcrow-overlay/src/warframe/controller.rs:29-76,549-638`. The controller holds the
preferences and a revision; a commit validates a candidate, saves it, and keeps it unless the save
fails with an error that was not committed.
-/

namespace OverCrow.Warframe
open OverCrow.Base OverCrow.Config

/-- `controller.rs:29`. -/
def warframePrefsErrorMaxChars : Nat := 180

/-- `controller.rs:626`. -/
def boundedWarframePrefsMessage (head error : String) : String :=
  let message := s!"{head}: {error}"
  if message.length ≤ warframePrefsErrorMaxChars then message
  else String.ofList (message.toList.take (warframePrefsErrorMaxChars - 1) ++ ['…'])

/-- `controller.rs:615`. -/
def boundedWarframePrefsError : String → String :=
  boundedWarframePrefsMessage "Could not apply Warframe preferences"

/-- `controller.rs:619`. -/
def boundedWarframePrefsDurabilityWarning : String → String :=
  boundedWarframePrefsMessage "Saved Warframe preferences, but durability is uncertain"

/-- `controller.rs:64`. -/
inductive WarframePrefsCommitFailure where
  | validation
  | filesystem
  deriving DecidableEq

/-- `controller.rs:52`. -/
inductive WarframePrefsCommitOutcome where
  | durable
  | committedWithWarning (message : String)
  | rolledBack (message : String) (category : WarframePrefsCommitFailure)
  deriving DecidableEq

/-- The preferences of the controller with their revision, and the file. -/
structure PrefsState where
  prefs : WarframePrefs
  revision : UInt64
  disk : Disk

namespace PrefsState

variable (save : WarframePrefs → Task Disk IoError PUnit)

/-- `controller.rs:549`. -/
def commitWarframePrefs (candidate : WarframePrefs) (s : PrefsState) :
    WarframePrefsCommitOutcome × PrefsState :=
  match candidate.validate with
  | .error error => (.rolledBack (boundedWarframePrefsError error.message) .validation, s)
  | .ok candidate =>
    match (save candidate).exec s.disk with
    | (.ok _, disk) => (.durable, { s with prefs := candidate, disk := disk })
    | (.error error, disk) =>
      if settingsSaveWasCommitted error then
        (.committedWithWarning (boundedWarframePrefsDurabilityWarning error.message),
          { s with prefs := candidate, disk := disk })
      else
        (.rolledBack (boundedWarframePrefsError error.message) .filesystem, { s with disk := disk })

/-- `controller.rs:585`. -/
def commitWarframePrefsIfDirty (dirty : Bool) (applyActions : WarframePrefs → WarframePrefs)
    (s : PrefsState) : Option WarframePrefsCommitOutcome × PrefsState :=
  if !dirty then (none, s)
  else
    let (outcome, s) := commitWarframePrefs save (applyActions s.prefs) s
    match outcome with
    | .durable | .committedWithWarning _ => (some outcome, { s with revision := s.revision + 1 })
    | .rolledBack _ _ => (some outcome, s)

/-- After an error that was not committed the controller holds what it held. -/
theorem commitWarframePrefsIfDirty_plain (s : PrefsState)
    (applyActions : WarframePrefs → WarframePrefs) {validated : WarframePrefs} {message : String}
    {disk : Disk} (hvalid : (applyActions s.prefs).validate = .ok validated)
    (hsave : (save validated).exec s.disk = (.error (.plain message), disk)) :
    (s.commitWarframePrefsIfDirty save true applyActions).2 = { s with disk := disk } := by
  unfold commitWarframePrefsIfDirty commitWarframePrefs
  rw [if_neg (by decide), hvalid]
  dsimp only
  rw [hsave]
  rfl

end PrefsState

end OverCrow.Warframe
