import OverCrow.Base.Run
import OverCrow.Config.Saving

/-!
# The saver of Twitch preferences

`crates/overcrow-overlay/src/twitch/prefs.rs` and its caller,
`crates/overcrow-overlay/src/app.rs:560-603`. A candidate is queued for a worker thread, which saves
it and publishes the outcome; the application keeps a saved candidate when it takes the outcome.
-/

namespace OverCrow.Twitch
open OverCrow.Base OverCrow.Config

/-- `prefs.rs:19`. -/
inductive TwitchPrefsSaveFailure where
  | validation
  | busy
  | filesystem
  | unavailable
  deriving DecidableEq

/-- `prefs.rs:37`. -/
inductive TwitchPrefsSaveOutcome where
  | durable (prefs : TwitchPrefs)
  | committedWithWarning (prefs : TwitchPrefs)
  | rolledBack (failure : TwitchPrefsSaveFailure)
  deriving DecidableEq

/-- The preferences of the application, the saver with its worker, and the file. -/
structure Saver where
  prefs : TwitchPrefs
  message : Option String := none
  /-- Whether the thread was spawned. -/
  worker : Bool
  busy : Bool := false
  commands : Option TwitchPrefs := none
  results : Option TwitchPrefsSaveOutcome := none
  disk : Disk

/-- `prefs.rs:116`. -/
def saveCandidate (candidate : TwitchPrefs) : Except IoError PUnit → TwitchPrefsSaveOutcome
  | .ok _ => .durable candidate
  | .error error =>
    if settingsSaveWasCommitted error then .committedWithWarning candidate
    else .rolledBack .filesystem

namespace Saver

/-- `prefs.rs:75`. -/
def trySave (candidate : TwitchPrefs) (s : Saver) : Except TwitchPrefsSaveFailure Unit × Saver :=
  match candidate.validate with
  | .error _ => (.error .validation, s)
  | .ok candidate =>
    if s.busy then (.error .busy, s)
    -- The flag is set here, and cleared again when the queue takes nothing.
    else if !s.worker || s.commands.isSome then (.error .unavailable, s)
    else (.ok (), { s with busy := true, commands := some candidate })

/-- `app.rs:560`. -/
def commitTwitchPrefs (candidate : TwitchPrefs) (s : Saver) : Bool × Saver :=
  match s.trySave candidate with
  | (.ok _, s) => (true, s)
  | (.error .busy, s) =>
    (false, { s with message := some "Twitch settings are still saving. Try again." })
  | (.error _, s) => (false, { s with message := some "Could not save Twitch widget settings." })

/-- A pass of the worker's loop, `prefs.rs:60-65`. -/
def work (path : PathBuf) (faults : SaveFaults) (s : Saver) : Option Saver :=
  s.commands.map fun candidate =>
    let (result, disk) := (TwitchPrefsStore.save path faults candidate).exec s.disk
    { s with commands := none, results := some (saveCandidate candidate result), disk := disk }

/-- `app.rs:580`. -/
def applyTwitchPrefsSave (s : Saver) : TwitchPrefsSaveOutcome → Saver
  | .durable candidate => { s with prefs := candidate, message := none }
  | .committedWithWarning candidate =>
    { s with
      prefs := candidate
      message := some "Saved, but storage durability could not be confirmed." }
  | .rolledBack _ => { s with message := some "Could not save Twitch widget settings." }

/-- `take_latest` and its caller, `prefs.rs:100` and
`app.rs:1001`. -/
def poll (s : Saver) : Saver :=
  match s.results with
  | none => s
  | some outcome =>
    let s := { s with results := none, busy := false }
    s.applyTwitchPrefsSave outcome

inductive Event where
  | commit (candidate : TwitchPrefs)
  | work (faults : SaveFaults)
  | poll

def step (path : PathBuf) (s : Saver) : Event → Option Saver
  | .commit candidate => some (s.commitTwitchPrefs candidate).2
  | .work faults => s.work path faults
  | .poll => some s.poll

/-- The application after its load of the preferences, `app.rs:327`. -/
def start (worker : Bool) (syntaxError : String) (disk : Disk) : Saver where
  prefs := (twitchPrefsStore.load { syntaxError := syntaxError } disk).value
  worker := worker
  disk := disk

end Saver

end OverCrow.Twitch
