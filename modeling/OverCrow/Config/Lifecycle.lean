import OverCrow.Base.Text

/-!
# Lifecycle settings and the game allowlist

`crates/overcrow-config/src/model.rs` and `crates/overcrow-config/src/allowlist.rs`.
An allowlist is read from enabled and valid settings only; it authorises a process by a
selected Steam application or by an executable of its ancestor chain.
-/

namespace OverCrow.Config
open OverCrow.Base

/-- `model.rs:5`. -/
def settingsSchemaVersion : Nat := 1

/-- `model.rs:9`. -/
structure ShortcutSettings where
  enabled : Bool := true
  accelerator : String := "Meta+Alt+O"
  deriving DecidableEq, Inhabited

/-- `model.rs:16`. -/
structure ManualGame where
  id : String
  name : String
  executable : PathBuf
  deriving DecidableEq, Inhabited

/-- `model.rs:24`. The selected Steam applications are the
members of the source's ordered set, in its order. -/
structure LifecycleSettings where
  schemaVersion : Nat := settingsSchemaVersion
  enabled : Bool := false
  selectedSteamAppIds : List UInt32 := []
  manualGames : List ManualGame := []
  shortcut : ShortcutSettings := {}
  deriving DecidableEq, Inhabited

/-- `model.rs:77`. -/
inductive SettingsError where
  | unsupportedSchemaVersion
  | zeroSteamAppId
  | duplicateManualId
  | nonAbsoluteExecutable
  | malformedAccelerator
  deriving DecidableEq

/-- `Display` of `SettingsError`, `model.rs:86`. -/
def SettingsError.message : SettingsError → String
  | .unsupportedSchemaVersion => "unsupported settings schema version"
  | .zeroSteamAppId => "Steam app ID must not be zero"
  | .duplicateManualId => "manual game IDs must be unique"
  | .nonAbsoluteExecutable => "manual game executable must be absolute"
  | .malformedAccelerator => "shortcut accelerator is malformed"

/-- Rank of an accelerator modifier, `model.rs:132`. -/
def modifierRank (part : List Char) : Option Nat :=
  if part = "Meta".toList then some 0
  else if part = "Ctrl".toList then some 1
  else if part = "Alt".toList then some 2
  else if part = "Shift".toList then some 3
  else none

/-- The loop of `accelerator_is_valid`, `model.rs:122`, over the
parts still to be read. The last part is a single key after at least one modifier; the
others are modifiers of strictly increasing rank that were not seen before. -/
def acceleratorParts (modifiers : List (List Char)) (previousRank : Option Nat) :
    List (List Char) → Bool
  | [] => false
  | [key] => !modifiers.isEmpty && match key with
    | [c] => isAsciiAlphanumeric c
    | _ => false
  | part :: rest =>
    match modifierRank part with
    | none => false
    | some rank =>
      if previousRank.any (rank ≤ ·) || modifiers.contains part then false
      else acceleratorParts (part :: modifiers) (some rank) rest

/-- `model.rs:116`. -/
def acceleratorIsValid (accelerator : String) : Bool :=
  acceleratorParts [] none (accelerator.toList.splitOn '+')

/-- The loop over manual games in `validate`, `model.rs:58`. -/
def validateManualGames (manualIds : List String) : List ManualGame → Except SettingsError Unit
  | [] => .ok ()
  | game :: rest =>
    if manualIds.contains game.id then .error .duplicateManualId
    else if !game.executable.isAbsolute then .error .nonAbsoluteExecutable
    else validateManualGames (game.id :: manualIds) rest

/-- `model.rs:49`. -/
def LifecycleSettings.validate (settings : LifecycleSettings) :
    Except SettingsError LifecycleSettings :=
  if settings.schemaVersion ≠ settingsSchemaVersion then .error .unsupportedSchemaVersion
  else if settings.selectedSteamAppIds.contains 0 then .error .zeroSteamAppId
  else match validateManualGames [] settings.manualGames with
    | .error error => .error error
    | .ok () =>
      if acceleratorIsValid settings.shortcut.accelerator then .ok settings
      else .error .malformedAccelerator

/-- Validation returns the settings it was given. -/
theorem LifecycleSettings.eq_of_validate {settings validated : LifecycleSettings}
    (h : settings.validate = .ok validated) : validated = settings := by
  unfold LifecycleSettings.validate at h
  split at h
  · cases h
  split at h
  · cases h
  split at h
  · cases h
  split at h
  · exact (Except.ok.inj h).symm
  · cases h

/-- The default settings pass their own check. -/
theorem validate_default : ({} : LifecycleSettings).validate = .ok {} := by decide

/-- `allowlist.rs:10`. Its equality compares
the executables as paths. -/
structure ProcessIdentity where
  steamAppId : Option UInt32 := none
  executableChain : List PathBuf := []
  gameCandidate : Bool := false
  deriving BEq, Inhabited

/-- An identity equals itself. -/
theorem ProcessIdentity.beq_self (identity : ProcessIdentity) : (identity == identity) = true := by
  have hchain (paths : List PathBuf) : (paths == paths) = true := by
    induction paths with
    | nil => rfl
    | cons p rest ih =>
      change ((p == p) && (rest == rest)) = true
      rw [PathBuf.beq_self, ih]
      rfl
  change (identity.steamAppId == identity.steamAppId &&
    (identity.executableChain == identity.executableChain &&
      identity.gameCandidate == identity.gameCandidate)) = true
  simp [hchain]

/-- `allowlist.rs:18`. -/
structure GameAllowlist where
  steamAppIds : List UInt32 := []
  manualExecutables : List PathBuf := []
  deriving Inhabited

namespace GameAllowlist

/-- `allowlist.rs:24`: disabled
or invalid settings select nothing. -/
def fromSettings (settings : LifecycleSettings) : GameAllowlist :=
  if !settings.enabled || !settings.validate.isOk then {}
  else
    { steamAppIds := settings.selectedSteamAppIds
      manualExecutables := settings.manualGames.map ManualGame.executable }

/-- `allowlist.rs:39`. -/
def allowsIdentity (allowlist : GameAllowlist) (identity : ProcessIdentity) : Bool :=
  (identity.steamAppId.filter (· ≠ 0)).any (allowlist.steamAppIds.contains ·) ||
    identity.executableChain.any fun path => allowlist.manualExecutables.any (· == path)

/-- `allowlist.rs:51`. -/
def anySelectedProcess (allowlist : GameAllowlist) (pids : List UInt32)
    (classify : UInt32 → ProcessIdentity) : Bool :=
  pids.any fun pid => allowlist.allowsIdentity (classify pid)

/-- No allowlist authorises the identity of a process that was not found. -/
theorem allowsIdentity_default (allowlist : GameAllowlist) :
    allowlist.allowsIdentity {} = false := rfl

end GameAllowlist

end OverCrow.Config
