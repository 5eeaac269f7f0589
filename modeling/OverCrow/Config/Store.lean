import OverCrow.Config.Encoding

/-!
# The stores of settings and preferences

`crates/overcrow-config/src/store.rs`, and the stores of `twitch_prefs.rs` and `warframe_prefs.rs`.
A store replaces its file by renaming a temporary one over it. The file system is the file at the
store's path, and each of its steps may fail; the text of a `serde_json` error is given.
-/

namespace OverCrow.Config
open OverCrow.Base

/-! ### Files -/

/-- A file, with the permission bits of its mode. -/
structure StoredFile where
  regular : Bool
  mode : Nat
  contents : ByteArray

/-- What stands at the path of a store, and how often it was replaced. -/
structure Disk where
  file : Option StoredFile := none
  replaced : Nat := 0

/-- The temporary file is renamed over the destination. -/
def Disk.replace (disk : Disk) (contents : ByteArray) : Disk where
  file := some { regular := true, mode := 0o600, contents := contents }
  replaced := disk.replaced + 1

/-- An `io::Error`: one with a message, or a `CommittedSettingsSaveError`. -/
inductive IoError where
  | plain (message : String)
  | committed (source : String)
  deriving DecidableEq

/-- `Display` of an error, `store.rs:50`. -/
def IoError.message : IoError → String
  | plain message => message
  | committed source => s!"settings were replaced but parent directory sync failed: {source}"

/-- `store.rs:67`. -/
def settingsSaveWasCommitted : IoError → Bool
  | .plain _ => false
  | .committed _ => true

/-- The steps of a save that the file system may fail. -/
inductive SaveStep where
  | createDir
  | createTemporary
  | setPermissions
  | write
  | flush
  | syncFile
  | persist
  | openParent
  | syncParent
  deriving DecidableEq

/-- The error of each step that fails. -/
abbrev SaveFaults := SaveStep → Option String

/-- A step that fails ends the save. -/
def attempt (faults : SaveFaults) (step : SaveStep) : Task Disk IoError PUnit :=
  match faults step with
  | none => pure ⟨⟩
  | some message => throw (.plain message)

def attemptAll (faults : SaveFaults) : List SaveStep → Task Disk IoError PUnit
  | [] => pure ⟨⟩
  | step :: steps => do
    attempt faults step
    attemptAll faults steps

/-- Whether `parent` of a path is there and is not empty, `store.rs:220`. -/
def hasParentDirectory (path : PathBuf) : Bool := 2 ≤ path.components.length

/-- The parent directory of a save. -/
def parentDirectory (path : PathBuf) : Task Disk IoError PUnit :=
  if hasParentDirectory path then pure ⟨⟩
  else throw (.plain "user configuration directory unavailable")

def liftResult {α : Type} : Except String α → Task Disk IoError α
  | .ok a => pure a
  | .error message => throw (.plain message)

/-! ### Kinds of stores -/

/-- What a store keeps, how it is checked and written, its limit, and the words of its messages. -/
structure StoreKind (α : Type) where
  validate : α → Except String α
  toJson : α → Json
  ofJson : Json → Option α
  default : α
  maxBytes : Nat
  /-- What the messages call the file. -/
  noun : String
  /-- The warning about a file that is too large. -/
  tooLarge : String
  /-- Validation gives values that it leaves alone. -/
  validate_validate : ∀ {v w}, validate v = .ok w → validate w = .ok w
  /-- What validation gives reads back. -/
  ofJson_toJson : ∀ {v w}, validate v = .ok w → ofJson (toJson w) = some w

namespace StoreKind

variable {α : Type} (kind : StoreKind α)

/-- The bytes of a value. -/
def bytes (v : α) : ByteArray := Json.prettyLine (kind.toJson v)

/-- The value of a store's file, whatever its size. -/
def read (syntaxError : String) (contents : ByteArray) : Except String α :=
  match (Json.fromSlice contents).bind kind.ofJson with
  | none => .error syntaxError
  | some v => kind.validate v

theorem read_bytes {v w : α} (h : kind.validate v = .ok w) (syntaxError : String) :
    kind.read syntaxError (kind.bytes w) = .ok w := by
  rw [read, bytes, Json.fromSlice_prettyLine, Option.bind_some, kind.ofJson_toJson h]
  exact kind.validate_validate h

end StoreKind

/-- How the operations of a load go, and the text of an error of `serde_json`. -/
structure LoadIo where
  opening : Option String := none
  inspecting : Option String := none
  reading : Option String := none
  syntaxError : String := ""

/-- A load whose operations do not fail. -/
structure LoadIo.Undisturbed (io : LoadIo) : Prop where
  opening : io.opening = none
  inspecting : io.inspecting = none
  reading : io.reading = none

/-- `SettingsLoad`, `TwitchPrefsLoad` and `WarframePrefsLoad`. -/
structure Load (α : Type) where
  value : α
  warning : Option String

/-- `load` of the three stores: `store.rs:144`,
`crates/overcrow-config/src/twitch_prefs.rs:145` and
`crates/overcrow-config/src/warframe_prefs.rs:592`. -/
def StoreKind.load {α : Type} (kind : StoreKind α) (io : LoadIo) (disk : Disk) : Load α :=
  let rejected (warning : String) : Load α := ⟨kind.default, some warning⟩
  match io.opening, disk.file with
  | some error, _ => rejected s!"refusing unsafe {kind.noun}: {error}"
  | none, none => ⟨kind.default, none⟩
  | none, some file =>
    match io.inspecting with
    | some error => rejected s!"could not inspect opened {kind.noun}: {error}"
    | none =>
      if !file.regular || file.mode != 0o600 then
        rejected s!"refusing to read unsafe {kind.noun}: expected a regular 0600 file"
      else match io.reading with
        | some error => rejected s!"could not read {kind.noun}: {error}"
        | none =>
          if kind.maxBytes < file.contents.size then rejected kind.tooLarge
          else match kind.read io.syntaxError file.contents with
            | .error error => rejected s!"invalid {kind.noun}: {error}"
            | .ok v => ⟨v, none⟩

/-- Loads that do not fail differ in the text of a warning at most. -/
theorem StoreKind.value_load {α : Type} (kind : StoreKind α) {io other : LoadIo}
    (hio : io.Undisturbed) (hother : other.Undisturbed) (disk : Disk) :
    (kind.load io disk).value = (kind.load other disk).value := by
  unfold load
  rw [hio.opening, hio.inspecting, hio.reading, hother.opening, hother.inspecting, hother.reading]
  cases disk.file with
  | none => rfl
  | some file =>
    dsimp only
    split
    · rfl
    split
    · rfl
    unfold read
    cases (Json.fromSlice file.contents).bind kind.ofJson with
    | none => rfl
    | some v => rfl

/-! ### The three stores -/

/-- `store.rs:16`. -/
def settingsMaxBytes : Nat := 1024 * 1024

/-- `twitch_prefs.rs:17`. -/
def twitchPrefsMaxBytes : Nat := 16 * 1024

/-- `warframe_prefs.rs:18`. -/
def warframePrefsMaxBytes : Nat := 64 * 1024

/-- Lifecycle settings whose selected applications are in the order of the source's set. -/
structure OrderedSettings extends LifecycleSettings where
  ordered : selectedSteamAppIds.Pairwise (· < ·)

namespace OrderedSettings

theorem eq_of_settings {a b : OrderedSettings}
    (h : a.toLifecycleSettings = b.toLifecycleSettings) : a = b := by
  cases b
  cases h
  rfl

/-- `LifecycleSettings::validate`. -/
def validate (settings : OrderedSettings) : Except String OrderedSettings :=
  match settings.toLifecycleSettings.validate with
  | .ok _ => .ok settings
  | .error error => .error error.message

/-- The settings of a file. -/
def ofJson (v : Json) : Option OrderedSettings :=
  match h : LifecycleSettings.ofJson v with
  | none => none
  | some settings => some ⟨settings, LifecycleSettings.ordered_of_ofJson h⟩

def toJson (settings : OrderedSettings) : Json := settings.toLifecycleSettings.toJson

variable {settings validated : OrderedSettings}

section

variable (h : settings.validate = .ok validated)

include h

theorem validate_eq_ok : validated = settings := by
  unfold validate at h
  split at h
  · exact (Except.ok.inj h).symm
  · cases h

theorem of_validate : settings.toLifecycleSettings.validate = .ok settings.toLifecycleSettings := by
  unfold validate at h
  split at h
  · next valid hvalid => rw [hvalid, LifecycleSettings.eq_of_validate hvalid]
  · cases h

theorem schemaVersion_of_validate : settings.schemaVersion = settingsSchemaVersion := by
  unfold validate at h
  split at h
  · next hvalid =>
    by_contra hschema
    rw [LifecycleSettings.validate, if_pos hschema] at hvalid
    cases hvalid
  · cases h

theorem ofJson_toJson : ofJson validated.toJson = some validated := by
  have hschema : settings.schemaVersion ≤ u32Max := schemaVersion_of_validate h ▸ by decide
  obtain rfl := validate_eq_ok h
  have hread : LifecycleSettings.ofJson validated.toJson = some validated.toLifecycleSettings :=
    LifecycleSettings.ofJson_toJson hschema validated.ordered
  unfold ofJson
  split
  · next hnone => rw [hread] at hnone; cases hnone
  · next read hsome =>
    rw [hread] at hsome
    cases hsome
    rfl

end

end OrderedSettings

/-- `SettingsStore`, `store.rs:25`. -/
def lifecycleStore : StoreKind OrderedSettings where
  validate := OrderedSettings.validate
  toJson := OrderedSettings.toJson
  ofJson := OrderedSettings.ofJson
  default := ⟨{}, List.Pairwise.nil⟩
  maxBytes := settingsMaxBytes
  noun := "lifecycle settings"
  tooLarge := "could not read lifecycle settings: " ++
    s!"settings file is too large (maximum {settingsMaxBytes} bytes)"
  validate_validate h := OrderedSettings.validate_eq_ok h ▸ h
  ofJson_toJson := OrderedSettings.ofJson_toJson

/-- `twitch_prefs.rs:125`. -/
def twitchPrefsStore : StoreKind TwitchPrefs where
  validate prefs := prefs.validate.mapError TwitchPrefsError.message
  toJson := TwitchPrefs.toJson
  ofJson := TwitchPrefs.ofJson
  default := {}
  maxBytes := twitchPrefsMaxBytes
  noun := "Twitch preferences"
  tooLarge := s!"Twitch preferences file is too large (maximum {twitchPrefsMaxBytes} bytes)"
  validate_validate h :=
    mapError_eq_ok.mpr (TwitchPrefs.normal_of_validate (mapError_eq_ok.mp h)).validate
  ofJson_toJson h := (TwitchPrefs.normal_of_validate (mapError_eq_ok.mp h)).ofJson_toJson

/-- `warframe_prefs.rs:568`. -/
def warframePrefsStore : StoreKind WarframePrefs where
  validate prefs := prefs.validate.mapError WarframePrefsError.message
  toJson := WarframePrefs.toJson
  ofJson := WarframePrefs.ofJson
  default := {}
  maxBytes := warframePrefsMaxBytes
  noun := "warframe prefs"
  tooLarge := s!"warframe prefs file is too large (maximum {warframePrefsMaxBytes} bytes)"
  validate_validate h :=
    mapError_eq_ok.mpr (WarframePrefs.normal_of_validate (mapError_eq_ok.mp h)).validate
  ofJson_toJson h := (WarframePrefs.normal_of_validate (mapError_eq_ok.mp h)).ofJson_toJson

theorem TwitchPrefs.Normal.store_validate {prefs : TwitchPrefs} (h : prefs.Normal) :
    twitchPrefsStore.validate prefs = .ok prefs := mapError_eq_ok.mpr h.validate

theorem WarframePrefs.Normal.store_validate {prefs : WarframePrefs} (h : prefs.Normal) :
    warframePrefsStore.validate prefs = .ok prefs := mapError_eq_ok.mpr h.validate

/-! ### Saving -/

/-- The error of a step after the rename that is reported as committed. -/
def IoError.commit (error : IoError) : IoError := .committed error.message

/-- The steps of a save of lifecycle settings up to the rename. -/
def settingsSteps : List SaveStep :=
  [.createDir, .createTemporary, .write, .flush, .setPermissions, .syncFile, .persist]

/-- The steps of a save of preferences up to the rename. -/
def prefsSteps : List SaveStep :=
  [.createDir, .createTemporary, .setPermissions, .write, .flush, .syncFile, .persist]

/-- `SettingsStore::save_with_writer`, `store.rs:210`. -/
def SettingsStore.save (path : PathBuf) (faults : SaveFaults) (settings : OrderedSettings) :
    Task Disk IoError PUnit := do
  let _ ← liftResult settings.validate
  parentDirectory path
  attemptAll faults settingsSteps
  modify fun disk => disk.replace (lifecycleStore.bytes settings)
  (attemptAll faults [.openParent, .syncParent]).mapError IoError.commit

/-- `save` of the stores of preferences: the parent directory is opened outside the part whose
errors are reported as committed. -/
def StoreKind.savePrefs {α : Type} (kind : StoreKind α) (tooLarge : String) (path : PathBuf)
    (faults : SaveFaults) (prefs : α) : Task Disk IoError PUnit := do
  let validated ← liftResult (kind.validate prefs)
  if kind.maxBytes < (kind.bytes validated).size then throw (.plain tooLarge)
  parentDirectory path
  attemptAll faults prefsSteps
  modify fun disk => disk.replace (kind.bytes validated)
  attempt faults .openParent
  (attempt faults .syncParent).mapError IoError.commit

/-- `twitch_prefs.rs:162`. -/
def TwitchPrefsStore.save : PathBuf → SaveFaults → TwitchPrefs → Task Disk IoError PUnit :=
  twitchPrefsStore.savePrefs "Twitch preferences are too large"

/-- `warframe_prefs.rs:609`. -/
def WarframePrefsStore.save : PathBuf → SaveFaults → WarframePrefs → Task Disk IoError PUnit :=
  warframePrefsStore.savePrefs "warframe prefs are too large"

end OverCrow.Config
