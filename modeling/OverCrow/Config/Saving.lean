import Mathlib.Algebra.BigOperators.Group.List.Basic
import OverCrow.Config.Store

/-!
# What a save leaves behind

A save that fails before the rename leaves the file alone; one that renames leaves the bytes of the
validated value. The other results about the stores follow from these two cases.
-/

namespace OverCrow.Config
open OverCrow.Base

/-! ### Steps -/

/-- No step up to the rename fails. -/
structure CanReplace (path : PathBuf) (faults : SaveFaults) : Prop where
  parent : hasParentDirectory path = true
  steps : ∀ step, step ≠ .openParent → step ≠ .syncParent → faults step = none

/-- A save that fails before the rename. -/
def Refused (save : Task Disk IoError PUnit) (disk : Disk) : Prop :=
  ∃ message, save.exec disk = (.error (.plain message), disk)

section Steps

variable {faults : SaveFaults}

/-- The steps end with the first error. -/
theorem exec_attemptAll (steps : List SaveStep) (disk : Disk) :
    (attemptAll faults steps).exec disk =
      match steps.findSome? faults with
      | none => (.ok ⟨⟩, disk)
      | some message => (.error (.plain message), disk) := by
  induction steps with
  | nil => rfl
  | cons step steps ih =>
    rw [attemptAll, Task.exec_bind, attempt, List.findSome?_cons]
    cases faults step with
    | none => exact ih
    | some message => rfl

theorem exec_attempt (step : SaveStep) (disk : Disk) :
    (attempt faults step).exec disk =
      match faults step with
      | none => (.ok ⟨⟩, disk)
      | some message => (.error (.plain message), disk) := by
  unfold attempt
  cases faults step <;> rfl

theorem exec_liftResult {α : Type} (result : Except String α) (disk : Disk) :
    (liftResult result).exec disk =
      match result with
      | .ok a => (.ok a, disk)
      | .error message => (.error (.plain message), disk) := by
  cases result <;> rfl

theorem mem_settingsSteps (step : SaveStep) :
    step ∈ settingsSteps ↔ step ≠ .openParent ∧ step ≠ .syncParent := by
  cases step <;> decide

theorem mem_prefsSteps (step : SaveStep) :
    step ∈ prefsSteps ↔ step ≠ .openParent ∧ step ≠ .syncParent := by
  cases step <;> decide

/-- The steps up to the rename, in the order of a store, and what follows them. -/
theorem exec_steps_bind (path : PathBuf) (faults : SaveFaults) {steps : List SaveStep}
    (hsteps : ∀ step, step ∈ steps ↔ step ≠ .openParent ∧ step ≠ .syncParent)
    (rest : PUnit → Task Disk IoError PUnit) (disk : Disk) :
    CanReplace path faults ∧
        (parentDirectory path >>= fun _ => attemptAll faults steps >>= rest).exec disk =
          (rest ⟨⟩).exec disk ∨
      ¬CanReplace path faults ∧
        Refused (parentDirectory path >>= fun _ => attemptAll faults steps >>= rest) disk := by
  unfold Refused
  rw [Task.exec_bind, parentDirectory]
  by_cases hparent : hasParentDirectory path = true
  · rw [if_pos hparent, Task.exec_pure]
    dsimp only
    rw [Task.exec_bind, exec_attemptAll]
    cases hfault : steps.findSome? faults with
    | none =>
      refine .inl ⟨⟨hparent, fun step hopen hsync => ?_⟩, rfl⟩
      exact List.findSome?_eq_none_iff.mp hfault step ((hsteps step).mpr ⟨hopen, hsync⟩)
    | some message =>
      refine .inr ⟨fun hcan => ?_, message, rfl⟩
      have hnone : steps.findSome? faults = none := List.findSome?_eq_none_iff.mpr fun step hstep =>
        hcan.steps step ((hsteps step).mp hstep).1 ((hsteps step).mp hstep).2
      rw [hnone] at hfault
      cases hfault
  · rw [if_neg hparent, Task.exec_throw]
    exact .inr ⟨fun hcan => hparent hcan.parent, _, rfl⟩

end Steps

/-! ### The two cases of a save -/

/-- How a store ends that opens and syncs the parent directory in the part whose errors are
committed. -/
def syncParent (faults : SaveFaults) : Except IoError PUnit :=
  match faults .openParent, faults .syncParent with
  | some message, _ => .error (.committed message)
  | none, some message => .error (.committed message)
  | none, none => .ok ⟨⟩

/-- How a store ends that opens the parent directory outside that part. -/
def openThenSyncParent (faults : SaveFaults) : Except IoError PUnit :=
  match faults .openParent, faults .syncParent with
  | some message, _ => .error (.plain message)
  | none, some message => .error (.committed message)
  | none, none => .ok ⟨⟩

theorem exec_syncParent (faults : SaveFaults) (contents : ByteArray) (disk : Disk) :
    ((do
      modify fun disk => disk.replace contents
      (attemptAll faults [.openParent, .syncParent]).mapError IoError.commit :
        Task Disk IoError PUnit)).exec disk = (syncParent faults, disk.replace contents) := by
  rw [Task.exec_bind]
  change ((attemptAll faults [.openParent, .syncParent]).mapError IoError.commit).exec
    (disk.replace contents) = _
  rw [Task.exec_mapError, exec_attemptAll, syncParent, List.findSome?_cons, List.findSome?_cons]
  cases faults .openParent with
  | some message => rfl
  | none =>
    cases faults .syncParent with
    | some message => rfl
    | none => rfl

theorem exec_openThenSyncParent (faults : SaveFaults) (contents : ByteArray) (disk : Disk) :
    ((do
      modify fun disk => disk.replace contents
      attempt faults .openParent
      (attempt faults .syncParent).mapError IoError.commit :
        Task Disk IoError PUnit)).exec disk = (openThenSyncParent faults, disk.replace contents) := by
  change (attempt faults .openParent >>= fun _ =>
    (attempt faults .syncParent).mapError IoError.commit).exec (disk.replace contents) = _
  rw [Task.exec_bind, exec_attempt, openThenSyncParent]
  cases faults .openParent with
  | some message => rfl
  | none =>
    dsimp only
    rw [Task.exec_mapError, exec_attempt]
    cases faults .syncParent with
    | some message => rfl
    | none => rfl

/-- A save of lifecycle settings renames exactly when they are valid and no step before fails. -/
theorem SettingsStore.save_cases (path : PathBuf) (faults : SaveFaults)
    (settings : OrderedSettings) (disk : Disk) :
    (CanReplace path faults ∧ settings.validate = .ok settings) ∧
        (save path faults settings).exec disk =
          (syncParent faults, disk.replace (lifecycleStore.bytes settings)) ∨
      ¬(CanReplace path faults ∧ settings.validate = .ok settings) ∧
        Refused (save path faults settings) disk := by
  unfold save Refused
  rw [Task.exec_bind, exec_liftResult]
  cases hvalid : settings.validate with
  | error message => exact .inr ⟨(by cases ·.2), message, rfl⟩
  | ok validated =>
    obtain rfl := OrderedSettings.validate_eq_ok hvalid
    rcases exec_steps_bind path faults mem_settingsSteps _ disk with
      ⟨hcan, hexec⟩ | ⟨hcannot, hrefused⟩
    · exact .inl ⟨⟨hcan, rfl⟩, hexec.trans (exec_syncParent faults _ disk)⟩
    · exact .inr ⟨fun h => hcannot h.1, hrefused⟩

/-- A save of preferences renames exactly when they are valid and small enough and no step before
fails. -/
theorem StoreKind.savePrefs_cases {α : Type} (kind : StoreKind α) (tooLarge : String)
    (path : PathBuf) (faults : SaveFaults) (prefs : α) (disk : Disk) :
    (∃ validated, CanReplace path faults ∧ kind.validate prefs = .ok validated ∧
        (kind.bytes validated).size ≤ kind.maxBytes ∧
        (kind.savePrefs tooLarge path faults prefs).exec disk =
          (openThenSyncParent faults, disk.replace (kind.bytes validated))) ∨
      ¬(∃ validated, CanReplace path faults ∧ kind.validate prefs = .ok validated ∧
        (kind.bytes validated).size ≤ kind.maxBytes) ∧
        Refused (kind.savePrefs tooLarge path faults prefs) disk := by
  unfold savePrefs Refused
  rw [Task.exec_bind, exec_liftResult]
  cases hvalid : kind.validate prefs with
  | error message => exact .inr ⟨(by rintro ⟨_, _, h, _⟩; cases h), message, rfl⟩
  | ok validated =>
    dsimp only
    by_cases hsize : kind.maxBytes < (kind.bytes validated).size
    · rw [if_pos hsize, Task.exec_bind, Task.exec_throw]
      refine .inr ⟨?_, _, rfl⟩
      rintro ⟨_, _, h, hle⟩
      cases h
      exact Nat.not_lt.mpr hle hsize
    · rw [if_neg hsize]
      rcases exec_steps_bind path faults mem_prefsSteps _ disk with
        ⟨hcan, hexec⟩ | ⟨hcannot, hrefused⟩
      · exact .inl ⟨validated, hcan, rfl, Nat.not_lt.mp hsize,
          hexec.trans (exec_openThenSyncParent faults _ disk)⟩
      · exact .inr ⟨fun h => hcannot h.choose_spec.1, hrefused⟩

/-! ### Loading what was saved -/

section Load

variable {path : PathBuf} {faults : SaveFaults} {disk after : Disk}

/-- What a rename leaves loads back, unless it is too large. -/
theorem StoreKind.load_replace {α : Type} (kind : StoreKind α) {v w : α}
    (h : kind.validate v = .ok w) (syntaxError : String) (disk : Disk) :
    kind.load { syntaxError := syntaxError } (disk.replace (kind.bytes w)) =
      if kind.maxBytes < (kind.bytes w).size then ⟨kind.default, some kind.tooLarge⟩
      else ⟨w, none⟩ := by
  unfold load Disk.replace
  dsimp only
  rw [if_neg (by decide), kind.read_bytes h]

theorem SettingsStore.of_save_ok {settings : OrderedSettings}
    (h : (save path faults settings).exec disk = (.ok ⟨⟩, after)) :
    settings.validate = .ok settings ∧ after = disk.replace (lifecycleStore.bytes settings) := by
  rcases save_cases path faults settings disk with ⟨⟨-, hvalid⟩, hsave⟩ | ⟨-, message, hsave⟩
  · rw [hsave, Prod.mk.injEq] at h
    exact ⟨hvalid, h.2.symm⟩
  · rw [hsave] at h
    cases h

theorem StoreKind.of_savePrefs_ok {α : Type} {kind : StoreKind α} {tooLarge : String} {prefs : α}
    (h : (kind.savePrefs tooLarge path faults prefs).exec disk = (.ok ⟨⟩, after)) :
    ∃ validated, kind.validate prefs = .ok validated ∧
      (kind.bytes validated).size ≤ kind.maxBytes ∧ after = disk.replace (kind.bytes validated) := by
  rcases kind.savePrefs_cases tooLarge path faults prefs disk with
    ⟨validated, -, hvalid, hsize, hsave⟩ | ⟨-, message, hsave⟩
  · rw [hsave, Prod.mk.injEq] at h
    exact ⟨validated, hvalid, hsize, h.2.symm⟩
  · rw [hsave] at h
    cases h

/-- Saved preferences load back as the validated ones. -/
theorem StoreKind.load_savePrefs {α : Type} {kind : StoreKind α} {tooLarge : String} {prefs : α}
    (h : (kind.savePrefs tooLarge path faults prefs).exec disk = (.ok ⟨⟩, after))
    (syntaxError : String) :
    ∃ validated, kind.validate prefs = .ok validated ∧
      kind.load { syntaxError := syntaxError } after = ⟨validated, none⟩ := by
  obtain ⟨validated, hvalid, hsize, rfl⟩ := of_savePrefs_ok h
  exact ⟨validated, hvalid, by rw [kind.load_replace hvalid, if_neg (Nat.not_lt.mpr hsize)]⟩

/-- Saved lifecycle settings load back exactly when their file is small enough. -/
theorem SettingsStore.load_save_iff {settings : OrderedSettings}
    (h : (save path faults settings).exec disk = (.ok ⟨⟩, after)) (syntaxError : String) :
    lifecycleStore.load { syntaxError := syntaxError } after = ⟨settings, none⟩ ↔
      (lifecycleStore.bytes settings).size ≤ settingsMaxBytes := by
  obtain ⟨hvalid, rfl⟩ := of_save_ok h
  rw [lifecycleStore.load_replace hvalid]
  by_cases hsize : lifecycleStore.maxBytes < (lifecycleStore.bytes settings).size
  · rw [if_pos hsize]
    exact ⟨(by cases congrArg Load.warning ·), fun hle => absurd hle (Nat.not_le.mpr hsize)⟩
  · rw [if_neg hsize]
    exact ⟨fun _ => Nat.not_lt.mp hsize, fun _ => rfl⟩

end Load

/-- Saved values load back as the validated ones, with no warning, except lifecycle settings whose
file is larger than what a load accepts; validation leaves what it returned alone. -/
theorem saved_loads_back_iff (path : PathBuf) (faults : SaveFaults) (disk after : Disk)
    (syntaxError : String) :
    (∀ settings : OrderedSettings,
      (SettingsStore.save path faults settings).exec disk = (.ok ⟨⟩, after) →
        ((settings.toLifecycleSettings.validate = .ok settings.toLifecycleSettings ∧
          lifecycleStore.load { syntaxError := syntaxError } after = ⟨settings, none⟩) ↔
            (lifecycleStore.bytes settings).size ≤ settingsMaxBytes)) ∧
      (∀ prefs, (TwitchPrefsStore.save path faults prefs).exec disk = (.ok ⟨⟩, after) →
        ∃ validated, prefs.validate = .ok validated ∧
          twitchPrefsStore.load { syntaxError := syntaxError } after = ⟨validated, none⟩) ∧
      (∀ prefs, (WarframePrefsStore.save path faults prefs).exec disk = (.ok ⟨⟩, after) →
        ∃ validated, prefs.validate = .ok validated ∧
          warframePrefsStore.load { syntaxError := syntaxError } after = ⟨validated, none⟩) ∧
      (∀ settings validated : LifecycleSettings, settings.validate = .ok validated →
        validated.validate = .ok validated) ∧
      (∀ prefs validated : TwitchPrefs, prefs.validate = .ok validated →
        validated.validate = .ok validated) ∧
      (∀ prefs validated : WarframePrefs, prefs.validate = .ok validated →
        validated.validate = .ok validated) := by
  refine ⟨fun settings h => ?_, fun prefs h => ?_, fun prefs h => ?_, fun settings validated h => ?_,
    fun prefs validated h => ?_, fun prefs validated h => ?_⟩
  · have hvalid := OrderedSettings.of_validate (SettingsStore.of_save_ok h).1
    rw [← SettingsStore.load_save_iff h syntaxError]
    exact ⟨And.right, fun hload => ⟨hvalid, hload⟩⟩
  · obtain ⟨validated, hvalid, hload⟩ := StoreKind.load_savePrefs h syntaxError
    exact ⟨validated, mapError_eq_ok.mp hvalid, hload⟩
  · obtain ⟨validated, hvalid, hload⟩ := StoreKind.load_savePrefs h syntaxError
    exact ⟨validated, mapError_eq_ok.mp hvalid, hload⟩
  · exact LifecycleSettings.eq_of_validate h ▸ h
  · exact (TwitchPrefs.normal_of_validate h).validate
  · exact (WarframePrefs.normal_of_validate h).validate

theorem saved_loads_back_default :
    (SettingsStore.save ⟨"/config/overcrow/settings.json"⟩ (fun _ => none) lifecycleStore.default).exec
        {} = (.ok ⟨⟩, Disk.replace {} (lifecycleStore.bytes lifecycleStore.default)) ∧
      ((LifecycleSettings.validate {} = .ok {} ∧
        lifecycleStore.load {} (Disk.replace {} (lifecycleStore.bytes lifecycleStore.default)) =
          ⟨lifecycleStore.default, none⟩) ↔
        (lifecycleStore.bytes lifecycleStore.default).size ≤ settingsMaxBytes) :=
  ⟨rfl, (saved_loads_back_iff ⟨"/config/overcrow/settings.json"⟩ (fun _ => none) {}
    (Disk.replace {} (lifecycleStore.bytes lifecycleStore.default)) "").1 lifecycleStore.default rfl⟩

/-! ### A file that is too large -/

theorem ordered_nil : ([] : List UInt32).Pairwise (· < ·) := .nil

/-- One selected game with a name of the given length. -/
def longName (count : Nat) : OrderedSettings where
  manualGames := [⟨"local./games/a", String.ofList (List.replicate count 'a'), ⟨"/games/a"⟩⟩]
  ordered := ordered_nil

theorem longName_valid (count : Nat) :
    lifecycleStore.validate (longName count) = .ok (longName count) := by
  have hkey : acceleratorIsValid "Meta+Alt+O" = true := by decide
  have habsolute : (PathBuf.mk "/games/a").isAbsolute = true := by decide
  have hvalid : (longName count).toLifecycleSettings.validate =
      .ok (longName count).toLifecycleSettings := by
    simp [LifecycleSettings.validate, longName, validateManualGames, hkey, habsolute,
      settingsSchemaVersion]
  change (longName count).validate = .ok (longName count)
  rw [OrderedSettings.validate, hvalid]

theorem size_longName (count : Nat) :
    (lifecycleStore.bytes (longName count)).size =
      (lifecycleStore.bytes (longName 0)).size + count := by
  have hname := Json.weight_quote_replicate count
  have hempty := Json.weight_quote_replicate 0
  change (Json.prettyLine _).size = (Json.prettyLine _).size + count
  simp only [Json.size_prettyLine, lifecycleStore, OrderedSettings.toJson, LifecycleSettings.toJson,
    LifecycleSettings.members, longName, ManualGame.toJson, Json.print, Json.printMembers,
    Json.printElements, List.map_cons, List.map_nil, Json.weight_append, Json.weight_cons, hname,
    hempty]
  omega

theorem size_longName_zero :
    0 < (lifecycleStore.bytes (longName 0)).size ∧
      (lifecycleStore.bytes (longName 0)).size < settingsMaxBytes := by
  change 0 < (Json.prettyLine _).size ∧ (Json.prettyLine _).size < _
  rw [Json.size_prettyLine]
  decide +kernel

/-- Settings with a long name are saved, and the file is then refused by the same store. -/
theorem save_load_longName {count : Nat} (h : settingsMaxBytes ≤ count) {path : PathBuf}
    (hpath : hasParentDirectory path = true) (disk : Disk) :
    ∃ after, (SettingsStore.save path (fun _ => none) (longName count)).exec disk = (.ok ⟨⟩, after) ∧
      lifecycleStore.load {} after = ⟨lifecycleStore.default, some lifecycleStore.tooLarge⟩ := by
  refine ⟨disk.replace (lifecycleStore.bytes (longName count)), ?_, ?_⟩
  · rcases SettingsStore.save_cases path (fun _ => none) (longName count) disk with
      ⟨-, hsave⟩ | ⟨hnot, -⟩
    · exact hsave
    · exact absurd ⟨⟨hpath, fun _ _ _ => rfl⟩, longName_valid count⟩ hnot
  · have hlarge : lifecycleStore.maxBytes < (lifecycleStore.bytes (longName count)).size := by
      rw [size_longName]
      exact Nat.lt_of_le_of_lt h (Nat.lt_add_of_pos_left size_longName_zero.1)
    exact (lifecycleStore.load_replace (longName_valid count) "" disk).trans (if_pos hlarge)

/-- A name of a mebibyte is saved, and the file then loads as the default settings. -/
theorem long_name_refused :
    ∃ settings : OrderedSettings, ∃ after : Disk,
      (SettingsStore.save ⟨"/config/overcrow/settings.json"⟩ (fun _ => none) settings).exec {} =
        (.ok ⟨⟩, after) ∧
      lifecycleStore.load {} after = ⟨lifecycleStore.default, some ("could not read lifecycle " ++
        "settings: settings file is too large (maximum 1048576 bytes)")⟩ :=
  ⟨longName settingsMaxBytes, save_load_longName (Nat.le_refl _) (by decide) {}⟩

end OverCrow.Config
