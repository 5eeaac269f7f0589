import OverCrow.Control.Model

/-!
# Enabling and disabling OverCrow

`crates/overcrow-control/src/lifecycle.rs:232-513`. A transaction works on the settings file and
calls its collaborators; each of them may fail. Nothing here panics, so that the lock of a
transaction is never poisoned.
-/

namespace OverCrow.Control
open OverCrow.Base OverCrow.Config List

/-- The commands that a transaction gives to `systemctl`,
`lifecycle.rs:35-42`. -/
inductive SystemctlCommand where
  | enableCore
  | disableCore
  | stopSession
  deriving DecidableEq

/-- What a transaction asks of its collaborators, reading apart. -/
inductive Call where
  | save (settings : OrderedSettings)
  | prepareActivation
  | ensureReady
  | systemctl (command : SystemctlCommand)
  | requestPassive

/-- The settings file, and the calls that were made. -/
structure World where
  disk : Disk := {}
  calls : List Call := []

/-- How the calls of a transaction go: the first load and save of it, those of a rollback, and the
others. -/
structure Collaborators where
  load : LoadIo := {}
  save : SaveFaults := fun _ => none
  rollbackLoad : LoadIo := {}
  rollbackSave : SaveFaults := fun _ => none
  validateManualGame : ManualGame → Except String Unit := fun _ => .ok ()
  prepareActivation : Except String Unit := .ok ()
  ensureReady : Except String Unit := .ok ()
  systemctl : SystemctlCommand → Except String Unit := fun _ => .ok ()
  requestPassive : Except String Unit := .ok ()

/-- `lifecycle.rs:247`. -/
inductive LifecycleStatus where
  | disabled
  | enabled
  | warning
  deriving DecidableEq

/-- `lifecycle.rs:265`. -/
structure LifecycleError where
  primary : String
  cleanup : List String := []
  deriving DecidableEq

/-- `Display` of `LifecycleError`, `lifecycle.rs:284`. -/
def LifecycleError.message (error : LifecycleError) : String :=
  error.cleanup.foldl (fun text failure => text ++ "; cleanup failed: " ++ failure) error.primary

/-- `lifecycle.rs:497`. -/
def saveError (context : String) (error : IoError) : String :=
  if settingsSaveWasCommitted error then
    s!"{context} (replacement committed but durability unknown): {error.message}"
  else s!"{context}: {error.message}"

/-- `lifecycle.rs:505`. -/
def errorsToResult : List String → Except LifecycleError Unit
  | [] => .ok ()
  | primary :: cleanup => .error { primary := primary, cleanup := cleanup }

/-- The errors of a step. -/
def failures (context : String) : Except String Unit → List String
  | .ok () => []
  | .error error => [context ++ error]

namespace World

def call (w : World) (made : Call) : World := { w with calls := w.calls ++ [made] }

/-- `save` of the repository. -/
def save (path : PathBuf) (faults : SaveFaults) (settings : OrderedSettings) (w : World) :
    Except IoError PUnit × World :=
  let (result, disk) := (SettingsStore.save path faults settings).exec w.disk
  (result, { disk := disk, calls := w.calls ++ [.save settings] })

end World

/-- `snapshot` of a lifecycle controller, `lifecycle.rs:433`. -/
def lifecycleSnapshot (io : LoadIo) (disk : Disk) : Load OrderedSettings × LifecycleStatus :=
  let load := lifecycleStore.load io disk
  let status :=
    if load.warning.isSome then .warning
    else if load.value.enabled then .enabled else .disabled
  (load, status)

section Transactions

variable (c : Collaborators) (path : PathBuf)

/-- `lifecycle.rs:484`: the errors, and the calls. -/
def runCleanup (w : World) : List String × World :=
  (failures "" c.requestPassive ++
    failures "could not stop session units: " (c.systemctl .stopSession) ++
    failures "could not disable Core: " (c.systemctl .disableCore),
  ((w.call .requestPassive).call (.systemctl .stopSession)).call (.systemctl .disableCore))

/-- The settings are loaded and saved as disabled, unless the load has a warning: the errors of
`disable` and of `rollback_after_enable`, `lifecycle.rs:408-424` and
`lifecycle.rs:458-476`. -/
def persistDisabled (io : LoadIo) (faults : SaveFaults) (skipped context : String) (w : World) :
    List String × World :=
  let load := lifecycleStore.load io w.disk
  match load.warning with
  | some warning =>
    ([s!"settings load warning; problematic settings were preserved and the {skipped} was " ++
      s!"skipped: {warning}"], w)
  | none =>
    match w.save path faults { load.value with enabled := false } with
    | (.ok _, w) => ([], w)
    | (.error error, w) => ([saveError context error], w)

/-- `lifecycle.rs:457`. -/
def rollbackAfterEnable (primary : String) (w : World) : LifecycleError × World :=
  let (persisting, w) := persistDisabled path c.rollbackLoad c.rollbackSave "rollback write"
    "could not persist disabled rollback settings" w
  let (cleanup, w) := runCleanup c w
  ({ primary := primary, cleanup := persisting ++ cleanup }, w)

/-- `enable` up to the save, `lifecycle.rs:357-388`: the settings to be
saved. -/
def prepareEnable (settings : OrderedSettings) (w : World) :
    Except LifecycleError OrderedSettings × World :=
  match { settings with enabled := true : OrderedSettings }.validate with
  | .error error => (.error { primary := s!"invalid lifecycle settings: {error}" }, w)
  | .ok enabled =>
    if enabled.selectedSteamAppIds.isEmpty && enabled.manualGames.isEmpty then
      (.error { primary := "at least one exact game identity must be selected" }, w)
    else
      match (lifecycleStore.load c.load w.disk).warning with
      | some warning =>
        (.error { primary :=
          s!"cannot enable while lifecycle settings have a warning: {warning}" }, w)
      | none =>
        match enabled.manualGames.forM c.validateManualGame with
        | .error error =>
          (.error { primary := s!"manual game identity is no longer valid: {error}" }, w)
        | .ok () =>
          let w := w.call .prepareActivation
          match c.prepareActivation with
          | .error error =>
            (.error { primary := s!"systemd unit identity preflight failed: {error}" }, w)
          | .ok () => (.ok enabled, w)

/-- `enable` from the save on, `lifecycle.rs:390-403`: the failure that
a rollback follows. -/
def activate (enabled : OrderedSettings) (w : World) : Except String Unit × World :=
  match w.save path c.save enabled with
  | (.error error, w) =>
    (.error (saveError "could not persist enabled lifecycle settings" error), w)
  | (.ok _, w) =>
    let w := w.call .ensureReady
    match c.ensureReady with
    | .error error => (.error s!"integration setup failed: {error}", w)
    | .ok () =>
      let w := w.call (.systemctl .enableCore)
      match c.systemctl .enableCore with
      | .error error => (.error s!"could not enable Core: {error}", w)
      | .ok () => (.ok (), w)

/-- `lifecycle.rs:352`. -/
def enable (settings : OrderedSettings) (w : World) : Except LifecycleError Unit × World :=
  match prepareEnable c settings w with
  | (.error error, w) => (.error error, w)
  | (.ok enabled, w) =>
    match activate c path enabled w with
    | (.ok (), w) => (.ok (), w)
    | (.error primary, w) =>
      let (error, w) := rollbackAfterEnable c path primary w
      (.error error, w)

/-- `lifecycle.rs:406`. -/
def disable (w : World) : Except LifecycleError Unit × World :=
  let (persisting, w) := persistDisabled path c.load c.save "disable write"
    "could not persist disabled lifecycle settings" w
  let (cleanup, w) := runCleanup c w
  (errorsToResult (persisting ++ cleanup), w)

end Transactions

/-! ### What the file holds -/

/-- The settings that the file holds, whatever its size and mode. -/
def persisted (disk : Disk) : Option OrderedSettings :=
  match disk.file with
  | none => some lifecycleStore.default
  | some file => (lifecycleStore.read "" file.contents).toOption

theorem persisted_replace {settings : OrderedSettings} (h : settings.validate = .ok settings)
    (disk : Disk) : persisted (disk.replace (lifecycleStore.bytes settings)) = some settings := by
  have hvalid : lifecycleStore.validate settings = .ok settings := h
  rw [persisted, Disk.replace]
  dsimp only
  rw [lifecycleStore.read_bytes hvalid]
  rfl

section Save

variable {path : PathBuf} {faults : SaveFaults} {settings : OrderedSettings} {w : World}

theorem World.save_calls (path : PathBuf) (faults : SaveFaults) (settings : OrderedSettings)
    (w : World) : (w.save path faults settings).2.calls = w.calls ++ [.save settings] := rfl

/-- A save that succeeds leaves its settings in the file. -/
theorem World.persisted_save {a : PUnit} {after : World}
    (h : w.save path faults settings = (.ok a, after)) : persisted after.disk = some settings := by
  have hdisk : (SettingsStore.save path faults settings).exec w.disk = (.ok ⟨⟩, after.disk) := by
    obtain ⟨hresult, hafter⟩ := Prod.mk.inj h
    rw [← hafter]
    exact Prod.ext hresult rfl
  obtain ⟨hvalid, hreplaced⟩ := SettingsStore.of_save_ok hdisk
  rw [hreplaced]
  exact persisted_replace hvalid w.disk

end Save

/-! ### The parts of a transaction -/

/-- The three steps of a cleanup. -/
def cleanupCalls : List Call :=
  [.requestPassive, .systemctl .stopSession, .systemctl .disableCore]

section Parts

variable (c : Collaborators) (path : PathBuf)

theorem runCleanup_snd (w : World) :
    (runCleanup c w).2 = { w with calls := w.calls ++ cleanupCalls } := by
  simp [runCleanup, World.call, cleanupCalls]

/-- A disabling write happens when the load has no warning; without an error the file holds what was
loaded, disabled. -/
theorem persistDisabled_spec (io : LoadIo) (faults : SaveFaults) (skipped context : String)
    (w : World) :
    let load := lifecycleStore.load io w.disk
    let after := persistDisabled path io faults skipped context w
    (load.warning.isSome → after.1 ≠ [] ∧ after.2 = w) ∧
      (load.warning = none →
        after.2.calls = w.calls ++ [.save { load.value with enabled := false }] ∧
          (after.1 = [] → persisted after.2.disk = some { load.value with enabled := false })) := by
  unfold persistDisabled
  dsimp only
  cases hwarning : (lifecycleStore.load io w.disk).warning with
  | some warning => exact ⟨fun _ => ⟨cons_ne_nil _ _, rfl⟩, nofun⟩
  | none =>
    refine ⟨nofun, fun _ => ?_⟩
    rcases hsave : w.save path faults
      { (lifecycleStore.load io w.disk).value with enabled := false } with ⟨result, after⟩
    have hcalls := congrArg (fun saved => saved.2.calls) hsave
    cases result with
    | ok a => exact ⟨hcalls.symm, fun _ => World.persisted_save hsave⟩
    | error error => exact ⟨hcalls.symm, fun h => absurd h (cons_ne_nil _ _)⟩

/-- Before its save, `enable` only asks for the preflight. -/
theorem prepareEnable_spec (settings : OrderedSettings) (w : World) :
    (prepareEnable c settings w).2.disk = w.disk ∧
      (∃ made, (prepareEnable c settings w).2.calls = w.calls ++ made ∧
        ∀ call ∈ made, call = .prepareActivation) ∧
      ∀ enabled, (prepareEnable c settings w).1 = .ok enabled →
        enabled = { settings with enabled := true } ∧ enabled.validate = .ok enabled := by
  have hnone : ∃ made, w.calls = w.calls ++ made ∧ ∀ call ∈ made, call = Call.prepareActivation :=
    ⟨[], (append_nil _).symm, by simp⟩
  unfold prepareEnable
  split
  · exact ⟨rfl, hnone, fun _ h => by cases h⟩
  next enabled hvalid =>
  split
  · exact ⟨rfl, hnone, fun _ h => by cases h⟩
  split
  · exact ⟨rfl, hnone, fun _ h => by cases h⟩
  split
  · exact ⟨rfl, hnone, fun _ h => by cases h⟩
  split
  · exact ⟨rfl, ⟨_, rfl, by simp⟩, fun _ h => by cases h⟩
  · obtain rfl := OrderedSettings.validate_eq_ok hvalid
    refine ⟨rfl, ⟨_, rfl, by simp⟩, fun _ h => ?_⟩
    obtain rfl := Except.ok.inj h
    exact ⟨rfl, hvalid⟩

/-- Why an enabling was given up after its save was begun. -/
inductive PrimaryFailure (saved : Except IoError PUnit) : String → Prop where
  | save {error : IoError} (h : saved = .error error) :
      PrimaryFailure saved (saveError "could not persist enabled lifecycle settings" error)
  | integration {error : String} (hsaved : saved = .ok ⟨⟩) (h : c.ensureReady = .error error) :
      PrimaryFailure saved s!"integration setup failed: {error}"
  | core {error : String} (hsaved : saved = .ok ⟨⟩) (hready : c.ensureReady = .ok ())
      (h : c.systemctl .enableCore = .error error) :
      PrimaryFailure saved s!"could not enable Core: {error}"

/-- From its save on, `enable` comes to its end or to a primary failure. -/
theorem activate_spec (enabled : OrderedSettings) (w : World) :
    (∃ made, (activate c path enabled w).2.calls = w.calls ++ .save enabled :: made) ∧
      (∀ failure, (activate c path enabled w).1 = .error failure →
        PrimaryFailure c (w.save path c.save enabled).1 failure) ∧
      ((activate c path enabled w).1 = .ok () →
        persisted (activate c path enabled w).2.disk = some enabled ∧
          (activate c path enabled w).2.calls =
            w.calls ++ [.save enabled, .ensureReady, .systemctl .enableCore] ∧
          c.ensureReady = .ok () ∧ c.systemctl .enableCore = .ok ()) := by
  unfold activate
  rcases hsave : w.save path c.save enabled with ⟨saved, after⟩
  have hcalls : after.calls = w.calls ++ [.save enabled] := by
    rw [← World.save_calls path c.save, hsave]
  cases saved with
  | error error => exact ⟨⟨[], hcalls⟩, fun _ h => Except.error.inj h ▸ .save rfl, nofun⟩
  | ok a =>
    cases hready : c.ensureReady with
    | error error =>
      refine ⟨⟨[.ensureReady], ?_⟩, fun _ h => Except.error.inj h ▸ .integration rfl hready, nofun⟩
      simp [World.call, hcalls]
    | ok _ =>
      cases hcore : c.systemctl .enableCore with
      | error error =>
        refine ⟨⟨[.ensureReady, .systemctl .enableCore], ?_⟩,
          fun _ h => Except.error.inj h ▸ .core rfl hready hcore, nofun⟩
        simp [World.call, hcalls]
      | ok _ =>
        refine ⟨⟨[.ensureReady, .systemctl .enableCore], ?_⟩, nofun, fun _ => ⟨?_, ?_, rfl, rfl⟩⟩
        · simp [World.call, hcalls]
        · have hpersisted := World.persisted_save hsave
          exact hpersisted
        · simp [World.call, hcalls]

/-- A rollback runs all of the cleanup, and reports that it could not disable the settings. -/
theorem rollbackAfterEnable_spec (primary : String) (w : World) :
    let out := rollbackAfterEnable c path primary w
    (∃ made, out.2.calls = w.calls ++ made ++ cleanupCalls) ∧ out.1.primary = primary ∧
      ((∃ settings, persisted out.2.disk = some settings ∧ settings.enabled = false) ∨
        out.1.cleanup ≠ []) := by
  unfold rollbackAfterEnable
  have hpersist := persistDisabled_spec path c.rollbackLoad c.rollbackSave "rollback write"
    "could not persist disabled rollback settings" w
  dsimp only at hpersist ⊢
  rw [runCleanup_snd]
  generalize persistDisabled path c.rollbackLoad c.rollbackSave "rollback write"
    "could not persist disabled rollback settings" w = after at hpersist ⊢
  cases hwarning : (lifecycleStore.load c.rollbackLoad w.disk).warning with
  | some warning =>
    obtain ⟨herrors, hworld⟩ := hpersist.1 (hwarning ▸ rfl)
    refine ⟨⟨[], by rw [hworld, append_nil]⟩, rfl, .inr ?_⟩
    exact fun h => herrors (append_eq_nil_iff.mp h).1
  | none =>
    obtain ⟨hcalls, hdisk⟩ := hpersist.2 hwarning
    refine ⟨⟨_, by rw [hcalls]⟩, rfl, ?_⟩
    by_cases herrors : after.1 = []
    · exact .inl ⟨_, hdisk herrors, rfl⟩
    · exact .inr fun h => herrors (append_eq_nil_iff.mp h).1

end Parts

/-! ### The contracts -/

/-- What holds after `enable` has made its calls. -/
structure EnableContract (c : Collaborators) (path : PathBuf) (settings : OrderedSettings)
    (before : World) (result : Except LifecycleError Unit) (after : World) (made : List Call) :
    Prop where
  calls : after.calls = before.calls ++ made
  refused : ∀ error, result = .error error → (∀ saved, .save saved ∉ made) →
    after.disk = before.disk ∧ ∀ command, .systemctl command ∉ made
  rolledBack : ∀ error saved, result = .error error → .save saved ∈ made →
    cleanupCalls <:+ made ∧
      ((∃ left, persisted after.disk = some left ∧ left.enabled = false) ∨ error.cleanup ≠ []) ∧
      ∃ failure, PrimaryFailure c (SettingsStore.save path c.save
          { settings with enabled := true } |>.exec before.disk).1 failure ∧
        error.primary = failure ∧ failure.toList <+: error.message.toList
  enabled : result = .ok () →
    { settings with enabled := true : OrderedSettings }.validate =
        .ok { settings with enabled := true } ∧
      persisted after.disk = some { settings with enabled := true } ∧
      c.ensureReady = .ok () ∧ .ensureReady ∈ made ∧
      c.systemctl .enableCore = .ok () ∧ .systemctl .enableCore ∈ made

/-- What holds after `disable` has made its calls. -/
structure DisableContract (c : Collaborators) (before : World)
    (result : Except LifecycleError Unit) (after : World) (made : List Call) : Prop where
  calls : after.calls = before.calls ++ made
  cleanup : cleanupCalls <:+ made
  preserved : (lifecycleStore.load c.load before.disk).warning.isSome →
    after.disk = before.disk ∧ ∀ saved, .save saved ∉ made
  disabled : result = .ok () →
    (lifecycleStore.load c.load before.disk).warning = none ∧
      persisted after.disk =
        some { (lifecycleStore.load c.load before.disk).value with enabled := false }

theorem LifecycleError.message_starts (error : LifecycleError) :
    error.primary.toList <+: error.message.toList := by
  have hfold : ∀ (cleanup : List String) (text : String), text.toList <+:
      (cleanup.foldl (fun text failure => text ++ "; cleanup failed: " ++ failure) text).toList := by
    intro cleanup
    induction cleanup with
    | nil => exact fun text => prefix_rfl
    | cons failure cleanup ih =>
      intro text
      refine List.IsPrefix.trans ?_ (ih _)
      rw [String.toList_append, String.toList_append, append_assoc]
      exact prefix_append _ _
  exact hfold error.cleanup error.primary

theorem errorsToResult_eq_ok {errors : List String} : errorsToResult errors = .ok () ↔ errors = [] := by
  cases errors with
  | nil => exact ⟨fun _ => rfl, fun _ => rfl⟩
  | cons primary cleanup => exact ⟨nofun, nofun⟩

section Contracts

variable (c : Collaborators) (path : PathBuf)

theorem enable_contract (settings : OrderedSettings) (w : World) :
    ∃ made, EnableContract c path settings w (enable c path settings w).1
      (enable c path settings w).2 made := by
  obtain ⟨hdisk, ⟨prepared, hprepared, honly⟩, henabled⟩ := prepareEnable_spec c settings w
  have hnotSave (saved : OrderedSettings) : .save saved ∉ prepared := fun h => by cases honly _ h
  unfold enable
  rcases hprepare : prepareEnable c settings w with ⟨result, middle⟩
  rw [hprepare] at hdisk hprepared henabled
  cases result with
  | error error =>
    refine ⟨prepared, hprepared, fun _ _ _ => ⟨hdisk, fun command h => by cases honly _ h⟩,
      fun _ saved _ h => absurd h (hnotSave saved), fun h => by cases h⟩
  | ok enabled =>
    obtain ⟨rfl, hvalid⟩ := henabled enabled rfl
    obtain ⟨⟨activated, hactivated⟩, hfailure, hok⟩ :=
      activate_spec c path { settings with enabled := true } middle
    dsimp only
    rcases hactivate : activate c path { settings with enabled := true } middle with
      ⟨result, last⟩
    rw [hactivate] at hactivated hfailure hok
    cases result with
    | ok _ =>
      obtain ⟨hpersisted, hcalls, hready, hcore⟩ := hok rfl
      refine ⟨prepared ++ [.save { settings with enabled := true }, .ensureReady,
        .systemctl .enableCore], ?_, fun _ h => (by cases h), fun _ _ h => (by cases h), fun _ =>
        ⟨hvalid, hpersisted, hready, ?_, hcore, ?_⟩⟩
      · rw [hcalls, hprepared, append_assoc]
      · simp
      · simp
    | error failure =>
      obtain ⟨⟨rolled, hrolled⟩, hprimary, hleft⟩ := rollbackAfterEnable_spec c path failure last
      refine ⟨prepared ++ .save { settings with enabled := true } :: activated ++ rolled ++
        cleanupCalls, ?_, ?_, ?_, fun h => by cases h⟩
      · rw [hrolled, hactivated, hprepared]
        simp
      · intro error _ hnone
        exact absurd (by simp) (hnone { settings with enabled := true })
      · intro error saved herror _
        obtain rfl := Except.error.inj herror
        refine ⟨suffix_append _ _, hleft, failure, ?_, hprimary, ?_⟩
        · rw [← hdisk]
          exact hfailure failure rfl
        · rw [← hprimary]
          exact LifecycleError.message_starts _

theorem disable_contract (w : World) :
    ∃ made, DisableContract c w (disable c path w).1 (disable c path w).2 made := by
  have hpersist := persistDisabled_spec path c.load c.save "disable write"
    "could not persist disabled lifecycle settings" w
  unfold disable
  rw [runCleanup_snd]
  generalize persistDisabled path c.load c.save "disable write"
    "could not persist disabled lifecycle settings" w = after at hpersist ⊢
  cases hwarning : (lifecycleStore.load c.load w.disk).warning with
  | some warning =>
    obtain ⟨herrors, hworld⟩ := hpersist.1 (hwarning ▸ rfl)
    refine ⟨cleanupCalls, ?_, suffix_rfl, fun _ => ⟨?_, ?_⟩, fun h => ?_⟩
    · rw [hworld]
    · rw [hworld]
    · simp [cleanupCalls]
    · exact absurd (append_eq_nil_iff.mp (errorsToResult_eq_ok.mp h)).1 herrors
  | none =>
    obtain ⟨hcalls, hdisk⟩ := hpersist.2 hwarning
    refine ⟨.save { (lifecycleStore.load c.load w.disk).value with enabled := false } ::
      cleanupCalls, ?_, suffix_cons _ _, fun h => ?_, fun h => ⟨hwarning, ?_⟩⟩
    · rw [hcalls, append_assoc]
      rfl
    · rw [hwarning] at h
      cases h
    · exact hdisk (append_eq_nil_iff.mp (errorsToResult_eq_ok.mp h)).1

end Contracts

/-- The transactions that enable and disable OverCrow keep their contracts, however their
collaborators answer. -/
theorem lifecycle_transactions (c : Collaborators) (path : PathBuf) (settings : OrderedSettings)
    (w : World) :
    (∃ made, EnableContract c path settings w (enable c path settings w).1
        (enable c path settings w).2 made) ∧
      ∃ made, DisableContract c w (disable c path w).1 (disable c path w).2 made :=
  ⟨enable_contract c path settings w, disable_contract c path w⟩

end OverCrow.Control
