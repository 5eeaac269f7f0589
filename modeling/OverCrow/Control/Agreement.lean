import OverCrow.Control.Center

/-!
# Selections agree with the settings file

The settings of the model are always sound: revalidation and validation leave them alone. They agree
with the file whenever no lifecycle worker is there, as long as what a selection writes is small
enough to be loaded again and the snapshots of the lifecycle are not disturbed.
-/

namespace OverCrow.Control
open OverCrow.Base OverCrow.Config List OrderedSettings ControlModel

/-! ### Sound settings -/

/-- Settings that neither revalidation nor validation changes or refuses. -/
structure Sound (identity : Identity) (settings : OrderedSettings) : Prop where
  retained : Retained identity settings.manualGames
  schemaVersion : settings.schemaVersion = settingsSchemaVersion
  nonzero : 0 ∉ settings.selectedSteamAppIds
  accelerator : acceleratorIsValid settings.shortcut.accelerator = true

section Sound

variable {identity : Identity} {settings : OrderedSettings}

theorem validateManualGames_ok {games : List ManualGame} {ids : List String}
    (hids : games.Pairwise fun a b => a.id ≠ b.id) (hnew : ∀ game ∈ games, game.id ∉ ids)
    (habsolute : ∀ game ∈ games, game.executable.isAbsolute = true) :
    validateManualGames ids games = .ok () := by
  induction games generalizing ids with
  | nil => rfl
  | cons game games ih =>
    rw [pairwise_cons] at hids
    rw [forall_mem_cons] at hnew habsolute
    have hnewId : ids.contains game.id = false := by simpa using hnew.1
    rw [validateManualGames, hnewId, habsolute.1]
    refine ih hids.2 (fun other hother => ?_) habsolute.2
    rw [mem_cons, not_or]
    exact ⟨(hids.1 other hother).symm, hnew.2 other hother⟩

theorem Retained.absolute {games : List ManualGame} (h : Retained identity games) :
    ∀ game ∈ games, game.executable.isAbsolute = true := fun game hgame =>
  (validatedManualGame_eq_ok (h.valid game hgame)).2.1

/-- Sound settings pass their validation. -/
theorem Sound.validate (h : Sound identity settings) : settings.validate = .ok settings := by
  have hids : settings.selectedSteamAppIds.contains 0 = false := by simpa using h.nonzero
  have hgames : validateManualGames [] settings.manualGames = .ok () :=
    validateManualGames_ok h.retained.ids (by simp) h.retained.absolute
  have hvalid : settings.toLifecycleSettings.validate = .ok settings.toLifecycleSettings := by
    rw [LifecycleSettings.validate, if_neg (not_not.mpr h.schemaVersion), hids, hgames,
      h.accelerator]
    rfl
  rw [OrderedSettings.validate, hvalid]

/-- What validation has seen of the settings, apart from the manual games. -/
theorem OrderedSettings.checked (h : settings.validate = .ok settings) :
    settings.schemaVersion = settingsSchemaVersion ∧ 0 ∉ settings.selectedSteamAppIds ∧
      acceleratorIsValid settings.shortcut.accelerator = true := by
  have hvalid := of_validate h
  unfold LifecycleSettings.validate at hvalid
  split at hvalid
  · cases hvalid
  next hschema =>
  split at hvalid
  · cases hvalid
  next hids =>
  split at hvalid
  · cases hvalid
  split at hvalid
  · next haccelerator => exact ⟨not_not.mp hschema, by simpa using hids, haccelerator⟩
  · cases hvalid

/-- Revalidation makes valid settings sound. -/
theorem sound_revalidatedSettings (hidentity : identity.Canonical)
    (h : settings.validate = .ok settings) : Sound identity (revalidatedSettings identity settings) := by
  obtain ⟨hschema, hids, haccelerator⟩ := OrderedSettings.checked h
  exact ⟨retained_revalidated hidentity settings.manualGames, hschema, hids, haccelerator⟩

/-- What a load returns is valid. -/
theorem validate_load (io : LoadIo) (disk : Disk) :
    (lifecycleStore.load io disk).value.validate = .ok (lifecycleStore.load io disk).value := by
  have hdefault : lifecycleStore.default.validate = .ok lifecycleStore.default := by
    have hvalid : lifecycleStore.default.toLifecycleSettings.validate =
        .ok lifecycleStore.default.toLifecycleSettings := validate_default
    rw [validate, hvalid]
  unfold StoreKind.load
  split
  · exact hdefault
  · exact hdefault
  split
  · exact hdefault
  split
  · exact hdefault
  split
  · exact hdefault
  split
  · exact hdefault
  split
  · exact hdefault
  next v hread =>
    unfold StoreKind.read at hread
    split at hread
    · cases hread
    · exact lifecycleStore.validate_validate hread

end Sound

namespace ControlCenter

/-! ### The changes of a selection -/

/-- A change that keeps the settings sound, and says whether it changed them. -/
structure Honest (identity : Identity) (mutate : Mutation) : Prop where
  sound : ∀ model changed, Sound identity model.settings → mutate model = .ok changed →
    Sound identity changed.1.settings
  unchanged : ∀ model changed, mutate model = .ok (changed, false) →
    changed.settings = model.settings

section Mutations

variable {identity : Identity}

theorem mem_insertAppId {ids : List UInt32} {appId other : UInt32} :
    other ∈ insertAppId ids appId ↔ other = appId ∨ other ∈ ids := by
  unfold insertAppId
  split
  · next hmem => exact ⟨.inr, fun h => h.elim (· ▸ hmem) id⟩
  · exact mem_orderedInsert _

theorem honest_setSteamSelected (appId : UInt32) (selected : Bool) :
    Honest identity (setSteamSelectedMutation appId selected) where
  sound model changed h hchanged := by
    obtain rfl := Except.ok.inj hchanged
    unfold setSteamSelected
    split
    · split
      · next hgame =>
        obtain ⟨game, -, hgame⟩ := any_eq_true.mp hgame
        have hne : appId ≠ 0 := beq_iff_eq.mp hgame ▸ game.appId_ne_zero
        refine ⟨h.retained, h.schemaVersion, fun hmem => ?_, h.accelerator⟩
        exact (mem_insertAppId.mp hmem).elim hne.symm h.nonzero
      · exact h
    · exact ⟨h.retained, h.schemaVersion, fun hmem => h.nonzero (mem_of_mem_filter hmem),
        h.accelerator⟩
  unchanged model changed hchanged := by
    obtain ⟨rfl, hsame⟩ := Prod.mk.inj (Except.ok.inj hchanged)
    rw [bne_eq_false_iff_eq, Bool.eq_iff_iff, contains_iff_mem, contains_iff_mem] at hsame
    unfold setSteamSelected at hsame ⊢
    split
    · next hselected =>
      rw [if_pos hselected] at hsame
      split
      · next hgame =>
        rw [if_pos hgame] at hsame
        have hmem := hsame.mpr (mem_insertAppId.mpr (.inl rfl))
        exact eq_of_settings (by simp [insertAppId, hmem])
      · rfl
    · next hselected =>
      rw [if_neg hselected] at hsame
      have hnot : appId ∉ model.settings.selectedSteamAppIds := fun hmem => by
        simpa using hsame.mp hmem
      have hfilter : model.settings.selectedSteamAppIds.filter (· ≠ appId) =
          model.settings.selectedSteamAppIds :=
        filter_eq_self.mpr fun other hother =>
          decide_eq_true fun heq => hnot (heq ▸ hother)
      exact eq_of_settings (by simp only [hfilter])

theorem honest_removeManualGame (id : String) :
    Honest identity (removeManualGameMutation id) where
  sound model changed h hchanged := by
    obtain rfl := Except.ok.inj hchanged
    exact ⟨h.retained.filter _, h.schemaVersion, h.nonzero, h.accelerator⟩
  unchanged model changed hchanged := by
    obtain ⟨rfl, hsame⟩ := Prod.mk.inj (Except.ok.inj hchanged)
    rw [bne_eq_false_iff_eq] at hsame
    have hfilter : model.settings.manualGames.filter (·.id ≠ id) = model.settings.manualGames :=
      filter_sublist.eq_of_length hsame
    exact eq_of_settings (by simp only [removeManualGame, hfilter])

theorem honest_addManualGame (hidentity : identity.Canonical) (name : String)
    (executable : PathBuf) : Honest identity (addManualGameMutation identity name executable) where
  sound model changed h hchanged := by
    obtain ⟨added, hadded, rfl⟩ := map_eq_ok.mp hchanged
    unfold addManualGame at hadded
    split at hadded
    · cases hadded
    next game hgame =>
    split at hadded
    · cases hadded
    next hexecutable =>
    split at hadded
    · cases hadded
    next hid =>
      obtain rfl := Except.ok.inj hadded
      exact ⟨h.retained.append (validatedManualGame_self hidentity hgame)
        ((Bool.not_eq_true _).mp hid) ((Bool.not_eq_true _).mp hexecutable), h.schemaVersion,
        h.nonzero, h.accelerator⟩
  unchanged model changed hchanged := by
    obtain ⟨added, -, hadded⟩ := map_eq_ok.mp hchanged
    cases hadded

end Mutations

/-! ### Selection transactions -/

section Transaction

variable {identity : Identity} {path : PathBuf} {faults : SaveFaults} {s : ControlCenter}

/-- Sound settings are saved as they are. -/
theorem exec_saveSelections {settings : OrderedSettings} (h : Sound identity settings) (disk : Disk) :
    (saveSelections identity path faults settings).exec disk =
      (SettingsStore.save path faults settings).exec disk := by
  unfold saveSelections
  rw [Task.exec_bind, exec_liftResult, h.retained.selectionsToSave]

/-- A write leaves the file and the settings alone or replaces both. -/
theorem saveTransaction_cases (path : PathBuf) (faults : SaveFaults) {s : ControlCenter}
    (h : Sound identity s.model.settings) (prior : OrderedSettings) :
    let after := (saveTransaction identity path faults prior s).2
    after.worker = s.worker ∧ after.status = s.status ∧
      after.writes = s.writes ++ [SelectionWrite.mk s.worker.isSome s.status] ∧
      (after.disk = s.disk ∧ after.model.settings = prior ∨
        after.disk = s.disk.replace (lifecycleStore.bytes s.model.settings) ∧
          after.model.settings = s.model.settings) := by
  unfold saveTransaction
  rw [exec_saveSelections h]
  rcases SettingsStore.save_cases path faults s.model.settings s.disk with
    ⟨-, hsave⟩ | ⟨-, message, hsave⟩
  · rw [hsave]
    unfold syncParent
    cases faults .openParent with
    | some message => exact ⟨rfl, rfl, rfl, .inr ⟨rfl, rfl⟩⟩
    | none =>
      cases faults .syncParent with
      | some | none => exact ⟨rfl, rfl, rfl, .inr ⟨rfl, rfl⟩⟩
  · rw [hsave]
    exact ⟨rfl, rfl, rfl, .inl ⟨rfl, rfl⟩⟩

/-- What a transaction does to the controller and the file. -/
structure Selects (identity : Identity) (mutate : Mutation) (s after : ControlCenter) : Prop where
  worker : after.worker = s.worker
  status : after.status = s.status
  sound : Sound identity after.model.settings
  writes : after.writes = s.writes ∨ after.writes = s.writes ++ [⟨false, .disabled⟩]
  settings : after.disk = s.disk ∧ after.model.settings = s.model.settings ∨
    s.worker = none ∧ ∃ model, mutate s.model = .ok (model, true) ∧
      after.disk = s.disk.replace (lifecycleStore.bytes model.settings) ∧
      after.model.settings = model.settings

theorem selects_selectionTransaction (path : PathBuf) (faults : SaveFaults) {s : ControlCenter}
    {mutate : Mutation} (hmutate : Honest identity mutate) (h : Sound identity s.model.settings) :
    Selects identity mutate s (selectionTransaction identity path faults mutate s).2 := by
  unfold selectionTransaction
  split
  · exact ⟨rfl, rfl, h, .inl rfl, .inl ⟨rfl, rfl⟩⟩
  next hediting =>
  have hguard : s.worker = none ∧ s.status = .disabled := by
    simpa [selectionEditingEnabled] using hediting
  cases hchange : mutate s.model with
  | error error => exact ⟨rfl, rfl, h, .inl rfl, .inl ⟨rfl, rfl⟩⟩
  | ok changed =>
    obtain ⟨model, changed⟩ := changed
    have hsound : Sound identity model.settings := hmutate.sound s.model _ h hchange
    cases changed with
    | false =>
      exact ⟨rfl, rfl, hsound, .inl rfl, .inl ⟨rfl, hmutate.unchanged s.model model hchange⟩⟩
    | true =>
      change Selects identity mutate s (saveTransaction identity path faults s.model.settings
        { s with model := model }).2
      obtain ⟨hworker, hstatus, hwrites, hsettings⟩ := saveTransaction_cases path faults
        (s := { s with model := model }) hsound s.model.settings
      have hwrite : SelectionWrite.mk s.worker.isSome s.status = ⟨false, .disabled⟩ := by
        rw [hguard.1, hguard.2]
        rfl
      refine ⟨hworker, hstatus, ?_, .inr (hwrite ▸ hwrites), ?_⟩
      · rcases hsettings with ⟨-, hsame⟩ | ⟨-, hsame⟩
        · rw [hsame]
          exact h
        · rw [hsame]
          exact hsound
      · exact hsettings.imp id fun hreplaced => ⟨hguard.1, model, hchange, hreplaced⟩

end Transaction

/-! ### Runs -/

/-- The change of the selection that an event asks for. -/
def selection (identity : Identity) : Event → Option Mutation
  | .setSteamSelected appId selected _ => some (setSteamSelectedMutation appId selected)
  | .removeManualGame id _ => some (removeManualGameMutation id)
  | .pickerResult (.selected executable) _ =>
    (nativeGameName executable).map fun name => addManualGameMutation identity name executable
  | _ => none

/-- What a selection writes can be loaded again, and the load of a lifecycle operation's snapshot
does not fail. -/
def Fits (identity : Identity) (s : ControlCenter) (event : Event) : Prop :=
  (∀ mutate model, selection identity event = some mutate → mutate s.model = .ok (model, true) →
    (lifecycleStore.bytes model.settings).size ≤ settingsMaxBytes) ∧
  ∀ io, event = .workerSnapshot io → io.Undisturbed

/-- The settings that a load of the file returns. -/
def loaded (disk : Disk) : OrderedSettings := (lifecycleStore.load {} disk).value

/-- What always holds. -/
structure Inv (identity : Identity) (s : ControlCenter) : Prop where
  sound : Sound identity s.model.settings
  writes : ∀ write ∈ s.writes, write = ⟨false, .disabled⟩
  snapshot : ∀ requested result load status,
    s.worker = some (.finished requested result load status) → load.value.validate = .ok load.value

/-- The settings of the model are those of the file; so are those of a snapshot. -/
structure Agrees (identity : Identity) (s : ControlCenter) : Prop where
  idle : s.worker = none → s.model.settings = revalidatedSettings identity (loaded s.disk)
  finished : ∀ requested result load status,
    s.worker = some (.finished requested result load status) → load.value = loaded s.disk

section Steps

variable {identity : Identity} {path : PathBuf} {s after : ControlCenter} {mutate : Mutation}
  {event : Event}

theorem undisturbed_default (syntaxError : String) :
    LoadIo.Undisturbed { syntaxError := syntaxError } := ⟨rfl, rfl, rfl⟩

theorem Inv.selects (h : Inv identity s) (hselects : Selects identity mutate s after) :
    Inv identity after := by
  refine ⟨hselects.sound, ?_, hselects.worker ▸ h.snapshot⟩
  rcases hselects.writes with hwrites | hwrites
  · rw [hwrites]
    exact h.writes
  · rw [hwrites, forall_mem_append, forall_mem_singleton]
    exact ⟨h.writes, rfl⟩

theorem Agrees.selects (h : Agrees identity s) (hselects : Selects identity mutate s after)
    (hfits : ∀ model, mutate s.model = .ok (model, true) →
      (lifecycleStore.bytes model.settings).size ≤ settingsMaxBytes) : Agrees identity after := by
  rcases hselects.settings with ⟨hdisk, hsettings⟩ | ⟨hidle, model, hchange, hdisk, hsettings⟩
  · refine ⟨fun hworker => ?_, fun requested result load status hworker => ?_⟩
    · rw [hdisk, hsettings]
      exact h.idle (hselects.worker ▸ hworker)
    · rw [hdisk]
      exact h.finished requested result load status (hselects.worker ▸ hworker)
  · have hsound : Sound identity model.settings := hsettings ▸ hselects.sound
    have hvalid : lifecycleStore.validate model.settings = .ok model.settings := hsound.validate
    have hsmall : ¬lifecycleStore.maxBytes < (lifecycleStore.bytes model.settings).size :=
      Nat.not_lt.mpr (hfits model hchange)
    have hloaded : loaded after.disk = model.settings := by
      rw [loaded, hdisk, lifecycleStore.load_replace hvalid "", if_neg hsmall]
    refine ⟨fun _ => ?_, fun requested result load status hworker => ?_⟩
    · rw [hloaded, hsettings, hsound.retained.revalidatedSettings]
    · rw [hselects.worker, hidle] at hworker
      cases hworker

/-- A step that leaves the settings, the worker and the file alone. -/
theorem Agrees.of_eq (h : Agrees identity s) (hmodel : after.model.settings = s.model.settings)
    (hworker : after.worker = s.worker) (hdisk : after.disk = s.disk) : Agrees identity after := by
  refine ⟨fun hidle => ?_, fun requested result load status hfinished => ?_⟩
  · rw [hmodel, hdisk]
    exact h.idle (hworker ▸ hidle)
  · rw [hdisk]
    exact h.finished requested result load status (hworker ▸ hfinished)

/-- The selection that an event asks for is made in a transaction; the notices around it matter to
nothing else. -/
theorem selects_step (hidentity : identity.Canonical)
    (h : Sound identity s.model.settings) (hselection : selection identity event = some mutate)
    (hstep : step identity path s event = some after) : Selects identity mutate s after := by
  cases event with
  | setSteamSelected appId selected faults =>
    cases hselection
    cases hstep
    exact selects_selectionTransaction path faults (honest_setSteamSelected appId selected) h
  | removeManualGame id faults =>
    cases hselection
    cases hstep
    exact selects_selectionTransaction path faults (honest_removeManualGame id) h
  | pickerResult result faults =>
    cases result with
    | selected executable =>
      obtain ⟨name, hname, rfl⟩ := Option.map_eq_some_iff.mp hselection
      have hselects := selects_selectionTransaction path faults (s := s.clearNotice .picker)
        (honest_addManualGame hidentity name executable) h
      cases hstep
      unfold handlePickerResult
      dsimp only
      rw [hname]
      dsimp only
      rcases htransaction : selectionTransaction identity path faults
        (addManualGameMutation identity name executable) (s.clearNotice .picker) with ⟨result, next⟩
      rw [htransaction] at hselects
      cases result with
      | ok | error =>
        exact ⟨hselects.worker, hselects.status, hselects.sound, hselects.writes, hselects.settings⟩
    | cancelledOrUnavailable | failed => cases hselection
  | refreshCompleted | masterToggle | workerTransaction | workerSnapshot | pollLifecycle =>
    cases hselection

/-- What an event that asks for no selection does. -/
inductive Quiet (identity : Identity) (path : PathBuf) (s : ControlCenter) :
    Event → ControlCenter → Prop where
  | notice {event : Event} {after : ControlCenter}
      (settings : after.model.settings = s.model.settings) (worker : after.worker = s.worker)
      (disk : after.disk = s.disk) (writes : after.writes = s.writes) : Quiet identity path s event after
  | toggle {event : Event} {after : ControlCenter} {requested : Bool}
      (settings : after.model.settings = s.model.settings)
      (worker : after.worker = some (.operating requested s.model.settings))
      (writes : after.writes = s.writes) : Quiet identity path s event after
  | operate {event : Event} {after : ControlCenter} {requested : Bool}
      {result : Except LifecycleError Unit} (settings : after.model.settings = s.model.settings)
      (worker : after.worker = some (.snapshotting requested result))
      (writes : after.writes = s.writes) : Quiet identity path s event after
  | snapshot {io : LoadIo} {after : ControlCenter} {requested : Bool}
      {result : Except LifecycleError Unit} (settings : after.model.settings = s.model.settings)
      (worker : after.worker = some (.finished requested result (lifecycleStore.load io s.disk)
        (lifecycleSnapshot io s.disk).2)) (disk : after.disk = s.disk)
      (writes : after.writes = s.writes) : Quiet identity path s (.workerSnapshot io) after
  | complete {event : Event} {after : ControlCenter} {requested : Bool}
      {result : Except LifecycleError Unit} {load : Load OrderedSettings} {status : LifecycleStatus}
      (before : s.worker = some (.finished requested result load status))
      (settings : after.model.settings = revalidatedSettings identity load.value)
      (worker : after.worker = none) (disk : after.disk = s.disk)
      (writes : after.writes = s.writes) : Quiet identity path s event after

theorem quiet_pickerResult {result : PickerResult} {faults : SaveFaults}
    (hselection : selection identity (.pickerResult result faults) = none) :
    Quiet identity path s (.pickerResult result faults)
      (handlePickerResult identity path faults s result) := by
  cases result with
  | selected executable =>
    have hname : nativeGameName executable = none := Option.map_eq_none_iff.mp hselection
    unfold handlePickerResult
    dsimp only
    rw [hname]
    exact .notice rfl rfl rfl rfl
  | cancelledOrUnavailable | failed => exact .notice rfl rfl rfl rfl

theorem quiet_requestMasterToggle (requested : Bool) (spawning : Option String) :
    Quiet identity path s (.masterToggle requested spawning)
      (s.requestMasterToggle requested spawning) := by
  unfold requestMasterToggle
  split
  · exact .notice rfl rfl rfl rfl
  split
  · exact .notice rfl rfl rfl rfl
  split
  · exact .notice rfl rfl rfl rfl
  split
  · exact .notice rfl rfl rfl rfl
  · exact .toggle rfl rfl rfl

theorem quiet_step (hselection : selection identity event = none)
    (hstep : step identity path s event = some after) : Quiet identity path s event after := by
  cases event with
  | setSteamSelected | removeManualGame => cases hselection
  | pickerResult result faults =>
    cases hstep
    exact quiet_pickerResult hselection
  | refreshCompleted report =>
    cases hstep
    cases report with
    | ok | error => exact .notice rfl rfl rfl rfl
  | masterToggle requested spawning =>
    cases hstep
    exact quiet_requestMasterToggle requested spawning
  | workerTransaction c =>
    unfold step workerTransaction at hstep
    dsimp only at hstep
    split at hstep
    · cases hstep
      exact .operate rfl rfl rfl
    · cases hstep
  | workerSnapshot io =>
    unfold step workerSnapshot at hstep
    dsimp only at hstep
    split at hstep
    · cases hstep
      exact .snapshot rfl rfl rfl rfl
    · cases hstep
  | pollLifecycle =>
    cases hstep
    unfold pollLifecycle
    split
    · next hworker =>
      split <;> exact .complete hworker rfl rfl rfl rfl
    · exact .notice rfl rfl rfl rfl

/-- Every step keeps what always holds. -/
theorem Inv.step (hidentity : identity.Canonical) (h : Inv identity s)
    (hstep : step identity path s event = some after) : Inv identity after := by
  cases hselection : selection identity event with
  | some mutate => exact h.selects (selects_step hidentity h.sound hselection hstep)
  | none =>
    cases quiet_step hselection hstep with
    | notice settings worker disk writes =>
      exact ⟨settings ▸ h.sound, writes ▸ h.writes, worker ▸ h.snapshot⟩
    | toggle settings worker writes | operate settings worker writes =>
      exact ⟨settings ▸ h.sound, writes ▸ h.writes, worker ▸ nofun⟩
    | @snapshot io _ _ _ settings worker disk writes =>
      refine ⟨settings ▸ h.sound, writes ▸ h.writes, fun requested result load status hfinished => ?_⟩
      rw [worker] at hfinished
      cases hfinished
      exact validate_load io s.disk
    | complete before settings worker disk writes =>
      have hvalid := h.snapshot _ _ _ _ before
      exact ⟨settings ▸ sound_revalidatedSettings hidentity hvalid, writes ▸ h.writes,
        worker ▸ nofun⟩

/-- Every step that fits keeps the agreement. -/
theorem Agrees.step (hidentity : identity.Canonical) (hinv : Inv identity s)
    (h : Agrees identity s) (hfits : Fits identity s event)
    (hstep : step identity path s event = some after) : Agrees identity after := by
  cases hselection : selection identity event with
  | some mutate =>
    exact h.selects (selects_step hidentity hinv.sound hselection hstep)
      fun model => hfits.1 mutate model hselection
  | none =>
    cases quiet_step hselection hstep with
    | notice settings worker disk writes => exact h.of_eq settings worker disk
    | toggle _ worker | operate _ worker => exact ⟨worker ▸ nofun, worker ▸ nofun⟩
    | @snapshot io _ _ _ settings worker disk writes =>
      refine ⟨worker ▸ nofun, fun requested result load status hfinished => ?_⟩
      rw [worker] at hfinished
      cases hfinished
      rw [disk]
      exact lifecycleStore.value_load (hfits.2 io rfl) ⟨rfl, rfl, rfl⟩ s.disk
    | complete before settings worker disk writes =>
      refine ⟨fun _ => ?_, worker ▸ nofun⟩
      rw [settings, disk, h.finished _ _ _ _ before]

end Steps

section Run

variable {identity : Identity} (hidentity : identity.Canonical) {path : PathBuf}

include hidentity

theorem inv_start (syntaxError : String) (io : LoadIo) (disk : Disk) :
    Inv identity (start identity syntaxError io disk) where
  sound := sound_revalidatedSettings hidentity (validate_load { syntaxError := syntaxError } disk)
  writes := by simp [start]
  snapshot := nofun

omit hidentity in
theorem agrees_start (syntaxError : String) (io : LoadIo) (disk : Disk) :
    Agrees identity (start identity syntaxError io disk) where
  idle _ := congrArg (revalidatedSettings identity)
    (lifecycleStore.value_load (undisturbed_default syntaxError) (undisturbed_default "") disk)
  finished := nofun

theorem inv_of_run {s t : ControlCenter} {events : List Event} (h : Inv identity s)
    (hrun : run (step identity path) s events = some t) : Inv identity t :=
  reaches_invariant (fun _ _ _ hs hstep => hs.step hidentity hstep) h ⟨events, hrun⟩

theorem agrees_of_run {s t : ControlCenter} {events : List Event} (hinv : Inv identity s)
    (h : Agrees identity s) (hfits : Along (step identity path) (Fits identity) s events)
    (hrun : run (step identity path) s events = some t) : Agrees identity t :=
  (run_invariant_along (P := fun s => Inv identity s ∧ Agrees identity s)
    (fun _ _ _ hs hfit hstep => ⟨hs.1.step hidentity hstep, hs.2.step hidentity hs.1 hfit hstep⟩)
    ⟨hinv, h⟩ hfits hrun).2

end Run

/-- Paths that are their own canonical form, and identifiers that hold the path. -/
def plainIdentity : Identity where
  canonicalExecutable := .ok
  stableManualGameId path := "local." ++ path.raw

theorem canonical_plainIdentity : plainIdentity.Canonical := fun _ _ h => by
  rfl

theorem injective_plainIdentity : Function.Injective plainIdentity.stableManualGameId := by
  intro a b hab
  have htext := congrArg String.toList hab
  rw [plainIdentity, String.toList_append, String.toList_append, append_cancel_left_eq] at htext
  exact congrArg PathBuf.mk (String.toList_injective htext)

/-- The settings of `longName` with a Steam game. -/
def longNameSelecting (count : Nat) : OrderedSettings :=
  { longName count with
    selectedSteamAppIds := [10]
    ordered := pairwise_singleton _ _ }

theorem size_longName_lt (count : Nat) :
    (lifecycleStore.bytes (longName count)).size <
      (lifecycleStore.bytes (longNameSelecting count)).size := by
  have hgap : 0 < Json.weight (Json.prettyFormatter.gap (0 + 1)) := by decide
  change (Json.prettyLine _).size < (Json.prettyLine _).size
  simp only [Json.size_prettyLine, lifecycleStore, toJson, LifecycleSettings.toJson,
    LifecycleSettings.members, longName, longNameSelecting, Json.print, Json.printMembers,
    Json.printElements, map_cons, map_nil, Json.weight_append, Json.weight_cons]
  omega

/-- There is a name with which the settings just fit. -/
theorem exists_fitting :
    ∃ count, 0 < count ∧ (lifecycleStore.bytes (longName count)).size = settingsMaxBytes := by
  have hzero := size_longName_zero.2
  refine ⟨settingsMaxBytes - (lifecycleStore.bytes (longName 0)).size, by omega, ?_⟩
  rw [size_longName]
  omega

theorem retained_longName {count : Nat} (h : 0 < count) :
    Retained plainIdentity (longName count).manualGames := by
  have htrim : trim (String.ofList (replicate count 'a')) =
      String.ofList (replicate count 'a') := by
    rw [trim, String.toList_ofList, trimList_eq_self]
    exact fun c hc => eq_of_mem_replicate hc ▸ by decide
  have hname : (String.ofList (replicate count 'a')).isEmpty = false := by
    obtain ⟨count, rfl⟩ := Nat.exists_eq_succ_of_ne_zero h.ne'
    simp [replicate_succ]
  have habsolute : (PathBuf.mk "/games/a").isAbsolute = true := by decide
  have hexe : hasExeExtension ⟨"/games/a"⟩ = false := by decide
  refine ⟨fun game hgame => ?_, pairwise_singleton _ _, pairwise_singleton _ _⟩
  obtain rfl := mem_singleton.mp hgame
  simp [validatedManualGame, htrim, hname, habsolute, hexe, plainIdentity]

theorem sound_longNameSelecting {count : Nat} (h : 0 < count) :
    Sound plainIdentity (longNameSelecting count) where
  retained := retained_longName h
  schemaVersion := rfl
  nonzero := by simp [longNameSelecting]
  accelerator := (OrderedSettings.checked (longName_valid count)).2.2

/-- A transaction that nothing hinders. -/
theorem selectionTransaction_saved {identity : Identity} {path : PathBuf} {s : ControlCenter}
    {mutate : Mutation} {model : ControlModel} (hediting : s.selectionEditingEnabled = true)
    (hchange : mutate s.model = .ok (model, true)) (hsound : Sound identity model.settings)
    (hpath : hasParentDirectory path = true) :
    let after := (selectionTransaction identity path (fun _ => none) mutate s).2
    after.disk = s.disk.replace (lifecycleStore.bytes model.settings) ∧
      after.model.settings = model.settings ∧ after.worker = s.worker := by
  have hsave : (saveSelections identity path (fun _ => none) model.settings).exec s.disk =
      (.ok ⟨⟩, s.disk.replace (lifecycleStore.bytes model.settings)) := by
    rw [exec_saveSelections hsound]
    rcases SettingsStore.save_cases path (fun _ => none) model.settings s.disk with
      ⟨-, hsave⟩ | ⟨hnot, -⟩
    · exact hsave
    · exact absurd ⟨⟨hpath, fun _ _ _ => rfl⟩, hsound.validate⟩ hnot
  simp only [selectionTransaction, hediting, hchange, saveTransaction, hsave]
  exact ⟨rfl, rfl, rfl⟩

theorem setSteamSelected_longName {model : ControlModel} {count : Nat} {game : SteamGame}
    (hsettings : model.settings = longName count) (hgames : model.games = [game])
    (hgame : game.appId = 10) :
    setSteamSelectedMutation 10 true model =
      .ok ({ model with settings := longNameSelecting count }, true) := by
  obtain ⟨settings, games, warning⟩ := model
  subst hsettings hgames
  simp [setSteamSelectedMutation, setSteamSelected, insertAppId, hgame,
    longName, longNameSelecting]

section Outgrow

variable {disk : Disk} {count : Nat}

theorem settings_start (hpositive : 0 < count)
    (hload : lifecycleStore.load {} disk = ⟨longName count, none⟩) :
    (start plainIdentity "" {} disk).model.settings = longName count := by
  change revalidatedSettings plainIdentity (lifecycleStore.load {} disk).value = _
  rw [hload]
  exact (retained_longName hpositive).revalidatedSettings

theorem editing_start (hload : lifecycleStore.load {} disk = ⟨longName count, none⟩) :
    (start plainIdentity "" {} disk).selectionEditingEnabled = true := by
  change (true && decide ((lifecycleSnapshot {} disk).2 = .disabled)) = true
  unfold lifecycleSnapshot
  rw [hload]
  rfl

/-- A Steam game is found and selected. -/
theorem run_selecting {path : PathBuf} (hpath : hasParentDirectory path = true)
    (hpositive : 0 < count) (hload : lifecycleStore.load {} disk = ⟨longName count, none⟩) :
    ∃ events s, run (step plainIdentity path) (start plainIdentity "" {} disk) events = some s ∧
      s.disk = disk.replace (lifecycleStore.bytes (longNameSelecting count)) ∧
      s.model.settings = longNameSelecting count ∧ s.worker = none := by
  let listed := (start plainIdentity "" {} disk).pollRefresh (.ok [⟨10, by decide⟩])
  have hediting : listed.selectionEditingEnabled = true := editing_start hload
  have hsettings : listed.model.settings = longName count := settings_start hpositive hload
  have hchange := setSteamSelected_longName hsettings rfl rfl
  obtain ⟨hdisk, hmodel, hworker⟩ :=
    selectionTransaction_saved hediting hchange (sound_longNameSelecting hpositive) hpath
  refine ⟨[.refreshCompleted (.ok [⟨10, by decide⟩]), .setSteamSelected 10 true fun _ => none],
    (selectionTransaction plainIdentity path (fun _ => none) (setSteamSelectedMutation 10 true)
      listed).2, ?_, hdisk, hmodel, hworker⟩
  exact run_cons_eq_some.mpr ⟨listed, rfl, run_cons_eq_some.mpr ⟨_, rfl, rfl⟩⟩

end Outgrow

end ControlCenter

end OverCrow.Control
