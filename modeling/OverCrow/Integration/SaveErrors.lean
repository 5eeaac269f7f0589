import OverCrow.Control.Agreement
import OverCrow.Twitch.Saver
import OverCrow.Warframe.Commit

/-!
# What an error of a save says about the file

An error that is not marked as committed should leave the file alone, since the callers then keep
what they held before. The stores of preferences open the parent directory after the rename outside
the part that marks its errors; when nothing fails there, the callers hold what is in the file.
-/

namespace OverCrow.Integration
open OverCrow.Base OverCrow.Config WarframePrefsStore

/-- The error of a save says whether the file was replaced. -/
structure Truthful (save : Task Disk IoError PUnit) (disk : Disk) : Prop where
  unchanged : ∀ error after, save.exec disk = (.error error, after) →
    settingsSaveWasCommitted error = false → after = disk
  replaced : ∀ result after, save.exec disk = (result, after) → after.replaced ≠ disk.replaced →
    result = .ok ⟨⟩ ∨ ∃ error, result = .error error ∧ settingsSaveWasCommitted error = true

/-- After the rename the parent directory can be opened. -/
def Confirms (path : PathBuf) (faults : SaveFaults) : Prop :=
  CanReplace path faults → faults .openParent = none

/-- A result that a caller takes as committed. -/
def Committed (result : Except IoError PUnit) : Prop :=
  result = .ok ⟨⟩ ∨ ∃ message, result = .error (.committed message)

section Truthful

variable {save : Task Disk IoError PUnit} {disk : Disk} {contents : ByteArray}
  {result : Except IoError PUnit} {path : PathBuf} {faults : SaveFaults}

theorem truthful_of_refused (h : Refused save disk) : Truthful save disk := by
  obtain ⟨message, hsave⟩ := h
  refine ⟨fun error after hexec _ => ?_, fun result after hexec hreplaced => ?_⟩
  · rw [hsave, Prod.mk.injEq] at hexec
    exact hexec.2.symm
  · rw [hsave, Prod.mk.injEq] at hexec
    exact absurd (congrArg Disk.replaced hexec.2.symm) hreplaced

theorem truthful_of_committed (hsave : save.exec disk = (result, disk.replace contents))
    (h : Committed result) : Truthful save disk := by
  refine ⟨fun error after hexec hplain => ?_, fun other after hexec _ => ?_⟩
  · rw [hsave, Prod.mk.injEq] at hexec
    rcases h with rfl | ⟨message, rfl⟩
    · cases hexec.1
    · cases hexec.1
      cases hplain
  · rw [hsave, Prod.mk.injEq] at hexec
    obtain rfl := hexec.1
    exact h.imp id fun ⟨message, herror⟩ => ⟨_, herror, rfl⟩

theorem committed_syncParent : Committed (syncParent faults) := by
  unfold syncParent
  split
  · exact .inr ⟨_, rfl⟩
  · exact .inr ⟨_, rfl⟩
  · exact .inl rfl

theorem committed_openThenSyncParent (h : faults .openParent = none) :
    Committed (openThenSyncParent faults) := by
  unfold openThenSyncParent
  rw [h]
  cases faults .syncParent with
  | none => exact .inl rfl
  | some message => exact .inr ⟨message, rfl⟩

/-- The lifecycle store marks every error after the rename. -/
theorem truthful_settings (settings : OrderedSettings) :
    Truthful (SettingsStore.save path faults settings) disk := by
  rcases SettingsStore.save_cases path faults settings disk with ⟨-, hsave⟩ | ⟨-, hrefused⟩
  · exact truthful_of_committed hsave committed_syncParent
  · exact truthful_of_refused hrefused

variable {α : Type} {kind : StoreKind α} {tooLarge : String}

theorem truthful_savePrefs (h : Confirms path faults) (prefs : α) :
    Truthful (kind.savePrefs tooLarge path faults prefs) disk := by
  rcases kind.savePrefs_cases tooLarge path faults prefs disk with
    ⟨validated, hcan, -, -, hsave⟩ | ⟨-, hrefused⟩
  · exact truthful_of_committed hsave (committed_openThenSyncParent (h hcan))
  · exact truthful_of_refused hrefused

/-- When the parent directory cannot be opened, a save of small valid preferences replaces the file
and denies it. -/
theorem confirms_of_truthful {prefs : α} (hvalid : kind.validate prefs = .ok prefs)
    (hsize : (kind.bytes prefs).size ≤ kind.maxBytes)
    (h : Truthful (kind.savePrefs tooLarge path faults prefs) disk) : Confirms path faults := by
  intro hcan
  rcases kind.savePrefs_cases tooLarge path faults prefs disk with
    ⟨validated, -, -, -, hsave⟩ | ⟨hnot, -⟩
  · cases hopen : faults .openParent with
    | none => rfl
    | some message =>
      have hplain : openThenSyncParent faults = .error (.plain message) := by
        unfold openThenSyncParent
        rw [hopen]
      rw [hplain] at hsave
      have hsame := congrArg Disk.replaced (h.unchanged _ _ hsave rfl)
      exact absurd hsame (Nat.succ_ne_self disk.replaced)
  · exact absurd ⟨prefs, hcan, hvalid, hsize⟩ hnot

/-- What a save of valid preferences leaves: the file as it was, or the preferences and a result that
a caller takes as committed. -/
theorem savePrefs_settled (kind : StoreKind α) (tooLarge : String) (disk : Disk)
    (hconfirms : Confirms path faults) {prefs : α} (hvalid : kind.validate prefs = .ok prefs) :
    Refused (kind.savePrefs tooLarge path faults prefs) disk ∨
      ∃ result after, (kind.savePrefs tooLarge path faults prefs).exec disk = (result, after) ∧
        Committed result ∧ (kind.load {} after).value = prefs := by
  rcases kind.savePrefs_cases tooLarge path faults prefs disk with
    ⟨validated, hcan, hvalidated, hsize, hsave⟩ | ⟨-, hrefused⟩
  · obtain rfl : prefs = validated := Except.ok.inj (hvalid.symm.trans hvalidated)
    refine .inr ⟨_, _, hsave, committed_openThenSyncParent (hconfirms hcan), ?_⟩
    rw [kind.load_replace hvalid "", if_neg (Nat.not_lt.mpr hsize)]
  · exact .inl hrefused

end Truthful

/-! ### The callers -/

section Warframe
open Warframe

/-- The preferences of the controller are those of the file. -/
def WarframeAgrees (s : PrefsState) : Prop :=
  (warframePrefsStore.load {} s.disk).value = s.prefs

theorem warframeAgrees_commit {path : PathBuf} {faults : SaveFaults} (h : Confirms path faults)
    {s : PrefsState} (hs : WarframeAgrees s) (candidate : WarframePrefs) :
    WarframeAgrees (s.commitWarframePrefs (save path faults) candidate).2 := by
  unfold PrefsState.commitWarframePrefs
  cases hvalid : candidate.validate with
  | error error => exact hs
  | ok validated =>
    dsimp only
    have hvalidated : warframePrefsStore.validate validated = .ok validated :=
      (WarframePrefs.normal_of_validate hvalid).store_validate
    unfold save
    rcases savePrefs_settled warframePrefsStore "warframe prefs are too large" s.disk h hvalidated
      with ⟨message, hsave⟩ | ⟨result, after, hsave, hresult, hload⟩
    · rw [hsave]
      exact hs
    · rw [hsave]
      rcases hresult with rfl | ⟨message, rfl⟩ <;> exact hload

/-- A commit of the controller keeps the agreement. -/
theorem warframeAgrees_commitIfDirty {path : PathBuf} {faults : SaveFaults}
    (h : Confirms path faults) {s : PrefsState} (hs : WarframeAgrees s) (dirty : Bool)
    (applyActions : WarframePrefs → WarframePrefs) :
    WarframeAgrees (s.commitWarframePrefsIfDirty (save path faults) dirty
      applyActions).2 := by
  have hcommit := warframeAgrees_commit h hs (applyActions s.prefs)
  unfold PrefsState.commitWarframePrefsIfDirty
  cases dirty with
  | false => exact hs
  | true =>
    generalize s.commitWarframePrefs (save path faults) (applyActions s.prefs) =
      committed at hcommit
    obtain ⟨outcome, after⟩ := committed
    cases outcome with
    | durable | committedWithWarning | rolledBack => exact hcommit

end Warframe

section Twitch
open Twitch

/-- The preferences of a saved candidate. -/
def outcomePrefs (current : TwitchPrefs) : TwitchPrefsSaveOutcome → TwitchPrefs
  | .durable candidate => candidate
  | .committedWithWarning candidate => candidate
  | .rolledBack _ => current

/-- The preferences of the application are those of the file, once an outcome that waits is taken;
only a busy saver has something queued or waiting, and never both. -/
structure TwitchAgrees (s : Saver) : Prop where
  idle : s.busy = false → s.commands = none ∧ s.results = none
  queued : ∀ candidate, s.commands = some candidate →
    s.results = none ∧ twitchPrefsStore.validate candidate = .ok candidate
  held : s.results = none → (twitchPrefsStore.load {} s.disk).value = s.prefs
  saved : ∀ outcome, s.results = some outcome →
    (twitchPrefsStore.load {} s.disk).value = outcomePrefs s.prefs outcome

variable {s t : Saver} {path : PathBuf}

theorem TwitchAgrees.settled (hcommands : s.commands = none) (hresults : s.results = none)
    (hload : (twitchPrefsStore.load {} s.disk).value = s.prefs) : TwitchAgrees s where
  idle _ := ⟨hcommands, hresults⟩
  queued candidate hqueued := by
    rw [hcommands] at hqueued
    cases hqueued
  held _ := hload
  saved outcome hsaved := by
    rw [hresults] at hsaved
    cases hsaved

theorem TwitchAgrees.trySave (h : TwitchAgrees s) (candidate : TwitchPrefs) :
    TwitchAgrees (s.trySave candidate).2 := by
  unfold Saver.trySave
  cases hvalid : candidate.validate with
  | error error => exact h
  | ok validated =>
    dsimp only
    split
    · exact h
    next hbusy =>
    split
    · exact h
    · have hidle := h.idle ((Bool.not_eq_true _).mp hbusy)
      refine ⟨nofun, ?_, h.held, h.saved⟩
      rintro _ ⟨⟩
      exact ⟨hidle.2, (TwitchPrefs.normal_of_validate hvalid).store_validate⟩

theorem TwitchAgrees.commit (h : TwitchAgrees s) (candidate : TwitchPrefs) :
    TwitchAgrees (s.commitTwitchPrefs candidate).2 := by
  have htry := h.trySave candidate
  unfold Saver.commitTwitchPrefs
  generalize s.trySave candidate = tried at htry
  obtain ⟨result, after⟩ := tried
  -- What is shown to the user says nothing about the file.
  have hmessage (message : Option String) : TwitchAgrees { after with message := message } :=
    ⟨htry.idle, htry.queued, htry.held, htry.saved⟩
  cases result with
  | ok _ => exact htry
  | error failure =>
    cases failure with
    | busy | validation | filesystem | unavailable => exact hmessage _

theorem TwitchAgrees.work {faults : SaveFaults} (hconfirms : Confirms path faults)
    (h : TwitchAgrees s) (hstep : s.work path faults = some t) : TwitchAgrees t := by
  obtain ⟨candidate, hcommands, rfl⟩ := Option.map_eq_some_iff.mp hstep
  obtain ⟨hresults, hvalid⟩ := h.queued candidate hcommands
  have hbusy : s.busy = true := by
    by_contra hidle
    have hnone := (h.idle ((Bool.not_eq_true _).mp hidle)).1
    rw [hcommands] at hnone
    cases hnone
  unfold TwitchPrefsStore.save
  rcases savePrefs_settled twitchPrefsStore "Twitch preferences are too large" s.disk hconfirms hvalid
    with ⟨message, hsave⟩ | ⟨result, after, hsave, hresult, hload⟩
  · rw [hsave]
    refine ⟨fun hidle => ?_, nofun, nofun, ?_⟩
    · exact absurd (hbusy.symm.trans hidle) Bool.noConfusion
    · rintro _ ⟨⟩
      exact h.held hresults
  · rw [hsave]
    refine ⟨fun hidle => ?_, nofun, nofun, ?_⟩
    · exact absurd (hbusy.symm.trans hidle) Bool.noConfusion
    · rintro _ ⟨⟩
      rcases hresult with rfl | ⟨message, rfl⟩ <;> exact hload

theorem TwitchAgrees.poll (h : TwitchAgrees s) : TwitchAgrees s.poll := by
  unfold Saver.poll
  cases hresults : s.results with
  | none => exact h
  | some outcome =>
    have hcommands : s.commands = none := by
      by_contra hsome
      obtain ⟨candidate, hcandidate⟩ := Option.ne_none_iff_exists'.mp hsome
      have hnone := (h.queued candidate hcandidate).1
      rw [hresults] at hnone
      cases hnone
    have hsaved := h.saved outcome hresults
    cases outcome with
    | durable | committedWithWarning | rolledBack => exact .settled hcommands rfl hsaved

theorem twitchAgrees_start (worker : Bool) (syntaxError : String) (disk : Disk) :
    TwitchAgrees (Saver.start worker syntaxError disk) :=
  .settled rfl rfl (twitchPrefsStore.value_load ⟨rfl, rfl, rfl⟩ ⟨rfl, rfl, rfl⟩ disk)

/-- The saves of the worker find the parent directory. -/
def TwitchConfirms (path : PathBuf) (_ : Saver) (event : Saver.Event) : Prop :=
  ∀ faults, event = .work faults → Confirms path faults

theorem TwitchAgrees.step {event : Saver.Event} (h : TwitchAgrees s)
    (hconfirms : TwitchConfirms path s event) (hstep : s.step path event = some t) :
    TwitchAgrees t := by
  cases event with
  | commit candidate =>
    obtain rfl := Option.some.inj hstep
    exact h.commit candidate
  | work faults => exact h.work (hconfirms faults rfl) hstep
  | poll =>
    obtain rfl := Option.some.inj hstep
    exact h.poll

/-- In a run whose saves find the parent directory the application holds what is in the file whenever
the saver is idle. -/
theorem twitchAgrees_of_run {worker : Bool} {syntaxError : String} {disk : Disk}
    {events : List Saver.Event}
    (hconfirms : Along (Saver.step path) (TwitchConfirms path) (Saver.start worker syntaxError disk)
      events)
    (hrun : run (Saver.step path) (Saver.start worker syntaxError disk) events = some s) :
    TwitchAgrees s :=
  run_invariant_along (fun _ _ _ hs hconfirm hstep => hs.step hconfirm hstep)
    (twitchAgrees_start worker syntaxError disk) hconfirms hrun

end Twitch

section Control
open Control Control.ControlCenter

/-- A selection leaves the file and the settings alone, or both hold the same afterwards. -/
theorem control_settled {identity : Identity} (hidentity : identity.Canonical) {path : PathBuf}
    {s t : ControlCenter} (hs : Inv identity s) {event : ControlCenter.Event} {mutate : Mutation}
    (hselection : selection identity event = some mutate)
    (hstep : ControlCenter.step identity path s event = some t) :
    t.disk = s.disk ∧ t.model.settings = s.model.settings ∨
      persisted t.disk = some t.model.settings := by
  have hselects := selects_step hidentity hs.sound hselection hstep
  rcases hselects.settings with hsame | ⟨-, model, -, hdisk, hsettings⟩
  · exact .inl hsame
  · have hsound : Sound identity model.settings := hsettings ▸ hselects.sound
    rw [hdisk, hsettings]
    exact .inr (persisted_replace hsound.validate s.disk)

end Control

section Defaults

theorem size_twitchDefault :
    (twitchPrefsStore.bytes {}).size ≤ twitchPrefsStore.maxBytes := by
  change (Json.prettyLine _).size ≤ _
  rw [Json.size_prettyLine]
  decide +kernel

theorem size_warframeDefault :
    (warframePrefsStore.bytes {}).size ≤ warframePrefsStore.maxBytes := by
  change (Json.prettyLine _).size ≤ _
  rw [Json.size_prettyLine]
  decide +kernel

end Defaults

/-- The stores of preferences tell the truth exactly if the parent directory can be opened after the
rename; the lifecycle store always does. Then the callers hold what is in the file. -/
theorem save_errors_truthful_iff (path : PathBuf) :
    (∀ faults settings disk, Truthful (SettingsStore.save path faults settings) disk) ∧
    (∀ faults, (∀ prefs disk, Truthful (TwitchPrefsStore.save path faults prefs) disk) ↔
      Confirms path faults) ∧
    (∀ faults, (∀ prefs disk, Truthful (save path faults prefs) disk) ↔
      Confirms path faults) ∧
    (∀ worker syntaxError disk events s,
      Along (Twitch.Saver.step path) (TwitchConfirms path)
        (Twitch.Saver.start worker syntaxError disk) events →
      run (Twitch.Saver.step path) (Twitch.Saver.start worker syntaxError disk) events = some s →
      s.busy = false → (twitchPrefsStore.load {} s.disk).value = s.prefs) ∧
    (∀ (s : Warframe.PrefsState) faults dirty applyActions, Confirms path faults →
      (warframePrefsStore.load {} s.disk).value = s.prefs →
      let after := (s.commitWarframePrefsIfDirty (save path faults) dirty
        applyActions).2
      (warframePrefsStore.load {} after.disk).value = after.prefs) ∧
    ∀ (identity : Control.Identity), identity.Canonical → ∀ syntaxError io disk events s event mutate t,
      run (Control.ControlCenter.step identity path)
        (Control.ControlCenter.start identity syntaxError io disk) events = some s →
      Control.ControlCenter.selection identity event = some mutate →
      Control.ControlCenter.step identity path s event = some t →
      t.disk = s.disk ∧ t.model.settings = s.model.settings ∨
        Control.persisted t.disk = some t.model.settings := by
  refine ⟨fun faults settings disk => truthful_settings settings, fun faults => ⟨fun h => ?_, fun h => ?_⟩,
    fun faults => ⟨fun h => ?_, fun h => ?_⟩, ?_, ?_, ?_⟩
  · exact confirms_of_truthful TwitchPrefs.normal_default.store_validate size_twitchDefault (h {} {})
  · exact fun prefs disk => truthful_savePrefs h prefs
  · exact confirms_of_truthful WarframePrefs.normal_default.store_validate size_warframeDefault (h {} {})
  · exact fun prefs disk => truthful_savePrefs h prefs
  · intro worker syntaxError disk events s hconfirms hrun hidle
    have hagrees := twitchAgrees_of_run hconfirms hrun
    exact hagrees.held (hagrees.idle hidle).2
  · intro s faults dirty applyActions hconfirms hs
    exact warframeAgrees_commitIfDirty hconfirms hs dirty applyActions
  · intro identity hidentity syntaxError io disk events s event mutate t hrun hselection hstep
    have hinv := Control.ControlCenter.inv_of_run hidentity
      (Control.ControlCenter.inv_start hidentity syntaxError io disk) hrun
    exact control_settled hidentity hinv hselection hstep

/-! ### A parent directory that cannot be opened -/

/-- Only opening the parent directory fails. -/
def unopenedParent : SaveFaults
  | .openParent => some "permission denied"
  | _ => none

/-- Preferences with another layout of the status widget. -/
def horizontalPrefs : WarframePrefs := { statusHorizontal := true }

theorem horizontalPrefs_valid : horizontalPrefs.validate = .ok horizontalPrefs := by
  rfl

theorem size_horizontalPrefs :
    (warframePrefsStore.bytes horizontalPrefs).size ≤ warframePrefsStore.maxBytes := by
  change (Json.prettyLine _).size ≤ _
  rw [Json.size_prettyLine]
  decide +kernel

theorem save_unopenedParent {path : PathBuf} (h : hasParentDirectory path = true) (disk : Disk) :
    (save path unopenedParent horizontalPrefs).exec disk =
      (.error (.plain "permission denied"),
        disk.replace (warframePrefsStore.bytes horizontalPrefs)) := by
  have hcan : CanReplace path unopenedParent := by
    refine ⟨h, fun step hopen _ => ?_⟩
    cases step <;> first | rfl | exact absurd rfl hopen
  have hvalid := (WarframePrefs.normal_of_validate horizontalPrefs_valid).store_validate
  rcases warframePrefsStore.savePrefs_cases "warframe prefs are too large" path unopenedParent
    horizontalPrefs disk with ⟨validated, -, hvalidated, -, hsave⟩ | ⟨hnot, -⟩
  · obtain rfl : horizontalPrefs = validated := Except.ok.inj (hvalid.symm.trans hvalidated)
    exact hsave
  · exact absurd ⟨_, hcan, hvalid, size_horizontalPrefs⟩ hnot

/-- The file is replaced, the error is not marked as committed, and the controller keeps the
preferences from before. -/
theorem unopened_parent_denies_commit :
    ∃ (path : PathBuf) (candidate : WarframePrefs) (after : Disk),
      (save path unopenedParent candidate).exec {} =
        (.error (.plain "permission denied"), after) ∧ after.replaced = 1 ∧
      let s := ((⟨{}, 0, {}⟩ : Warframe.PrefsState).commitWarframePrefsIfDirty
        (save path unopenedParent) true fun _ => candidate).2
      s.prefs ≠ (warframePrefsStore.load {} s.disk).value := by
  have hpath : hasParentDirectory ⟨"/config/overcrow/warframe.json"⟩ = true := by decide
  have hvalid := (WarframePrefs.normal_of_validate horizontalPrefs_valid).store_validate
  refine ⟨_, horizontalPrefs, _, save_unopenedParent hpath {}, rfl, ?_⟩
  rw [Warframe.PrefsState.commitWarframePrefsIfDirty_plain (save _ unopenedParent)
    ⟨{}, 0, {}⟩ (fun _ => horizontalPrefs) horizontalPrefs_valid (save_unopenedParent hpath {})]
  dsimp only
  rw [warframePrefsStore.load_replace hvalid "", if_neg (Nat.not_lt.mpr size_horizontalPrefs)]
  exact fun hsame => absurd (congrArg WarframePrefs.statusHorizontal hsame) Bool.false_ne_true

end OverCrow.Integration
