import Mathlib.Logic.Function.Basic
import OverCrow.Base.Run
import OverCrow.Config.Store
import OverCrow.Core.Authority

/-!
# Reloads of the configuration

`reload_settings` and `reload_widget_settings` of `crates/overcrow-core/src/service.rs`, called any
number of times at once while both files are replaced and the runtime works on. A call holds
`reload_transaction` while the file is read and its content applied, so contents are applied in the
order in which they were written.
-/

namespace OverCrow.Core
open OverCrow.Base OverCrow.Config OverCrow.Protocol Function

/-- The two files. -/
inductive ConfigFile where
  | settings
  | widgets
  deriving DecidableEq

/-- What a load of one version of the file gives: `SettingsLoad` or `WidgetSettingsLoad`. -/
abbrev ConfigFile.Version : ConfigFile → Type
  | .settings => Load LifecycleSettings
  | .widgets => Load WidgetProfile

/-- Why a reload has failed. The store or the blocking runtime is unavailable, the load panics, or it
ends in a warning; or the runtime refuses the content. -/
inductive ReloadError where
  | load (text : String)
  | settings (error : RuntimeSettingsError)
  | widgets (error : WidgetProfileError)
  deriving DecidableEq

/-- What follows a load: a warning is an error, and the runtime takes the rest,
`service.rs:544-552` and `:570-578`. -/
def CoreRuntime.reload (r : CoreRuntime) (refreshedAt now : Instant) :
    (file : ConfigFile) → file.Version → CoreRuntime × Except ReloadError CoreSnapshot
  | .settings, load => match load.warning with
    | some warning => (r, .error (.load warning))
    | none =>
      let reloaded := r.reloadSettings load.value refreshedAt now
      (reloaded.1, reloaded.2.mapError .settings)
  | .widgets, load => match load.warning with
    | some warning => (r, .error (.load warning))
    | none =>
      let reloaded := r.reloadWidgetProfile load.value now
      (reloaded.1, reloaded.2.mapError .widgets)

/-- Where a call stands. A call remembers how many versions there were when it started. -/
inductive ReloadCall where
  | idle
  /-- For `reload_transaction`. -/
  | waiting (file : ConfigFile) (started : Nat)
  /-- On the blocking pool. -/
  | loading (file : ConfigFile) (started : Nat)
  | loaded (file : ConfigFile) (started version : Nat) (content : file.Version)
  | returned (file : ConfigFile) (started : Nat) (reply : Except ReloadError CoreSnapshot)

/-- The call holds `reload_transaction`. -/
def ReloadCall.holds : ReloadCall → Bool
  | .loading _ _ => true
  | .loaded _ _ _ _ => true
  | _ => false

structure CoreService where
  runtime : CoreRuntime
  /-- The versions of the files, the present one last. -/
  written : (file : ConfigFile) → List file.Version
  /-- The holder of `reload_transaction`. -/
  transaction : Option Nat := none
  calls : Nat → ReloadCall := fun _ => .idle
  /-- The numbers of the versions that were applied, for the record. -/
  applied : ConfigFile → List Nat := fun _ => []

namespace CoreService

inductive Event where
  /-- The file is replaced. -/
  | replace (file : ConfigFile) (content : file.Version)
  | call (id : Nat) (file : ConfigFile)
  | lock (id : Nat)
  /-- The file is read, or the load fails. -/
  | read (id : Nat) (failure : Option String)
  | reply (id : Nat) (refreshedAt now : Instant)
  /-- The future is dropped. -/
  | cancel (id : Nat)
  | operation (op : CoreRuntime.Operation)

/-- The operations of the runtime that are not reloads. -/
def reloads : CoreRuntime.Operation → Bool
  | .reloadSettings _ _ _ => true
  | .reloadWidgetProfile _ _ => true
  | _ => false

/-- A call that holds `reload_transaction` ends. -/
def finish (s : CoreService) (id : Nat) (call : ReloadCall) : CoreService :=
  { s with transaction := none, calls := update s.calls id call }

/-- `service.rs:530-580`. -/
def step (s : CoreService) : Event → Option CoreService
  | .replace file content =>
    some { s with written := update s.written file (s.written file ++ [content]) }
  | .call id file =>
    match s.calls id with
    | .idle => some { s with calls := update s.calls id (.waiting file (s.written file).length) }
    | _ => none
  | .lock id =>
    match s.calls id, s.transaction with
    | .waiting file started, none =>
      some { s with
        transaction := some id, calls := update s.calls id (.loading file started) }
    | _, _ => none
  | .read id failure =>
    match s.calls id, failure with
    | .loading file started, some text => some (s.finish id (.returned file started (.error (.load text))))
    | .loading file started, none =>
      (s.written file).getLast?.map fun content =>
        { s with
          calls := update s.calls id
            (.loaded file started ((s.written file).length - 1) content) }
    | _, _ => none
  | .reply id refreshedAt now =>
    match s.calls id with
    | .loaded file started version content =>
      let reloaded := s.runtime.reload refreshedAt now file content
      some { s.finish id (.returned file started reloaded.2) with
        runtime := reloaded.1
        applied := if reloaded.2.isOk then
            update s.applied file (s.applied file ++ [version]) else s.applied }
    | _ => none
  | .cancel id =>
    if (s.calls id).holds then some (s.finish id .idle)
    else some { s with calls := update s.calls id .idle }
  | .operation op =>
    if reloads op then none else some { s with runtime := s.runtime.apply op }

end CoreService

/-! ### What a reload does -/

/-- The runtime has the content, validated. -/
def CoreRuntime.Has (r : CoreRuntime) : (file : ConfigFile) → file.Version → Prop
  | .settings, load => load.warning = none ∧ validateEnabledSettings load.value = .ok r.settings ∧
      r.shortcutSettingsTx = r.settings.shortcut
  | .widgets, load => load.warning = none ∧ load.value.validate = .ok r.widgetProfile

/-- An error changes nothing, and otherwise the content is applied. -/
theorem CoreRuntime.reload_cases (r : CoreRuntime) (refreshedAt now : Instant) (file : ConfigFile)
    (content : file.Version) :
    ((r.reload refreshedAt now file content).1 = r ∧
      (r.reload refreshedAt now file content).2.isOk = false) ∨
    (r.reload refreshedAt now file content).1.Has file content ∧
      (r.reload refreshedAt now file content).2.isOk = true := by
  cases file with
  | settings =>
    cases hwarning : content.warning with
    | some warning => simp [reload, hwarning, Except.isOk, Except.toBool]
    | none =>
      cases hvalid : validateEnabledSettings content.value with
      | error error =>
        simp [reload, hwarning, reloadSettings, hvalid, Except.mapError, Except.isOk, Except.toBool]
      | ok settings =>
        refine .inr ⟨⟨hwarning, ?_⟩, ?_⟩
        all_goals
          simp only [reload, hwarning, reloadSettings, hvalid, Except.mapError, publishAt, publishSnapshot]
          split <;> simp [dropGame, Except.isOk, Except.toBool]
  | widgets =>
    cases hwarning : content.warning with
    | some warning => simp [reload, hwarning, Except.isOk, Except.toBool]
    | none =>
      cases hvalid : WidgetProfile.validate content.value with
      | error error =>
        simp [reload, hwarning, reloadWidgetProfile, hvalid, Except.mapError, Except.isOk, Except.toBool]
      | ok profile =>
        refine .inr ⟨⟨hwarning, ?_⟩, ?_⟩
        all_goals
          simp [reload, hwarning, reloadWidgetProfile, hvalid, Except.mapError, publishAt,
            publishSnapshot, Except.isOk, Except.toBool]

theorem CoreRuntime.Authority.reload {r : CoreRuntime} (h : r.Authority) (refreshedAt now : Instant)
    (file : ConfigFile) (content : file.Version) :
    (r.reload refreshedAt now file content).1.Authority := by
  cases file with
  | settings =>
    simp only [CoreRuntime.reload]
    split
    · exact h
    · exact authority_apply h (.reloadSettings content.value refreshedAt now)
  | widgets =>
    simp only [CoreRuntime.reload]
    split
    · exact h
    · exact authority_apply h (.reloadWidgetProfile content.value now)

namespace CoreService

structure Inv (s : CoreService) : Prop where
  authority : s.runtime.Authority
  exclusive : ∀ id, (s.calls id).holds = true → s.transaction = some id
  begun : ∀ id file started, s.calls id = .waiting file started ∨ s.calls id = .loading file started →
    started ≤ (s.written file).length
  fresh : ∀ id file started version content, s.calls id = .loaded file started version content →
    (s.written file)[version]? = some content ∧ started ≤ version + 1 ∧
      ∀ v ∈ s.applied file, v ≤ version
  applied : ∀ file, (s.applied file).Pairwise (· ≤ ·) ∧
    ∀ v ∈ s.applied file, v < (s.written file).length

variable {s t : CoreService}

theorem inv_start {r : CoreRuntime} (h : r.Authority) (written : (file : ConfigFile) → List file.Version) :
    Inv { runtime := r, written := written } := by
  refine ⟨h, nofun, ?_, fun _ _ _ _ _ hcall => (nomatch hcall), fun _ => ⟨.nil, nofun⟩⟩
  rintro _ _ _ (hcall | hcall) <;> cases hcall

/-- A call moves on, and takes, keeps or releases `reload_transaction`. -/
theorem Inv.move (h : Inv s) {id : Nat} {call : ReloadCall} {transaction : Option Nat}
    (hothers : ∀ other, other ≠ id → (s.calls other).holds = true → transaction = some other)
    (hholds : call.holds = true → transaction = some id)
    (hbegun : ∀ file started, call = .waiting file started ∨ call = .loading file started →
      started ≤ (s.written file).length)
    (hfresh : ∀ file started version content, call = .loaded file started version content →
      (s.written file)[version]? = some content ∧ started ≤ version + 1 ∧
        ∀ v ∈ s.applied file, v ≤ version) :
    Inv { s with transaction := transaction, calls := update s.calls id call } := by
  constructor
  case authority => exact h.authority
  case applied => exact h.applied
  all_goals
    intro other
    by_cases hid : other = id
    · subst hid
      simpa only [update_self]
    · grind [Inv]

/-- The holder ends. -/
theorem Inv.finish (h : Inv s) {id : Nat} {call : ReloadCall} (hid : (s.calls id).holds = true)
    (hcall : call = .idle ∨ ∃ file started reply, call = .returned file started reply) :
    Inv (s.finish id call) := by
  refine h.move ?_ ?_ ?_ ?_ <;> grind [Inv, ReloadCall.holds]

theorem Inv.step (h : Inv s) (event : Event) (ht : s.step event = some t) : Inv t := by
  cases event with
  | replace file content =>
    cases ht
    refine ⟨h.authority, h.exclusive, ?_, ?_, ?_⟩ <;> grind [Inv]
  | call id file =>
    simp only [CoreService.step] at ht
    split at ht
    · cases ht
      refine h.move ?_ nofun ?_ (fun _ _ _ _ hcall => nomatch hcall) <;> grind [Inv]
    · cases ht
  | lock id =>
    simp only [CoreService.step] at ht
    split at ht
    · cases ht
      refine h.move ?_ (fun _ => rfl) ?_ (fun _ _ _ _ hcall => nomatch hcall) <;> grind [Inv]
    · cases ht
  | read id failure =>
    simp only [CoreService.step] at ht
    split at ht
    · next hcall =>
      cases ht
      exact h.finish (hcall ▸ rfl) (.inr ⟨_, _, _, rfl⟩)
    · next file started hcall =>
      obtain ⟨content, hlast, rfl⟩ := Option.map_eq_some_iff.mp ht
      have hholder := h.exclusive id (hcall ▸ rfl)
      refine h.move (by grind [Inv]) (fun _ => hholder) (by grind) ?_
      rintro _ _ _ _ ⟨⟩
      rw [List.getLast?_eq_getElem?] at hlast
      have hbegun := h.begun id file started (.inr hcall)
      have happlied := (h.applied file).2
      exact ⟨hlast, by omega, fun v hv => Nat.le_sub_one_of_lt (happlied v hv)⟩
    · cases ht
  | reply id refreshedAt now =>
    simp only [CoreService.step] at ht
    split at ht
    · next file started version content hcall =>
      cases ht
      obtain ⟨hversion, -, hlatest⟩ := h.fresh id file started version content hcall
      have hlength : version < (s.written file).length := (List.getElem?_eq_some_iff.mp hversion).1
      have hholds : (s.calls id).holds = true := hcall ▸ rfl
      have hfinished := h.finish hholds
        (.inr ⟨file, started, (s.runtime.reload refreshedAt now file content).2, rfl⟩)
      -- nobody else holds a content now, so nothing loaded earlier can follow
      have hnone (other : Nat) : ((s.finish id (.returned file started
          (s.runtime.reload refreshedAt now file content).2)).calls other).holds = false :=
        Bool.eq_false_iff.mpr fun hholds => nomatch hfinished.exclusive other hholds
      refine ⟨h.authority.reload refreshedAt now file content, hfinished.exclusive, hfinished.begun, ?_, ?_⟩
      · intro other _ _ _ _ hother
        have hfalse := hnone other
        rw [hother] at hfalse
        cases hfalse
      · intro other
        dsimp only
        split
        · by_cases hfile : other = file
          · subst hfile
            rw [update_self]
            refine ⟨List.pairwise_append.mpr ⟨(h.applied other).1, List.pairwise_singleton _ _, ?_⟩, ?_⟩
            · intro v hv w hw
              exact List.mem_singleton.mp hw ▸ hlatest v hv
            · intro v hv
              rcases List.mem_append.mp hv with hv | hv
              · exact (h.applied other).2 v hv
              · exact List.mem_singleton.mp hv ▸ hlength
          · rw [update_of_ne hfile]
            exact h.applied other
        · exact h.applied other
    · cases ht
  | cancel id =>
    simp only [CoreService.step] at ht
    split at ht
    · next hholds =>
      cases ht
      exact h.finish hholds (.inl rfl)
    · cases ht
      refine h.move ?_ nofun ?_ (fun _ _ _ _ hcall => nomatch hcall) <;> grind [Inv]
  | operation op =>
    obtain ⟨-, ht⟩ := Option.ite_none_left_eq_some.mp ht
    cases ht
    exact { h with authority := CoreRuntime.authority_apply h.authority op }

/-- In every run of the service, with any calls at once, replacements of the files and operations of
the runtime in between: only operations and reloads that return `Ok` change the runtime; the versions
of each file are applied in the order in which they were written; and a reload that returns `Ok`,
started after the last replacement of its file, leaves the runtime with that content, validated, and
with a game that is selected or none. -/
theorem reloads_ordered (state : CoreState) (processes : ProcessMap) (settings : LifecycleSettings)
    (widgetProfile : WidgetProfile) (constructedAt : Instant)
    (written : (file : ConfigFile) → List file.Version) (events : List Event) (s : CoreService)
    (hs : run step
      { runtime := .withSettingsAndWidgetProfile state processes settings widgetProfile constructedAt
        written := written } events = some s) :
    (∀ file, (s.applied file).Pairwise (· ≤ ·)) ∧
    ∀ event t, s.step event = some t →
      (t.runtime = s.runtime ∨ (∃ op, event = .operation op) ∨
        ∃ id refreshedAt now file started snapshot, event = .reply id refreshedAt now ∧
          t.calls id = .returned file started (.ok snapshot)) ∧
      ∀ id refreshedAt now file started snapshot, event = .reply id refreshedAt now →
        t.calls id = .returned file started (.ok snapshot) → started = (s.written file).length →
        (∃ content ∈ (s.written file).getLast?, t.runtime.Has file content) ∧
        ∀ game, t.runtime.state.snapshot.activeGame = some game → t.runtime.Authorised game := by
  have h : Inv s := reaches_invariant (fun _ event _ hi ht => hi.step event ht)
    (inv_start (CoreRuntime.authority_withSettingsAndWidgetProfile state processes settings
      widgetProfile constructedAt) written) ⟨events, hs⟩
  refine ⟨fun file => (h.applied file).1, fun event t ht => ⟨?_, ?_⟩⟩
  · cases event with
    | operation op => exact .inr (.inl ⟨op, rfl⟩)
    | reply id refreshedAt now =>
      simp only [step] at ht
      split at ht
      · next file started version content _ =>
        cases ht
        rcases s.runtime.reload_cases refreshedAt now file content with ⟨hsame, -⟩ | ⟨-, hok⟩
        · exact .inl hsame
        · cases hreply : (s.runtime.reload refreshedAt now file content).2 with
          | error error =>
            rw [hreply] at hok
            cases hok
          | ok snapshot =>
            refine .inr (.inr ⟨id, refreshedAt, now, file, started, snapshot, rfl, ?_⟩)
            simp [finish, hreply]
      · cases ht
    | _ =>
      simp only [step] at ht
      grind [finish]
  · rintro id refreshedAt now file started snapshot rfl hreturned hstarted
    refine ⟨?_, (h.step _ ht).authority.active⟩
    simp only [step] at ht
    split at ht
    · next file' started' version content hcall =>
      cases ht
      simp only [finish, update_self, ReloadCall.returned.injEq] at hreturned
      obtain ⟨rfl, rfl, hreply⟩ := hreturned
      obtain ⟨hversion, hlatest, -⟩ := h.fresh id _ _ version content hcall
      have hlength := (List.getElem?_eq_some_iff.mp hversion).1
      refine ⟨content, ?_, ?_⟩
      · rw [List.getLast?_eq_getElem?, Option.mem_def, ← hversion]
        congr
        omega
      · rcases s.runtime.reload_cases refreshedAt now _ content with ⟨-, hfailed⟩ | ⟨hhas, -⟩
        · rw [hreply] at hfailed
          cases hfailed
        · exact hhas
    · cases ht

/-- Enabled settings are read and applied. -/
theorem reloads_ordered_enabled :
    ∃ s t, run step
      { runtime := .withSettingsAndWidgetProfile {} ∅ {} {} 0
        written := fun | .settings => [⟨{ enabled := true }, none⟩] | .widgets => [] }
      [.call 0 .settings, .lock 0, .read 0 none] = some s ∧ s.step (.reply 0 1 1) = some t ∧
      validateEnabledSettings { enabled := true } = .ok t.runtime.settings := by
  obtain ⟨-, h⟩ := reloads_ordered {} ∅ {} {} 0
    (fun | .settings => [⟨{ enabled := true }, none⟩] | .widgets => [])
    [.call 0 .settings, .lock 0, .read 0 none] _ rfl
  obtain ⟨⟨content, hcontent, -, hvalid, -⟩, -⟩ :=
    (h (.reply 0 1 1) _ rfl).2 0 1 1 .settings 1 _ rfl rfl rfl
  cases hcontent
  exact ⟨_, _, rfl, rfl, hvalid⟩

end CoreService
end OverCrow.Core
