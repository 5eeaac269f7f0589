import OverCrow.Base.Mealy
import OverCrow.Hyprland.Window

/-!
# Which window is reported to Core

`Reconciler` of `crates/overcrow-hyprland/src/reconcile.rs`. The active window is reported, and it
is remembered by its address while the overlay, no window, or during interaction any other window
is focused.
-/

namespace OverCrow.Hyprland
open OverCrow.Base OverCrow.Protocol Option

/-- What one call of `reconcile` is given. -/
structure ReconcileStep where
  active : Option HyprWindow
  clients : List HyprWindow
  monitors : List HyprMonitor
  preserveGame : Bool

/-- `reconcile.rs:9`. -/
structure Reconciler where
  lastReportable : Option WindowAddress := none
  deriving DecidableEq

/-- `reconcile.rs:75`. -/
def isOnFocusedWorkspace (report : WindowReport) (monitors : List HyprMonitor) : Bool :=
  (exactlyOne (monitors.filter (·.focused))).any fun monitor =>
    monitor.activeWorkspace == some report.workspaceId

namespace Reconciler

/-- `reconcile.rs:60`. -/
def rememberedReport (r : Reconciler) (clients : List HyprWindow) (monitors : List HyprMonitor) :
    Option WindowReport := do
  let remembered ← r.lastReportable
  let window ← clients.find? (·.address == remembered.text)
  let candidate ← WindowReport.fromWindow window monitors
  if !candidate.isOverlay && isOnFocusedWorkspace candidate monitors then some candidate else none

/-- The report of the active window, `reconcile.rs:25`. -/
def activeReport (i : ReconcileStep) : Option WindowReport := do
  let active ← i.active
  let window ← i.clients.find? (·.address == active.address)
  WindowReport.fromWindow window i.monitors

/-- The report and the memory before a missing report clears it,
`reconcile.rs:33-48`. -/
def select (r : Reconciler) (i : ReconcileStep) : Option WindowReport × Reconciler :=
  if i.preserveGame then (r.rememberedReport i.clients i.monitors, r)
  else
    match i.active, activeReport i with
    | _, some report =>
      if !report.isOverlay then (some report, ⟨some report.address⟩)
      else (r.rememberedReport i.clients i.monitors, r)
    | none, none => (r.rememberedReport i.clients i.monitors, r)
    | some _, none => (none, r)

/-- `reconcile.rs:18`. -/
def reconcile (r : Reconciler) (i : ReconcileStep) : Option WindowReport × Reconciler :=
  match r.select i with
  | (none, _) => (none, { lastReportable := none })
  | (some report, r) => (some report, r)

end Reconciler

/-! ### What a call reports -/

/-- A window of the step that `from_window` accepts and that is not the overlay. -/
def ReconcileStep.Reportable (i : ReconcileStep) (report : WindowReport) : Prop :=
  (∃ window ∈ i.clients, WindowReport.fromWindow window i.monitors = some report) ∧
    report.isOverlay = false

/-- The active window has the address. -/
def ReconcileStep.IsActive (i : ReconcileStep) (address : WindowAddress) : Prop :=
  ∃ window, i.active = some window ∧ window.address = address.text

theorem WindowReport.address_of_fromWindow {window : HyprWindow} {monitors : List HyprMonitor}
    {report : WindowReport} (h : fromWindow window monitors = some report) :
    window.address = report.address.text := by
  unfold fromWindow at h
  rw [ite_none_left_eq_some, bind_eq_bind, bind_eq_some_iff] at h
  obtain ⟨-, address, haddress, h⟩ := h
  simp only [bind_eq_bind, bind_eq_some_iff, ite_none_left_eq_some] at h
  obtain ⟨pid, -, rect, -, scale, -, -, workspaceId, -, hreport⟩ := h
  cases hreport
  exact WindowAddress.parse_eq_some.mp haddress

namespace Reconciler

variable {r : Reconciler} {i : ReconcileStep} {report : WindowReport}

theorem rememberedReport_eq_some (h : r.rememberedReport i.clients i.monitors = some report) :
    i.Reportable report ∧ r.lastReportable = some report.address ∧
      isOnFocusedWorkspace report i.monitors = true := by
  unfold rememberedReport at h
  simp only [bind_eq_bind, bind_eq_some_iff, ite_none_right_eq_some,
    Bool.and_eq_true] at h
  obtain ⟨remembered, hremembered, window, hfind, candidate, hcandidate, ⟨hoverlay, hfocused⟩,
    hreport⟩ := h
  cases hreport
  have hfound := List.find?_some hfind
  have haddress := WindowReport.address_of_fromWindow hcandidate
  rw [beq_iff_eq.mp hfound] at haddress
  refine ⟨⟨⟨window, List.mem_of_find?_eq_some hfind, hcandidate⟩, ?_⟩, ?_, hfocused⟩
  · exact (Bool.not_eq_true' _).mp hoverlay
  · rw [hremembered, WindowAddress.ext haddress]

theorem activeReport_eq_some (h : activeReport i = some report)
    (hoverlay : (!report.isOverlay) = true) :
    i.Reportable report ∧ i.IsActive report.address := by
  unfold activeReport at h
  simp only [bind_eq_bind, bind_eq_some_iff] at h
  obtain ⟨active, hactive, window, hfind, hreport⟩ := h
  have hfound := List.find?_some hfind
  have haddress := WindowReport.address_of_fromWindow hreport
  rw [beq_iff_eq.mp hfound] at haddress
  exact ⟨⟨⟨window, List.mem_of_find?_eq_some hfind, hreport⟩, (Bool.not_eq_true' _).mp hoverlay⟩,
    active, hactive, haddress⟩

/-- What one call does: it reports nothing and forgets, it reports the active window and remembers
it, or it reports the remembered window. -/
theorem reconcile_cases (r : Reconciler) (i : ReconcileStep) :
    r.reconcile i = (none, {}) ∨
      (∃ report, r.reconcile i = (some report, ⟨some report.address⟩) ∧ i.Reportable report ∧
        i.preserveGame = false ∧ i.IsActive report.address) ∨
      ∃ report, r.reconcile i = (some report, r) ∧ i.Reportable report ∧
        r.lastReportable = some report.address ∧ isOnFocusedWorkspace report i.monitors = true := by
  have hremember (hselect : r.select i = (r.rememberedReport i.clients i.monitors, r)) :
      r.reconcile i = (none, {}) ∨ ∃ report, r.reconcile i = (some report, r) ∧
        i.Reportable report ∧ r.lastReportable = some report.address ∧
        isOnFocusedWorkspace report i.monitors = true := by
    unfold reconcile
    rw [hselect]
    cases hreport : r.rememberedReport i.clients i.monitors with
    | none => exact .inl rfl
    | some report => exact .inr ⟨report, rfl, rememberedReport_eq_some hreport⟩
  cases hpreserve : i.preserveGame with
  | true => exact (hremember (if_pos hpreserve)).imp_right .inr
  | false =>
    cases hactive : activeReport i with
    | some report =>
      cases hoverlay : !report.isOverlay with
      | true =>
        obtain ⟨hreportable, hisActive⟩ := activeReport_eq_some hactive hoverlay
        refine .inr (.inl ⟨report, ?_, hreportable, rfl, hisActive⟩)
        simp [reconcile, select, hpreserve, hactive, hoverlay]
      | false =>
        have hselect : r.select i = (r.rememberedReport i.clients i.monitors, r) := by
          simp [select, hpreserve, hactive, hoverlay]
        exact (hremember hselect).imp_right .inr
    | none =>
      cases hwindow : i.active with
      | none =>
        have hselect : r.select i = (r.rememberedReport i.clients i.monitors, r) := by
          simp [select, hpreserve, hactive, hwindow]
        exact (hremember hselect).imp_right .inr
      | some window =>
        refine .inl ?_
        simp [reconcile, select, hpreserve, hactive, hwindow]

/-! ### Runs -/

/-- A call together with what it reported. -/
abbrev Reported := ReconcileStep × Option WindowReport

/-- The window with the address was reported because it was active, and it has been reported in
every call since. -/
def ActiveSince (address : WindowAddress) : List Reported → Prop :=
  Since (fun call => ∃ report, call.2 = some report ∧ report.address = address) fun call =>
    (∃ report, call.2 = some report ∧ report.address = address) ∧
      call.1.preserveGame = false ∧ call.1.IsActive address

/-- What is remembered is the address of the last report, and it has been reported since it was
active. -/
structure Tracks (history : List Reported) (r : Reconciler) : Prop where
  remembered : r.lastReportable = (history.getLast?.bind Prod.snd).map (·.address)
  since : ∀ address, r.lastReportable = some address → ActiveSince address history

theorem Tracks.step {history : List Reported} (h : Tracks history r) :
    Tracks (history ++ [(i, (r.reconcile i).1)]) (r.reconcile i).2 := by
  have hlast : (history ++ [(i, (r.reconcile i).1)]).getLast?.bind Prod.snd =
      (r.reconcile i).1 := by
    rw [List.getLast?_concat, bind_some]
  rcases reconcile_cases r i with hnone | ⟨report, hactive, -, hpreserve, hisActive⟩ |
    ⟨report, hremembered, -, hlastReportable, -⟩
  · rw [hnone] at hlast ⊢
    exact ⟨by rw [hlast]; rfl, nofun⟩
  · rw [hactive] at hlast ⊢
    refine ⟨by rw [hlast]; rfl, fun address haddress => ?_⟩
    cases haddress
    exact since_append_singleton.mpr (.inl ⟨⟨report, rfl, rfl⟩, hpreserve, hisActive⟩)
  · rw [hremembered] at hlast ⊢
    refine ⟨by rw [hlast, hlastReportable]; rfl, fun address haddress => ?_⟩
    have hsame := some.inj (hlastReportable.symm.trans haddress)
    exact since_append_singleton.mpr (.inr ⟨⟨report, rfl, hsame⟩, h.since address haddress⟩)

theorem tracks_of_run (steps : List ReconcileStep) :
    Tracks (Mealy.trace reconcile {} steps) (Mealy.after reconcile {} steps) :=
  Mealy.invariant ⟨rfl, nofun⟩ (fun _ _ _ h => h.step) steps

/-- What was reported since something was not is what was active since. -/
theorem ActiveSince.after_gap {address : WindowAddress} {older newer : List Reported}
    {gap : ReconcileStep} (h : ActiveSince address (older ++ (gap, none) :: newer)) :
    ∃ call ∈ newer, call.1.preserveGame = false ∧ call.1.IsActive address := by
  induction newer using List.reverseRecOn with
  | nil =>
    rcases since_append_singleton.mp h with ⟨⟨report, hreport, -⟩, -⟩ | ⟨⟨report, hreport, -⟩, -⟩
    · cases hreport
    · cases hreport
  | append_singleton newer call ih =>
    rw [← List.cons_append, ← List.append_assoc] at h
    rcases since_append_singleton.mp h with ⟨-, hactive⟩ | ⟨-, hbefore⟩
    · exact ⟨call, by simp, hactive⟩
    · obtain ⟨other, hother, hactive⟩ := ih hbefore
      exact ⟨other, List.mem_append_left _ hother, hactive⟩

/-- In every run a reported window is valid and not the overlay. It is active and no game is
preserved, or it was reported in the call before and is on the focused workspace; it has been
reported since it was active, and not across a call that reported nothing. -/
theorem reported_since_active (steps : List ReconcileStep) {i : ReconcileStep}
    {report : WindowReport}
    (h : ((Mealy.after reconcile {} steps).reconcile i).1 = some report) :
    i.Reportable report ∧
      (i.preserveGame = false ∧ i.IsActive report.address ∨
        isOnFocusedWorkspace report i.monitors = true ∧
          ∃ previous, (Mealy.trace reconcile {} steps).getLast?.bind Prod.snd = some previous ∧
            previous.address = report.address) ∧
      ActiveSince report.address (Mealy.trace reconcile {} (steps ++ [i])) ∧
      ∀ older gap newer, Mealy.trace reconcile {} (steps ++ [i]) = older ++ (gap, none) :: newer →
        ∃ call ∈ newer, call.1.preserveGame = false ∧ call.1.IsActive report.address := by
  have htracks := tracks_of_run steps
  have hnext := tracks_of_run (steps ++ [i])
  rw [Mealy.after_append_singleton] at hnext
  have hmemory : ((Mealy.after reconcile {} steps).reconcile i).2.lastReportable =
      some report.address := by
    rw [hnext.remembered, Mealy.trace_append_singleton, List.getLast?_concat, bind_some, h]
    rfl
  have hsince := hnext.since _ hmemory
  have hgap : ∀ older gap newer,
      Mealy.trace reconcile {} (steps ++ [i]) = older ++ (gap, none) :: newer →
        ∃ call ∈ newer, call.1.preserveGame = false ∧ call.1.IsActive report.address :=
    fun older gap newer htrace => (htrace ▸ hsince).after_gap
  rcases reconcile_cases (Mealy.after reconcile {} steps) i with
    hcase | ⟨_, hcase, hvalid, hactive⟩ | ⟨_, hcase, hvalid, hlast, hfocused⟩
  · rw [hcase] at h
    cases h
  · rw [hcase] at h
    cases h
    exact ⟨hvalid, .inl hactive, hsince, hgap⟩
  · rw [hcase] at h
    cases h
    rw [htracks.remembered, map_eq_some_iff] at hlast
    exact ⟨hvalid, .inr ⟨hfocused, hlast⟩, hsince, hgap⟩

/-- The focused game or overlay, with both on the workspace of the only monitor. -/
def sampleCall (active : HyprWindow) (preserveGame : Bool) : ReconcileStep where
  active := some active
  clients := [sampleWindow "0x10" "steam_app_1623730" 136279 (12, 36),
    sampleWindow "0x20" overlayAppId 42 (12, 36)]
  monitors := [⟨0, .ofBits 0x3ff0000000000000, true, some 1⟩]
  preserveGame

theorem game_reported_while_overlay_active :
    ∃ report, ((Mealy.after reconcile {}
        [sampleCall (sampleWindow "0x10" "steam_app_1623730" 136279 (12, 36)) false]).reconcile
          (sampleCall (sampleWindow "0x20" overlayAppId 42 (12, 36)) true)).1 = some report ∧
      report.appId = "steam_app_1623730" ∧
      ActiveSince report.address (Mealy.trace reconcile {}
        [sampleCall (sampleWindow "0x10" "steam_app_1623730" 136279 (12, 36)) false,
          sampleCall (sampleWindow "0x20" overlayAppId 42 (12, 36)) true]) := by
  have hreport : (((Mealy.after reconcile {}
      [sampleCall (sampleWindow "0x10" "steam_app_1623730" 136279 (12, 36)) false]).reconcile
        (sampleCall (sampleWindow "0x20" overlayAppId 42 (12, 36)) true)).1.map (·.appId)) =
      some "steam_app_1623730" := by
    decide +kernel
  obtain ⟨report, hreport, happId⟩ := map_eq_some_iff.mp hreport
  exact ⟨report, hreport, happId, (reported_since_active _ hreport).2.2.1⟩

end Reconciler

end OverCrow.Hyprland
