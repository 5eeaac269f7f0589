import OverCrow.Base.History
import OverCrow.KWin.Script

/-!
# What Core was told

Placing overlays, with the handlers that run inside it, tells Core nothing and does not touch a
window that can be reported. So an event tells Core nothing, or clears, or reports the window that
it remembers; `Told` says which, and the history of a run follows from it.
-/

namespace OverCrow.KWin
open OverCrow.Base List Option

namespace Script

variable {d : Desktop} {emit : Emit} {s t r : Script}

/-! ### Placing overlays -/

/-- Overlays are placed: nothing else is changed. -/
structure Placed (s t : Script) : Prop where
  eq : ∃ overlays placed windows, t =
    { s with overlayWindows := overlays, overlayBeingPlaced := placed, windows := windows }
  kept : ∀ window, (t.windows window).resourceClass = (s.windows window).resourceClass ∧
    (t.windows window).deleted = (s.windows window).deleted
  others : ∀ window, (s.windows window).isOverlay = false → t.windows window = s.windows window

theorem Placed.refl (s : Script) : Placed s s :=
  ⟨⟨s.overlayWindows, s.overlayBeingPlaced, s.windows, rfl⟩, fun _ => ⟨rfl, rfl⟩, fun _ _ => rfl⟩

theorem Placed.isOverlay_eq (h : Placed s t) (window : Window) :
    (t.windows window).isOverlay = (s.windows window).isOverlay := by
  unfold WindowState.isOverlay
  rw [(h.kept window).1]

theorem Placed.trans (h : Placed s t) (h' : Placed t r) : Placed s r := by
  refine ⟨?_, fun window => ⟨?_, ?_⟩, fun window hwindow => ?_⟩
  · obtain ⟨overlays, placed, windows, rfl⟩ := h.eq
    obtain ⟨overlays', placed', windows', rfl⟩ := h'.eq
    exact ⟨overlays', placed', windows', rfl⟩
  · exact (h'.kept window).1.trans (h.kept window).1
  · exact (h'.kept window).2.trans (h.kept window).2
  · exact (h'.others window ((h.isOverlay_eq window).trans hwindow)).trans (h.others window hwindow)

/-- Which overlays are remembered or being placed does not matter. -/
theorem placed_overlays (overlays : List Window) (placed : Option Window) :
    Placed s { s with overlayWindows := overlays, overlayBeingPlaced := placed } :=
  ⟨⟨overlays, placed, s.windows, rfl⟩, fun _ => ⟨rfl, rfl⟩, fun _ _ => rfl⟩

/-- The handler of a change of an overlay places overlays only. -/
def Places (emit : Emit) : Prop :=
  ∀ s window, (s.windows window).isOverlay = true → (s.windows window).deleted = false →
    Placed s (emit s window)

section Placing

variable (hemit : Places emit) {window : Window}
  (hoverlay : (s.windows window).isOverlay = true) (hdeleted : (s.windows window).deleted = false)

include hemit hoverlay hdeleted

theorem placed_assign (state : WindowState)
    (hclass : state.resourceClass = (s.windows window).resourceClass)
    (hstate : state.deleted = (s.windows window).deleted) : Placed s (s.assign emit window state) := by
  unfold assign
  split
  · exact .refl s
  · have hplaced : Placed s { s with windows := Function.update s.windows window state } := by
      refine ⟨⟨_, _, _, rfl⟩, fun other => ?_, fun other hother => ?_⟩
      · dsimp only
        by_cases h : other = window
        · subst h
          rw [Function.update_self]
          exact ⟨hclass, hstate⟩
        · rw [Function.update_of_ne h]
          exact ⟨rfl, rfl⟩
      · refine Function.update_of_ne ?_ _ _
        rintro rfl
        exact Bool.false_ne_true (hother.symm.trans hoverlay)
    refine hplaced.trans (hemit _ window ?_ ?_)
    · exact (hplaced.isOverlay_eq window).trans hoverlay
    · exact (hplaced.kept window).2.trans hdeleted

theorem placed_syncOverlayScope : Placed s (s.syncOverlayScope emit window) := by
  unfold syncOverlayScope
  split
  · exact .refl s
  · next last _ =>
    have hdesktops : Placed s (s.syncDesktops emit window last) := by
      unfold syncDesktops
      split
      · exact .refl s
      · exact placed_assign hemit hoverlay hdeleted _ rfl rfl
    refine hdesktops.trans ?_
    dsimp only
    split
    · exact .refl _
    unfold syncActivities
    split
    · exact .refl _
    · exact placed_assign hemit ((hdesktops.isOverlay_eq window).trans hoverlay)
        ((hdesktops.kept window).2.trans hdeleted) _ rfl rfl

theorem placed_placeOverlay : Placed s (s.placeOverlay emit window) := by
  unfold placeOverlay
  split
  · exact .refl s
  · next geometry _ =>
    split
    · exact .refl s
    · have hbegun : Placed s { s with overlayBeingPlaced := some window } := placed_overlays _ _
      have hassigned := placed_assign (s := { s with overlayBeingPlaced := some window }) hemit
        hoverlay hdeleted { s.windows window with frameGeometry := some geometry } rfl rfl
      exact (hbegun.trans hassigned).trans (placed_overlays _ _)

end Placing

theorem placed_rememberOverlay (window : Window) : Placed s (s.rememberOverlay window) := by
  unfold rememberOverlay
  split
  · exact .refl s
  · exact placed_overlays _ _

/-- `configureOverlay` says whether it has an overlay before it. -/
theorem configureOverlay_fst (window : Window) : (s.configureOverlay emit window).1 =
    ((s.windows window).isOverlay && !(s.windows window).deleted) := by
  change (if !(s.windows window).isOverlay then _ else _ : Bool × Script).1 = _
  cases (s.windows window).isOverlay with
  | false => rfl
  | true => cases (s.windows window).deleted <;> rfl

theorem placed_configureOverlay (hemit : Places emit) (window : Window) :
    Placed s (s.configureOverlay emit window).2 := by
  unfold configureOverlay
  split
  · exact .refl s
  split
  · exact .refl s
  · next hoverlay hdeleted =>
    rw [Bool.not_eq_true', Bool.not_eq_false] at hoverlay
    rw [Bool.not_eq_true] at hdeleted
    have hremembered := placed_rememberOverlay (s := s) window
    have hscope := hremembered.trans (placed_syncOverlayScope hemit
      ((hremembered.isOverlay_eq window).trans hoverlay)
      ((hremembered.kept window).2.trans hdeleted))
    exact hscope.trans (placed_placeOverlay hemit ((hscope.isOverlay_eq window).trans hoverlay)
      ((hscope.kept window).2.trans hdeleted))

/-- Inside an assignment to an overlay only overlays are placed, at any depth. -/
theorem places_told (d : Desktop) (n : Nat) : Places (told d n) := by
  induction n with
  | zero => exact fun s _ _ _ => .refl s
  | succ n ih =>
    intro s window hoverlay hdeleted
    have hconfigured : (s.configureOverlay (told d n) window).1 = true := by
      rw [configureOverlay_fst, hoverlay, hdeleted]
      rfl
    have hplaced := placed_configureOverlay (s := s) ih window
    unfold told handleTrackedChange
    revert hconfigured hplaced
    rcases s.configureOverlay (told d n) window with ⟨configured, t⟩
    rintro rfl hplaced
    exact hplaced

theorem placed_foldl_configureOverlay (hemit : Places emit) (windows : List Window) (s : Script) :
    Placed s (windows.foldl (fun s overlay => (s.configureOverlay emit overlay).2) s) := by
  induction windows generalizing s with
  | nil => exact .refl s
  | cons window windows ih => exact (placed_configureOverlay hemit window).trans (ih _)

/-! ### What an event tells -/

/-- What is done after `s`, with `d` as the desktop: nothing, a clear, or a report of the window that
is remembered then. -/
inductive Told (d : Desktop) (s t : Script) : List Action → Prop
  | nothing (hlast : t.lastReportableWindow = s.lastReportableWindow)
    (hsignature : t.lastReportSignature = s.lastReportSignature) : Told d s t []
  | cleared (hlast : t.lastReportableWindow = none) (hsignature : t.lastReportSignature = none) :
    Told d s t [.call .clearWindow]
  | reported (window : Window) (report : Report)
    (hnormalized : (d.window window).normalizedWindow = some report)
    (hlast : t.lastReportableWindow = some window) (hsignature : t.lastReportSignature = some report) :
    Told d s t [.call (.reportWindow report)]

theorem Told.congr {made : List Action} (h : Told d s t made)
    (hlast : s.lastReportableWindow = r.lastReportableWindow)
    (hsignature : s.lastReportSignature = r.lastReportSignature) : Told d r t made := by
  cases h with
  | nothing hl hs => exact .nothing (hl.trans hlast) (hs.trans hsignature)
  | cleared hl hs => exact .cleared hl hs
  | reported window report hnormalized hl hs => exact .reported window report hnormalized hl hs

/-- The windows as the event has found them, up to overlays that were placed. -/
def Finds (d : Desktop) (s : Script) : Prop :=
  ∀ window, (s.windows window).resourceClass = (d.window window).resourceClass ∧
    (s.windows window).deleted = (d.window window).deleted ∧
    ((d.window window).isOverlay = false → s.windows window = d.window window)

theorem Finds.placed (h : Finds d s) (hplaced : Placed s t) : Finds d t := by
  intro window
  obtain ⟨hclass, hdeleted, hother⟩ := h window
  refine ⟨(hplaced.kept window).1.trans hclass, (hplaced.kept window).2.trans hdeleted, fun hwindow => ?_⟩
  have hnot : (s.windows window).isOverlay = false := by
    rw [hother hwindow]
    exact hwindow
  exact (hplaced.others window hnot).trans (hother hwindow)

theorem Finds.isOverlay_eq (h : Finds d s) (window : Window) :
    (s.windows window).isOverlay = (d.window window).isOverlay := by
  unfold WindowState.isOverlay
  rw [(h window).1]

theorem Finds.normalizedWindow_eq (h : Finds d s) (window : Window) :
    (s.windows window).normalizedWindow = (d.window window).normalizedWindow := by
  cases hoverlay : (d.window window).isOverlay with
  | false => rw [(h window).2.2 hoverlay]
  | true =>
    -- An overlay has no report, placed or not.
    have hboth (state : WindowState) (hstate : state.isOverlay = true) :
        state.normalizedWindow = none := by
      unfold WindowState.normalizedWindow
      rw [hstate, Bool.or_true, if_pos rfl]
    rw [hboth _ hoverlay, hboth _ ((h.isOverlay_eq window).trans hoverlay)]

/-- A window is reported, or Core is told to clear. Without force a report of the window that was
reported last is left out if it says the same. -/
theorem told_reportOrClear (hemit : Places emit) (hfinds : Finds d s) (window : Option Window)
    (force : Bool) (hforce : force = true ∨ window = s.lastReportableWindow) :
    ∃ made, (s.reportOrClear emit window force).made = s.made ++ made ∧
      Told d s (s.reportOrClear emit window force) made ∧
      (s.reportOrClear emit window force).nullActivationPending = s.nullActivationPending ∧
      ((s.reportOrClear emit window force).lastReportableWindow = none ∨
        (s.reportOrClear emit window force).lastReportableWindow = window) := by
  cases hnormalized : s.normalizedWindow window with
  | none =>
    have hfalse : s.reportOrClear emit window force =
        { s with lastReportableWindow := none }.clearWindow := by
      unfold reportOrClear reportWindow
      rw [hnormalized]
    rw [hfalse]
    exact ⟨_, rfl, .cleared rfl rfl, rfl, .inl rfl⟩
  | some report =>
    obtain ⟨window, rfl, hreport⟩ := bind_eq_some_iff.mp hnormalized
    rw [hfinds.normalizedWindow_eq] at hreport
    obtain ⟨overlays, placed, windows, hsync⟩ := (placed_foldl_configureOverlay hemit s.overlayWindows
      { s with lastReportableWindow := some window }).eq
    by_cases hsame : (!force && s.lastReportSignature = some report) = true
    · -- Only a change of the window that was reported last comes without force.
      have hlast : some window = s.lastReportableWindow := by
        rcases hforce with rfl | hlast
        · cases hsame
        · exact hlast
      have hunchanged : s.reportOrClear emit (some window) force =
          { s with lastReportableWindow := some window, overlayWindows := overlays
                   overlayBeingPlaced := placed, windows := windows } := by
        unfold reportOrClear reportWindow syncOverlays
        rw [hnormalized]
        dsimp only
        rw [hsync, if_pos hsame]
      rw [hunchanged]
      exact ⟨[], (append_nil _).symm, .nothing hlast rfl, rfl, .inr rfl⟩
    · have hreported : s.reportOrClear emit (some window) force =
          { s with lastReportableWindow := some window, lastReportSignature := some report
                   overlayWindows := overlays, overlayBeingPlaced := placed, windows := windows
                   made := s.made ++ [.call (.reportWindow report)] } := by
        unfold reportOrClear reportWindow syncOverlays
        rw [hnormalized]
        dsimp only
        rw [hsync, if_neg hsame]
        rfl
      rw [hreported]
      exact ⟨_, rfl, .reported window report hreport rfl rfl, rfl, .inr rfl⟩

/-- What `handleActiveWindow` does with a window: it is the one that is remembered, or it is an
overlay and the one remembered stays. -/
theorem told_handleActiveWindow (hemit : Places emit) (hfinds : Finds d s) (window : Option Window) :
    ∃ made, (s.handleActiveWindow emit window).made = s.made ++ .handled window :: made ∧
      Told d s (s.handleActiveWindow emit window) made ∧
      (s.handleActiveWindow emit window).nullActivationPending = s.nullActivationPending ∧
      ∀ last, (s.handleActiveWindow emit window).lastReportableWindow = some last →
        (window = some last ∧ (d.window last).isOverlay = false) ∨
        (s.lastReportableWindow = some last ∧
          ∃ overlay, window = some overlay ∧ (d.window overlay).isOverlay = true) := by
  cases window with
  | none =>
    obtain ⟨made, hmade, htold, hpending, hlast⟩ := told_reportOrClear (d := d)
      (s := { s with made := s.made ++ [Action.handled none] }) hemit hfinds none true (.inl rfl)
    refine ⟨made, ?_, htold.congr rfl rfl, hpending, fun last hsome => ?_⟩
    · exact hmade.trans (append_assoc _ _ _)
    · rcases hlast with hnone | hnone <;> exact absurd (hsome.symm.trans hnone) (some_ne_none _)
  | some window =>
    unfold handleActiveWindow
    dsimp only
    split
    · next hoverlay =>
      have hplaced := placed_configureOverlay
        (s := { s with made := s.made ++ [Action.handled (some window)] }) hemit window
      have hfound : Finds d { s with made := s.made ++ [Action.handled (some window)] } := hfinds
      have hfound := hfound.placed hplaced
      obtain ⟨overlays, placed, windows, heq⟩ := hplaced.eq
      rw [heq] at hfound ⊢
      obtain ⟨made, hmade, htold, hpending, hlast⟩ := told_reportOrClear hemit hfound _ true (.inl rfl)
      refine ⟨made, hmade.trans (append_assoc _ _ _), htold.congr rfl rfl, hpending,
        fun last hsome => .inr ⟨?_, window, rfl, ?_⟩⟩
      · rcases hlast with hnone | hsame
        · exact absurd (hsome.symm.trans hnone) (some_ne_none _)
        · exact hsame.symm.trans hsome
      · exact (hfinds.isOverlay_eq window).symm.trans hoverlay
    · next hoverlay =>
      obtain ⟨made, hmade, htold, hpending, hlast⟩ := told_reportOrClear (d := d)
        (s := { s with made := s.made ++ [Action.handled (some window)] }) hemit hfinds (some window)
        true (.inl rfl)
      refine ⟨made, hmade.trans (append_assoc _ _ _), htold.congr rfl rfl, hpending,
        fun last hsome => .inl ?_⟩
      obtain rfl : window = last := by
        rcases hlast with hnone | hsame
        · exact absurd (hsome.symm.trans hnone) (some_ne_none _)
        · exact some.inj (hsame.symm.trans hsome)
      exact ⟨rfl, (hfinds.isOverlay_eq window).symm.trans (Bool.eq_false_iff.mpr hoverlay)⟩

/-! ### Events -/

/-- What an event can do, besides to the pending activation. -/
inductive Outcome (d : Desktop) (event : Event) (s t : Script) : List Action → Prop
  | idle (hlast : t.lastReportableWindow = s.lastReportableWindow)
    (hsignature : t.lastReportSignature = s.lastReportSignature)
    (hkept : ∀ window, event = .closed window ∨ event = .windowRemoved window →
      s.lastReportableWindow ≠ some window) : Outcome d event s t []
  | forgotten (window : Window) (hevent : event = .closed window ∨ event = .windowRemoved window)
    (hlast : t.lastReportableWindow = none) (hsignature : t.lastReportSignature = none) :
    Outcome d event s t [.call .clearWindow]
  | changed (window : Window) (made : List Action) (hevent : event = .changed window)
    (htold : Told d s t made)
    (hlast : t.lastReportableWindow = none ∨ t.lastReportableWindow = s.lastReportableWindow) :
    Outcome d event s t made
  | handled (window : Option Window) (made : List Action) (htold : Told d s t made)
    (hactive : event = .activated window ∨ d.active = window)
    (hopen : ∀ window, event ≠ .closed window ∧ event ≠ .windowRemoved window)
    (hnull : window = none → d.active = none ∧ (event = .loaded ∨
      (event = .keepalive ∧ s.nullActivationPending = false) ∨
      (event = .nullActivationTimer ∧ s.nullActivationPending = true)))
    (hlast : ∀ last, t.lastReportableWindow = some last →
      (window = some last ∧ (d.window last).isOverlay = false) ∨
      (s.lastReportableWindow = some last ∧
        ∃ overlay, window = some overlay ∧ (d.window overlay).isOverlay = true)) :
    Outcome d event s t (.handled window :: made)

/-- Whether a null activation is pending after an event. -/
def pendingAfter (input : Input) (pending : Bool) : Bool :=
  match input.2 with
  | .activated window => (window.or input.1.active).isNone
  | .keepalive => pending && input.1.active.isNone
  | .nullActivationTimer => false
  | _ => pending

/-- What an event leaves. -/
def Results (input : Input) (s t : Script) : Prop :=
  Outcome input.1 input.2 s t t.made ∧
    t.nullActivationPending = pendingAfter input s.nullActivationPending

section Results

variable {event : Event} {window : Option Window} (hemit : Places emit) (hmade : s.made = [])
  (hfinds : Finds d s)

include hemit hmade hfinds

/-- A window is handled as active at the end of an event, after overlays were placed. -/
theorem results_handleActiveWindow {before : Script} (hplaced : Placed s r)
    (hlast : s.lastReportableWindow = before.lastReportableWindow)
    (hsignature : s.lastReportSignature = before.lastReportSignature)
    (hpending : s.nullActivationPending = pendingAfter (d, event) before.nullActivationPending)
    (hactive : event = .activated window ∨ d.active = window)
    (hopen : ∀ window, event ≠ .closed window ∧ event ≠ .windowRemoved window)
    (hnull : window = none → d.active = none ∧ (event = .loaded ∨
      (event = .keepalive ∧ before.nullActivationPending = false) ∨
      (event = .nullActivationTimer ∧ before.nullActivationPending = true))) :
    Results (d, event) before (r.handleActiveWindow emit window) := by
  have hfound := hfinds.placed hplaced
  obtain ⟨overlays, placed, windows, rfl⟩ := hplaced.eq
  obtain ⟨made, hafter, htold, hsame, hremembered⟩ := told_handleActiveWindow hemit hfound window
  obtain ⟨⟩ := s
  cases hmade
  cases hlast
  refine ⟨?_, hsame.trans hpending⟩
  rw [hafter]
  exact .handled window made (htold.congr rfl hsignature) hactive hopen hnull hremembered

omit hemit hfinds in
/-- Overlays are placed in an event, and nothing is told. -/
theorem results_idle (hplaced : Placed s t)
    (hopen : ∀ window, ¬(event = .closed window ∨ event = .windowRemoved window))
    (hpending : s.nullActivationPending = pendingAfter (d, event) s.nullActivationPending) :
    Results (d, event) s t := by
  obtain ⟨overlays, placed, windows, rfl⟩ := hplaced.eq
  refine ⟨?_, hpending⟩
  rw [hmade]
  exact .idle rfl rfl fun window hwindow => absurd hwindow (hopen window)

theorem results_changed (window : Window) :
    Results (d, .changed window) s (s.handleTrackedChange d emit window) := by
  have hplaced := placed_configureOverlay (s := s) hemit window
  unfold handleTrackedChange
  revert hplaced
  rcases s.configureOverlay emit window with ⟨configured, t⟩
  intro hplaced
  have hidle : Results (d, .changed window) s t := results_idle hmade hplaced nofun rfl
  cases configured with
  | true => exact hidle
  | false =>
    dsimp only
    split
    · next hactive =>
      exact results_handleActiveWindow hemit hmade hfinds hplaced rfl rfl rfl (.inr hactive.symm)
        (fun _ => ⟨nofun, nofun⟩) nofun
    split
    · next hwindow =>
      rw [Bool.and_eq_true, decide_eq_true_eq] at hwindow
      have hfound := hfinds.placed hplaced
      obtain ⟨overlays, placed, windows, rfl⟩ := hplaced.eq
      obtain ⟨made, hafter, htold, hpending, hlast⟩ :=
        told_reportOrClear hemit hfound (some window) false (.inr hwindow.1)
      refine ⟨.changed window _ rfl ?_ ?_, hpending⟩
      · obtain ⟨⟩ := s
        cases hmade
        rw [hafter]
        exact htold.congr rfl rfl
      · exact hlast.imp_right fun hsame => hsame.trans hwindow.1
    · exact hidle

omit hemit hfinds in
theorem results_forgetTrackedWindow (window : Window)
    (hevent : event = .closed window ∨ event = .windowRemoved window) :
    Results (d, event) s (s.forgetTrackedWindow window) := by
  have hpending : pendingAfter (d, event) s.nullActivationPending = s.nullActivationPending := by
    rcases hevent with rfl | rfl <;> rfl
  have hsame (other : Window) (hother : event = .closed other ∨ event = .windowRemoved other) :
      other = window := by
    rcases hevent with rfl | rfl
    · rcases hother with h | h
      · exact (Event.closed.inj h).symm
      · cases h
    · rcases hother with h | h
      · cases h
      · exact (Event.windowRemoved.inj h).symm
  unfold forgetTrackedWindow
  dsimp only
  split
  · refine ⟨?_, hpending.symm⟩
    change Outcome d event s _ (s.made ++ [.call .clearWindow])
    rw [hmade]
    exact .forgotten window hevent rfl rfl
  · next hlast =>
    refine ⟨?_, hpending.symm⟩
    change Outcome d event s _ s.made
    rw [hmade]
    refine .idle rfl rfl fun other hother hsome => hlast ?_
    rw [← hsame other hother]
    exact hsome.symm

theorem results_handle (event : Event) : Results (d, event) s (s.handle d emit event) := by
  cases event with
  | loaded =>
    exact results_handleActiveWindow hemit hmade hfinds
      (placed_foldl_configureOverlay hemit d.stackingOrder s) rfl rfl rfl (.inr rfl)
      (fun _ => ⟨nofun, nofun⟩) fun hnone => ⟨hnone, .inl rfl⟩
  | windowAdded window =>
    have hplaced := placed_configureOverlay (s := s) hemit window
    unfold handle handleWindowAdded
    dsimp only
    split
    · next hactive =>
      exact results_handleActiveWindow hemit hmade hfinds hplaced rfl rfl rfl (.inr hactive.symm)
        (fun _ => ⟨nofun, nofun⟩) nofun
    · exact results_idle hmade hplaced nofun rfl
  | windowRemoved window => exact results_forgetTrackedWindow hmade window (.inr rfl)
  | closed window => exact results_forgetTrackedWindow hmade window (.inl rfl)
  | changed window => exact results_changed hemit hmade hfinds window
  | activated window =>
    unfold handle handleWindowActivation
    dsimp only
    split
    · next active hactive =>
      refine results_handleActiveWindow (s := { s with nullActivationPending := false }) hemit hmade
        hfinds (.refl _) rfl rfl ?_ ?_ (fun _ => ⟨nofun, nofun⟩) nofun
      · exact (congrArg isNone hactive).symm
      · cases window with
        | none => exact .inr hactive
        | some window => exact .inl (congrArg Event.activated hactive)
    · next hnone =>
      refine ⟨?_, (congrArg isNone hnone).symm⟩
      rw [hmade]
      exact .idle rfl rfl nofun
  | keepalive =>
    unfold handle handleKeepalive
    dsimp only
    split
    · next active hactive =>
      refine results_handleActiveWindow (s := { s with nullActivationPending := false }) hemit hmade
        hfinds (.refl _) rfl rfl ?_ (.inr hactive) (fun _ => ⟨nofun, nofun⟩) nofun
      unfold pendingAfter
      rw [hactive, isNone_some, Bool.and_false]
    · next hnone =>
      have hpending : pendingAfter (d, .keepalive) s.nullActivationPending =
          s.nullActivationPending := by
        unfold pendingAfter
        rw [hnone, isNone_none, Bool.and_true]
      split
      · exact results_idle hmade (.refl s) nofun hpending.symm
      · next hquiet =>
        exact results_handleActiveWindow hemit hmade hfinds (.refl s) rfl rfl hpending.symm (.inr hnone)
          (fun _ => ⟨nofun, nofun⟩)
          fun _ => ⟨hnone, .inr (.inl ⟨rfl, Bool.eq_false_iff.mpr hquiet⟩)⟩
  | nullActivationTimer =>
    unfold handle handleNullActivationTimer
    dsimp only
    split
    · next hquiet =>
      rw [Bool.not_eq_true'] at hquiet
      exact results_idle hmade (.refl s) nofun hquiet
    · next hwaiting =>
      rw [Bool.not_eq_true', Bool.not_eq_false] at hwaiting
      exact results_handleActiveWindow (s := { s with nullActivationPending := false }) hemit hmade
        hfinds (.refl _) rfl rfl rfl (.inr rfl) (fun _ => ⟨nofun, nofun⟩)
        fun hnone => ⟨hnone, .inr (.inr ⟨rfl, hwaiting⟩)⟩

end Results

/-- What a step can do. -/
theorem step_outcome (s : Script) (input : Input) :
    Outcome input.1 input.2 { s with windows := input.1.window, made := [] } (s.step input).2
        (s.step input).1 ∧
      (s.step input).2.nullActivationPending = pendingAfter input s.nullActivationPending :=
  results_handle (s := { s with windows := input.1.window, made := [] })
    (places_told input.1 input.1.depth) rfl (fun _ => ⟨rfl, rfl, fun _ => rfl⟩) input.2

end Script

/-! ### Histories -/

/-- An event of the past, with what it made the script do. -/
abbrev Entry := Input × List Action

/-- The call of an action. -/
def Action.call? : Action → Option Call
  | .handled _ => none
  | .call c => some c

/-- The last call to Core. -/
def lastCall (history : List Entry) : Option Call :=
  (history.flatMap fun entry => entry.2.filterMap Action.call?).getLast?

namespace Entry

/-- No call to Core. -/
def silent (entry : Entry) : Prop := entry.2.filterMap Action.call? = []

/-- The call that reports the window as it was then. -/
def Reports (window : Window) (report : Report) (entry : Entry) : Prop :=
  .call (.reportWindow report) ∈ entry.2 ∧
    (entry.1.1.window window).normalizedWindow = some report

/-- The window was the active one and no overlay, and was handled as active. -/
def Activates (window : Window) (entry : Entry) : Prop :=
  .handled (some window) ∈ entry.2 ∧ (entry.1.1.window window).isOverlay = false ∧
    (entry.1.2 = .activated (some window) ∨ entry.1.1.active = some window)

/-- Nothing else but overlays was handled as active, and the window was not closed or removed. -/
def Leaves (window : Window) (entry : Entry) : Prop :=
  (∀ active, .handled active ∈ entry.2 → active = some window ∨
    ∃ overlay, active = some overlay ∧ (entry.1.1.window overlay).isOverlay = true) ∧
  entry.1.2 ≠ .closed window ∧ entry.1.2 ≠ .windowRemoved window

/-- No window is active, the activation says. -/
def NullActivation (entry : Entry) : Prop :=
  entry.1.2 = .activated none ∧ entry.1.1.active = none

/-- Neither the grace timer nor an activation or a keepalive that finds an active window. -/
def Waits (entry : Entry) : Prop :=
  entry.1.2 ≠ .nullActivationTimer ∧
  (entry.1.2 = .keepalive → entry.1.1.active = none) ∧
  ∀ window, entry.1.2 = .activated window → window.or entry.1.1.active = none

end Entry

/-- A null activation without an active window or the grace timer since. -/
def Pending (history : List Entry) : Prop := Since Entry.Waits Entry.NullActivation history

/-- Null is handled as active by a timer that finds no active window: the keepalive while no null
activation is pending, or the grace timer of one. -/
def Nulls (before : List Entry) (entry : Entry) : Prop :=
  .handled none ∈ entry.2 → entry.1.1.active = none ∧ (entry.1.2 = .loaded ∨
    (entry.1.2 = .keepalive ∧ ¬Pending before) ∨ (entry.1.2 = .nullActivationTimer ∧ Pending before))

/-- Core is told to clear when null or a window is handled as active, or for a window that has
changed, was closed or was removed. -/
def Clears (entry : Entry) : Prop :=
  .call .clearWindow ∈ entry.2 → (∃ window, .handled window ∈ entry.2) ∨
    ∃ window, entry.1.2 = .changed window ∨ entry.1.2 = .closed window ∨ entry.1.2 = .windowRemoved window

/-- What the variables say about the history. -/
structure Matches (history : List Entry) (s : Script) : Prop where
  cleared : s.lastReportableWindow = none → ∀ call, lastCall history = some call → call = .clearWindow
  reported : ∀ window, s.lastReportableWindow = some window → ∃ report,
    s.lastReportSignature = some report ∧ lastCall history = some (.reportWindow report) ∧
    Since Entry.silent (Entry.Reports window report) history
  activated : ∀ window, s.lastReportableWindow = some window →
    Since (Entry.Leaves window) (Entry.Activates window) history
  pending : s.nullActivationPending = true ↔ Pending history
  nulls : Each Nulls history
  clears : ∀ entry ∈ history, Clears entry

variable {d : Desktop} {s t : Script} {history : List Entry} {input : Input} {made : List Action}

theorem lastCall_append_singleton (history : List Entry) (entry : Entry) :
    lastCall (history ++ [entry]) = (entry.2.filterMap Action.call?).getLast?.or (lastCall history) := by
  unfold lastCall
  rw [flatMap_append, flatMap_singleton, getLast?_append]

theorem pending_append_singleton (history : List Entry) (entry : Entry) :
    Pending (history ++ [entry]) ↔ Entry.NullActivation entry ∨ Entry.Waits entry ∧ Pending history :=
  since_append_singleton

/-- The pending activation, read off the history. -/
theorem pendingAfter_iff (entry : Entry) {pending : Bool} (h : pending = true ↔ Pending history) :
    Script.pendingAfter entry.1 pending = true ↔ Pending (history ++ [entry]) := by
  rw [pending_append_singleton, ← h]
  obtain ⟨⟨d, event⟩, made⟩ := entry
  unfold Script.pendingAfter Entry.NullActivation Entry.Waits
  cases event with
  | activated window =>
    cases window with
    | none =>
      simp only [none_or, isNone_iff_eq_none, true_and, ne_eq, reduceCtorEq,
        not_false_eq_true, false_implies, Event.activated.injEq, forall_eq']
      exact ⟨.inl, Or.rec id And.left⟩
    | some window => simp
  | keepalive => simp [and_comm]
  | _ => simp

/-- Whether Core is told, and what. -/
theorem told_lastCall (handled : List Action) (htold : Script.Told input.1 s t made)
    (h : Matches history s) (hhandled : handled.filterMap Action.call? = []) :
    (t.lastReportableWindow = none → ∀ call,
      lastCall (history ++ [(input, handled ++ made)]) = some call → call = .clearWindow) ∧
    ∀ window, t.lastReportableWindow = some window → ∃ report,
      t.lastReportSignature = some report ∧
      lastCall (history ++ [(input, handled ++ made)]) = some (.reportWindow report) ∧
      Since Entry.silent (Entry.Reports window report) (history ++ [(input, handled ++ made)]) := by
  rw [lastCall_append_singleton]
  rw [filterMap_append, hhandled, nil_append]
  cases htold with
  | nothing hlast hsignature =>
    rw [hlast, hsignature]
    refine ⟨h.cleared, fun window hwindow => ?_⟩
    obtain ⟨report, hreport, hcall, hsince⟩ := h.reported window hwindow
    refine ⟨report, hreport, hcall, since_append_singleton.mpr (.inr ⟨?_, hsince⟩)⟩
    rw [append_nil]
    exact hhandled
  | cleared hlast hsignature =>
    rw [hlast]
    exact ⟨fun _ call hcall => (some.inj hcall).symm, nofun⟩
  | reported window report hnormalized hlast hsignature =>
    rw [hlast, hsignature]
    refine ⟨nofun, fun other hother => ?_⟩
    cases hother
    refine ⟨report, rfl, rfl, since_append_singleton.mpr (.inl ⟨?_, hnormalized⟩)⟩
    exact mem_append_right _ (mem_singleton.mpr rfl)

/-- No window is handled by what tells Core. -/
theorem not_mem_handled_of_told (htold : Script.Told d s t made) (window : Option Window) :
    .handled window ∉ made := by
  cases htold with
  | nothing => exact not_mem_nil
  | cleared | reported => exact fun hmem => nomatch mem_singleton.mp hmem

/-- What an event that handles nothing as active leaves. -/
theorem leaves_of_not_handled {window : Window} (hmade : ∀ active, .handled active ∉ made)
    (hopen : input.2 ≠ .closed window ∧ input.2 ≠ .windowRemoved window) :
    Entry.Leaves window (input, made) :=
  ⟨fun active hmem => absurd hmem (hmade active), hopen⟩

theorem matches_step (h : Matches history s) (input : Input) :
    Matches (history ++ [(input, (s.step input).1)]) (s.step input).2 := by
  obtain ⟨houtcome, hpending⟩ := s.step_outcome input
  revert houtcome hpending
  generalize (s.step input).1 = made
  generalize (s.step input).2 = t
  intro houtcome hpending
  have hwaits : t.nullActivationPending = true ↔ Pending (history ++ [(input, made)]) := by
    rw [hpending]
    exact pendingAfter_iff (input, made) h.pending
  have hclears (hentry : Clears (input, made)) : ∀ entry ∈ history ++ [(input, made)], Clears entry := by
    intro entry hmem
    rcases mem_append.mp hmem with hmem | hmem
    · exact h.clears entry hmem
    · rw [mem_singleton.mp hmem]
      exact hentry
  have hnulls (hentry : Nulls history (input, made)) : Each Nulls (history ++ [(input, made)]) :=
    each_append_singleton.mpr ⟨h.nulls, hentry⟩
  cases houtcome with
  | idle hlast hsignature hkept =>
    obtain ⟨hcleared, hreported⟩ := told_lastCall []
      (.nothing (s := s) hlast hsignature) h rfl
    refine ⟨hcleared, hreported, fun window hwindow => ?_, hwaits, hnulls nofun, hclears nofun⟩
    have hremembered : s.lastReportableWindow = some window := hlast.symm.trans hwindow
    refine since_append_singleton.mpr (.inr ⟨?_, h.activated window hremembered⟩)
    exact leaves_of_not_handled (fun _ => not_mem_nil)
      ⟨fun hclosed => hkept window (.inl hclosed) hremembered,
        fun hremoved => hkept window (.inr hremoved) hremembered⟩
  | forgotten window hevent hlast hsignature =>
    obtain ⟨hcleared, hreported⟩ := told_lastCall []
      (.cleared (s := s) hlast hsignature) h rfl
    refine ⟨hcleared, hreported, fun window hwindow => ?_, hwaits, hnulls ?_, hclears fun _ => .inr ?_⟩
    · exact absurd (hwindow.symm.trans hlast) (some_ne_none _)
    · exact fun hmem => nomatch mem_singleton.mp hmem
    · exact ⟨window, .inr hevent⟩
  | changed window made hevent htold hlast =>
    have hhandled := not_mem_handled_of_told htold
    obtain ⟨hcleared, hreported⟩ := told_lastCall (s := s) [] (htold.congr rfl rfl) h rfl
    refine ⟨hcleared, hreported, fun other hother => ?_, hwaits, hnulls ?_, hclears fun _ => .inr ?_⟩
    · have hremembered : s.lastReportableWindow = some other := by
        rcases hlast with hnone | hsame
        · exact absurd (hother.symm.trans hnone) (some_ne_none _)
        · exact hsame.symm.trans hother
      refine since_append_singleton.mpr (.inr ⟨?_, h.activated other hremembered⟩)
      refine leaves_of_not_handled hhandled ?_
      rw [hevent]
      exact ⟨nofun, nofun⟩
    · exact fun hmem => absurd hmem (hhandled none)
    · exact ⟨window, .inl hevent⟩
  | handled window made htold hactive hopen hnull hlast =>
    obtain ⟨hcleared, hreported⟩ := told_lastCall (s := s) [.handled window]
      (htold.congr rfl rfl) h rfl
    have hhandled (active : Option Window) (hmem : .handled active ∈ Action.handled window :: made) :
        active = window := by
      rcases mem_cons.mp hmem with heq | hmem
      · exact Action.handled.inj heq
      · exact absurd hmem (not_mem_handled_of_told htold active)
    refine ⟨hcleared, hreported, fun last hsome => ?_, hwaits, hnulls fun hmem => ?_,
      hclears fun _ => .inl ⟨window, mem_cons_self⟩⟩
    · rcases hlast last hsome with ⟨rfl, hno⟩ | ⟨hremembered, overlay, rfl, hoverlay⟩
      · exact since_append_singleton.mpr (.inl ⟨mem_cons_self, hno, hactive⟩)
      · refine since_append_singleton.mpr (.inr ⟨⟨fun active hmem => .inr ?_, hopen last⟩,
          h.activated last hremembered⟩)
        exact ⟨overlay, hhandled active hmem, hoverlay⟩
    · obtain ⟨hnone, hwhy⟩ := hnull (hhandled none hmem).symm
      refine ⟨hnone, hwhy.imp_right (Or.imp (And.imp_right fun hfalse => ?_) (And.imp_right h.pending.mp))⟩
      rw [← h.pending]
      exact fun htrue => Bool.false_ne_true (hfalse.symm.trans htrue)

theorem matches_start : Matches [] {} :=
  ⟨fun _ _ hcall => (nomatch hcall), nofun, nofun, iff_of_false nofun not_since_nil, each_nil, nofun⟩

/-- While a null activation is pending, only the grace timer handles null as active. -/
theorem not_handled_none_of_pending (hnulls : Each Nulls history) {before after : List Entry}
    {entry : Entry} (hsplit : history = before ++ entry :: after) (hpending : Pending before)
    (hloaded : entry.1.2 ≠ .loaded) (htimer : entry.1.2 ≠ .nullActivationTimer) :
    .handled none ∉ entry.2 := by
  intro hmem
  obtain ⟨-, hwhy | ⟨-, hnot⟩ | ⟨hevent, -⟩⟩ := hnulls before entry after hsplit hmem
  · exact hloaded hwhy
  · exact hnot hpending
  · exact htimer hevent

/-- After every event no window is remembered exactly if Core was told to clear last, or nothing; a
window that is remembered was reported last, with the signature as the report and from its
properties then, and it was the active window, since when no other window but overlays was handled
as active and it was not closed or removed. From a null activation on, up to the first event that
finds an active window, only the grace timer handles null as active; else null is handled when the
script is loaded, or by the keepalive without a pending null activation, and what else clears is
about a window. -/
theorem Script.reports_match_core (inputs : List Input) :
    let history := Mealy.trace step {} inputs
    let s := Mealy.after step {} inputs
    (s.lastReportableWindow = none ↔ ∀ call, lastCall history = some call → call = .clearWindow) ∧
    (∀ window, s.lastReportableWindow = some window → ∃ report,
      s.lastReportSignature = some report ∧ lastCall history = some (.reportWindow report) ∧
      Since Entry.silent (Entry.Reports window report) history ∧
      Since (Entry.Leaves window) (Entry.Activates window) history) ∧
    (∀ before null middle entry after, history = before ++ null :: middle ++ entry :: after →
      Entry.NullActivation null → (∀ between ∈ middle, Entry.Waits between) →
      entry.1.2 ≠ .loaded → entry.1.2 ≠ .nullActivationTimer → .handled none ∉ entry.2) ∧
    Each Nulls history ∧ ∀ entry ∈ history, Clears entry := by
  intro history s
  have h : Matches history s :=
    Mealy.invariant matches_start (fun _ _ input hmatches => matches_step hmatches input) inputs
  refine ⟨⟨h.cleared, fun hcalls => ?_⟩, fun window hwindow => ?_, ?_, h.nulls, h.clears⟩
  · cases hlast : s.lastReportableWindow with
    | none => rfl
    | some window =>
      obtain ⟨report, -, hcall, -⟩ := h.reported window hlast
      cases hcalls _ hcall
  · obtain ⟨report, hsignature, hcall, hsince⟩ := h.reported window hwindow
    exact ⟨report, hsignature, hcall, hsince, h.activated window hwindow⟩
  · intro before null middle entry after hsplit hnull hmiddle hloaded htimer
    exact not_handled_none_of_pending h.nulls hsplit ⟨before, null, middle, rfl, hnull, hmiddle⟩
      hloaded htimer

end OverCrow.KWin
