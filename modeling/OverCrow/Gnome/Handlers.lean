import Mathlib.Logic.Relation
import OverCrow.Gnome.Bridge

/-!
# What the handlers do

The handlers of signals, snapshots and timers are built from few acts. What all acts keep, all those
handlers keep. Only the end of a window request and the definitions of shortcuts do more.
-/

namespace OverCrow.Gnome
open OverCrow.Protocol

/-- A call that belongs to a window request. -/
def CallKind.belongs : CallKind → Bool
  | .window _ _ => true
  | .snapshot _ (.finish _ _) => true
  | _ => false

namespace Bridge

/-- What a handler can do. -/
inductive Act (e : Desktop) (s : Bridge) : Bridge → Prop
  | note (windows : List Window) (grace : Bool) (retry : Option (Window × Nat))
    (overlay candidate : Option Window) (mode : OverlayMode) (revision : Option Nat) :
    Act e s { s with
      windowSignals := windows, focusGrace := grace, candidateRetry := retry
      overlayWindow := overlay, candidateWindow := candidate, mode := mode
      lastSnapshotRevision := revision }
  | call (kind : CallKind) (hkind : kind.belongs = false) : Act e s (s.callCore kind)
  | refresh : Act e s s.refreshShortcuts
  | passive : Act e s s.applyPassiveState
  | clear : Act e s (s.requestClear e)
  | report (window : Window) (retries : Nat) :
    Act e s ({ s with clearAuthorityFence := false }.raiseIntent e (.report window retries))
  | game (game : Window) (hfence : s.clearAuthorityFence = false) :
    Act e s { s with gameWindow := some game, candidateWindow := some game }

/-- What handlers can do. -/
abbrev Acts (e : Desktop) : Bridge → Bridge → Prop := Relation.ReflTransGen (Act e)

variable {e : Desktop} {s : Bridge}

/-- Something is noted before an act. -/
theorem acts_note (windows : List Window) (grace : Bool) (retry : Option (Window × Nat))
    (overlay candidate : Option Window) (mode : OverlayMode) (revision : Option Nat) :
    Acts e s { s with
      windowSignals := windows, focusGrace := grace, candidateRetry := retry
      overlayWindow := overlay, candidateWindow := candidate, mode := mode
      lastSnapshotRevision := revision } :=
  .single (.note windows grace retry overlay candidate mode revision)

theorem acts_requestReport (window : Window) (force : Bool) (retries : Nat) :
    Acts e s (s.requestReport e window force retries) := by
  rcases requestReport_cases e s window force retries with h | h | h
  · rw [h]
  · rw [h]
    exact .single .clear
  · rw [h]
    exact .single (.report window retries)

theorem acts_placeOverlay : Acts e s (s.placeOverlay e) := by
  rcases placeOverlay_cases e s with h | h
  · rw [h]
  · rw [h]
    exact .single .clear

theorem acts_scheduleCandidateRetry (request : WindowRequest) :
    Acts e s (s.scheduleCandidateRetry e request) := by
  unfold scheduleCandidateRetry
  dsimp only
  split
  · exact acts_note ..
  · split <;> exact acts_note ..

theorem acts_showGame (game : Window) (hfence : s.clearAuthorityFence = false) :
    Acts e s (s.showGame e game) := by
  unfold showGame
  split
  · split
    · exact .refl
    · exact (acts_note ..).trans (acts_requestReport _ _ _)
  · have hgame : Acts e s
        { s.cancelCandidateRetry with gameWindow := some game, candidateWindow := some game } :=
      (acts_note (s := s) ..).tail (.game (s := s.cancelCandidateRetry) game hfence)
    exact (hgame.trans acts_placeOverlay).tail .refresh

theorem acts_applySnapshotJson (text : SnapshotText) : Acts e s (s.applySnapshotJson e text) := by
  cases text with
  | malformed => exact .single .passive
  | envelope revision mode active =>
    unfold applySnapshotJson
    dsimp only
    split
    · exact .refl
    split
    · exact (acts_note ..).tail .passive
    split
    · exact (acts_note ..).tail .passive
    · next hfence =>
      split
      · exact (acts_note ..).tail .passive
      · exact (acts_note ..).tail .passive
      · split
        · split
          · exact (acts_note ..).tail .clear
          · refine (acts_note ..).trans (acts_showGame _ ?_)
            rw [Bool.and_eq_true, not_and, decide_eq_true_eq] at hfence
            exact Bool.eq_false_iff.mpr fun h => hfence h nofun
        · exact (acts_note ..).tail .passive

theorem acts_handleFocusWindow (window : Option Window) :
    Acts e s (s.handleFocusWindow e window) := by
  cases window with
  | none => exact .refl
  | some window =>
    unfold handleFocusWindow
    dsimp only
    split
    · exact .refl
    split
    · have hplaced : Acts e s ({ s with overlayWindow := some window }.placeOverlay e) :=
        (acts_note ..).trans acts_placeOverlay
      split
      · exact hplaced
      · split
        · exact hplaced
        · exact hplaced.trans (acts_requestReport _ _ _)
    · have hcancelled : Acts e s s.cancelCandidateRetry := acts_note ..
      split
      · exact hcancelled
      · refine hcancelled.trans (.trans ?_ ((acts_note ..).trans (acts_requestReport _ _ _)))
        split
        · exact .single .passive
        · exact .refl

theorem acts_onWindowIdentityChanged (window : Window) :
    Acts e s (s.onWindowIdentityChanged e window) := by
  unfold onWindowIdentityChanged
  split
  · exact (acts_note ..).trans acts_placeOverlay
  split
  · exact .refl
  · exact (acts_note ..).trans (acts_requestReport _ _ _)

theorem acts_onWindowUnmanaged (window : Window) : Acts e s (s.onWindowUnmanaged e window) := by
  unfold onWindowUnmanaged
  dsimp only
  split
  · exact acts_note ..
  split
  · -- Whether the game is given up before the clear or by it makes no difference.
    change Acts e s (requestClear e { s with windowSignals := s.windowSignals.filter (· ≠ window) })
    exact (acts_note ..).tail .clear
  · exact acts_note ..

theorem acts_signal (signal : Signal) : Acts e s (s.signal e signal) := by
  cases signal with
  | windowCreated window =>
    obtain ⟨windows, h⟩ := attachWindow_eq s window
    unfold Bridge.signal
    dsimp only
    rw [h]
    exact (acts_note ..).trans (acts_onWindowIdentityChanged window)
  | identityChanged window => exact acts_onWindowIdentityChanged window
  | windowChanged window =>
    unfold Bridge.signal onWindowChanged
    dsimp only
    split
    · exact acts_placeOverlay
    split
    · exact (acts_requestReport _ _ _).trans acts_placeOverlay
    · exact .refl
  | unmanaged window => exact acts_onWindowUnmanaged window
  | restacked => exact acts_placeOverlay
  | focusChanged =>
    unfold Bridge.signal onFocusChanged
    dsimp only
    split
    · exact acts_note ..
    · exact (acts_note ..).trans (acts_handleFocusWindow _)
  | acceleratorActivated action =>
    unfold Bridge.signal onAccelerator
    dsimp only
    split
    · exact .single (.call _ rfl)
    · exact .refl

theorem acts_settleFocus : Acts e s (s.settleFocus e) := by
  unfold settleFocus
  split
  · exact (acts_note ..).tail .clear
  · exact (acts_note ..).trans (acts_handleFocusWindow _)

theorem acts_retryCandidate (window : Window) (retries : Nat) :
    Acts e s (s.retryCandidate e window retries) := by
  unfold retryCandidate
  dsimp only
  split
  · exact acts_note ..
  · exact (acts_note ..).trans (acts_requestReport _ _ _)

theorem acts_keepalive : Acts e s (s.keepalive e) := by
  unfold keepalive
  split
  · exact .refl
  split
  · exact acts_requestReport _ _ _
  · exact .refl

/-- What is left of a callback stays. -/
theorem rest_eq_of_acts {t : Bridge} (h : Acts e s t) : t.rest = s.rest := by
  induction h with
  | refl => rfl
  | @tail t r _ hact ih =>
    refine Eq.trans ?_ ih
    have hraise (s : Bridge) (intent : Intent) : (s.raiseIntent e intent).rest = s.rest := by
      rcases raiseIntent_cases e s intent with ⟨-, h⟩ | ⟨-, signature, report, canRetry, h⟩ <;> rw [h]
    have hpassive (s : Bridge) : s.applyPassiveState.rest = s.rest := by
      obtain ⟨reported, calls, -, h⟩ := applyPassiveState_eq s
      rw [h]
    cases hact with
    | note => rfl
    | call kind => rw [callCore_eq]
    | refresh => rw [refreshShortcuts, callCore_eq]
    | passive => exact hpassive t
    | clear => exact (hraise _ _).trans (hpassive _)
    | report window retries => exact hraise _ _
    | game => rfl

/-- The end of a request, and what follows it. -/
theorem acts_finishRequest (request : WindowRequest) (canRetry : Bool) :
    Acts e (s.finishWindowRequest e) (s.finishRequest e request canRetry) := by
  unfold finishRequest
  dsimp only
  split
  · exact acts_scheduleCandidateRetry request
  · exact .refl

/-- A failure, the end of the request, and what follows it. -/
theorem acts_failRequest (request : WindowRequest) (canRetry : Bool) :
    ∃ t, Acts e s t ∧ Acts e (t.finishWindowRequest e) (s.failRequest e request canRetry) := by
  refine ⟨if request.serial = s.windowIntentSerial then s.applyPassiveState else s, ?_, ?_⟩
  · split
    · exact .single .passive
    · exact .refl
  · unfold failRequest
    by_cases hretry : (decide (request.serial = s.windowIntentSerial) && canRetry) = true
    · rw [if_pos hretry]
      exact acts_scheduleCandidateRetry request
    · rw [if_neg hretry]

end Bridge

end OverCrow.Gnome
