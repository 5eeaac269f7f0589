import OverCrow.Gnome.Handlers

/-!
# Accelerators and the game

Accelerators are grabbed for a game. Giving up the game releases them, but it does not make the
definitions that were asked for before it stale: `_applyPassiveState` does not advance
`_shortcutRequestSerial`.
-/

namespace OverCrow.Gnome
open OverCrow.Base

namespace Bridge

/-- Accelerators are grabbed only while there is a game. -/
def Held (s : Bridge) : Prop := s.actionToShortcut ≠ [] → s.gameWindow ≠ none

instance (s : Bridge) : Decidable s.Held := inferInstanceAs (Decidable (_ → _))

/-- Definitions arrive that can be grabbed, for the last time they were asked for, and there is no
game. -/
def Late (s : Bridge) (callback : Desktop × Event) : Prop :=
  ∃ index definitions, callback.2 = .answer index (.definitions (some definitions)) ∧
    s.rest = none ∧ s.attached = true ∧
    s.calls[index]? = some ⟨s.generation, .definitions s.shortcutRequestSerial⟩ ∧
    definitions ≠ [] ∧ (grabAll callback.1 definitions []).isSome = true ∧ s.gameWindow = none

/-! ### Handlers that grab nothing -/

/-- Nothing is grabbed: what is grabbed stays while the game stays or there is one, or it is
released. -/
def Yields (s t : Bridge) : Prop :=
  (t.actionToShortcut = s.actionToShortcut ∧ t.shortcutSignature = s.shortcutSignature ∧
    (t.gameWindow = s.gameWindow ∨ t.gameWindow ≠ none)) ∨
  t.actionToShortcut = [] ∧ ∀ definitions, t.shortcutSignature = some definitions → definitions = []

/-- Definitions that were applied and are not empty are grabbed. -/
def Signed (s : Bridge) : Prop :=
  ∀ definitions, s.shortcutSignature = some definitions → definitions ≠ [] → s.actionToShortcut ≠ []

variable {e : Desktop} {s t r : Bridge}
  {callback : Desktop × Event}

theorem Yields.refl (s : Bridge) : Yields s s := .inl ⟨rfl, rfl, .inl rfl⟩

theorem Yields.trans (hs : Yields s t) (ht : Yields t r) : Yields s r := by
  rcases ht with ⟨hactions, hsignature, hgame⟩ | hreleased
  · rcases hs with ⟨hactions', hsignature', hgame'⟩ | ⟨hnone, hunsigned⟩
    · refine .inl ⟨hactions.trans hactions', hsignature.trans hsignature', ?_⟩
      rcases hgame with hsame | hgame
      · rw [hsame]
        exact hgame'
      · exact .inr hgame
    · exact .inr ⟨hactions.trans hnone, fun definitions hsigned =>
        hunsigned definitions (hsignature ▸ hsigned)⟩
  · exact .inr hreleased

theorem Held.of_yields (h : Held s) (hs : Yields s t) : Held t := by
  intro hgrabbed
  rcases hs with ⟨hactions, -, hsame | hgame⟩ | ⟨hnone, -⟩
  · rw [hsame]
    exact h (hactions ▸ hgrabbed)
  · exact hgame
  · exact absurd hnone hgrabbed

theorem Signed.of_yields (h : Signed s) (hs : Yields s t) : Signed t := by
  intro definitions hsigned hne
  rcases hs with ⟨hactions, hsignature, -⟩ | ⟨-, hunsigned⟩
  · rw [hactions]
    exact h definitions (hsignature ▸ hsigned) hne
  · exact absurd (hunsigned definitions hsigned) hne

theorem yields_callCore (kind : CallKind) : Yields s (s.callCore kind) := by
  rw [callCore_eq]
  exact .refl s

theorem yields_reportShortcutAvailability (state : Availability) :
    Yields s (s.reportShortcutAvailability state) := by
  obtain ⟨reported, calls, -, h⟩ := reportShortcutAvailability_eq s state
  rw [h]
  exact .refl s

theorem yields_applyPassiveState : Yields s s.applyPassiveState := by
  obtain ⟨reported, calls, -, h⟩ := applyPassiveState_eq s
  rw [h]
  exact .inr ⟨rfl, nofun⟩

theorem yields_dispatchWindowRequest (request : WindowRequest) :
    Yields s (s.dispatchWindowRequest e request) := by
  obtain ⟨signature, report, canRetry, h⟩ := dispatchWindowRequest_eq e s request
  rw [h]
  exact .refl s

theorem yields_raiseIntent (intent : Intent) : Yields s (s.raiseIntent e intent) := by
  rcases raiseIntent_cases e s intent with ⟨-, h⟩ | ⟨-, signature, report, canRetry, h⟩
  · rw [h]
    exact .refl s
  · rw [h]
    exact .refl s

/-- No act grabs anything. -/
theorem yields_of_act (h : Act e s t) : Yields s t := by
  cases h with
  | note => exact .refl s
  | call kind => exact yields_callCore kind
  | refresh => exact yields_callCore (s := { s with shortcutRequestSerial := _ }) _
  | passive => exact yields_applyPassiveState
  | clear =>
    exact (yields_applyPassiveState (s := { s.cancelCandidateRetry with
      lastReportSignature := none, clearAuthorityFence := true })).trans (yields_raiseIntent .clear)
  | report window retries => exact yields_raiseIntent (s := { s with clearAuthorityFence := false }) _
  | game game => exact .inl ⟨rfl, rfl, .inr nofun⟩

theorem yields_of_acts (h : Acts e s t) : Yields s t := by
  induction h with
  | refl => exact .refl s
  | tail _ hact ih => exact ih.trans (yields_of_act hact)

theorem yields_finishWindowRequest : Yields s (s.finishWindowRequest e) := by
  unfold finishWindowRequest
  split
  · exact .refl s
  · exact Yields.trans (t := { s with windowRequestInFlight := false, pendingWindowRequest := none })
      (.refl s) (yields_dispatchWindowRequest _)

theorem yields_finishRequest (request : WindowRequest) (canRetry : Bool) :
    Yields s (s.finishRequest e request canRetry) :=
  yields_finishWindowRequest.trans (yields_of_acts (acts_finishRequest request canRetry))

theorem yields_failRequest (request : WindowRequest) (canRetry : Bool) :
    Yields s (s.failRequest e request canRetry) := by
  obtain ⟨t, hfailed, hended⟩ := acts_failRequest (e := e) (s := s) request canRetry
  exact (yields_of_acts hfailed).trans (yields_finishWindowRequest.trans (yields_of_acts hended))

theorem yields_continue (next : Continuation) : Yields s (s.continue_ e next) := by
  cases next with
  | nothing => exact .refl s
  | handleFocus => exact yields_of_acts (acts_handleFocusWindow _)
  | finish request canRetry => exact yields_finishRequest request canRetry

theorem yields_receiveSnapshot (intentSerial : Nat) (next : Continuation) (text : SnapshotText) :
    Yields s (s.receiveSnapshot e intentSerial next text) := by
  have hread (reads : List (WindowRequest × Option WindowRequest)) :
      Yields s ({ s with reads := reads }.applySnapshotJson e text) :=
    Yields.trans (t := { s with reads := reads }) (.refl s)
      (yields_of_acts (acts_applySnapshotJson text))
  unfold receiveSnapshot
  split
  · exact hread _
  · exact .refl s

theorem yields_onCoreAppeared : Yields s (s.onCoreAppeared e) := by
  unfold onCoreAppeared
  split
  · exact .refl s
  · obtain ⟨windows, overlay, h⟩ := attachCompositor_eq e
      { s.detachCore with
        attached := true, generation := s.detachCore.generation + 1
        raised := [], sent := [], reads := [] }
    dsimp only at h ⊢
    rw [h, requestSnapshot, callCore_eq]
    exact .inr ⟨rfl, nofun⟩

/-! ### Definitions -/

theorem grabAll_ne_nil {definitions : List ShortcutDefinition} {grabbed after : List (Nat × String)}
    (h : grabAll e definitions grabbed = some after) (hne : definitions ≠ [] ∨ grabbed ≠ []) :
    after ≠ [] := by
  induction definitions generalizing grabbed with
  | nil =>
    cases h
    exact hne.resolve_left fun h => h rfl
  | cons definition definitions ih =>
    unfold grabAll at h
    split at h
    · cases h
    · exact ih h (.inr (List.append_ne_nil_of_right_ne_nil _ (List.cons_ne_nil _ _)))

/-- What definitions that are current can do. -/
theorem applyShortcuts_cases (definitions : List ShortcutDefinition) :
    Yields s (s.applyShortcuts e definitions) ∧
      (definitions = [] ∨ grabAll e definitions [] = none ∨ s.shortcutSignature = some definitions) ∨
    definitions ≠ [] ∧ (∃ grabbed, grabAll e definitions [] = some grabbed ∧
      (s.applyShortcuts e definitions).actionToShortcut = grabbed) ∧
      (s.applyShortcuts e definitions).shortcutSignature = some definitions ∧
      (s.applyShortcuts e definitions).gameWindow = s.gameWindow := by
  unfold applyShortcuts
  split
  · next hsame => exact .inl ⟨yields_reportShortcutAvailability _, .inr (.inr hsame)⟩
  split
  · next hempty =>
    refine .inl ⟨?_, .inl (List.isEmpty_iff.mp hempty)⟩
    refine Yields.trans (t := { s.releaseShortcuts with shortcutSignature := some definitions })
      (.inr ⟨rfl, fun _ hsigned => ?_⟩) (yields_reportShortcutAvailability _)
    cases hsigned
    exact List.isEmpty_iff.mp hempty
  · next hne =>
    split
    · next hnone =>
      refine .inl ⟨?_, .inr (.inl hnone)⟩
      exact Yields.trans (t := s.releaseShortcuts.releaseShortcuts) (.inr ⟨rfl, nofun⟩)
        (yields_reportShortcutAvailability _)
    · next grabbed hgrabbed =>
      obtain ⟨reported, calls, -, h⟩ := reportShortcutAvailability_eq
        { s.releaseShortcuts with
          actionToShortcut := grabbed, shortcutSignature := some definitions } .available
      refine .inr ⟨fun hnil => hne (List.isEmpty_iff.mpr hnil), ⟨grabbed, hgrabbed, ?_⟩, ?_, ?_⟩
      · rw [h]
      · rw [h]
      · rw [h]
        rfl

/-- A state in which only the calls differ. -/
theorem yields_calls (calls : List Call) : Yields s { s with calls := calls } := .refl s

/-- Only an answer with definitions grabs anything. -/
theorem yields_receive (kind : CallKind) (answer : Answer)
    (h : ∀ serial definitions, kind = .definitions serial →
      answer = .definitions (some definitions) → serial ≠ s.shortcutRequestSerial) :
    Yields s (s.receive e kind answer) := by
  cases kind with
  | window request canRetry =>
    cases answer with
    | failed => exact yields_failRequest request canRetry
    | _ => exact yields_callCore _
  | snapshot intentSerial next =>
    cases answer with
    | snapshot text => exact yields_receiveSnapshot intentSerial next text
    | _ =>
      cases next with
      | finish request canRetry => exact yields_failRequest request canRetry
      | _ => exact .refl s
  | definitions serial =>
    have hnone : Yields s (s.receiveDefinitions e serial none) := by
      unfold receiveDefinitions
      split
      · exact .refl s
      · exact Yields.trans (t := s.releaseShortcuts) (.inr ⟨rfl, nofun⟩)
          (yields_reportShortcutAvailability _)
    cases answer with
    | definitions parsed =>
      cases parsed with
      | none => exact hnone
      | some definitions =>
        change Yields s (s.receiveDefinitions e serial (some definitions))
        unfold receiveDefinitions
        rw [if_pos (h serial definitions rfl rfl)]
        exact .refl s
    | _ => exact hnone
  | availability state =>
    cases answer with
    | failed =>
      change Yields s (if _ then _ else _)
      split <;> exact .refl s
    | _ => exact .refl s
  | accelerator =>
    cases answer with
    | failed => exact .refl s
    | _ => exact yields_callCore _

/-! ### Steps -/

/-- A step grabs nothing, or it applies definitions that are current. -/
theorem step_cases {event : Event} (h : s.step (e, event) = some t) :
    (Yields s t ∧ ¬Late s (e, event)) ∨
    ∃ index definitions, event = .answer index (.definitions (some definitions)) ∧
      s.rest = none ∧ s.attached = true ∧
      s.calls[index]? = some ⟨s.generation, .definitions s.shortcutRequestSerial⟩ ∧
      t = { s with calls := s.calls.eraseIdx index }.applyShortcuts e definitions := by
  have hother (hevent : ∀ index answer, event ≠ .answer index answer) : ¬Late s (e, event) := by
    rintro ⟨index, definitions, hanswer, -⟩
    exact hevent _ _ hanswer
  cases steps_of_step h with
  | signal signal => exact .inl ⟨yields_of_acts (acts_signal signal), hother nofun⟩
  | rest next =>
    exact .inl ⟨yields_continue (s := { s with rest := none }) next, hother nofun⟩
  | coreAppeared => exact .inl ⟨yields_onCoreAppeared, hother nofun⟩
  | coreVanished =>
    refine .inl ⟨?_, hother nofun⟩
    unfold onCoreVanished
    split
    · exact .inr ⟨rfl, nofun⟩
    · exact .refl s
  | stop =>
    refine .inl ⟨?_, hother nofun⟩
    unfold Bridge.stop
    split
    · exact .inr ⟨rfl, nofun⟩
    · exact .refl s
  | snapshotChanged text => exact .inl ⟨yields_of_acts (acts_applySnapshotJson text), hother nofun⟩
  | settleFocus => exact .inl ⟨yields_of_acts acts_settleFocus, hother nofun⟩
  | retryCandidate window retries =>
    exact .inl ⟨yields_of_acts (acts_retryCandidate window retries), hother nofun⟩
  | keepalive => exact .inl ⟨yields_of_acts acts_keepalive, hother nofun⟩
  | stale index answer call hrest hcall hstale =>
    refine .inl ⟨yields_calls _, ?_⟩
    rintro ⟨_, _, hanswer, -, hattached, hcurrent, -⟩
    cases hanswer
    cases hcall.symm.trans hcurrent
    rcases hstale with hne | hdetached
    · exact hne rfl
    · exact Bool.false_ne_true (hdetached.symm.trans hattached)
  | answer index answer call hrest hcall hgeneration hattached =>
    by_cases hcurrent : ∃ definitions, call.kind = .definitions s.shortcutRequestSerial ∧
        answer = .definitions (some definitions)
    · obtain ⟨definitions, hkind, rfl⟩ := hcurrent
      obtain ⟨generation, kind⟩ := call
      obtain rfl : generation = s.generation := hgeneration
      obtain rfl : kind = .definitions s.shortcutRequestSerial := hkind
      refine .inr ⟨index, definitions, rfl, hrest, hattached, hcall, ?_⟩
      exact if_neg (not_not.mpr rfl)
    · refine .inl ⟨(yields_calls _).trans (yields_receive _ _ ?_), ?_⟩
      · rintro serial definitions hkind hanswer rfl
        exact hcurrent ⟨definitions, hkind, hanswer⟩
      · rintro ⟨_, definitions, hanswer, -, -, hlate, -⟩
        cases hanswer
        cases hcall.symm.trans hlate
        exact hcurrent ⟨definitions, rfl, rfl⟩

/-- A step keeps the accelerators tied to the game exactly if no definitions arrive too late. -/
theorem held_step_iff (hsigned : Signed s) (hheld : Held s)
    (h : s.step callback = some t) : Held t ↔ ¬Late s callback := by
  obtain ⟨e, event⟩ := callback
  rcases step_cases h with ⟨hyields, hlate⟩ |
    ⟨index, definitions, rfl, hrest, hattached, hcall, rfl⟩
  · exact iff_of_true (hheld.of_yields hyields) hlate
  rcases applyShortcuts_cases (e := e) (s := { s with calls := s.calls.eraseIdx index }) definitions
    with ⟨hyields, hnothing⟩ | ⟨hne, ⟨grabbed, hgrabbed, hactions⟩, -, hgame⟩
  · refine iff_of_true (hheld.of_yields hyields) ?_
    rintro ⟨_, _, hanswer, -, -, -, hne, hgrabs, hgame⟩
    cases hanswer
    rcases hnothing with hempty | hnone | hsame
    · exact hne hempty
    · rw [hnone] at hgrabs
      cases hgrabs
    · exact hheld (hsigned definitions hsame hne) hgame
  · have hnonempty : grabbed ≠ [] := grabAll_ne_nil hgrabbed (.inl hne)
    unfold Held
    rw [hactions, hgame]
    constructor
    · rintro hgame ⟨_, _, -, -, -, -, -, -, hlost⟩
      exact hgame hnonempty hlost
    · intro hlate _ hlost
      refine hlate ⟨index, definitions, rfl, hrest, hattached, hcall, hne, ?_, hlost⟩
      rw [hgrabbed]
      rfl

theorem signed_step (hsigned : Signed s) (h : s.step callback = some t) : Signed t := by
  obtain ⟨e, event⟩ := callback
  rcases step_cases h with ⟨hyields, -⟩ | ⟨index, definitions, -, -, -, -, rfl⟩
  · exact hsigned.of_yields hyields
  rcases applyShortcuts_cases (e := e) (s := { s with calls := s.calls.eraseIdx index }) definitions
    with ⟨hyields, -⟩ | ⟨hne, ⟨grabbed, hgrabbed, hactions⟩, hsignature, -⟩
  · exact hsigned.of_yields (s := s) hyields
  · intro _ _ _
    rw [hactions]
    exact grabAll_ne_nil hgrabbed (.inl hne)

theorem signed_start : Signed start := by
  intro definitions hsigned
  cases hsigned

/-- Definitions that are late are received. -/
theorem step_ne_none_of_late (h : Late s callback) :
    s.step callback ≠ none := by
  obtain ⟨e, event⟩ := callback
  obtain ⟨index, definitions, rfl, hrest, -, hcall, -⟩ := h
  unfold step
  rw [hrest]
  dsimp only
  rw [answer, hcall]
  nofun

end Bridge

/-- In every state of a run accelerators are grabbed only while there is a game, exactly if no
definitions arrive, current and with accelerators that can be grabbed, while there is none. -/
theorem Bridge.accelerators_held_iff (callbacks : List (Desktop × Event)) :
    (∀ begun, begun <+: callbacks → ∀ s, run step start begun = some s → s.Held) ↔
      Along step (fun s callback => ¬s.Late callback) start callbacks := by
  refine (along_iff_forall_reached (I := Signed) (fun s callback t hs _ _ ht => signed_step hs ht)
    (fun s callback t hsigned hheld ht => held_step_iff hsigned hheld ht) ?_ signed_start ?_
    callbacks).symm
  · intro s callback hnone hlate
    exact step_ne_none_of_late hlate hnone
  · exact fun hgrabbed => absurd rfl hgrabbed

/-- The game closes while its definitions are on the way: they are grabbed for no game. -/
theorem Bridge.accelerators_grabbed_late :
    ∃ s, run step start
      [(gameDesktop, .coreAppeared),
        (gameDesktop, .answer 0 (.snapshot (.envelope 1 (some .passive)
          (.game 42 "game" ⟨0, 0, 640, 480⟩)))),
        (gameDesktop, .rest),
        (gameDesktop, .signal (.unmanaged 1)),
        (gameDesktop, .answer 0 (.definitions (some [⟨"toggle-overlay", "<Super><Alt>O"⟩])))] = some s ∧
      s.actionToShortcut = [(7, "toggle-overlay")] ∧ s.gameWindow = none :=
  ⟨_, rfl, rfl, rfl⟩

end OverCrow.Gnome
