import OverCrow.Base.Mealy
import OverCrow.Base.Run
import OverCrow.Core.X11Bindings

/-!
# Keys held and repeated on X11

`X11ShortcutSession::next_event` and `NativeKeyState` of `crates/overcrow-core/src/x11_shortcut.rs`,
and the server that sends it events. The client is told of the keys only while a grab is active. A
key that is pressed during one and released after its end is still down to the client.
-/

namespace OverCrow.Core.X11
open OverCrow.Base OverCrow.Core.Portal List

/-! ### The client -/

/-- `x11_shortcut.rs:758`. -/
structure NativeKeyState where
  pressed : Finset Keycode := ∅
  pendingRelease : Option (Keycode × UInt32) := none
  deriving DecidableEq

namespace NativeKeyState

/-- `x11_shortcut.rs:780`. -/
def releasePending (s : NativeKeyState) : NativeKeyState :=
  match s.pendingRelease with
  | some (keycode, _) => ⟨s.pressed.erase keycode, none⟩
  | none => s

/-- `x11_shortcut.rs:764`. -/
def press (s : NativeKeyState) (keycode : Keycode) (time : UInt32) : Bool × NativeKeyState :=
  if s.pendingRelease = some (keycode, time) then (false, { s with pendingRelease := none })
  else
    let s := s.releasePending
    (keycode ∉ s.pressed, { s with pressed := insert keycode s.pressed })

/-- `x11_shortcut.rs:773`. -/
def release (s : NativeKeyState) (keycode : Keycode) (time : UInt32) : NativeKeyState :=
  let s := s.releasePending
  if keycode ∈ s.pressed then { s with pendingRelease := some (keycode, time) } else s

theorem releasePending_of_some {s : NativeKeyState} {keycode : Keycode} {time : UInt32}
    (h : s.pendingRelease = some (keycode, time)) :
    s.releasePending = ⟨s.pressed.erase keycode, none⟩ := by
  rw [releasePending, h]

theorem releasePending_of_none {s : NativeKeyState} (h : s.pendingRelease = none) :
    s.releasePending = s := by
  rw [releasePending, h]

theorem pendingRelease_releasePending (s : NativeKeyState) :
    s.releasePending.pendingRelease = none := by
  unfold releasePending
  split
  · rfl
  · assumption

end NativeKeyState

/-- `x11rb::protocol::Event` as far as it is distinguished. -/
inductive Event where
  | keyPress (detail : Keycode) (time : UInt32) (state : ModMask)
  | keyRelease (detail : Keycode) (time : UInt32)
  | mappingNotify
  | error
  | other
  deriving DecidableEq

/-- What `poll_for_event` and `readable` come back with. -/
inductive Arrival where
  | event (event : Event)
  | pollFailed
  | notReadable

abbrev Returned := Except ShortcutError ShortcutEvent

/-- `x11_shortcut.rs:34`. -/
def sessionHandle : String := "x11-native"

section Client

variable (plan : BindingPlan)

/-- A turn of the loop of `next_event`, `x11_shortcut.rs:300-343`. The
bindings and the mask of the session are those of the plan. -/
def receive (s : NativeKeyState) : Arrival → Option Returned × NativeKeyState
  | .event (.keyPress detail time state) =>
    let (fresh, s) := s.press detail time
    if fresh then
      ((activatedShortcut plan.bindings detail state plan.ignoredLockMask).map fun shortcutId =>
        .ok (.activated sessionHandle shortcutId), s)
    else (none, s)
  | .event (.keyRelease detail time) => (none, s.release detail time)
  | .event .mappingNotify =>
    (some (.error ⟨"native X11 keyboard mapping changed"⟩), s.releasePending)
  | .event .error => (some (.error ⟨"native X11 shortcut connection failed"⟩), s.releasePending)
  | .event .other => (none, s.releasePending)
  | .pollFailed => (some (.error ⟨"native X11 shortcut connection failed"⟩), s)
  | .notReadable => (some (.error ⟨"native X11 shortcut event source unavailable"⟩), s)

/-- `x11_shortcut.rs:297`, with what it leaves to the next
call; nothing is returned while it waits for more. -/
def nextEvent (s : NativeKeyState) : List Arrival → Option Returned × NativeKeyState × List Arrival
  | [] => (none, s, [])
  | arrival :: rest =>
    match receive plan s arrival with
    | (some returned, s) => (some returned, s, rest)
    | (none, s) => nextEvent s rest

/-- What the calls of `next_event` return until one waits. -/
def serve (s : NativeKeyState) : List Arrival → List Returned × NativeKeyState
  | [] => ([], s)
  | arrival :: rest =>
    let (returned, s) := receive plan s arrival
    let (others, s) := serve s rest
    (returned.toList ++ others, s)

/-- `serve` calls `next_event` again and again. -/
theorem serve_eq_nextEvent (s : NativeKeyState) (arrivals : List Arrival) :
    serve plan s arrivals =
      match nextEvent plan s arrivals with
      | (none, s, _) => ([], s)
      | (some returned, s, rest) =>
        (returned :: (serve plan s rest).1, (serve plan s rest).2) := by
  induction arrivals generalizing s with
  | nil => rfl
  | cons arrival rest ih =>
    rw [serve, nextEvent]
    cases hreceive : receive plan s arrival with
    | mk returned s' =>
      cases returned with
      | none => exact ih s'
      | some returned => rfl

end Client

/-! ### The server -/

/-- What happens at the keyboard, with the modifiers of the key presses. -/
inductive KeyAction where
  | press (keycode : Keycode) (time : UInt32) (state : ModMask)
  | release (keycode : Keycode) (time : UInt32)
  | autoRepeat (keycode : Keycode) (time : UInt32) (state : ModMask)
  deriving DecidableEq

/-- The keys that are down, the key of the active grab, the time of the last action, what the client
has received and what it knows. -/
structure System where
  held : Finset Keycode
  grab : Option Keycode := none
  time : UInt32 := 0
  received : List Event := []
  keyState : NativeKeyState := {}

namespace System

variable (plan : BindingPlan)

def start (held : Finset Keycode) : System := { held }

/-- The events of an action that reach the client, and the grab after it. -/
def deliver (s : System) : KeyAction → List Event × Option Keycode
  | .press keycode time state =>
    match s.grab with
    | some key => ([.keyPress keycode time state], some key)
    | none =>
      if plan.Registered keycode state then ([.keyPress keycode time state], some keycode)
      else ([], none)
  | .release keycode time =>
    match s.grab with
    | some key => ([.keyRelease keycode time], if keycode = key then none else some key)
    | none => ([], none)
  | .autoRepeat keycode time state =>
    match s.grab with
    | some key => ([.keyRelease keycode time, .keyPress keycode time state], some key)
    | none =>
      if plan.Registered keycode state then ([.keyPress keycode time state], some keycode)
      else ([], none)

/-- A key that is up is pressed, one that is down is released or repeated, and no time goes back. -/
def Enabled (s : System) : KeyAction → Prop
  | .press keycode time _ => keycode ∉ s.held ∧ s.time ≤ time
  | .release keycode time => keycode ∈ s.held ∧ s.time ≤ time
  | .autoRepeat keycode time _ => keycode ∈ s.held ∧ s.time ≤ time

instance (s : System) : ∀ action, Decidable (s.Enabled action)
  | .press _ _ _ | .release _ _ | .autoRepeat _ _ _ => instDecidableAnd

/-- What `next_event` yields for an action. -/
def dispatched (s : System) (action : KeyAction) : List Returned :=
  (serve plan s.keyState ((s.deliver plan action).1.map .event)).1

def step (s : System) (action : KeyAction) : Option System :=
  if s.Enabled action then
    some
      { held := match action with
          | .press keycode _ _ => insert keycode s.held
          | .release keycode _ => s.held.erase keycode
          | .autoRepeat _ _ _ => s.held
        time := match action with
          | .press _ time _ | .release _ time | .autoRepeat _ time _ => time
        grab := (s.deliver plan action).2
        received := s.received ++ (s.deliver plan action).1
        keyState := (serve plan s.keyState ((s.deliver plan action).1.map .event)).2 }
  else none

/-- A press of a registered chord yields its shortcut, and nothing else yields anything. -/
def DispatchedOnce (s : System) (action : KeyAction) : Prop :=
  match action with
  | .press keycode _ state =>
    if plan.Registered keycode state then
      ∃ binding ∈ plan.bindings, binding.keycode = keycode ∧
        binding.modifiers = (state &&& coreModifierMask) &&& ~~~plan.ignoredLockMask ∧
        s.dispatched plan action = [.ok (.activated sessionHandle binding.id)]
    else s.dispatched plan action = []
  | .release _ _ | .autoRepeat _ _ _ => s.dispatched plan action = []

end System

/-! ### What the client takes for a repetition -/

def Event.IsAbout (keycode : Keycode) : Event → Prop
  | keyPress detail _ _ | keyRelease detail _ => detail = keycode
  | _ => False

/-- The last that the client received of a key is a press. -/
def Told (keycode : Keycode) (received : List Event) : Prop :=
  Since (¬Event.IsAbout keycode ·) (fun e => ∃ time state, e = .keyPress keycode time state) received

/-- The last that the client received is the release, at that time, of a key that it knew to be
down. -/
def JustReleased (keycode : Keycode) (time : UInt32) (received : List Event) : Prop :=
  ∃ earlier, received = earlier ++ [.keyRelease keycode time] ∧ Told keycode earlier

/-- The client takes a press of the key for a repetition. -/
def TakenForRepeat (keycode : Keycode) (time : UInt32) (received : List Event) : Prop :=
  Told keycode received ∨ JustReleased keycode time received

section Received

variable {received : List Event} {keycode detail : Keycode} {time moment : UInt32} {state : ModMask}

theorem told_append_keyPress :
    Told keycode (received ++ [.keyPress detail time state]) ↔
      detail = keycode ∨ Told keycode received := by
  refine since_append_singleton.trans ⟨?_, ?_⟩
  · rintro (⟨_, _, hpress⟩ | ⟨-, htold⟩)
    · cases hpress
      exact .inl rfl
    · exact .inr htold
  · intro h
    by_cases hsame : detail = keycode
    · exact .inl ⟨time, state, by rw [hsame]⟩
    · exact .inr ⟨hsame, h.resolve_left hsame⟩

theorem told_append_keyRelease :
    Told keycode (received ++ [.keyRelease detail time]) ↔
      detail ≠ keycode ∧ Told keycode received := by
  refine since_append_singleton.trans (or_iff_right ?_)
  rintro ⟨_, _, hpress⟩
  cases hpress

theorem told_append_of_not_isAbout {e : Event} (he : ¬e.IsAbout keycode) :
    Told keycode (received ++ [e]) ↔ Told keycode received := by
  refine since_append_singleton.trans ⟨?_, fun htold => .inr ⟨he, htold⟩⟩
  rintro (⟨_, _, rfl⟩ | ⟨-, htold⟩)
  · exact absurd rfl he
  · exact htold

theorem not_justReleased_append {e : Event} (he : ∀ detail moment, e ≠ .keyRelease detail moment) :
    ¬JustReleased keycode moment (received ++ [e]) := by
  rintro ⟨earlier, hreceived, -⟩
  exact he _ _ (singleton_inj.mp (append_inj' hreceived rfl).2)

theorem justReleased_append_keyRelease :
    JustReleased keycode moment (received ++ [.keyRelease detail time]) ↔
      (detail, time) = (keycode, moment) ∧ Told keycode received := by
  constructor
  · rintro ⟨earlier, hreceived, htold⟩
    obtain ⟨rfl, hlast⟩ := append_inj' hreceived rfl
    cases hlast
    exact ⟨rfl, htold⟩
  · rintro ⟨hsame, htold⟩
    cases hsame
    exact ⟨received, rfl, htold⟩

end Received

/-- What the client knows is what it has been told. -/
structure Tracks (s : NativeKeyState) (received : List Event) : Prop where
  told : ∀ keycode, Told keycode received ↔ keycode ∈ s.releasePending.pressed
  justReleased : ∀ keycode time,
    JustReleased keycode time received ↔ s.pendingRelease = some (keycode, time)
  pending : ∀ keycode time, s.pendingRelease = some (keycode, time) → keycode ∈ s.pressed

namespace Tracks

variable {s : NativeKeyState} {received : List Event} {detail : Keycode} {time : UInt32}

theorem start : Tracks {} [] where
  told keycode := iff_of_false not_since_nil (Finset.notMem_empty keycode)
  justReleased keycode time := iff_of_false (by rintro ⟨_, hnil, -⟩; simp at hnil) nofun
  pending := nofun

/-- A press counts unless it is taken for a repetition. -/
theorem press_fst (h : Tracks s received) :
    (s.press detail time).1 = true ↔ ¬TakenForRepeat detail time received := by
  rw [TakenForRepeat, h.told, h.justReleased, NativeKeyState.press]
  split <;> next hpending => simp [hpending]

theorem press (h : Tracks s received) (state : ModMask) :
    Tracks (s.press detail time).2 (received ++ [.keyPress detail time state]) := by
  rw [NativeKeyState.press]
  split
  · next hpending =>
    refine ⟨fun keycode => ?_, fun _ _ => iff_of_false (not_justReleased_append nofun) nofun, nofun⟩
    have hdetail : detail ∈ s.pressed := h.pending detail time hpending
    rw [told_append_keyPress, h.told, s.releasePending_of_some hpending, Finset.mem_erase]
    constructor
    · rintro (rfl | ⟨-, hmem⟩)
      · exact hdetail
      · exact hmem
    · intro hmem
      exact (eq_or_ne keycode detail).imp Eq.symm fun hne => ⟨hne, hmem⟩
  · next hpending =>
    have hnone := s.pendingRelease_releasePending
    refine ⟨fun keycode => ?_, fun _ _ => iff_of_false (not_justReleased_append nofun) ?_, ?_⟩
    · dsimp only
      rw [told_append_keyPress, h.told, hnone]
      change _ ↔ keycode ∈ insert detail s.releasePending.pressed
      rw [Finset.mem_insert, eq_comm]
    · simp [hnone]
    · simp [hnone]

theorem release (h : Tracks s received) :
    Tracks (s.release detail time) (received ++ [.keyRelease detail time]) := by
  have hnone := s.pendingRelease_releasePending
  rw [NativeKeyState.release]
  split
  · next hmem =>
    refine ⟨fun keycode => ?_, fun keycode moment => ?_, fun keycode moment hpending => ?_⟩
    · rw [told_append_keyRelease, h.told, ne_comm]
      exact Finset.mem_erase.symm
    · rw [justReleased_append_keyRelease, h.told, Option.some_inj]
      exact and_iff_left_of_imp fun hsame => (Prod.mk.inj hsame).1 ▸ hmem
    · cases hpending
      exact hmem
  · next hmem =>
    refine ⟨fun keycode => ?_, fun keycode moment => ?_, by simp [hnone]⟩
    · rw [told_append_keyRelease, h.told, NativeKeyState.releasePending_of_none hnone]
      exact and_iff_right_of_imp fun hkeycode hsame => hmem (hsame ▸ hkeycode)
    · rw [justReleased_append_keyRelease, h.told, hnone]
      refine iff_of_false (fun hsame => hmem ?_) nofun
      exact (Prod.mk.inj hsame.1).1 ▸ hsame.2

/-- Events that are about no key. -/
theorem releasePending (h : Tracks s received) {e : Event} (he : ∀ keycode, ¬e.IsAbout keycode) :
    Tracks s.releasePending (received ++ [e]) := by
  have hnone := s.pendingRelease_releasePending
  have hrelease : ∀ detail moment, e ≠ .keyRelease detail moment := by
    rintro detail moment rfl
    exact he detail rfl
  refine ⟨fun keycode => ?_, fun _ _ => iff_of_false (not_justReleased_append hrelease) ?_, ?_⟩
  · rw [told_append_of_not_isAbout (he keycode), h.told,
      NativeKeyState.releasePending_of_none hnone]
  · simp [hnone]
  · simp [hnone]

theorem receive (plan : BindingPlan) (h : Tracks s received) (e : Event) :
    Tracks (X11.receive plan s (.event e)).2 (received ++ [e]) := by
  cases e with
  | keyPress detail time state =>
    rw [X11.receive]
    dsimp only
    split <;> exact h.press state
  | keyRelease detail time => exact h.release
  | mappingNotify | error | other => exact h.releasePending fun _ => id

theorem serve (plan : BindingPlan) (h : Tracks s received) (events : List Event) :
    Tracks (X11.serve plan s (events.map .event)).2 (received ++ events) := by
  induction events generalizing s received with
  | nil => rwa [append_nil]
  | cons e events ih =>
    rw [append_cons]
    exact ih (h.receive plan e)

end Tracks

/-! ### Every press once -/

section Dispatch

variable {plan : BindingPlan} {keycode : Keycode} {state : ModMask}

theorem activatedShortcut_of_registered (h : plan.Registered keycode state) :
    ∃ binding ∈ plan.bindings, binding.keycode = keycode ∧
      binding.modifiers = (state &&& coreModifierMask) &&& ~~~plan.ignoredLockMask ∧
      activatedShortcut plan.bindings keycode state plan.ignoredLockMask = some binding.id := by
  obtain ⟨binding, hmem, hkeycode, hmodifiers⟩ := BindingPlan.registered_iff.mp h
  rw [activatedShortcut]
  cases hfind : plan.bindings.find? fun binding => binding.keycode = keycode ∧
      binding.modifiers = (state &&& coreModifierMask) &&& ~~~plan.ignoredLockMask with
  | none => exact absurd (find?_eq_none.mp hfind binding hmem) (by simp [hkeycode, hmodifiers])
  | some found =>
    obtain ⟨hkeycode, hmodifiers⟩ : found.keycode = keycode ∧ _ := by
      simpa using find?_some hfind
    exact ⟨found, mem_of_find?_eq_some hfind, hkeycode, hmodifiers, rfl⟩

theorem activatedShortcut_eq_none (h : ¬plan.Registered keycode state) :
    activatedShortcut plan.bindings keycode state plan.ignoredLockMask = none := by
  rw [activatedShortcut, Option.map_eq_none_iff, find?_eq_none]
  intro binding hmem hfound
  exact h (BindingPlan.registered_iff.mpr ⟨binding, hmem, of_decide_eq_true hfound⟩)

/-- What a key press yields. -/
theorem serve_keyPress (s : NativeKeyState) (time : UInt32) :
    (serve plan s [.event (.keyPress keycode time state)]).1 =
      if (s.press keycode time).1 then
        ((activatedShortcut plan.bindings keycode state plan.ignoredLockMask).map fun shortcutId =>
          (.ok (.activated sessionHandle shortcutId) : Returned)).toList
      else [] := by
  rw [serve, receive]
  dsimp only
  split
  · exact append_nil _
  · rfl

variable {s : NativeKeyState} {received : List Event} {time : UInt32}

theorem serve_keyPress_eq_nil_iff (h : Tracks s received) :
    (serve plan s [.event (.keyPress keycode time state)]).1 = [] ↔
      (plan.Registered keycode state → TakenForRepeat keycode time received) := by
  rw [serve_keyPress]
  by_cases hregistered : plan.Registered keycode state
  · obtain ⟨binding, -, -, -, hactivated⟩ := activatedShortcut_of_registered hregistered
    rw [hactivated, imp_iff_right hregistered]
    by_cases hrepeat : TakenForRepeat keycode time received
    · have hfresh : (s.press keycode time).1 ≠ true := fun hfresh => h.press_fst.mp hfresh hrepeat
      rw [if_neg hfresh]
      exact iff_of_true rfl hrepeat
    · rw [if_pos (h.press_fst.mpr hrepeat)]
      exact iff_of_false (cons_ne_nil _ _) hrepeat
  · rw [activatedShortcut_eq_none hregistered]
    exact iff_of_true (ite_self []) fun hregistered' => absurd hregistered' hregistered

/-- A registered press yields the shortcut of its chord unless it is taken for a repetition. -/
theorem serve_keyPress_eq_activated_iff (h : Tracks s received)
    (hregistered : plan.Registered keycode state) :
    (∃ binding ∈ plan.bindings, binding.keycode = keycode ∧
      binding.modifiers = (state &&& coreModifierMask) &&& ~~~plan.ignoredLockMask ∧
      (serve plan s [.event (.keyPress keycode time state)]).1 =
        [.ok (.activated sessionHandle binding.id)]) ↔ ¬TakenForRepeat keycode time received := by
  constructor
  · rintro ⟨binding, -, -, -, hserve⟩ hrepeat
    have hnil : (serve plan s [.event (.keyPress keycode time state)]).1 = [] :=
      (serve_keyPress_eq_nil_iff h).mpr fun _ => hrepeat
    rw [hnil] at hserve
    cases hserve
  · intro hrepeat
    obtain ⟨binding, hmem, hkeycode, hmodifiers, hactivated⟩ :=
      activatedShortcut_of_registered hregistered
    refine ⟨binding, hmem, hkeycode, hmodifiers, ?_⟩
    rw [serve_keyPress, hactivated, if_pos (h.press_fst.mpr hrepeat)]
    rfl

end Dispatch

namespace System

variable {plan : BindingPlan} {s t : System} {action : KeyAction}

/-- The client tells a press of a registered chord and a repetition of one apart. -/
def Distinguished (plan : BindingPlan) (s : System) : KeyAction → Prop
  | .press keycode time state =>
    plan.Registered keycode state → ¬TakenForRepeat keycode time s.received
  | .release _ _ => True
  | .autoRepeat keycode time state => plan.Registered keycode state →
    TakenForRepeat keycode time
      (s.received ++ if s.grab.isSome then [.keyRelease keycode time] else [])

theorem dispatchedOnce_iff_distinguished (h : Tracks s.keyState s.received) :
    s.DispatchedOnce plan action ↔ s.Distinguished plan action := by
  cases action with
  | release keycode time =>
    refine iff_of_true ?_ trivial
    rw [DispatchedOnce, dispatched, deliver]
    cases s.grab with
    | none => rfl
    | some key => rfl
  | press keycode time state =>
    rw [DispatchedOnce, Distinguished]
    split
    · next hregistered =>
      have hdeliver : (s.deliver plan (.press keycode time state)).1 =
          [.keyPress keycode time state] := by
        rw [deliver]
        cases s.grab with
        | none => rw [if_pos hregistered]
        | some key => rfl
      rw [imp_iff_right hregistered, ← serve_keyPress_eq_activated_iff h hregistered]
      rw [dispatched, hdeliver]
      rfl
    · next hregistered =>
      refine iff_of_true ?_ fun hregistered' => absurd hregistered' hregistered
      rw [dispatched, deliver]
      cases s.grab with
      | none =>
        rw [if_neg hregistered]
        rfl
      | some key =>
        exact (serve_keyPress_eq_nil_iff h).mpr fun hregistered' => absurd hregistered' hregistered
  | autoRepeat keycode time state =>
    rw [DispatchedOnce, Distinguished, dispatched, deliver]
    cases s.grab with
    | some key => exact serve_keyPress_eq_nil_iff h.release
    | none =>
      dsimp only
      split
      · rw [Option.isSome_none, if_neg Bool.false_ne_true, append_nil]
        exact serve_keyPress_eq_nil_iff h
      · next hregistered =>
        exact iff_of_true rfl fun hregistered' => absurd hregistered' hregistered

theorem tracks_step (h : Tracks s.keyState s.received) (hstep : s.step plan action = some t) :
    Tracks t.keyState t.received := by
  obtain ⟨-, hstep⟩ := Option.ite_none_right_eq_some.mp hstep
  cases hstep
  exact h.serve plan _

end System

/-- In every run of the server and the client, every press of a registered chord is dispatched once
and nothing else is, exactly if the client tells the presses and the repetitions apart. -/
theorem dispatched_once_iff (plan : BindingPlan) (held : Finset Keycode)
    (actions : List KeyAction) :
    Along (System.step plan) (System.DispatchedOnce plan) (.start held) actions ↔
      Along (System.step plan) (System.Distinguished plan) (.start held) actions :=
  along_congr (P := fun s : System => Tracks s.keyState s.received)
    (fun _ _ _ => System.tracks_step) (fun _ _ => System.dispatchedOnce_iff_distinguished)
    Tracks.start actions

/-- A keyboard with Super, Alt, Shift, Control, O, P, R and Caps Lock. -/
def keyboard : KeyboardMap where
  minKeycode := 8
  keycodeCount := 8
  keysymsPerKeycode := 1
  keysyms := [0xffeb, 0xffe9, 0xffe1, 0xffe3, 0x6f, 0x70, 0x72, 0xffe5]
  keysymsPerKeycode_ne := by decide
  length_keysyms := by decide

def keyboardModifiers : List Keycode := [10, 15, 11, 9, 0, 0, 8, 0]

/-- The shortcuts of the overlay and of the stopwatch. -/
def allShortcuts : List ShortcutDefinition :=
  [⟨shortcutId, shortcutDescription, "Meta+Alt+O", .toggleOverlay⟩,
    ⟨toggleManualStopwatchId, toggleManualStopwatchDescription,
      toggleManualStopwatchAccelerator, .toggleManualStopwatch⟩,
    ⟨resetManualStopwatchId, resetManualStopwatchDescription,
      resetManualStopwatchAccelerator, .resetManualStopwatch⟩]

/-- Meta and Alt are held, O and P are pressed, and O is released before P. -/
def overlapping : List KeyAction :=
  [.press 8 1 0, .press 9 2 0x40, .press 12 3 0x48, .press 13 4 0x48, .release 12 5, .release 13 6]

/-- The next press of P is registered, reaches the client and yields nothing. -/
theorem press_after_overlap_ignored :
    ∃ plan s, planBindings allShortcuts keyboard keyboardModifiers = .ok plan ∧
      run (System.step plan) (.start ∅) overlapping = some s ∧
      s.Enabled (.press 13 7 0x48) ∧ plan.Registered 13 0x48 ∧
      s.deliver plan (.press 13 7 0x48) = ([.keyPress 13 7 0x48], some 13) ∧
      s.dispatched plan (.press 13 7 0x48) = [] := by
  refine ⟨_, _, rfl, rfl, ?_, ?_, ?_, ?_⟩
  · decide
  · decide
  · decide
  · decide

end OverCrow.Core.X11
