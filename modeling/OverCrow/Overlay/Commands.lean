import OverCrow.Base.History
import OverCrow.Base.Run
import OverCrow.Core.Telemetry
import OverCrow.Overlay.CoreClient

/-!
# Commands from the interface to Core

`crates/overcrow-overlay/src/runtime/core_client.rs:234-484`. The interface thread pushes commands
into a slot; the client takes the slot, merges it into what it still has to dispatch, and dispatches
one action at a time. The meaning of pending actions is a function on the running flag of the
stopwatch: pushing, merging and dispatching are then composition.
-/

namespace OverCrow.Overlay
open OverCrow.Base OverCrow.Core OverCrow.Protocol List Option PassiveIntent

/-- `core_client.rs:234`. -/
inductive ClientCommand where
  | setPassive
  | reloadWidgetSettings
  | toggleManualStopwatch
  | resetManualStopwatch
  deriving DecidableEq

/-! ### Pending actions -/

namespace PendingWidgetActions

/-- `core_client.rs:249`. -/
def push (actions : PendingWidgetActions) : ClientCommand → PendingWidgetActions
  | .setPassive => actions
  | .reloadWidgetSettings => { actions with reload := true }
  | .toggleManualStopwatch => { actions with toggle := !actions.toggle }
  | .resetManualStopwatch => { actions with reset := true, toggle := false }

/-- `core_client.rs:261`. -/
def mergeNewer (actions newer : PendingWidgetActions) : PendingWidgetActions :=
  let actions := { actions with reload := actions.reload || newer.reload }
  if newer.reset then { actions with reset := true, toggle := newer.toggle }
  else { actions with toggle := actions.toggle ^^ newer.toggle }

/-- `core_client.rs:271`. -/
def takeNext (actions : PendingWidgetActions) : Option ClientCommand × PendingWidgetActions :=
  if actions.reload then (some .reloadWidgetSettings, { actions with reload := false })
  else if actions.reset then (some .resetManualStopwatch, { actions with reset := false })
  else if actions.toggle then (some .toggleManualStopwatch, { actions with toggle := false })
  else (none, actions)

/-- Whether a command is pending. -/
def holds (actions : PendingWidgetActions) : ClientCommand → Bool
  | .setPassive => false
  | .reloadWidgetSettings => actions.reload
  | .toggleManualStopwatch => actions.toggle
  | .resetManualStopwatch => actions.reset

end PendingWidgetActions

/-- `core_client.rs:285`. -/
structure PendingCommands where
  setPassive : Bool := false
  widgetActions : PendingWidgetActions := {}
  deriving DecidableEq

/-- `core_client.rs:291`. -/
def PendingCommands.push (commands : PendingCommands) (command : ClientCommand) : PendingCommands :=
  if command = .setPassive then { commands with setPassive := true }
  else { commands with widgetActions := commands.widgetActions.push command }

namespace PassiveIntent

/-- `PassiveIntent::absorb_commands`, `core_client.rs:454`, of
what was taken from the slot. -/
def absorb (intent : PassiveIntent) (incoming : PendingCommands) : PassiveIntent where
  pending := intent.pending || incoming.setPassive
  widgetActions := intent.widgetActions.mergeNewer incoming.widgetActions

/-- `core_client.rs:465`. -/
def nextWidgetAction (intent : PassiveIntent) : Option ClientCommand × PassiveIntent :=
  (intent.widgetActions.takeNext.1, { intent with widgetActions := intent.widgetActions.takeNext.2 })

/-- `core_client.rs:471`. -/
def recordResponse (intent : PassiveIntent) (response : Option CoreSnapshot) : PassiveIntent :=
  match response with
  | some snapshot => intent.recordSnapshot snapshot
  | none => intent

end PassiveIntent

/-! ### Merging -/

section Merging

variable (actions newer : PendingWidgetActions) (commands : List ClientCommand)

theorem mergeNewer_empty : actions.mergeNewer {} = actions := by
  simp [PendingWidgetActions.mergeNewer]

theorem mergeNewer_push (command : ClientCommand) :
    actions.mergeNewer (newer.push command) = (actions.mergeNewer newer).push command := by
  obtain ⟨reload, reset, toggle⟩ := newer
  cases command <;> cases reset <;> simp [PendingWidgetActions.mergeNewer, PendingWidgetActions.push]

/-- Merging what was pushed elsewhere is pushing it here. -/
theorem mergeNewer_foldl_push :
    actions.mergeNewer (commands.foldl .push newer) =
      commands.foldl .push (actions.mergeNewer newer) := by
  induction commands generalizing newer with
  | nil => rfl
  | cons command commands ih => rw [foldl_cons, foldl_cons, ih, mergeNewer_push]

theorem absorb_push (intent : PassiveIntent) (incoming : PendingCommands) (command : ClientCommand) :
    intent.absorb (incoming.push command) =
      (intent.absorb incoming).absorb (({} : PendingCommands).push command) := by
  cases command <;>
    simp [absorb, PendingCommands.push, mergeNewer_push, mergeNewer_empty]

theorem absorb_foldl_push (intent : PassiveIntent) (incoming : PendingCommands) :
    intent.absorb (commands.foldl .push incoming) =
      (intent.absorb incoming).absorb (commands.foldl .push {}) := by
  induction commands generalizing intent incoming with
  | nil => simp [absorb, mergeNewer_empty]
  | cons command commands ih =>
    rw [foldl_cons, ih, absorb_push, foldl_cons]
    exact (ih _ _).symm

theorem widgetActions_foldl_push (incoming : PendingCommands) :
    (commands.foldl .push incoming).widgetActions =
      commands.foldl .push incoming.widgetActions := by
  induction commands generalizing incoming with
  | nil => rfl
  | cons command commands ih =>
    rw [foldl_cons, ih, foldl_cons]
    cases command <;> rfl

/-- However the commands are split, the pieces amount to the whole. -/
theorem foldl_absorb (intent : PassiveIntent) (pieces : List (List ClientCommand)) :
    pieces.foldl (fun intent piece => intent.absorb (piece.foldl .push {})) intent =
      intent.absorb (pieces.flatten.foldl .push {}) := by
  induction pieces generalizing intent with
  | nil => simp [absorb, mergeNewer_empty]
  | cons piece pieces ih =>
    rw [foldl_cons, ih, flatten_cons, foldl_append]
    exact (absorb_foldl_push _ _ _).symm

end Merging

/-! ### The running flag -/

namespace ClientCommand

/-- What a command does to a stopwatch of Core, `crates/overcrow-core/src/runtime.rs:232,250`. -/
def execute (watch : ManualStopwatch) (command : ClientCommand × Instant) : ManualStopwatch :=
  match command.1 with
  | .toggleManualStopwatch => watch.toggle command.2
  | .resetManualStopwatch => watch.reset
  | .setPassive => watch
  | .reloadWidgetSettings => watch

/-- What a command does to the running flag. -/
def running : ClientCommand → Bool → Bool
  | .toggleManualStopwatch, flag => !flag
  | .resetManualStopwatch, _ => false
  | .setPassive, flag => flag
  | .reloadWidgetSettings, flag => flag

theorem running_execute (watch : ManualStopwatch) (command : ClientCommand × Instant) :
    (execute watch command).startedAt.isSome = command.1.running watch.startedAt.isSome := by
  obtain ⟨command, now⟩ := command
  obtain ⟨accumulated, startedAt⟩ := watch
  cases command with
  | toggleManualStopwatch =>
    cases startedAt with
    | none | some => rfl
  | _ => rfl

theorem running_foldl_execute (watch : ManualStopwatch) (commands : List (ClientCommand × Instant)) :
    (commands.foldl execute watch).startedAt.isSome =
      commands.foldl (fun flag command => command.1.running flag) watch.startedAt.isSome := by
  induction commands generalizing watch with
  | nil => rfl
  | cons command commands ih => rw [foldl_cons, foldl_cons, ih, running_execute]

end ClientCommand

namespace PendingWidgetActions

variable {actions newer : PendingWidgetActions} {flag : Bool}
  {command : ClientCommand}

/-- What pending actions will do to the running flag. -/
def running (actions : PendingWidgetActions) (flag : Bool) : Bool :=
  (!actions.reset && flag) ^^ actions.toggle

theorem running_push (command : ClientCommand) :
    (actions.push command).running flag = command.running (actions.running flag) := by
  obtain ⟨reload, reset, toggle⟩ := actions
  cases command <;> simp [push, running, ClientCommand.running]

theorem running_mergeNewer :
    (actions.mergeNewer newer).running flag = newer.running (actions.running flag) := by
  obtain ⟨reload, reset, toggle⟩ := newer
  cases reset <;> simp [mergeNewer, running]

/-- A dispatched action and what is pending after it are what was pending. -/
theorem running_takeNext (actions : PendingWidgetActions) (flag : Bool) :
    actions.takeNext.2.running (actions.takeNext.1.elim flag (·.running flag)) =
      actions.running flag := by
  obtain ⟨reload, reset, toggle⟩ := actions
  cases reload <;> cases reset <;> cases toggle <;> cases flag <;> rfl

/-! ### What is pending -/

theorem holds_push (actions : PendingWidgetActions) (command other : ClientCommand) :
    ((actions.push command).holds other).toNat ≤
      (actions.holds other).toNat + if command = other then 1 else 0 := by
  obtain ⟨reload, reset, toggle⟩ := actions
  cases command <;> cases other <;> cases toggle <;> simp [push, holds]

theorem holds_mergeNewer (actions newer : PendingWidgetActions) (command : ClientCommand) :
    ((actions.mergeNewer newer).holds command).toNat ≤
      (actions.holds command).toNat + (newer.holds command).toNat := by
  obtain ⟨reload, reset, toggle⟩ := actions
  obtain ⟨reload', reset', toggle'⟩ := newer
  cases command <;> cases reload <;> cases reload' <;> cases reset <;> cases reset' <;>
    cases toggle <;> cases toggle' <;> decide

theorem holds_takeNext (h : actions.takeNext.1 = some command) (other : ClientCommand) :
    (actions.takeNext.2.holds other).toNat + (if command = other then 1 else 0) =
      (actions.holds other).toNat := by
  obtain ⟨reload, reset, toggle⟩ := actions
  cases reload <;> cases reset <;> cases toggle <;> cases h <;> cases other <;> rfl

/-- A reload or a reset is pending until it is dispatched: no other command takes it back. -/
def Lasting (command : ClientCommand) : Prop :=
  command = .reloadWidgetSettings ∨ command = .resetManualStopwatch

theorem holds_push_self (h : Lasting command) :
    (actions.push command).holds command = true := by
  rcases h with rfl | rfl <;> rfl

theorem holds_push_of_holds (h : Lasting command)
    (hholds : actions.holds command = true) (other : ClientCommand) :
    (actions.push other).holds command = true := by
  rcases h with rfl | rfl
  · cases other <;> first | exact hholds | rfl
  · cases other <;> first | exact hholds | rfl

theorem holds_mergeNewer_of_holds (h : Lasting command)
    (hholds : actions.holds command = true ∨ newer.holds command = true) :
    (actions.mergeNewer newer).holds command = true := by
  obtain ⟨reload, reset, toggle⟩ := newer
  rcases h with rfl | rfl
  · cases reset <;> simpa [mergeNewer, holds] using hholds
  · cases reset
    · simpa [mergeNewer, holds] using hholds
    · rfl

end PendingWidgetActions

open PendingWidgetActions

/-! ### Both threads -/

/-- What has happened. -/
inductive CommandEntry where
  | requested (command : ClientCommand) (now : Instant)
  | dispatched (command : ClientCommand) (now : Instant)
  /-- A snapshot of Core was seen. -/
  | seen (snapshot : CoreSnapshot)
  deriving DecidableEq

namespace CommandEntry

def request? : CommandEntry → Option (ClientCommand × Instant)
  | .requested command now => some (command, now)
  | _ => none

def dispatch? : CommandEntry → Option (ClientCommand × Instant)
  | .dispatched command now => some (command, now)
  | _ => none

/-- A request or a dispatch of the command. -/
def Concerns (command : ClientCommand) (entry : CommandEntry) : Prop :=
  ∃ now, entry = .requested command now ∨ entry = .dispatched command now

def SeenPassive (entry : CommandEntry) : Prop :=
  ∃ snapshot, entry = .seen snapshot ∧ snapshot.overlayMode = .passive

end CommandEntry

open CommandEntry

/-- The slot of the interface thread, the intent of the client, and what has happened. -/
structure CommandSystem where
  slot : PendingCommands := {}
  intent : PassiveIntent := {}
  clock : Instant
  log : List CommandEntry := []
  deriving DecidableEq

namespace CommandSystem

inductive Event where
  | wait (elapsed : Duration)
  /-- `CommandSender::send`, `core_client.rs:327`. -/
  | send (command : ClientCommand)
  | absorb
  | dispatch
  | recordResponse (response : Option CoreSnapshot)
  | recordSnapshot (snapshot : CoreSnapshot)

def step (s : CommandSystem) : Event → Option CommandSystem
  | .wait elapsed => some { s with clock := s.clock + elapsed }
  | .send command =>
    some { s with slot := s.slot.push command, log := s.log ++ [.requested command s.clock] }
  | .absorb => some { s with slot := {}, intent := s.intent.absorb s.slot }
  | .dispatch =>
    some { s with
      intent := s.intent.nextWidgetAction.2
      log := s.log ++ (s.intent.nextWidgetAction.1.map (.dispatched · s.clock)).toList }
  | .recordResponse response =>
    some { s with
      intent := s.intent.recordResponse response
      log := s.log ++ (response.map .seen).toList }
  | .recordSnapshot snapshot =>
    some { s with
      intent := s.intent.recordSnapshot snapshot
      log := s.log ++ [.seen snapshot] }

/-- The commands that were requested, in order. -/
def requests (s : CommandSystem) : List (ClientCommand × Instant) := s.log.filterMap request?

/-- The commands that were dispatched, in order. -/
def dispatches (s : CommandSystem) : List (ClientCommand × Instant) := s.log.filterMap dispatch?

/-- Nothing is left to dispatch. -/
def Dispatched (s : CommandSystem) : Prop :=
  s.slot.widgetActions = {} ∧ s.intent.widgetActions = {}

variable {s t : CommandSystem}
  {actions : PendingWidgetActions} {now origin : Instant} {watch : ManualStopwatch}

/-- What a step can do. -/
inductive Moves (s : CommandSystem) : CommandSystem → Prop
  | stay : Moves s s
  | wait (elapsed : Duration) : Moves s { s with clock := s.clock + elapsed }
  | send (command : ClientCommand) :
    Moves s { s with slot := s.slot.push command, log := s.log ++ [.requested command s.clock] }
  | absorb : Moves s { s with slot := {}, intent := s.intent.absorb s.slot }
  | dispatch (command : ClientCommand) (h : s.intent.widgetActions.takeNext.1 = some command) :
    Moves s { s with
      intent := { s.intent with widgetActions := s.intent.widgetActions.takeNext.2 }
      log := s.log ++ [.dispatched command s.clock] }
  | see (snapshot : CoreSnapshot) :
    Moves s { s with
      intent := s.intent.recordSnapshot snapshot
      log := s.log ++ [.seen snapshot] }

theorem takeNext_none (h : actions.takeNext.1 = none) :
    actions.takeNext.2 = actions := by
  obtain ⟨reload, reset, toggle⟩ := actions
  cases reload <;> cases reset <;> cases toggle <;> first | rfl | cases h

theorem moves_of_step {event : Event} (h : s.step event = some t) : Moves s t := by
  cases event with
  | wait elapsed =>
    cases h
    exact .wait elapsed
  | send command =>
    cases h
    exact .send command
  | absorb =>
    cases h
    exact .absorb
  | dispatch =>
    cases h
    cases hnext : s.intent.widgetActions.takeNext.1 with
    | none =>
      simp only [nextWidgetAction, hnext, takeNext_none hnext, map_none,
        toList_none, append_nil]
      exact .stay
    | some command =>
      simp only [nextWidgetAction, hnext, map_some, toList_some]
      exact .dispatch command hnext
  | recordResponse response =>
    cases h
    cases response with
    | none =>
      simp only [recordResponse, map_none, toList_none, append_nil]
      exact .stay
    | some snapshot => exact .see snapshot
  | recordSnapshot snapshot =>
    cases h
    exact .see snapshot

/-! ### What is dispatched -/

/-- How often a command occurs. -/
def times (command : ClientCommand) (commands : List (ClientCommand × Instant)) : Nat :=
  (commands.map Prod.fst).count command

theorem times_append_singleton (command : ClientCommand) (commands : List (ClientCommand × Instant))
    (last : ClientCommand × Instant) : times command (commands ++ [last]) =
      times command commands + if last.1 = command then 1 else 0 := by
  simp [times, count_singleton]

/-- The running flag after commands. -/
def flagAfter (commands : List (ClientCommand × Instant)) (flag : Bool) : Bool :=
  commands.foldl (fun flag command => command.1.running flag) flag

/-- Every dispatch stands for a request, and the pending actions make up for what was not
dispatched. -/
structure Accounted (s : CommandSystem) : Prop where
  times : ∀ command, times command s.dispatches + (s.intent.widgetActions.holds command).toNat +
    (s.slot.widgetActions.holds command).toNat ≤ times command s.requests
  flag : ∀ flag, s.slot.widgetActions.running
    (s.intent.widgetActions.running (flagAfter s.dispatches flag)) = flagAfter s.requests flag

theorem recordSnapshot_widgetActions (intent : PassiveIntent) (snapshot : CoreSnapshot) :
    (intent.recordSnapshot snapshot).widgetActions = intent.widgetActions := by
  unfold recordSnapshot
  split <;> rfl

theorem running_empty (flag : Bool) : ({} : PendingWidgetActions).running flag = flag := by
  cases flag <;> rfl

theorem push_widgetActions (commands : PendingCommands) (command : ClientCommand) :
    (commands.push command).widgetActions = commands.widgetActions.push command := by
  cases command <;> rfl

theorem Accounted.moves (h : Accounted s) (ht : Moves s t) : Accounted t := by
  cases ht with
  | stay => exact h
  | wait elapsed => exact ⟨h.times, h.flag⟩
  | send command =>
    refine ⟨fun other => ?_, fun flag => ?_⟩
    · have hcount := h.times other
      have hpush := holds_push s.slot.widgetActions command other
      simp only [dispatches, requests, filterMap_append, filterMap_cons, filterMap_nil,
        dispatch?, request?, append_nil, times_append_singleton, push_widgetActions] at hcount ⊢
      omega
    · have hflag := h.flag flag
      simp only [dispatches, requests, filterMap_append, flagAfter, foldl_append] at hflag ⊢
      rw [push_widgetActions, running_push]
      exact congrArg command.running hflag
  | absorb =>
    refine ⟨fun other => ?_, fun flag => ?_⟩
    · have hcount := h.times other
      have hmerge := holds_mergeNewer s.intent.widgetActions s.slot.widgetActions other
      have hempty : (({} : PendingWidgetActions).holds other).toNat = 0 := by cases other <;> rfl
      simp only [dispatches, requests, absorb] at hcount ⊢
      omega
    · rw [absorb, running_mergeNewer, running_empty]
      exact h.flag flag
  | dispatch command hnext =>
    refine ⟨fun other => ?_, fun flag => ?_⟩
    · have hcount := h.times other
      have htake := holds_takeNext hnext other
      simp only [dispatches, requests, filterMap_append, filterMap_cons, filterMap_nil,
        dispatch?, request?, append_nil, times_append_singleton] at hcount ⊢
      omega
    · have hflag := h.flag flag
      rw [← running_takeNext s.intent.widgetActions, hnext] at hflag
      simp only [dispatches, requests, filterMap_append, flagAfter, foldl_append,
        Option.elim] at hflag ⊢
      exact hflag
  | see snapshot =>
    have hsame : (s.log ++ [CommandEntry.seen snapshot]).filterMap dispatch? = s.dispatches ∧
        (s.log ++ [CommandEntry.seen snapshot]).filterMap request? = s.requests := by
      simp [dispatches, requests, dispatch?, request?]
    refine ⟨fun other => ?_, fun flag => ?_⟩
    · rw [recordSnapshot_widgetActions, dispatches, requests, hsame.1, hsame.2]
      exact h.times other
    · rw [recordSnapshot_widgetActions, dispatches, requests, hsame.1, hsame.2]
      exact h.flag flag

/-- Between two requests of a lasting command it is pending, or it was dispatched after the first. -/
def Kept (command : ClientCommand) (s : CommandSystem) : Prop :=
  (∃ now, .requested command now ∈ s.log) →
    s.slot.widgetActions.holds command = true ∨ s.intent.widgetActions.holds command = true ∨
      Since (¬Concerns command ·) (fun entry => ∃ now, entry = .dispatched command now) s.log

theorem Kept.moves {command : ClientCommand} (hlasting : Lasting command) (h : Kept command s)
    (ht : Moves s t) : Kept command t := by
  -- An entry that does not concern the command leaves its history alone.
  have hother {entry : CommandEntry} (hentry : ¬Concerns command entry)
      (hrequested : ∃ now, .requested command now ∈ s.log ++ [entry]) :
      s.slot.widgetActions.holds command = true ∨ s.intent.widgetActions.holds command = true ∨
        Since (¬Concerns command ·) (fun entry => ∃ now, entry = .dispatched command now)
          (s.log ++ [entry]) := by
    obtain ⟨now, hmem⟩ := hrequested
    have hmem := (mem_append.mp hmem).resolve_right fun hmem =>
      hentry ⟨now, .inl (mem_singleton.mp hmem).symm⟩
    exact (h ⟨now, hmem⟩).imp_right (Or.imp_right fun hkept =>
      since_append_singleton.mpr (.inr ⟨hentry, hkept⟩))
  cases ht with
  | stay | wait => exact h
  | send other =>
    intro hrequested
    rw [push_widgetActions]
    by_cases heq : other = command
    · subst heq
      exact .inl (holds_push_self hlasting)
    · have hentry : ¬Concerns command (.requested other s.clock) := by simp [Concerns, heq]
      exact (hother hentry hrequested).imp_left fun hslot => holds_push_of_holds hlasting hslot other
  | absorb =>
    intro hrequested
    rcases h hrequested with hslot | hintent | hkept
    · exact .inr (.inl (holds_mergeNewer_of_holds hlasting (.inr hslot)))
    · exact .inr (.inl (holds_mergeNewer_of_holds hlasting (.inl hintent)))
    · exact .inr (.inr hkept)
  | dispatch other hnext =>
    intro hrequested
    by_cases heq : other = command
    · subst heq
      exact .inr (.inr (since_append_singleton.mpr (.inl ⟨s.clock, rfl⟩)))
    · have hentry : ¬Concerns command (.dispatched other s.clock) := by simp [Concerns, heq]
      refine (hother hentry hrequested).imp_right (Or.imp_left fun hintent => ?_)
      have htake := holds_takeNext hnext command
      rw [if_neg heq, hintent] at htake
      exact Bool.toNat_eq_one.mp htake
  | see snapshot =>
    intro hrequested
    rw [recordSnapshot_widgetActions]
    exact hother (by simp [Concerns]) hrequested

/-- A request to become passive is pending until a passive snapshot is seen after it. -/
def PassiveKept (s : CommandSystem) : Prop :=
  Since (¬SeenPassive ·) (fun entry => ∃ now, entry = .requested .setPassive now) s.log →
    s.slot.setPassive = true ∨ s.intent.pending = true

theorem PassiveKept.moves (h : PassiveKept s) (ht : Moves s t) : PassiveKept t := by
  cases ht with
  | stay | wait => exact h
  | send command =>
    intro hsince
    rcases since_append_singleton.mp hsince with ⟨now, hnow⟩ | ⟨-, hsince⟩
    · cases hnow
      exact .inl rfl
    · refine (h hsince).imp_left fun hslot => ?_
      unfold PendingCommands.push
      split
      · rfl
      · exact hslot
  | absorb =>
    intro hsince
    have hpending := h hsince
    exact .inr (Bool.or_eq_true_iff.mpr hpending.symm)
  | dispatch command hnext =>
    intro hsince
    rcases since_append_singleton.mp hsince with ⟨now, hnow⟩ | ⟨-, hsince⟩
    · cases hnow
    · exact h hsince
  | see snapshot =>
    intro hsince
    rcases since_append_singleton.mp hsince with ⟨now, hnow⟩ | ⟨hseen, hsince⟩
    · cases hnow
    · have hmode : snapshot.overlayMode ≠ .passive := fun hmode => hseen ⟨snapshot, rfl, hmode⟩
      unfold recordSnapshot
      rw [if_neg hmode]
      exact h hsince

/-! ### The elapsed time -/

/-- The stopwatch has counted no time before `origin`. -/
def CountedFrom (origin now : Instant) (watch : ManualStopwatch) : Prop :=
  origin ≤ now ∧ match watch.startedAt with
    | none => watch.accumulated ≤ now - origin
    | some startedAt => origin ≤ startedAt ∧ startedAt ≤ now ∧
        watch.accumulated ≤ startedAt - origin

/-- What a running stopwatch adds. -/
theorem addDuration_le {origin startedAt now accumulated : Nat} (horigin : origin ≤ startedAt)
    (hnow : startedAt ≤ now) (haccumulated : accumulated ≤ startedAt - origin) :
    addDuration accumulated (durationSince now startedAt) ≤ now - origin := by
  have hsum : accumulated + (now - startedAt) ≤ now - origin := by omega
  unfold durationSince checkedDurationSince checkedSub
  rw [if_pos hnow]
  exact Nat.le_trans (Nat.min_le_left _ _) hsum

theorem CountedFrom.later {later : Instant}
    (h : CountedFrom origin now watch) (hlater : now ≤ later) : CountedFrom origin later watch := by
  obtain ⟨accumulated, startedAt⟩ := watch
  cases startedAt with
  | none =>
    obtain ⟨horigin, haccumulated⟩ := h
    exact ⟨Nat.le_trans horigin hlater,
      Nat.le_trans haccumulated (Nat.sub_le_sub_right hlater origin)⟩
  | some startedAt =>
    obtain ⟨horigin, hstarted, hnow, haccumulated⟩ := h
    exact ⟨Nat.le_trans horigin hlater, hstarted, Nat.le_trans hnow hlater, haccumulated⟩

theorem CountedFrom.toggle
    (h : CountedFrom origin now watch) : CountedFrom origin now (watch.toggle now) := by
  obtain ⟨accumulated, startedAt⟩ := watch
  cases startedAt with
  | none =>
    obtain ⟨horigin, haccumulated⟩ := h
    exact ⟨horigin, horigin, Nat.le_refl now, haccumulated⟩
  | some startedAt =>
    obtain ⟨horigin, hstarted, hnow, haccumulated⟩ := h
    exact ⟨horigin, addDuration_le hstarted hnow haccumulated⟩

/-- The snapshot of such a stopwatch. -/
theorem CountedFrom.elapsedMs_le
    (h : CountedFrom origin now watch) : (watch.snapshotAt now).elapsedMs ≤ (now - origin) / 1000000 := by
  refine Nat.le_trans (Nat.min_le_left _ _) (Nat.div_le_div_right ?_)
  obtain ⟨accumulated, startedAt⟩ := watch
  cases startedAt with
  | none => exact h.2
  | some startedAt =>
    obtain ⟨-, hstarted, hnow, haccumulated⟩ := h
    exact addDuration_le hstarted hnow haccumulated

/-- After the last reset that was dispatched, no earlier time is counted. -/
def ResetCounted (s : CommandSystem) : Prop :=
  ∀ watch origin, Since (fun entry => ∀ now, entry ≠ .dispatched .resetManualStopwatch now)
    (· = .dispatched .resetManualStopwatch origin) s.log →
      CountedFrom origin s.clock (s.dispatches.foldl ClientCommand.execute watch)

theorem ResetCounted.moves (h : ResetCounted s) (ht : Moves s t) : ResetCounted t := by
  cases ht with
  | stay | absorb => exact h
  | wait elapsed =>
    exact fun watch origin hsince => (h watch origin hsince).later (Nat.le_add_right _ _)
  | send | see =>
    intro watch origin hsince
    rcases since_append_singleton.mp hsince with hnow | ⟨-, hsince⟩
    · cases hnow
    · rw [dispatches, filterMap_append]
      exact (append_nil s.dispatches).symm ▸ h watch origin hsince
  | dispatch command hnext =>
    intro watch origin hsince
    simp only [dispatches, filterMap_append, foldl_append]
    rcases since_append_singleton.mp hsince with hnow | ⟨hother, hsince⟩
    · cases hnow
      exact ⟨Nat.le_refl _, Nat.zero_le _⟩
    · have hcounted := h watch origin hsince
      cases command with
      | toggleManualStopwatch => exact hcounted.toggle
      | resetManualStopwatch => exact absurd rfl (hother s.clock)
      | setPassive | reloadWidgetSettings => exact hcounted

/-! ### Runs -/

/-- A client that was just spawned. -/
def start (clock : Instant) : CommandSystem := { clock := clock }

/-- What holds between any two steps. -/
structure Inv (s : CommandSystem) : Prop where
  accounted : Accounted s
  kept : ∀ command, Lasting command → Kept command s
  passive : PassiveKept s
  counted : ResetCounted s
  noPassive : times .setPassive s.dispatches = 0

theorem takeNext_ne_setPassive :
    actions.takeNext.1 ≠ some .setPassive := by
  obtain ⟨reload, reset, toggle⟩ := actions
  cases reload <;> cases reset <;> cases toggle <;> nofun

/-- The client dispatches requests to become passive elsewhere. -/
theorem noPassive_moves (h : times .setPassive s.dispatches = 0) (ht : Moves s t) :
    times .setPassive t.dispatches = 0 := by
  cases ht with
  | stay | wait | absorb => exact h
  | send | see =>
    rw [dispatches, filterMap_append]
    exact (append_nil s.dispatches).symm ▸ h
  | dispatch command hnext =>
    have hne : command ≠ .setPassive := fun heq => takeNext_ne_setPassive (heq ▸ hnext)
    rw [dispatches, filterMap_append]
    exact (times_append_singleton _ s.dispatches _).trans (by rw [h, if_neg hne])

theorem Inv.step {event : Event} (h : Inv s) (ht : s.step event = some t) : Inv t :=
  have hmoves := moves_of_step ht
  ⟨h.accounted.moves hmoves, fun command hlasting => (h.kept command hlasting).moves hlasting hmoves,
    h.passive.moves hmoves, h.counted.moves hmoves, noPassive_moves h.noPassive hmoves⟩

theorem inv_start (clock : Instant) : Inv (start clock) where
  accounted :=
    ⟨fun command => by cases command <;> exact Nat.le_refl 0, fun flag => by cases flag <;> rfl⟩
  kept _ _ := fun ⟨_, hmem⟩ => absurd hmem not_mem_nil
  passive hsince := absurd hsince not_since_nil
  counted _ _ hsince := absurd hsince not_since_nil
  noPassive := rfl

theorem inv_of_reaches {clock : Instant} (h : Reaches step (start clock) s) : Inv s :=
  reaches_invariant (fun _ _ _ hs ht => Inv.step hs ht) (inv_start clock) h

/-- Once everything is dispatched, a lasting command was dispatched after its last request. -/
theorem Kept.dispatched {command : ClientCommand} (h : Kept command s) (hs : s.Dispatched)
    (hrequested : ∃ now, .requested command now ∈ s.log) :
    Since (¬Concerns command ·) (fun entry => ∃ now, entry = .dispatched command now) s.log := by
  have hempty : ({} : PendingWidgetActions).holds command ≠ true := by cases command <;> nofun
  rcases h hrequested with hslot | hintent | hkept
  · exact absurd (hs.1 ▸ hslot) hempty
  · exact absurd (hs.2 ▸ hintent) hempty
  · exact hkept

theorem Accounted.dispatched (h : Accounted s) (hs : s.Dispatched) (watch : ManualStopwatch) :
    (s.dispatches.foldl ClientCommand.execute watch).startedAt.isSome =
      (s.requests.foldl ClientCommand.execute watch).startedAt.isSome := by
  have hflag := h.flag watch.startedAt.isSome
  rw [hs.1, hs.2, running_empty, running_empty] at hflag
  rw [ClientCommand.running_foldl_execute, ClientCommand.running_foldl_execute]
  exact hflag

end CommandSystem

/-! ### The slot of snapshots -/

/-- What has happened to the slot. -/
inductive SlotEntry where
  | published (update : SnapshotUpdate)
  | taken (update : SnapshotUpdate)
  deriving DecidableEq

/-- The slot between the client and the interface thread. A publisher stores its update and then
queues a token; the receiver takes the token and then the update. -/
structure SlotSystem where
  channel : SnapshotChannel := {}
  /-- The publishers that have not queued their token. -/
  notifying : Nat := 0
  /-- The receiver has a token. -/
  received : Bool := false
  log : List SlotEntry := []
  deriving DecidableEq

namespace SlotSystem

inductive Event where
  | store (update : SnapshotUpdate)
  | notify
  | tryRecv
  | take

def step (s : SlotSystem) : Event → Option SlotSystem
  | .store update =>
    some { s with
      channel := { s.channel with slot := (s.channel.publish update).slot }
      notifying := s.notifying + 1
      log := s.log ++ [.published update] }
  | .notify =>
    if s.notifying = 0 then none
    else some { s with
      channel := { s.channel with ready := true }
      notifying := s.notifying - 1 }
  | .tryRecv =>
    if s.received then none
    else some { s with channel := { s.channel with ready := false }, received := s.channel.ready }
  | .take =>
    if s.received then
      some { s with
        channel := { s.channel with slot := none }
        received := false
        log := s.log ++ (s.channel.slot.map .taken).toList }
    else none

/-- A confirmation that was published and not taken is in the slot, and the slot is announced. -/
structure Inv (s : SlotSystem) : Prop where
  confirmed : Since (fun entry => ∀ update, entry = .taken update → update.passiveConfirmed = false)
    (fun entry => ∃ update, entry = .published update ∧ update.passiveConfirmed = true) s.log →
      ∃ update, s.channel.slot = some update ∧ update.passiveConfirmed = true
  announced : s.channel.slot.isSome → s.channel.ready = true ∨ 0 < s.notifying ∨ s.received = true

variable {s t : SlotSystem}

theorem Inv.store (h : Inv s) (update : SnapshotUpdate) :
    Inv { s with
      channel := { s.channel with slot := (s.channel.publish update).slot }
      notifying := s.notifying + 1
      log := s.log ++ [.published update] } := by
  refine ⟨fun hsince => ⟨_, rfl, ?_⟩, fun _ => .inr (.inl (Nat.succ_pos _))⟩
  rcases since_append_singleton.mp hsince with ⟨_, hpublished, hconfirmed⟩ | ⟨-, hsince⟩
  · cases hpublished
    rw [hconfirmed, Bool.true_or]
  · obtain ⟨previous, hslot, hconfirmed⟩ := h.confirmed hsince
    rw [hslot, map_some, getD_some, hconfirmed, Bool.or_true]

theorem Inv.step {event : Event} (h : Inv s) (ht : s.step event = some t) : Inv t := by
  cases event with
  | store update =>
    cases ht
    exact h.store update
  | notify =>
    obtain ⟨-, ht⟩ := ite_none_left_eq_some.mp ht
    cases ht
    exact ⟨h.confirmed, fun _ => .inl rfl⟩
  | tryRecv =>
    obtain ⟨hreceived, ht⟩ := ite_none_left_eq_some.mp ht
    cases ht
    refine ⟨h.confirmed, fun hslot => .inr ?_⟩
    rcases h.announced hslot with hready | hnotifying | hbusy
    · exact .inr hready
    · exact .inl hnotifying
    · exact absurd hbusy hreceived
  | take =>
    obtain ⟨-, ht⟩ := ite_none_right_eq_some.mp ht
    cases ht
    refine ⟨fun hsince => ?_, fun hslot => absurd hslot Bool.false_ne_true⟩
    cases hslot : s.channel.slot with
    | none =>
      rw [hslot, map_none, toList_none, append_nil] at hsince
      obtain ⟨_, hsome, -⟩ := h.confirmed hsince
      exact absurd (hslot.symm.trans hsome) nofun
    | some update =>
      rw [hslot, map_some, toList_some] at hsince
      rcases since_append_singleton.mp hsince with ⟨_, hpublished, -⟩ | ⟨hplain, hsince⟩
      · cases hpublished
      · obtain ⟨_, hsome, hconfirmed⟩ := h.confirmed hsince
        cases hslot.symm.trans hsome
        exact absurd ((hplain update rfl).symm.trans hconfirmed) nofun

theorem inv_empty : Inv {} where
  confirmed hsince := absurd hsince not_since_nil
  announced hslot := absurd hslot Bool.false_ne_true

theorem inv_of_reaches (h : Reaches step {} s) : Inv s :=
  reaches_invariant (fun _ _ _ hs ht => Inv.step hs ht) inv_empty h

end SlotSystem

/-- Merging pieces is pushing the whole. No command is dispatched more often than it was requested.
When everything is dispatched, a stopwatch runs as if every request had been executed, it has counted
no time before the last reset, and a reload came after the last request for one. A request to become
passive is pending until a passive snapshot is seen, and a confirmation that is not taken stays in the
slot. -/
theorem CommandSystem.coalescing_keeps_meaning :
    (∀ (intent : PassiveIntent) (pieces : List (List ClientCommand)),
      pieces.foldl (fun intent piece => intent.absorb (piece.foldl .push {})) intent =
        intent.absorb (pieces.flatten.foldl .push {}) ∧
      (intent.absorb (pieces.flatten.foldl .push {})).widgetActions =
        pieces.flatten.foldl .push intent.widgetActions) ∧
    (∀ clock s, Reaches step (start clock) s →
      (∀ command, times command s.dispatches ≤ times command s.requests) ∧
      times .setPassive s.dispatches = 0 ∧
      (s.Dispatched → ∀ watch : ManualStopwatch,
        (s.dispatches.foldl ClientCommand.execute watch).startedAt.isSome =
          (s.requests.foldl ClientCommand.execute watch).startedAt.isSome ∧
        ((∃ now, .requested .resetManualStopwatch now ∈ s.log) →
          ∃ origin, Since (¬Concerns .resetManualStopwatch ·)
              (· = .dispatched .resetManualStopwatch origin) s.log ∧
            ((s.dispatches.foldl ClientCommand.execute watch).snapshotAt s.clock).elapsedMs ≤
              (s.clock - origin) / 1000000) ∧
        ((∃ now, .requested .reloadWidgetSettings now ∈ s.log) →
          Since (¬Concerns .reloadWidgetSettings ·)
            (fun entry => ∃ now, entry = .dispatched .reloadWidgetSettings now) s.log)) ∧
      (Since (¬SeenPassive ·) (fun entry => ∃ now, entry = .requested .setPassive now) s.log →
        s.slot.setPassive = true ∨ s.intent.pending = true)) ∧
    ∀ s, Reaches SlotSystem.step {} s →
      (Since (fun entry => ∀ update, entry = .taken update → update.passiveConfirmed = false)
        (fun entry => ∃ update, entry = .published update ∧ update.passiveConfirmed = true) s.log →
          ∃ update, s.channel.slot = some update ∧ update.passiveConfirmed = true) ∧
      (s.channel.slot.isSome → s.notifying = 0 → s.received = false → s.channel.ready = true) := by
  refine ⟨fun intent pieces => ⟨foldl_absorb intent pieces, ?_⟩, fun clock s hs => ?_, fun s hs => ?_⟩
  · rw [absorb, widgetActions_foldl_push, mergeNewer_foldl_push, mergeNewer_empty]
  · have h := inv_of_reaches hs
    refine ⟨fun command => ?_, ?_, fun hdone watch => ⟨?_, fun hreset => ?_, fun hreload => ?_⟩,
      h.passive⟩
    · have htimes := h.accounted.times command
      omega
    · exact h.noPassive
    · exact h.accounted.dispatched hdone watch
    · have hkept := (h.kept _ (.inr rfl)).dispatched hdone hreset
      obtain ⟨before, entry, after, hlog, ⟨origin, rfl⟩, hafter⟩ := hkept
      refine ⟨origin, ⟨before, _, after, hlog, rfl, hafter⟩, CountedFrom.elapsedMs_le ?_⟩
      refine h.counted watch origin ⟨before, _, after, hlog, rfl, fun entry hentry now hnow => ?_⟩
      exact hafter entry hentry ⟨now, .inr hnow⟩
    · exact (h.kept _ (.inl rfl)).dispatched hdone hreload
  · have h := SlotSystem.inv_of_reaches hs
    refine ⟨h.confirmed, fun hslot hnotifying hreceived => ?_⟩
    rcases h.announced hslot with hready | hpositive | hbusy
    · exact hready
    · exact absurd hnotifying (Nat.ne_of_gt hpositive)
    · exact absurd (hreceived.symm.trans hbusy) Bool.false_ne_true

/-- A start that was not dispatched yet, and then a reset and a start: the reset and one start are
dispatched. -/
theorem CommandSystem.coalescing_keeps_meaning_restart :
    ∃ s, Reaches step (start 5) s ∧
      s.dispatches = [(.resetManualStopwatch, 7), (.toggleManualStopwatch, 7)] ∧
      (s.dispatches.foldl ClientCommand.execute {}).startedAt.isSome =
        (s.requests.foldl ClientCommand.execute {}).startedAt.isSome := by
  have hreaches : Reaches step (start 5) _ :=
    ⟨[.send .toggleManualStopwatch, .absorb, .send .resetManualStopwatch,
      .send .toggleManualStopwatch, .absorb, .wait 2, .dispatch, .dispatch], rfl⟩
  obtain ⟨-, -, hdone, -⟩ := coalescing_keeps_meaning.2.1 5 _ hreaches
  exact ⟨_, hreaches, rfl, (hdone ⟨rfl, rfl⟩ {}).1⟩

end OverCrow.Overlay
