import OverCrow.Base.Await
import OverCrow.Base.History
import Mathlib.Data.List.Basic

/-!
# Transitions of the session

`SessionCoordinator` of `crates/overcrow-core/src/session.rs`. A transition holds the lock from its
first to its last step; it waits for the runtime to clear the game and for the commands it runs.
The runner's answers are not determined. The history records what the transitions do.
-/

namespace OverCrow.Core.Session
open OverCrow.Base List Await

/-- `session.rs:35`. -/
inductive DesktopSession where
  | x11
  | hyprland
  | plasmaWayland
  | gnomeWayland
  | unsupported
  deriving DecidableEq

/-- `session.rs:185`. -/
structure SessionCommand where
  verb : String
  unit : String
  deriving DecidableEq

/-- `Display` of a command, `session.rs:204`. -/
def SessionCommand.display (command : SessionCommand) : String :=
  "systemctl --user " ++ command.verb ++ " " ++ command.unit

/-- The units, `session.rs:20-21`. -/
def overlayUnit : String := "overcrow-overlay.service"
def hyprlandUnit : String := "overcrow-hyprland.service"

/-- The plans, `session.rs:211-220`. -/
def overlayStartPlan : List SessionCommand := [⟨"start", overlayUnit⟩]
def hyprlandStartPlan : List SessionCommand := [⟨"start", overlayUnit⟩, ⟨"start", hyprlandUnit⟩]
def overlayStopPlan : List SessionCommand := [⟨"stop", overlayUnit⟩]
def fullStopPlan : List SessionCommand := [⟨"stop", hyprlandUnit⟩, ⟨"stop", overlayUnit⟩]

/-- `session.rs:263`. -/
def startCommandPlan : DesktopSession → List SessionCommand
  | .hyprland => hyprlandStartPlan
  | .x11 | .plasmaWayland | .gnomeWayland => overlayStartPlan
  | .unsupported => []

/-- `session.rs:273`. -/
def stopCommandPlan : DesktopSession → List SessionCommand
  | .hyprland | .unsupported => fullStopPlan
  | .x11 | .plasmaWayland | .gnomeWayland => overlayStopPlan

/-- `session.rs:451`. -/
inductive AppliedState where
  | stopped
  | running
  | needsCleanup
  deriving DecidableEq

/-- `anyhow::Error`: its message and those of its causes. -/
structure Failure where
  chain : List String
  deriving DecidableEq

/-- The error in its alternate form, with its causes. -/
def Failure.display (failure : Failure) : String := ": ".intercalate failure.chain

/-- `anyhow::Error::context`. -/
def Failure.context (failure : Failure) (text : String) : Failure := ⟨text :: failure.chain⟩

/-- Who calls the coordinator: the task that runs its loop, the forced cleanup of the shutdown, or
someone else with a clone of it. -/
inductive Caller where
  | task
  | cleanup
  | other
  deriving DecidableEq

/-- The public methods that take the lock. -/
inductive Call where
  | reconcile (desired : Bool)
  | forceStopAll
  deriving DecidableEq

/-- What the transitions do. -/
inductive Entry where
  | began (caller : Caller) (call : Call)
  | returned (caller : Caller) (succeeded : Bool)
  | gameCleared
  | issued (command : SessionCommand)
  | answered (command : SessionCommand) (succeeded : Bool)
  | stopBegan
  | stopEnded (succeeded : Bool)
  | panicked
  deriving DecidableEq

/-- The flag of the coordinator and the history. -/
structure World where
  applied : AppliedState := .needsCleanup
  history : List Entry := []
  deriving DecidableEq

def World.extend (w : World) (segment : List Entry) : World :=
  { w with history := w.history ++ segment }

def World.record (w : World) (entry : Entry) : World := w.extend [entry]

/-- What a transition waits for. -/
inductive Request where
  | clearGame
  | run (command : SessionCommand)

def Answer : Request → Type
  | .clearGame => Unit
  | .run _ => Except Failure Unit

abbrev Transition := Await World Request Answer

/-! ### The transitions -/

def record (entry : Entry) : Transition Unit := modify fun w => w.record entry

/-- `session.rs:493`. -/
def appliedState : Transition AppliedState := Await.reads World.applied

/-- `session.rs:572`. -/
def setApplied (applied : AppliedState) : Transition Unit :=
  modify fun w => { w with applied }

/-- `runtime.clear_game()`. -/
def clearGame : Transition Unit := do
  (request Request.clearGame : Transition Unit)
  record .gameCleared

/-- `session.rs:568`. -/
def runCommand (command : SessionCommand) : Transition (Except Failure Unit) := do
  record (.issued command)
  let result ← (request (Request.run command) : Transition (Except Failure Unit))
  record (.answered command result.isOk)
  return result

/-- The loop of `stop_all_locked`, `session.rs:554-558`. -/
def stopCommands : List SessionCommand → List String → Transition (List String)
  | [], failures => return failures
  | command :: rest, failures => do
    match ← runCommand command with
    | .error error => stopCommands rest (failures ++ [command.display ++ ": " ++ error.display])
    | .ok () => stopCommands rest failures

/-- `session.rs:551`. -/
def stopAllLocked (desktop : DesktopSession) : Transition (Except Failure Unit) := do
  record .stopBegan
  clearGame
  let failures ← stopCommands (stopCommandPlan desktop) []
  if failures = [] then
    setApplied .stopped
    record (.stopEnded true)
    return .ok ()
  else
    setApplied .needsCleanup
    record (.stopEnded false)
    return .error ⟨["session cleanup failed: " ++ "; ".intercalate failures]⟩

/-- What `start` does after a command has failed, `session.rs:537-544`. -/
def startFailed (desktop : DesktopSession) (startError : Failure) :
    Transition (Except Failure Unit) := do
  setApplied .needsCleanup
  match ← stopAllLocked desktop with
  | .error cleanupError =>
    return .error ⟨["failed to start session: " ++ startError.display ++
      "; cleanup also failed: " ++ cleanupError.display]⟩
  | .ok () => return .error (startError.context "failed to start session; cleanup completed")

/-- The loop of `start`, `session.rs:535-548`. -/
def startCommands (desktop : DesktopSession) :
    List SessionCommand → Transition (Except Failure Unit)
  | [] => do
    setApplied .running
    return .ok ()
  | command :: rest => do
    match ← runCommand command with
    | .error startError => startFailed desktop startError
    | .ok () => startCommands desktop rest

/-- `session.rs:534`. -/
def start (desktop : DesktopSession) : Transition (Except Failure Unit) :=
  startCommands desktop (startCommandPlan desktop)

/-- The match of `reconcile`, `session.rs:526-531`. -/
def applyDesired (desktop : DesktopSession) (desiredRunning : Bool) :
    Transition (Except Failure Unit) := do
  match ← appliedState, desiredRunning with
  | .stopped, true => start desktop
  | .running, false => stopAllLocked desktop
  | .stopped, false | .running, true => return .ok ()
  | .needsCleanup, _ => do
    record .panicked
    return .error ⟨["cleanup was handled above"]⟩

/-- `reconcile` for a desktop that is not supported,
`session.rs:513-519`. -/
def reconcileUnsupported (desktop : DesktopSession) : Transition (Except Failure Unit) := do
  if (← appliedState) = .needsCleanup then
    match ← stopAllLocked desktop with
    | .error error => return .error error
    | .ok () => do
      setApplied .stopped
      return .ok ()
  else do
    clearGame
    setApplied .stopped
    return .ok ()

/-- `session.rs:510`. -/
def reconcile (desktop : DesktopSession) (desiredRunning : Bool) :
    Transition (Except Failure Unit) := do
  if desktop = .unsupported then reconcileUnsupported desktop
  else if (← appliedState) = .needsCleanup then
    match ← stopAllLocked desktop with
    | .error error => return .error error
    | .ok () => applyDesired desktop desiredRunning
  else applyDesired desktop desiredRunning

/-- A call from the moment it has the lock, `session.rs:505-532`. -/
def perform (desktop : DesktopSession) (caller : Caller) (call : Call) :
    Transition (Except Failure Unit) := do
  record (.began caller call)
  let result ← match call with
    | .reconcile desired => reconcile desktop desired
    | .forceStopAll => stopAllLocked desktop
  record (.returned caller result.isOk)
  return result

/-! ### What the history shows -/

/-- The end of a stop plan. -/
def Entry.IsStopEnd : Entry → Prop
  | stopEnded _ => True
  | _ => False

def Entry.IsBegan : Entry → Prop
  | began _ _ => True
  | _ => False

/-- The game has been cleared and every command of the stop plan has been run. -/
def Attempted (desktop : DesktopSession) (segment : List Entry) : Prop :=
  .gameCleared ∈ segment ∧ ∀ command ∈ stopCommandPlan desktop,
    .issued command ∈ segment ∧ ∃ succeeded, .answered command succeeded ∈ segment

/-- After every failure of a start command. -/
def Cleaned (desktop : DesktopSession) (segment : List Entry) : Prop :=
  ∀ command ∈ startCommandPlan desktop, ∀ before after,
    segment = before ++ .answered command false :: after → Attempted desktop after

/-- What an entry says about those before it. -/
def Justified (desktop : DesktopSession) (before : List Entry) : Entry → Prop
  | .began caller call => caller = .cleanup → call = .forceStopAll
  | .returned caller _ => ∃ call earlier segment,
      before = earlier ++ .began caller call :: segment ∧ (∀ e ∈ segment, ¬e.IsBegan) ∧
        (call = .forceStopAll → Attempted desktop segment) ∧ Cleaned desktop segment
  | .stopEnded succeeded => ∃ earlier segment,
      before = earlier ++ .stopBegan :: segment ∧ .stopBegan ∉ segment ∧
        Attempted desktop segment ∧
        (succeeded = true ↔ ∀ command ∈ stopCommandPlan desktop, .answered command false ∉ segment)
  | .issued command => command ∈ startCommandPlan desktop →
      Since (¬Entry.IsStopEnd ·) (· = .stopEnded true) before
  | .panicked => False
  | _ => True

/-- What holds whenever a transition waits, and between transitions. -/
structure Good (desktop : DesktopSession) (w : World) : Prop where
  justified : Each (Justified desktop) w.history
  ready : w.applied ≠ .needsCleanup →
    Since (¬Entry.IsStopEnd ·) (· = .stopEnded true) w.history
  running : w.applied = .running → ∀ command ∈ startCommandPlan desktop,
    Since (¬Entry.IsStopEnd ·) (· = .answered command true) w.history

section Steps

variable {desktop : DesktopSession} {w : World}
  {command : SessionCommand} {Q : Except Failure Unit → World → Prop}
  {commands : List SessionCommand} {segment : List Entry}

theorem good_start : Good desktop {} := ⟨each_nil, fun h => absurd rfl h, nofun⟩

/-- An entry that ends no stop plan. -/
theorem Good.record (h : Good desktop w) {entry : Entry}
    (hjustified : Justified desktop w.history entry) (hend : ¬entry.IsStopEnd) :
    Good desktop (w.record entry) where
  justified := each_append_singleton.mpr ⟨h.justified, hjustified⟩
  ready happlied := since_append_singleton.mpr (.inr ⟨hend, h.ready happlied⟩)
  running happlied command hcommand :=
    since_append_singleton.mpr (.inr ⟨hend, h.running happlied command hcommand⟩)

/-- Without the flag only the entries count. -/
theorem Good.needsCleanup (h : Good desktop w) :
    Good desktop { w with applied := .needsCleanup } :=
  ⟨h.justified, fun hne => absurd rfl hne, nofun⟩

/-- Stop commands are not start commands. -/
theorem notMem_startCommandPlan
    (h : command ∈ stopCommandPlan desktop) : command ∉ startCommandPlan desktop := by
  have hall : ∀ command ∈ stopCommandPlan desktop, command ∉ startCommandPlan desktop := by
    cases desktop <;> decide
  exact hall command h

theorem wp_runCommand (h : Good desktop w) (hissued : Justified desktop w.history (.issued command))
    (hQ : ∀ result, Good desktop ((w.record (.issued command)).record (.answered command result.isOk)) →
      Q result ((w.record (.issued command)).record (.answered command result.isOk))) :
    (runCommand command).Wp (Good desktop) Q w := by
  have hgood := h.record hissued id
  refine ⟨hgood, fun result => hQ result (hgood.record trivial id)⟩

theorem wp_clearGame {Q : Unit → World → Prop} (h : Good desktop w)
    (hQ : Good desktop (w.record .gameCleared) → Q () (w.record .gameCleared)) :
    clearGame.Wp (Good desktop) Q w :=
  ⟨h, fun _ => hQ (h.record trivial id)⟩

/-! ### Stopping -/

theorem extend_nil (w : World) : w.extend [] = w := by
  rw [World.extend, append_nil]

theorem extend_extend (w : World) (l m : List Entry) : (w.extend l).extend m = w.extend (l ++ m) := by
  rw [World.extend, World.extend, World.extend, append_assoc]

theorem extend_applied_record (w : World) (l : List Entry) (applied : AppliedState) (e : Entry) :
    ({ w.extend l with applied } : World).record e =
      ({ w with applied } : World).extend (l ++ [e]) := by
  rw [World.record, World.extend, World.extend, World.extend, append_assoc]

/-- Every command has been run, and nothing else has happened. -/
structure Ran (commands : List SessionCommand) (segment : List Entry) : Prop where
  all : ∀ command ∈ commands,
    .issued command ∈ segment ∧ ∃ succeeded, .answered command succeeded ∈ segment
  only : ∀ e ∈ segment, ∃ command ∈ commands,
    e = .issued command ∨ ∃ succeeded, e = .answered command succeeded

theorem ran_nil : Ran [] [] := ⟨nofun, nofun⟩

theorem Ran.cons (h : Ran commands segment) (command : SessionCommand) (succeeded : Bool) :
    Ran (command :: commands) (.issued command :: .answered command succeeded :: segment) where
  all := by
    intro other hother
    rcases mem_cons.mp hother with rfl | hother
    · exact ⟨by simp, succeeded, by simp⟩
    · obtain ⟨hissued, result, hanswered⟩ := h.all other hother
      exact ⟨by simp [hissued], result, by simp [hanswered]⟩
  only := by
    intro e he
    rcases mem_cons.mp he with rfl | he
    · exact ⟨command, mem_cons_self, .inl rfl⟩
    rcases mem_cons.mp he with rfl | he
    · exact ⟨command, mem_cons_self, .inr ⟨succeeded, rfl⟩⟩
    · obtain ⟨other, hother, hcase⟩ := h.only e he
      exact ⟨other, mem_cons_of_mem _ hother, hcase⟩

/-- The loop runs the commands and collects the failures. -/
theorem wp_stopCommands {failures : List String}
    {Q : List String → World → Prop} (hcommands : ∀ command ∈ commands, command ∈ stopCommandPlan desktop)
    (h : Good desktop w)
    (hQ : ∀ failures' segment, Good desktop (w.extend segment) → Ran commands segment →
      (failures' = [] ↔ failures = [] ∧ ∀ command, .answered command false ∉ segment) →
      Q failures' (w.extend segment)) :
    (stopCommands commands failures).Wp (Good desktop) Q w := by
  induction commands generalizing failures w with
  | nil =>
    have hend := hQ failures [] (by rwa [extend_nil]) ran_nil (by simp)
    rwa [extend_nil] at hend
  | cons command rest ih =>
    have hnot := notMem_startCommandPlan (hcommands command mem_cons_self)
    have hrest : ∀ command ∈ rest, command ∈ stopCommandPlan desktop := fun other hother =>
      hcommands other (mem_cons_of_mem _ hother)
    refine wp_runCommand h (fun hmem => absurd hmem hnot) fun result hgood => ?_
    cases result with
    | error error =>
      refine ih hrest hgood fun failures' segment hgood hran hfailures => ?_
      rw [World.record, World.record, extend_extend, extend_extend] at hgood ⊢
      refine hQ failures' _ hgood (hran.cons command false) (hfailures.trans ?_)
      constructor
      · rintro ⟨hnil, -⟩
        exact absurd hnil (concat_ne_nil _ _)
      · rintro ⟨-, hnone⟩
        exact absurd (by simp [Except.isOk, Except.toBool]) (hnone command)
    | ok _ =>
      refine ih hrest hgood fun failures' segment hgood hran hfailures => ?_
      rw [World.record, World.record, extend_extend, extend_extend] at hgood ⊢
      refine hQ failures' _ hgood (hran.cons command true) (hfailures.trans ?_)
      simp [Except.isOk, Except.toBool]

/-- No call begins and no start command fails. -/
def Quiet (desktop : DesktopSession) (segment : List Entry) : Prop :=
  ∀ e ∈ segment, ¬e.IsBegan ∧ ∀ command ∈ startCommandPlan desktop, e ≠ .answered command false

theorem Ran.quiet (h : Ran (stopCommandPlan desktop) segment) :
    Quiet desktop segment := by
  intro e he
  obtain ⟨command, hcommand, hcase⟩ := h.only e he
  have hnot := notMem_startCommandPlan hcommand
  rcases hcase with rfl | ⟨succeeded, rfl⟩
  · exact ⟨id, fun _ _ => nofun⟩
  · refine ⟨id, fun other hother hsame => ?_⟩
    cases hsame
    exact hnot hother

/-- The flag after a stop plan. -/
def stoppedState (succeeded : Bool) : AppliedState :=
  if succeeded then .stopped else .needsCleanup

theorem good_stopEnded {succeeded : Bool}
    (h : Good desktop (w.extend (.stopBegan :: .gameCleared :: segment)))
    (hran : Ran (stopCommandPlan desktop) segment)
    (hsucceeded : succeeded = true ↔ ∀ command, .answered command false ∉ segment) :
    Good desktop (({ w with applied := stoppedState succeeded } : World).extend
      (.stopBegan :: .gameCleared :: segment ++ [.stopEnded succeeded])) := by
  have hentry : Justified desktop (w.history ++ .stopBegan :: .gameCleared :: segment)
      (.stopEnded succeeded) := by
    refine ⟨w.history, .gameCleared :: segment, rfl, ?_, ⟨mem_cons_self, ?_⟩, ?_⟩
    · intro hmem
      obtain ⟨command, -, hcase⟩ := hran.only _ ((mem_cons.mp hmem).resolve_left nofun)
      rcases hcase with hcase | ⟨_, hcase⟩ <;> cases hcase
    · intro command hcommand
      obtain ⟨hissued, result, hanswered⟩ := hran.all command hcommand
      exact ⟨mem_cons_of_mem _ hissued, result, mem_cons_of_mem _ hanswered⟩
    · rw [hsucceeded]
      constructor
      · intro hnone command _ hmem
        exact hnone command ((mem_cons.mp hmem).resolve_left nofun)
      · intro hnone command hmem
        obtain ⟨other, hother, hcase⟩ := hran.only _ hmem
        rcases hcase with hcase | ⟨_, hcase⟩
        · cases hcase
        · cases hcase
          exact hnone command hother (mem_cons_of_mem _ hmem)
  have hhistory : w.history ++ (.stopBegan :: .gameCleared :: segment ++ [.stopEnded succeeded]) =
      (w.history ++ .stopBegan :: .gameCleared :: segment) ++ [.stopEnded succeeded] := by
    rw [append_assoc]
  refine ⟨?_, ?_, ?_⟩
  · rw [World.extend, hhistory]
    exact each_append_singleton.mpr ⟨h.justified, hentry⟩
  · intro happlied
    cases succeeded with
    | false => exact absurd rfl happlied
    | true =>
      rw [World.extend, hhistory]
      exact since_append_singleton.mpr (.inl rfl)
  · intro happlied
    cases succeeded with
    | false | true => cases happlied

theorem wp_stopAllLocked (h : Good desktop w) (hQ : ∀ result segment,
      Good desktop (({ w with applied := stoppedState result.isOk } : World).extend segment) →
      Attempted desktop segment → Quiet desktop segment →
      Q result (({ w with applied := stoppedState result.isOk } : World).extend segment)) :
    (stopAllLocked desktop).Wp (Good desktop) Q w := by
  rw [stopAllLocked, wp_bind, record, wp_modify, wp_bind]
  refine wp_clearGame (h.record trivial id) fun hgood => ?_
  rw [World.record, World.record, extend_extend] at hgood ⊢
  rw [wp_bind]
  refine wp_stopCommands (fun _ => id) hgood fun failures segment hgood hran hfailures => ?_
  rw [extend_extend] at hgood ⊢
  have hsegment : Attempted desktop (.stopBegan :: .gameCleared :: segment ++
      [.stopEnded (decide (failures = []))]) := by
    refine ⟨by simp, fun command hcommand => ?_⟩
    obtain ⟨hissued, result, hanswered⟩ := hran.all command hcommand
    exact ⟨by simp [hissued], result, by simp [hanswered]⟩
  have hquiet : Quiet desktop (.stopBegan :: .gameCleared :: segment ++
      [.stopEnded (decide (failures = []))]) := by
    simpa [Quiet, Entry.IsBegan, or_imp, forall_and] using hran.quiet
  have hend := good_stopEnded hgood hran (decide_eq_true_iff.trans (hfailures.trans (by simp)))
  split
  · next hnil =>
    rw [decide_eq_true hnil] at hend hsegment hquiet
    have hnext := hQ (.ok ()) _ hend hsegment hquiet
    rw [← extend_applied_record] at hnext
    exact hnext
  · next hne =>
    rw [decide_eq_false hne] at hend hsegment hquiet
    have hnext := hQ (.error ⟨["session cleanup failed: " ++ "; ".intercalate failures]⟩) _ hend
      hsegment hquiet
    rw [← extend_applied_record] at hnext
    exact hnext

/-! ### Starting -/

theorem cleaned_of_quiet (h : Quiet desktop segment) :
    Cleaned desktop segment := by
  rintro command hcommand before after rfl
  exact absurd rfl ((h _ (by simp)).2 command hcommand)

/-- After the one start command that failed the stop plan has been run. -/
theorem cleaned_of_failure {quiet after : List Entry}
    (hquiet : Quiet desktop quiet) (hafter : Quiet desktop after)
    (hattempted : Attempted desktop after) :
    Cleaned desktop (quiet ++ .answered command false :: after) := by
  intro other hother before rest hsplit
  have hnot {segment : List Entry} (h : Quiet desktop segment) :
      .answered other false ∉ segment := fun hmem => (h _ hmem).2 other hother rfl
  obtain ⟨-, -, rfl⟩ := (append_cons_inj_of_notMem (hnot hquiet) (hnot hafter)).mp hsplit
  exact hattempted

theorem Cleaned.append_quiet {quiet : List Entry} (hquiet : Quiet desktop quiet)
    (h : Cleaned desktop segment) : Cleaned desktop (quiet ++ segment) := by
  intro command hcommand before after hsplit
  rcases append_eq_append_iff.mp hsplit with ⟨rest, rfl, hrest⟩ | ⟨rest, rfl, hrest⟩
  · exact h command hcommand rest after hrest
  · cases rest with
    | nil => exact h command hcommand [] after hrest.symm
    | cons e rest =>
      obtain ⟨rfl, -⟩ := cons.inj hrest
      exact absurd rfl ((hquiet _ (by simp)).2 command hcommand)

/-- How a call goes on from `w` to its end at `w'`. -/
def Ended (desktop : DesktopSession) (w w' : World) : Prop :=
  Good desktop w' ∧ ∃ segment, w'.history = w.history ++ segment ∧ (∀ e ∈ segment, ¬e.IsBegan) ∧
    Cleaned desktop segment

theorem Good.ended (h : Good desktop w) : Ended desktop w w :=
  ⟨h, [], (append_nil _).symm, nofun, cleaned_of_quiet nofun⟩

/-- After a quiet beginning. -/
theorem Ended.of_extend {w' : World} {quiet : List Entry} {applied : AppliedState}
    (hquiet : Quiet desktop quiet)
    (h : Ended desktop (({ w with applied } : World).extend quiet) w') : Ended desktop w w' := by
  obtain ⟨hgood, segment, hhistory, hbegan, hcleaned⟩ := h
  refine ⟨hgood, quiet ++ segment, ?_, ?_, hcleaned.append_quiet hquiet⟩
  · rw [hhistory, World.extend, append_assoc]
  · exact forall_mem_append.mpr ⟨fun e he => (hquiet e he).1, hbegan⟩

theorem wp_startFailed (startError : Failure) (quiet : List Entry) (command : SessionCommand)
    (hquiet : Quiet desktop quiet) (h : Good desktop (w.extend (quiet ++ [.answered command false]))) :
    (startFailed desktop startError).Wp (Good desktop) (fun _ => Ended desktop w)
      (w.extend (quiet ++ [.answered command false])) := by
  rw [startFailed, wp_bind, setApplied, wp_modify, wp_bind]
  refine wp_stopAllLocked h.needsCleanup fun result segment hgood hattempted hsegment => ?_
  have hended : Ended desktop w (({ w.extend (quiet ++ [.answered command false]) with
      applied := stoppedState result.isOk } : World).extend segment) := by
    refine ⟨hgood, quiet ++ .answered command false :: segment, ?_, ?_,
      cleaned_of_failure hquiet hsegment hattempted⟩
    · simp [World.extend]
    · intro e he
      rcases mem_append.mp he with he | he
      · exact (hquiet e he).1
      rcases mem_cons.mp he with rfl | he
      · exact id
      · exact (hsegment e he).1
  cases result with
  | error | ok => exact hended

/-- The loop over the start plan: each command has succeeded since the last stop plan, or is still
to be run. -/
theorem wp_startCommands (hdone : ∀ command ∈ startCommandPlan desktop, command ∈ commands ∨
      Since (¬Entry.IsStopEnd ·) (· = .answered command true) w.history)
    (h : Good desktop w) (happlied : w.applied = .stopped) :
    (startCommands desktop commands).Wp (Good desktop) (fun _ => Ended desktop w) w := by
  induction commands generalizing w with
  | nil =>
    have hgood : Good desktop { w with applied := .running } := by
      refine ⟨h.justified, fun _ => h.ready (by rw [happlied]; nofun), fun _ command hcommand => ?_⟩
      exact (hdone command hcommand).resolve_left not_mem_nil
    exact ⟨hgood, [], (append_nil _).symm, nofun, cleaned_of_quiet nofun⟩
  | cons command rest ih =>
    refine wp_runCommand h (fun _ => h.ready (by rw [happlied]; nofun)) fun result hgood => ?_
    rw [World.record, World.record, extend_extend] at hgood ⊢
    have hissued : Quiet desktop [.issued command] := by simp [Quiet, Entry.IsBegan]
    cases result with
    | error startError => exact wp_startFailed startError [.issued command] command hissued hgood
    | ok _ =>
      have hquiet : Quiet desktop ([.issued command] ++ [.answered command true]) := by
        simp [Quiet, Entry.IsBegan]
      have hend : ∀ e ∈ [Entry.issued command] ++ [.answered command true], ¬e.IsStopEnd := by
        simp [Entry.IsStopEnd]
      refine Await.Wp.mono (ih ?_ hgood happlied) (fun _ => id) fun _ _ => Ended.of_extend hquiet
      intro other hother
      rcases hdone other hother with hmem | hsince
      · rcases mem_cons.mp hmem with rfl | hmem
        · exact .inr (since_of_mem (mem_append_right _ mem_cons_self) rfl hend)
        · exact .inl hmem
      · exact .inr (hsince.append hend)

/-! ### Calls -/

theorem wp_applyDesired (h : Good desktop w) (happlied : w.applied ≠ .needsCleanup) (desired : Bool) :
    (applyDesired desktop desired).Wp (Good desktop) (fun _ => Ended desktop w) w := by
  rw [applyDesired, wp_bind, appliedState, wp_reads]
  cases hstate : w.applied with
  | needsCleanup => exact absurd hstate happlied
  | stopped =>
    cases desired with
    | false => exact h.ended
    | true => exact wp_startCommands (fun _ => .inl) h hstate
  | running =>
    cases desired with
    | false =>
      refine wp_stopAllLocked h fun result segment hgood _ hquiet => ?_
      exact Ended.of_extend hquiet hgood.ended
    | true => exact h.ended

theorem wp_reconcileUnsupported (h : Good desktop w) :
    (reconcileUnsupported desktop).Wp (Good desktop) (fun _ => Ended desktop w) w := by
  rw [reconcileUnsupported, wp_bind, appliedState, wp_reads]
  split
  · rw [wp_bind]
    refine wp_stopAllLocked h fun result segment hgood _ hquiet => ?_
    have hended := Ended.of_extend hquiet hgood.ended
    cases result with
    | error | ok => exact hended
  · next happlied =>
    rw [wp_bind]
    refine wp_clearGame h fun hgood => ?_
    have hstopped : Good desktop { w.record .gameCleared with applied := .stopped } := by
      refine ⟨hgood.justified, fun _ => hgood.ready happlied, fun hrunning => ?_⟩
      cases hrunning
    have hquiet : Quiet desktop [.gameCleared] := by simp [Quiet, Entry.IsBegan]
    exact Ended.of_extend hquiet hstopped.ended

theorem wp_reconcile (h : Good desktop w) (desired : Bool) :
    (reconcile desktop desired).Wp (Good desktop) (fun _ => Ended desktop w) w := by
  rw [reconcile]
  split
  · exact wp_reconcileUnsupported h
  rw [wp_bind, appliedState, wp_reads]
  split
  · rw [wp_bind]
    refine wp_stopAllLocked h fun result segment hgood _ hquiet => ?_
    cases result with
    | error error => exact Ended.of_extend hquiet hgood.ended
    | ok _ =>
      have hstopped : stoppedState true ≠ .needsCleanup := by decide
      have hnext := wp_applyDesired hgood hstopped desired
      exact hnext.mono (fun _ => id) fun _ _ => Ended.of_extend hquiet
  · next happlied => exact wp_applyDesired h happlied desired

/-- The history of a call that has returned. -/
def Returned (desktop : DesktopSession) (earlier : List Entry) (caller : Caller) (call : Call)
    (succeeded : Bool) (history : List Entry) : Prop :=
  ∃ segment, history = earlier ++ .began caller call :: segment ++ [.returned caller succeeded] ∧
    (call = .forceStopAll → Attempted desktop segment)

/-- A call keeps what holds whenever a transition waits, and between transitions. -/
theorem wp_perform (h : Good desktop w) {caller : Caller} {call : Call}
    (hcaller : caller = .cleanup → call = .forceStopAll) :
    (perform desktop caller call).Wp (Good desktop) (fun result w' => Good desktop w' ∧
      Returned desktop w.history caller call result.isOk w'.history) w := by
  have hbegan : Good desktop (w.record (.began caller call)) := h.record hcaller id
  have hreturned : ∀ (result : Except Failure Unit) (w' : World) (segment : List Entry),
      Good desktop w' → w'.history = (w.record (.began caller call)).history ++ segment →
      (∀ e ∈ segment, ¬e.IsBegan) → Cleaned desktop segment →
      (call = .forceStopAll → Attempted desktop segment) →
      Good desktop (w'.record (.returned caller result.isOk)) ∧
        Returned desktop w.history caller call result.isOk
          (w'.record (.returned caller result.isOk)).history := by
    intro result w' segment hgood hhistory hsegment hcleaned hforced
    have hsplit : w'.history = w.history ++ .began caller call :: segment := by
      rw [hhistory, World.record, World.extend, append_assoc, singleton_append]
    refine ⟨hgood.record ⟨call, w.history, segment, hsplit, hsegment, hforced, hcleaned⟩ id,
      segment, ?_, hforced⟩
    rw [World.record, World.extend, hsplit]
  rw [perform, wp_bind, record, wp_modify]
  cases call with
  | reconcile desired =>
    rw [wp_bind]
    refine (wp_reconcile hbegan desired).mono (fun _ => id) fun result w' hended => ?_
    obtain ⟨hgood, segment, hhistory, hsegment, hcleaned⟩ := hended
    exact hreturned result w' segment hgood hhistory hsegment hcleaned nofun
  | forceStopAll =>
    rw [wp_bind]
    refine wp_stopAllLocked hbegan fun result segment hgood hattempted hquiet => ?_
    exact hreturned result _ segment hgood rfl (fun e he => (hquiet e he).1)
      (cleaned_of_quiet hquiet) fun _ => hattempted

/-- After a stop plan that failed the flag says so. -/
theorem Good.needsCleanup_of_failed (h : Good desktop w)
    (hfailed : Since (¬Entry.IsStopEnd ·) (· = .stopEnded false) w.history) :
    w.applied = .needsCleanup := by
  by_contra happlied
  obtain ⟨e, -, rfl, hsame⟩ := hfailed.unique (h.ready happlied)
    (by rintro _ rfl; exact not_not.mpr trivial) (by rintro _ rfl; exact not_not.mpr trivial)
  cases hsame

end Steps

end OverCrow.Core.Session
