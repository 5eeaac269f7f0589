import OverCrow.Base.Run
import OverCrow.Core.Session

/-!
# The coordinator's loop and its shutdown

`run_session_coordinator_with_retry` and `shutdown_session_coordinator_with_timeouts` of
`crates/overcrow-core/src/session.rs`, with any other callers that have a clone of the coordinator.
What the loop reads from its channels is not determined, nor when a timeout elapses.
-/

namespace OverCrow.Core.Session
open OverCrow.Base List

/-- Where the task stands: in the `reconcile` of its loop, in the one that it returns, in one of its
two `select!`s, or at its end. -/
inductive TaskAt where
  | reconciling (desired : Bool)
  | finishing
  | retrying (desired : Bool)
  | waiting (desired : Bool)
  | returned (result : Except Failure Unit)
  | aborted

/-- What the loop reads after a `reconcile`, `session.rs:613-624`: the
shutdown flag, `has_changed` of the desired state and its value. -/
structure Reads where
  shutdown : Bool
  hasChanged : Option Bool
  desired : Bool

/-- The branch of a `select!` that is taken. The value of a channel is missing when the channel is
lost. -/
inductive Wakeup where
  | shutdownChanged (shutdown : Option Bool)
  | desiredChanged (desired : Option Bool)
  | elapsed

/-- After the `reconcile` of the loop, `session.rs:606-644`. -/
def afterReconcile (desired transitionFailed : Bool) (reads : Reads) : TaskAt :=
  if reads.shutdown then .finishing
  else
    match reads.hasChanged with
    | some true => .reconciling reads.desired
    | none => .finishing
    | some false => if transitionFailed then .retrying desired else .waiting desired

/-- After a `select!`, `session.rs:627-657`. -/
def afterSelect (desired : Bool) : Wakeup → TaskAt
  | .shutdownChanged none => .finishing
  | .shutdownChanged (some shutdown) => if shutdown then .finishing else .reconciling desired
  | .desiredChanged none => .finishing
  | .desiredChanged (some desired) => .reconciling desired
  | .elapsed => .reconciling desired

/-- Where `shutdown_session_coordinator_with_timeouts` stands: waiting for the task, waiting once
more after cancelling its commands, waiting for the forced cleanup, and once more. -/
inductive ShutdownAt where
  | notCalled
  | joining
  | grace
  | cleaning (shutdownError : Option Failure)
  | cleanupGrace (shutdownError : Option Failure)
  | returned (result : Except Failure Unit)

/-- The end of `shutdown_session_coordinator_with_timeouts`,
`session.rs:728-735`. -/
def shutdownResult : Option Failure → Option Failure → Except Failure Unit
  | none, none => .ok ()
  | some shutdown, none => .error shutdown
  | none, some cleanup => .error cleanup
  | some shutdown, some cleanup => .error ⟨[shutdown.display ++
      "; subsequent forced cleanup also failed: " ++ cleanup.display]⟩

/-- The failure of a result, with a context. -/
def failureOf (context : String) : Except Failure Unit → Option Failure
  | .ok () => none
  | .error failure => some (failure.context context)

/-- What the task and the shutdown do. The forced cleanup has returned with a history. -/
inductive ControlEntry where
  | called (desired : Bool)
  | reconciled
  | endSeen
  | taskReturned
  | taskOver
  | cleanupBegan
  | cleanupReturned (history : List Entry)
  | cleanupTimedOut
  | shutdownReturned
  deriving DecidableEq

/-- The system: the coordinator, whoever holds its lock, the task and the shutdown. -/
structure System where
  world : World := {}
  holder : Option (Caller × Transition (Except Failure Unit)) := none
  task : TaskAt
  shutdown : ShutdownAt := .notCalled
  control : List ControlEntry := []

/-- What the task does when it comes to a point. -/
def TaskAt.entries : TaskAt → List ControlEntry
  | reconciling desired => [.called desired]
  | finishing => [.endSeen, .called false]
  | returned _ => [.taskReturned]
  | _ => []

namespace System

/-- The task has been spawned, `session.rs:602-603`. -/
def start (desired : Bool) : System where
  task := .reconciling desired
  control := (TaskAt.reconciling desired).entries

def log (s : System) (entries : List ControlEntry) : System :=
  { s with control := s.control ++ entries }

theorem log_nil (s : System) : s.log [] = s := by
  rw [log, append_nil]

theorem log_log (s : System) (l m : List ControlEntry) : (s.log l).log m = s.log (l ++ m) := by
  rw [log, log, log, append_assoc]

def goTo (s : System) (task : TaskAt) : System := { s with task }.log task.entries

/-- The errors of the timeouts, `session.rs:694,724`. -/
def timedOut : Failure := ⟨["session coordinator shutdown timed out"]⟩
def cleanupTimedOut : Failure := ⟨["forced session cleanup timed out"]⟩

/-- A caller gets the result of its call. -/
def deliver (s : System) (caller : Caller) (result : Except Failure Unit) (reads : Reads) : System :=
  match caller with
  | .other => s
  | .task =>
    match s.task with
    | .reconciling desired =>
      (s.log [.reconciled]).goTo (afterReconcile desired (!result.isOk) reads)
    | .finishing => (s.log [.reconciled]).goTo (.returned result)
    | _ => s
  | .cleanup =>
    match s.shutdown with
    | .cleaning shutdownError =>
      { s with shutdown := .returned (shutdownResult shutdownError
          (failureOf "forced session cleanup failed" result)) }.log
        [.cleanupReturned s.world.history, .shutdownReturned]
    | .cleanupGrace shutdownError =>
      { s with shutdown := .returned (shutdownResult shutdownError (some cleanupTimedOut)) }.log
        [.cleanupReturned s.world.history, .shutdownReturned]
    | _ => s

/-- The holder of the lock has run to its next wait or to its end. -/
def settle (s : System) (caller : Caller)
    (position : Transition (Except Failure Unit) × World) (reads : Reads) : System :=
  match position.1 with
  | .done result => { s with world := position.2, holder := none }.deliver caller result reads
  | program => { s with world := position.2, holder := some (caller, program) }

/-- The lock is taken for a call. -/
def enter (desktop : DesktopSession) (s : System) (caller : Caller) (call : Call) (reads : Reads) :
    System :=
  s.settle caller ((perform desktop caller call).advance s.world) reads

/-- The future of a caller is dropped, and with it the lock if it holds it. -/
def release (s : System) (caller : Caller) : System :=
  match s.holder with
  | some (holder, _) => if holder = caller then { s with holder := none } else s
  | none => s

/-- The task is aborted unless it has returned, `session.rs:700-701`. -/
def abortTask (s : System) : System :=
  match s.task with
  | .returned _ => s
  | _ => { s.release .task with task := .aborted }

theorem release_control (s : System) (caller : Caller) : (s.release caller).control = s.control := by
  unfold release
  split
  · split <;> rfl
  · rfl

/-- The forced cleanup is spawned, `session.rs:707-712`. -/
def spawnCleanup (s : System) (shutdownError : Option Failure) : System :=
  { s with shutdown := .cleaning shutdownError }.log [.taskOver]

/-- What can happen. -/
inductive Action where
  | call (call : Call) (reads : Reads)
  | drop
  | enterTask (reads : Reads)
  | enterCleanup (reads : Reads)
  | resume (answer : ∀ request, Answer request) (reads : Reads)
  | wake (wakeup : Wakeup)
  | shutdown (task : Bool)
  | joined
  | joinTimedOut
  | graceTimedOut
  | cleanupTimedOut
  | cleanupAborted

/-- One step. A call of another caller and the two of the program take the lock when it is free.
Without a task to wait for, the shutdown is called when the task is over. -/
def step (desktop : DesktopSession) (s : System) : Action → Option System
  | .call call reads =>
    match s.holder with
    | none => some (s.enter desktop .other call reads)
    | some _ => none
  | .drop => some (s.release .other)
  | .enterTask reads =>
    match s.holder, s.task with
    | none, .reconciling desired => some (s.enter desktop .task (.reconcile desired) reads)
    | none, .finishing => some (s.enter desktop .task (.reconcile false) reads)
    | _, _ => none
  | .enterCleanup reads =>
    match s.holder, s.shutdown with
    | none, .cleaning _ | none, .cleanupGrace _ =>
      some ((s.log [.cleanupBegan]).enter desktop .cleanup .forceStopAll reads)
    | _, _ => none
  | .resume answer reads =>
    match s.holder with
    | none => none
    | some (caller, program) => some (s.settle caller (program.resume answer s.world) reads)
  | .wake wakeup =>
    match s.task, wakeup with
    | .waiting _, .elapsed => none
    | .waiting desired, wakeup | .retrying desired, wakeup =>
      some (s.goTo (afterSelect desired wakeup))
    | _, _ => none
  | .shutdown task =>
    match s.shutdown, task, s.task with
    | .notCalled, true, _ => some { s with shutdown := .joining }
    | .notCalled, false, .returned _ => some (s.spawnCleanup none)
    | _, _, _ => none
  | .joined =>
    match s.shutdown, s.task with
    | .joining, .returned result =>
      some (s.spawnCleanup (failureOf "session coordinator cleanup failed" result))
    | .grace, .returned _ => some (s.spawnCleanup (some timedOut))
    | _, _ => none
  | .joinTimedOut =>
    match s.shutdown with
    | .joining => some { s with shutdown := .grace }
    | _ => none
  | .graceTimedOut =>
    match s.shutdown with
    | .grace => some (s.abortTask.spawnCleanup (some timedOut))
    | _ => none
  | .cleanupTimedOut =>
    match s.shutdown with
    | .cleaning shutdownError =>
      some ({ s with shutdown := .cleanupGrace shutdownError }.log [.cleanupTimedOut])
    | _ => none
  | .cleanupAborted =>
    match s.shutdown with
    | .cleanupGrace shutdownError =>
      some ({ s.release .cleanup with shutdown := .returned (shutdownResult shutdownError
        (some cleanupTimedOut)) }.log [.shutdownReturned])
    | _ => none

end System

/-! ### What the task and the shutdown show -/

/-- What an entry says about those before it. -/
def ControlJustified (desktop : DesktopSession) (before : List ControlEntry) :
    ControlEntry → Prop
  | .called _ => .taskOver ∉ before
  | .taskReturned => [.endSeen, .called false, .reconciled].Sublist before
  | .cleanupBegan => .taskOver ∈ before
  | .cleanupReturned history => ∃ earlier succeeded,
      Returned desktop earlier .cleanup .forceStopAll succeeded history
  | .shutdownReturned => [.taskOver, .cleanupTimedOut].Sublist before ∨
      ∃ history, [.taskOver, .cleanupBegan, .cleanupReturned history].Sublist before
  | _ => True

/-- The task makes no more calls. -/
def TaskAt.IsOver : TaskAt → Prop
  | returned _ => True
  | aborted => True
  | _ => False

/-- The shutdown no longer waits for the task. -/
def ShutdownAt.AfterTask : ShutdownAt → Prop
  | cleaning _ => True
  | cleanupGrace _ => True
  | _ => False

/-- What holds in every state of the system. -/
structure Inv (desktop : DesktopSession) (s : System) : Prop where
  good : Good desktop s.world
  holder : ∀ caller program, s.holder = some (caller, program) →
    ∃ earlier call, (caller = .cleanup → call = .forceStopAll) ∧
      program.Wp (Good desktop) (fun result w => Good desktop w ∧
        Returned desktop earlier caller call result.isOk w.history) s.world
  control : Each (ControlJustified desktop) s.control
  taskOver : .taskOver ∈ s.control → s.task.IsOver
  finishing : s.task = .finishing → [.endSeen, .called false].Sublist s.control
  afterTask : s.shutdown.AfterTask → .taskOver ∈ s.control
  cleanup : ∀ program, s.holder = some (.cleanup, program) →
    [.taskOver, .cleanupBegan].Sublist s.control
  grace : ∀ shutdownError, s.shutdown = .cleanupGrace shutdownError →
    [.taskOver, .cleanupTimedOut].Sublist s.control

section Steps

variable {desktop : DesktopSession} {s : System}

theorem inv_start (desired : Bool) : Inv desktop (.start desired) where
  good := good_start
  holder := nofun
  control := by
    have heach : Each (ControlJustified desktop) ([] ++ [.called desired]) :=
      each_append_singleton.mpr ⟨each_nil, not_mem_nil⟩
    exact heach
  taskOver h := absurd h (by cases desired <;> decide)
  finishing := nofun
  afterTask := False.elim
  cleanup := nofun
  grace := nofun

/-- The entries that do not say that the task is over. -/
theorem Inv.log (h : Inv desktop s) {e : ControlEntry}
    (he : ControlJustified desktop s.control e) (hover : e = .taskOver → s.task.IsOver) :
    Inv desktop (s.log [e]) where
  good := h.good
  holder := h.holder
  control := each_append_singleton.mpr ⟨h.control, he⟩
  taskOver hmem := by
    rcases mem_append.mp hmem with hmem | hmem
    · exact h.taskOver hmem
    · exact hover (mem_singleton.mp hmem).symm
  finishing htask := (h.finishing htask).trans (sublist_append_left _ _)
  afterTask hshutdown := mem_append_left _ (h.afterTask hshutdown)
  cleanup program hholder := (h.cleanup program hholder).trans (sublist_append_left _ _)
  grace shutdownError hshutdown :=
    (h.grace shutdownError hshutdown).trans (sublist_append_left _ _)

theorem Inv.setTask (h : Inv desktop s) {task : TaskAt} (hover : .taskOver ∈ s.control → task.IsOver)
    (hfinishing : task = .finishing → [.endSeen, .called false].Sublist s.control) :
    Inv desktop { s with task } :=
  { h with taskOver := hover, finishing := hfinishing }

theorem Inv.setShutdown (h : Inv desktop s) {shutdown : ShutdownAt}
    (hafter : shutdown.AfterTask → .taskOver ∈ s.control)
    (hgrace : ∀ shutdownError, shutdown = .cleanupGrace shutdownError →
      [.taskOver, .cleanupTimedOut].Sublist s.control) : Inv desktop { s with shutdown } :=
  { h with afterTask := hafter, grace := hgrace }

/-- The lock is free. -/
theorem Inv.unlock (h : Inv desktop s) {w : World} (hgood : Good desktop w) :
    Inv desktop { s with world := w, holder := none } :=
  { h with good := hgood, holder := nofun, cleanup := nofun }

theorem sublist_concat {l c : List ControlEntry} (h : l.Sublist c) (e : ControlEntry) :
    (l ++ [e]).Sublist (c ++ [e]) := h.append (List.Sublist.refl _)

theorem Inv.release (h : Inv desktop s) (caller : Caller) : Inv desktop (s.release caller) := by
  unfold System.release
  split
  · split
    · exact h.unlock h.good
    · exact h
  · exact h

/-- The task goes on from a point at which it is not over. -/
theorem Inv.goTo (h : Inv desktop s) {task : TaskAt} (hover : ¬s.task.IsOver)
    (hreturned : ∀ result, task = .returned result →
      [.endSeen, .called false, .reconciled].Sublist s.control) : Inv desktop (s.goTo task) := by
  have hnot : .taskOver ∉ s.control := fun hmem => hover (h.taskOver hmem)
  cases task with
  | reconciling desired =>
    have hlog : Inv desktop (s.log [.called desired]) := h.log hnot nofun
    exact hlog.setTask (fun hmem => absurd (hlog.taskOver hmem) hover) nofun
  | finishing =>
    have hseen : Inv desktop (s.log [.endSeen]) := h.log trivial nofun
    have hlog : Inv desktop ((s.log [.endSeen]).log [.called false]) :=
      hseen.log (fun hmem => hover (hseen.taskOver hmem)) nofun
    rw [System.log_log] at hlog
    exact hlog.setTask (fun hmem => absurd (hlog.taskOver hmem) hover) fun _ =>
      sublist_append_right _ _
  | retrying | waiting =>
    have hlog : Inv desktop (s.log []) := by rwa [System.log_nil]
    exact hlog.setTask (fun hmem => absurd (hlog.taskOver hmem) hover) nofun
  | returned result =>
    have hlog : Inv desktop (s.log [.taskReturned]) := h.log (hreturned result rfl) nofun
    exact hlog.setTask (fun _ => trivial) nofun
  | aborted =>
    have hlog : Inv desktop (s.log []) := by rwa [System.log_nil]
    exact hlog.setTask (fun _ => trivial) nofun

theorem afterReconcile_ne_returned (desired transitionFailed : Bool) (reads : Reads)
    (result : Except Failure Unit) : afterReconcile desired transitionFailed reads ≠ .returned result := by
  unfold afterReconcile
  split
  · nofun
  split
  · nofun
  · nofun
  split <;> nofun

theorem afterSelect_ne_returned (desired : Bool) (wakeup : Wakeup) (result : Except Failure Unit) :
    afterSelect desired wakeup ≠ .returned result := by
  unfold afterSelect
  split
  · nofun
  · split <;> nofun
  · nofun
  · nofun
  · nofun

section

variable (h : Inv desktop s)

include h

/-- The forced cleanup has returned, and the shutdown returns. -/
theorem Inv.cleanupReturned {result : Except Failure Unit}
    {shutdown : ShutdownAt} (hshutdown : ¬shutdown.AfterTask)
    (hreturned : ∃ earlier, Returned desktop earlier .cleanup .forceStopAll result.isOk
      s.world.history) (hbegan : [.taskOver, .cleanupBegan].Sublist s.control) :
    Inv desktop ({ s with shutdown }.log
      [.cleanupReturned s.world.history, .shutdownReturned]) := by
  obtain ⟨earlier, hreturned⟩ := hreturned
  have hcleanup : Inv desktop (s.log [.cleanupReturned s.world.history]) :=
    h.log ⟨earlier, _, hreturned⟩ nofun
  have hlog : Inv desktop ((s.log [.cleanupReturned s.world.history]).log [.shutdownReturned]) :=
    hcleanup.log (.inr ⟨s.world.history, sublist_concat hbegan _⟩) nofun
  rw [System.log_log] at hlog
  refine hlog.setShutdown (fun hafter => absurd hafter hshutdown) ?_
  rintro shutdownError rfl
  exact absurd trivial hshutdown

theorem Inv.deliver (caller : Caller) (result : Except Failure Unit) (reads : Reads)
    (hcleanup : caller = .cleanup →
      (∃ earlier, Returned desktop earlier .cleanup .forceStopAll result.isOk s.world.history) ∧
        [.taskOver, .cleanupBegan].Sublist s.control) : Inv desktop (s.deliver caller result reads) := by
  have hreconciled : Inv desktop (s.log [.reconciled]) := h.log trivial nofun
  unfold System.deliver
  cases caller with
  | other => exact h
  | task =>
    dsimp only
    split
    · next desired htask =>
      refine hreconciled.goTo (fun hover => ?_) fun result hsame =>
        absurd hsame (afterReconcile_ne_returned _ _ _ _)
      change s.task.IsOver at hover
      rw [htask] at hover
      exact hover
    · next htask =>
      refine hreconciled.goTo (fun hover => ?_) fun _ _ => sublist_concat (h.finishing htask) _
      change s.task.IsOver at hover
      rw [htask] at hover
      exact hover
    · exact h
  | cleanup =>
    obtain ⟨hreturned, hbegan⟩ := hcleanup rfl
    dsimp only
    split
    · exact h.cleanupReturned id hreturned hbegan
    · exact h.cleanupReturned id hreturned hbegan
    · exact h

/-- The holder of the lock runs on. -/
theorem Inv.settle {caller : Caller} {call : Call} {earlier : List Entry}
    {position : Transition (Except Failure Unit) × World} (reads : Reads)
    (hcaller : caller = .cleanup → call = .forceStopAll)
    (hcleanup : caller = .cleanup → [.taskOver, .cleanupBegan].Sublist s.control)
    (hwp : position.1.Wp (Good desktop) (fun result w => Good desktop w ∧
      Returned desktop earlier caller call result.isOk w.history) position.2)
    (hposition : (∃ result, position.1 = .done result) ∨ ∃ e next, position.1 = .wait e next) :
    Inv desktop (s.settle caller position reads) := by
  obtain ⟨program, w⟩ := position
  rcases hposition with ⟨result, rfl⟩ | ⟨e, next, rfl⟩
  · obtain ⟨hgood, hreturned⟩ := hwp
    refine (h.unlock hgood).deliver caller result reads ?_
    rintro rfl
    rw [hcaller rfl] at hreturned
    exact ⟨⟨earlier, hreturned⟩, hcleanup rfl⟩
  · refine { h with good := hwp.1, holder := ?_, cleanup := ?_ }
    · intro _ _ hsame
      cases hsame
      exact ⟨earlier, call, hcaller, hwp⟩
    · intro _ hsame
      cases hsame
      exact hcleanup rfl

theorem Inv.enter {caller : Caller} {call : Call} (reads : Reads)
    (hcaller : caller = .cleanup → call = .forceStopAll)
    (hcleanup : caller = .cleanup → [.taskOver, .cleanupBegan].Sublist s.control) :
    Inv desktop (s.enter desktop caller call reads) :=
  h.settle reads hcaller hcleanup (Await.Wp.advance (wp_perform h.good hcaller))
    (Await.advance_cases _ _)

theorem Inv.abortTask : Inv desktop s.abortTask ∧ s.abortTask.task.IsOver := by
  unfold System.abortTask
  split
  · next htask => exact ⟨h, by rw [htask]; exact trivial⟩
  · exact ⟨(h.release .task).setTask (fun _ => trivial) nofun, trivial⟩

theorem Inv.spawnCleanup (hover : s.task.IsOver)
    (shutdownError : Option Failure) : Inv desktop (s.spawnCleanup shutdownError) := by
  have hlog : Inv desktop (s.log [.taskOver]) := h.log trivial fun _ => hover
  exact hlog.setShutdown (fun _ => mem_append_right _ mem_cons_self) nofun

theorem inv_step {s' : System} {action : System.Action}
    (hstep : System.step desktop s action = some s') : Inv desktop s' := by
  cases action with
  | call call reads =>
    rw [System.step] at hstep
    split at hstep
    · cases hstep
      exact h.enter reads nofun nofun
    · cases hstep
  | drop =>
    cases hstep
    exact h.release .other
  | enterTask reads =>
    rw [System.step] at hstep
    split at hstep
    · cases hstep
      exact h.enter reads nofun nofun
    · cases hstep
      exact h.enter reads nofun nofun
    · cases hstep
  | enterCleanup reads =>
    have henter (hafter : s.shutdown.AfterTask) :
        Inv desktop ((s.log [.cleanupBegan]).enter desktop .cleanup .forceStopAll reads) := by
      have hmem := h.afterTask hafter
      have hlog : Inv desktop (s.log [.cleanupBegan]) := h.log hmem nofun
      exact hlog.enter reads (fun _ => rfl) fun _ =>
        sublist_concat (singleton_sublist.mpr hmem) _
    rw [System.step] at hstep
    split at hstep
    · next hshutdown =>
      cases hstep
      exact henter (by rw [hshutdown]; exact trivial)
    · next hshutdown =>
      cases hstep
      exact henter (by rw [hshutdown]; exact trivial)
    · cases hstep
  | resume answer reads =>
    rw [System.step] at hstep
    split at hstep
    · cases hstep
    · next caller program hholder =>
      cases hstep
      obtain ⟨earlier, call, hcaller, hwp⟩ := h.holder caller program hholder
      refine h.settle reads hcaller ?_ (hwp.resume answer) (Await.resume_cases _ _ _)
      rintro rfl
      exact h.cleanup program hholder
  | wake wakeup =>
    have hgo {desired : Bool} (hover : ¬s.task.IsOver) :
        Inv desktop (s.goTo (afterSelect desired wakeup)) :=
      h.goTo hover fun result hsame => absurd hsame (afterSelect_ne_returned _ _ _)
    unfold System.step at hstep
    dsimp only at hstep
    split at hstep
    · cases hstep
    · next htask _ =>
      cases hstep
      exact hgo (by rw [htask]; exact id)
    · next htask =>
      cases hstep
      exact hgo (by rw [htask]; exact id)
    · cases hstep
  | shutdown task =>
    unfold System.step at hstep
    dsimp only at hstep
    split at hstep
    · cases hstep
      exact h.setShutdown False.elim nofun
    · next htask =>
      cases hstep
      exact h.spawnCleanup (by rw [htask]; exact trivial) none
    · cases hstep
  | joined =>
    rw [System.step] at hstep
    split at hstep
    · next htask =>
      cases hstep
      exact h.spawnCleanup (by rw [htask]; exact trivial) _
    · next htask =>
      cases hstep
      exact h.spawnCleanup (by rw [htask]; exact trivial) _
    · cases hstep
  | joinTimedOut =>
    rw [System.step] at hstep
    split at hstep
    · cases hstep
      exact h.setShutdown False.elim nofun
    · cases hstep
  | graceTimedOut =>
    rw [System.step] at hstep
    split at hstep
    · cases hstep
      exact h.abortTask.1.spawnCleanup h.abortTask.2 _
    · cases hstep
  | cleanupTimedOut =>
    rw [System.step] at hstep
    split at hstep
    · next shutdownError hshutdown =>
      cases hstep
      have hmem := h.afterTask (by rw [hshutdown]; exact trivial)
      have hlog : Inv desktop (s.log [.cleanupTimedOut]) := h.log trivial nofun
      exact hlog.setShutdown (fun _ => mem_append_left _ hmem) fun _ _ =>
        sublist_concat (singleton_sublist.mpr hmem) _
    · cases hstep
  | cleanupAborted =>
    rw [System.step] at hstep
    split at hstep
    · next shutdownError hshutdown =>
      cases hstep
      have hlog : Inv desktop ((s.release .cleanup).log [.shutdownReturned]) := by
        refine (h.release .cleanup).log (.inl ?_) nofun
        rw [System.release_control]
        exact h.grace shutdownError hshutdown
      exact hlog.setShutdown False.elim nofun
    · cases hstep

end

end Steps

/-! ### The coordinator -/

/-- Answers that all succeed, and nothing new in the channels. -/
def succeeding : System.Action :=
  .resume (fun | .clearGame => () | .run _ => .ok ()) ⟨false, some false, true⟩

/-- The task cleans up and starts the session. -/
def startActions : List System.Action :=
  .enterTask ⟨false, some false, true⟩ :: replicate 5 succeeding

/-- The session runs, is no longer desired, and the task is aborted between two stop commands. -/
def abortedStop : List System.Action :=
  startActions ++ [.wake (.desiredChanged (some false)), .enterTask ⟨false, some false, false⟩,
    succeeding, succeeding, .shutdown true, .joinTimedOut, .graceTimedOut]

end OverCrow.Core.Session
