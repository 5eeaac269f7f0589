import OverCrow.Base.History
import OverCrow.Base.Machine

/-!
# Bounded commands

`run_bounded_command_status_observed` of `crates/overcrow-control/src/integration.rs`. The leader of the
group is observed without being reaped. As soon as it is reaped, by this code or (`ECHILD`) by another,
the kernel may give the id of its group to others.
-/

namespace OverCrow.Control
open OverCrow.Base

/-- `io::Error`: the number of the system, and the text that it displays. -/
structure OsError where
  errno : Option Nat
  text : String
  deriving DecidableEq

def eperm : Nat := 1
def esrch : Nat := 3
def eintr : Nat := 4
def echild : Nat := 10

/-- `ExitStatus`, as the kernel encodes it. -/
structure ExitStatus where
  raw : Int
  deriving DecidableEq

def ExitStatus.success (status : ExitStatus) : Bool := status.raw = 0

/-- `integration.rs:322`. -/
inductive ExitCleanupPolicy where
  | strict
  | privileged
  deriving DecidableEq

/-- `integration.rs:255`. -/
inductive ExitObservation where
  | running
  | exited
  deriving DecidableEq

/-- What `waitid` reports. -/
inductive Waitid where
  | event (pid : Int)
  | failed (error : OsError)

/-- What is asked of the kernel, the sleeps and `on_spawn` apart. -/
inductive Syscall where
  | observe (elapsed : Duration) (observed : Except OsError ExitObservation)
  | signalGroup (pid : Nat) (signal : Nat)
  | killLeader
  | wait
  deriving DecidableEq

/-- A pass of the loop: what `waitid` reports until it is not interrupted, and the time since the start. -/
structure Poll where
  reports : List Waitid
  elapsed : Duration

/-- What the kernel answers. -/
structure KernelAnswers where
  spawn : Except OsError Nat
  polls : List Poll
  terminate : Option OsError
  kill : Option OsError
  killLeader : Option OsError
  wait : Except OsError ExitStatus

/-- `integration.rs:263`. -/
def observe (pid : Nat) : List Waitid → Option (Except OsError ExitObservation)
  | [] => none
  | .event observed :: _ =>
    if observed = 0 then some (.ok .running)
    else if observed = pid then some (.ok .exited)
    else some (.error ⟨none, "waitid returned an unexpected child PID"⟩)
  | .failed error :: reports =>
    if error.errno = some eintr then observe pid reports else some (.error error)

/-- `ProcessGroup::signal`, `integration.rs:362`: a group without members is no error. -/
def signalError (failed : Option OsError) : Option OsError := failed.filter (·.errno ≠ some esrch)

/-- `integration.rs:407`. -/
def appendCleanupError (message operation : String) : Option OsError → String
  | none => message
  | some error => s!"{message}; {operation} failed: {error.text}"

def reapError : Except OsError ExitStatus → Option OsError
  | .ok _ => none
  | .error error => some error

section

variable (answers : KernelAnswers) (pid : Nat) (policy : ExitCleanupPolicy) (timeout : Duration)

/-- `integration.rs:388`. -/
def terminateGroupAndReap (reason : String) : List Syscall × String :=
  let message := appendCleanupError reason "process-group termination" (signalError answers.terminate)
  let message := appendCleanupError message "process-group forced kill" (signalError answers.kill)
  ([.signalGroup pid 15, .signalGroup pid 9, .wait],
    appendCleanupError message "leader reap" (reapError answers.wait))

/-- `integration.rs:327`. -/
def resolveObservedExit (status : ExitStatus) (cleanupError : Option OsError) :
    Except String ExitStatus :=
  match cleanupError with
  | none => .ok status
  | some error =>
    if policy = .privileged ∧ status.success = true ∧ error.errno = some eperm then .ok status
    else .error s!"process-group cleanup failed: {error.text}"

/-- `integration.rs:304`. -/
def finishObservedExit : List Syscall × Except String ExitStatus :=
  ([.signalGroup pid 9, .wait],
    match answers.wait with
    | .ok status => resolveObservedExit policy status (signalError answers.kill)
    | .error error => .error (appendCleanupError
        s!"could not reap observed command leader: {error.text}" "process-group cleanup"
        (signalError answers.kill)))

/-- What an observation ends in, `integration.rs:220-250`; `none` if the loop goes on. -/
def conclude (elapsed : Duration) : Except OsError ExitObservation →
    Option (List Syscall × Except String ExitStatus)
  | .ok .exited => some (finishObservedExit answers pid policy)
  | .ok .running =>
    if elapsed < timeout then none
    else
      let (calls, message) := terminateGroupAndReap answers pid "command timed out"
      some (calls, .error message)
  | .error error =>
    if error.errno = some echild then
      some ([.wait], .error (appendCleanupError ("lost command-child ownership during non-reaping " ++
        s!"observation; refusing an unsafe process-group signal: {error.text}") "leader reap"
        (reapError answers.wait)))
    else
      let (calls, message) := terminateGroupAndReap answers pid
        s!"could not observe command exit without reaping: {error.text}"
      some (calls, .error message)

/-- The loop, `integration.rs:219-251`; `none` if the polls end before it does. -/
def pollLoop : List Poll → Option (List Syscall × Except String ExitStatus)
  | [] => none
  | poll :: polls => do
    let observed ← observe pid poll.reports
    let (calls, result) ← (conclude answers pid policy timeout poll.elapsed observed).orElse
      fun _ => pollLoop polls
    return (.observe poll.elapsed observed :: calls, result)

/-- `integration.rs:189`. -/
def runBoundedCommandStatusObserved : Option (List Syscall × Except String ExitStatus) :=
  match answers.spawn with
  | .error error => some ([], .error s!"could not start command: {error.text}")
  | .ok pid =>
    if pid ≤ 1 ∨ 2 ^ 31 ≤ pid then
      let message := appendCleanupError "spawned command has an invalid process-group ID" "leader kill"
        answers.killLeader
      some ([.killLeader, .wait],
        .error (appendCleanupError message "leader reap" (reapError answers.wait)))
    else pollLoop answers pid policy timeout answers.polls

end

/-! ### Signals and reaping -/

/-- After this the group may be another one. -/
def Syscall.releases : Syscall → Bool
  | .wait => true
  | .observe _ (.error error) => error.errno = some echild
  | _ => false

/-- A signal goes to a group that nothing before has released. -/
def Syscall.Safe (before : List Syscall) : Syscall → Prop
  | .signalGroup _ _ => ∀ call ∈ before, call.releases = false
  | _ => True

/-- A success carries the status of the wait; every observation before it was in time, the last one was
an exit, and nothing was left to clean up. -/
structure Clean (answers : KernelAnswers) (policy : ExitCleanupPolicy) (timeout : Duration)
    (calls : List Syscall) (status : ExitStatus) : Prop where
  waited : answers.wait = .ok status
  exited : ∃ elapsed, .observe elapsed (.ok .exited) ∈ calls
  observed : ∀ elapsed observed, .observe elapsed observed ∈ calls →
    observed = .ok .exited ∨ observed = .ok .running ∧ elapsed < timeout
  cleaned : ∀ error, signalError answers.kill = some error →
    policy = .privileged ∧ status.success = true ∧ error.errno = some eperm

variable {answers : KernelAnswers} {pid : Nat} {policy : ExitCleanupPolicy} {timeout elapsed : Duration}
  {calls : List Syscall} {result : Except String ExitStatus} {observed : Except OsError ExitObservation}

theorem each_cons_observe (hobserved : (Syscall.observe elapsed observed).releases = false)
    (h : Each Syscall.Safe calls) : Each Syscall.Safe (.observe elapsed observed :: calls) := by
  rw [each_cons]
  refine ⟨trivial, fun before call after hsplit => ?_⟩
  have hsafe := h before call after hsplit
  cases call <;> simp_all [Syscall.Safe]

/-- What the last observation leads to. -/
theorem conclude_spec
    (h : conclude answers pid policy timeout elapsed observed = some (calls, result)) :
    Each Syscall.Safe (.observe elapsed observed :: calls) ∧ calls.count .wait = 1 ∧
      ∀ status, result = .ok status →
        Clean answers policy timeout (.observe elapsed observed :: calls) status := by
  have hstop (hreleases : (Syscall.observe elapsed observed).releases = false) :
      Each Syscall.Safe
        [.observe elapsed observed, .signalGroup pid 15, .signalGroup pid 9, .wait] := by
    refine each_cons_observe hreleases ?_
    simp [each_cons, each_nil, Syscall.Safe, Syscall.releases]
  unfold conclude at h
  split at h
  · cases h
    refine ⟨each_cons_observe rfl (by simp [each_cons, each_nil, Syscall.Safe]), rfl,
      fun status hstatus => ?_⟩
    unfold finishObservedExit resolveObservedExit at hstatus
    split at hstatus
    · refine ⟨?_, ⟨elapsed, List.mem_cons_self⟩, by simp, ?_⟩ <;> split at hstatus
      · simp_all
      · split at hstatus <;> simp_all
      · simp_all
      · split at hstatus <;> simp_all
    · exact nomatch hstatus
  · split at h
    · exact nomatch h
    · cases h
      exact ⟨hstop rfl, rfl, nofun⟩
  · split at h
    · cases h
      exact ⟨by simp [each_cons, each_nil, Syscall.Safe], rfl, nofun⟩
    · next hchild =>
      cases h
      exact ⟨hstop (decide_eq_false hchild), rfl, nofun⟩

/-- The loop goes on while the leader runs. -/
theorem conclude_eq_none (h : conclude answers pid policy timeout elapsed observed = none) :
    observed = .ok .running ∧ elapsed < timeout := by
  unfold conclude at h
  split at h
  · exact nomatch h
  · split at h
    · exact ⟨rfl, by assumption⟩
    · exact nomatch h
  · split at h <;> exact nomatch h

theorem pollLoop_spec {polls : List Poll}
    (h : pollLoop answers pid policy timeout polls = some (calls, result)) :
    Each Syscall.Safe calls ∧ calls.count .wait = 1 ∧
      ∀ status, result = .ok status → Clean answers policy timeout calls status := by
  induction polls generalizing calls with
  | nil => exact nomatch h
  | cons poll polls ih =>
    unfold pollLoop at h
    simp only [Option.bind_eq_bind, Option.bind_eq_some_iff, Option.pure_def, Option.some.injEq,
      Prod.mk.injEq] at h
    obtain ⟨observed, -, ⟨rest, outcome⟩, hrest, rfl, rfl⟩ := h
    cases hconclude : conclude answers pid policy timeout poll.elapsed observed with
    | some concluded =>
      rw [hconclude] at hrest
      cases hrest
      obtain ⟨hsafe, hwait, hclean⟩ := conclude_spec hconclude
      exact ⟨hsafe, by simp [hwait], hclean⟩
    | none =>
      rw [hconclude] at hrest
      obtain ⟨hsafe, hwait, hclean⟩ := ih hrest
      obtain ⟨rfl, hlt⟩ := conclude_eq_none hconclude
      refine ⟨each_cons_observe rfl hsafe, by simp [hwait], fun status hstatus => ?_⟩
      obtain ⟨hwaited, ⟨elapsed, hexited⟩, hobserved, hcleaned⟩ := hclean status hstatus
      refine ⟨hwaited, ⟨elapsed, List.mem_cons_of_mem _ hexited⟩, fun elapsed observed hmem => ?_, hcleaned⟩
      rcases List.mem_cons.mp hmem with hfirst | hmem
      · cases hfirst
        exact .inr ⟨rfl, hlt⟩
      · exact hobserved elapsed observed hmem

end OverCrow.Control
