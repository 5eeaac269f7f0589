import OverCrow.Base.Run
import OverCrow.Notes.Store

/-!
# The notes service

`NotesService`, its worker and the update channel of
`crates/overcrow-overlay/src/notes/service.rs`. The owner of the service and the worker are two
threads; a step is one critical section, one operation on a channel or one call of the
repository. The repository is given by what `load` returns, which a save that replaces the
content changes to the saved document.

The ledger is not part of the service: no step reads it. It keeps the commands accepted so far
and says which of them each copy of the document contains.
-/

namespace OverCrow.Notes
open OverCrow.Base

/-- `service.rs:16`. -/
def notesErrorMaxChars : Nat := 180

/-- `service.rs:441`. -/
def boundError (message : String) : String :=
  if message.length ≤ notesErrorMaxChars then message
  else String.ofList (message.toList.take (notesErrorMaxChars - 1)) ++ "…"

/-- `service.rs:78`. -/
structure NotesUpdate where
  document : NotesDocument
  savePending : Bool
  error : Option String
  durabilityWarning : Bool
  deriving DecidableEq

/-- `service.rs:106`. -/
structure PublishedNotesUpdate where
  generation : Nat
  update : NotesUpdate
  deriving DecidableEq

/-- `WorkerState` and its default, `service.rs:85,93`. -/
structure WorkerState where
  ready : Bool := false
  committed : NotesDocument := {}
  desired : NotesDocument := {}
  pending : Option NotesDocument := none
  updateGeneration : Nat := 0
  deriving DecidableEq

namespace WorkerState

/-- `next_update_for_state`, `service.rs:424`. -/
def nextUpdate (state : WorkerState) (error : Option String) (durabilityWarning : Bool) :
    PublishedNotesUpdate × WorkerState :=
  let state := { state with updateGeneration := saturatingAdd u64Max state.updateGeneration 1 }
  let update : NotesUpdate :=
    { document := state.committed
      savePending := state.pending.isSome
      error := error.map boundError
      durabilityWarning }
  (⟨state.updateGeneration, update⟩, state)

/-- The candidate of a command, `service.rs:251-253`. -/
def candidate (state : WorkerState) (command : NotesCommand) : Except NotesError NotesDocument :=
  if state.ready then do
    let candidate ← command.apply state.desired
    candidate.validate
    return candidate
  else .error (.repository "notes are still loading")

/-- An accepted candidate, `service.rs:254-256`. -/
def stage (state : WorkerState) (candidate : NotesDocument) : PublishedNotesUpdate × WorkerState :=
  { state with desired := candidate, pending := some candidate }.nextUpdate none false

/-- `send` without a worker, `service.rs:262-269`. -/
def unavailable (state : WorkerState) : PublishedNotesUpdate × WorkerState :=
  { state with desired := state.committed, pending := none }.nextUpdate
    (some "notes repository failed: notes worker unavailable") false

/-- What the worker does with the loaded document,
`service.rs:344-355`. -/
def loaded (state : WorkerState) (result : Except NotesError NotesDocument) :
    PublishedNotesUpdate × WorkerState :=
  match result with
  | .ok document =>
    { state with ready := true, committed := document, desired := document }.nextUpdate none false
  | .error error => { state with ready := true }.nextUpdate (some error.display) false

/-- What the worker does with the result of a save,
`service.rs:380-402`. -/
def settle (state : WorkerState) (candidate : NotesDocument) (result : Except NotesError Unit) :
    PublishedNotesUpdate × WorkerState :=
  let settled (document : NotesDocument) : WorkerState :=
    { state with
      committed := document
      desired := if state.pending.isNone then document else state.desired }
  match result with
  | .ok () => (settled candidate).nextUpdate none false
  | .error error =>
    if error.wasCommitted then (settled candidate).nextUpdate (some error.display) true
    else (settled state.committed).nextUpdate (some error.display) false

/-- What a settled save leaves: the candidate is committed when it replaced the content, and the
desired document follows unless a newer candidate is pending. -/
theorem settle_state (state : WorkerState) (candidate : NotesDocument)
    (result : Except NotesError Unit) :
    let committed := if replaces result then candidate else state.committed
    (state.settle candidate result).2 =
      { state with
        committed
        desired := if state.pending.isNone then committed else state.desired
        updateGeneration := saturatingAdd u64Max state.updateGeneration 1 } := by
  unfold settle
  cases result with
  | ok => rfl
  | error error =>
    dsimp only
    by_cases h : error.wasCommitted = true
    · have hreplaces : replaces (.error error) = true := h
      rw [if_pos hreplaces, if_pos h]
      rfl
    · have hreplaces : ¬replaces (.error error) = true := h
      rw [if_neg hreplaces, if_neg h]
      rfl

/-- A candidate was applied to the desired document of a loaded state, and is valid. -/
theorem candidate_eq_ok {state : WorkerState} {command : NotesCommand} {candidate : NotesDocument}
    (h : state.candidate command = .ok candidate) :
    state.ready = true ∧ command.apply state.desired = .ok candidate ∧ candidate.Valid := by
  unfold WorkerState.candidate at h
  by_cases hready : state.ready = true
  · rw [if_pos hready] at h
    obtain ⟨applied, happly, h⟩ := bind_eq_ok.mp h
    obtain ⟨_, hvalid, h⟩ := bind_eq_ok.mp h
    cases h
    exact ⟨hready, happly, hvalid⟩
  · rw [if_neg hready] at h
    cases h

end WorkerState

/-- `service.rs:112`. -/
structure UpdateSlot where
  newestGeneration : Nat := 0
  latest : Option PublishedNotesUpdate := none
  deriving DecidableEq

/-- `UpdatePublisher::publish` up to the notification,
`service.rs:147-153`. An update that is not newer is dropped. -/
def UpdateSlot.publish (slot : UpdateSlot) (update : PublishedNotesUpdate) : Option UpdateSlot :=
  if update.generation ≤ slot.newestGeneration then none
  else some ⟨update.generation, some update⟩

/-! ### The system -/

/-- An accepted command and its place among those accepted. -/
structure Edit where
  number : Nat
  command : NotesCommand
  deriving DecidableEq

/-- A save that did not replace the content: the generation of the update that reports it, and the
commands that its candidate contained. -/
structure FailedSave where
  generation : Nat
  edits : List Edit
  deriving DecidableEq

/-- The commands accepted so far, those that the committed document, the desired one and the one in
flight contain, the failed saves and the updates that the receiver was given. `unseen` says that
a command was accepted since the worker last looked for a candidate. -/
structure Ledger where
  accepted : List Edit := []
  committed : List Edit := []
  desired : List Edit := []
  inFlight : List Edit := []
  failures : List FailedSave := []
  given : List PublishedNotesUpdate := []
  unseen : Bool := false

/-- What the ledger makes of a settled save. -/
def Ledger.settle (ledger : Ledger) (result : Except NotesError Unit) (idle : Bool)
    (generation : Nat) : Ledger :=
  let committed := if replaces result then ledger.inFlight else ledger.committed
  { ledger with
    committed
    desired := if idle then committed else ledger.desired
    inFlight := []
    failures :=
      if replaces result then ledger.failures
      else ledger.failures ++ [⟨generation, ledger.inFlight⟩] }

/-- What follows an update that the worker publishes. -/
inductive AfterPublish where
  | wait
  | take
  deriving DecidableEq

/-- Where the worker is in `run_worker`, `service.rs:330`. -/
inductive WorkerPhase where
  | starting
  | publishing (update : PublishedNotesUpdate) (next : AfterPublish)
  | notifying (next : AfterPublish)
  | waiting
  | taking
  | checking
  | saving (candidate : NotesDocument)
  | settling (candidate : NotesDocument) (result : Except NotesError Unit)
  | returned

def AfterPublish.phase : AfterPublish → WorkerPhase
  | .wait => .waiting
  | .take => .taking

/-- Where the owner is in `send`, `take_latest` or `drop`. A command that was `accepted` is
published and the worker is woken; otherwise the update reports that there is no worker. -/
inductive OwnerPhase where
  | idle
  | publishing (update : PublishedNotesUpdate) (accepted : Bool)
  | notifying (accepted : Bool)
  | waking
  | unavailable
  | taking
  | closing
  | closed

def OwnerPhase.published (accepted : Bool) : OwnerPhase := if accepted then .waking else .idle

/-- The service and its repository. `notified` and `wake` are the channels of capacity one. -/
structure NotesSystem where
  state : WorkerState := {}
  slot : UpdateSlot := {}
  notified : Bool := false
  wake : Bool := false
  shutdown : Bool := false
  worker : WorkerPhase := .starting
  owner : OwnerPhase := .idle
  content : Except NotesError NotesDocument
  ledger : Ledger := {}

namespace NotesSystem

/-- `NotesService::spawn` on a repository with the content. -/
def start (content : Except NotesError NotesDocument) : NotesSystem := { content }

/-- A command whose candidate is staged. -/
def accept (s : NotesSystem) (command : NotesCommand) (candidate : NotesDocument) : NotesSystem :=
  let edit : Edit := ⟨s.ledger.accepted.length, command⟩
  let staged := s.state.stage candidate
  { s with
    state := staged.2
    owner := .publishing staged.1 true
    ledger := { s.ledger with
      accepted := s.ledger.accepted ++ [edit]
      desired := s.ledger.desired ++ [edit]
      unseen := true } }

/-- The first critical section of `send`. -/
def send (s : NotesSystem) (command : NotesCommand) : NotesSystem :=
  match s.state.candidate command with
  | .error _ => s
  | .ok candidate => s.accept command candidate

/-- The section of `send` that gives up a candidate without a worker. -/
def giveUp (s : NotesSystem) : NotesSystem :=
  let given := s.state.unavailable
  { s with
    state := given.2
    owner := .publishing given.1 false
    ledger := { s.ledger with desired := s.ledger.committed } }

/-- The worker finds no candidate. -/
def foundNone (s : NotesSystem) : NotesSystem :=
  { s with worker := .checking, ledger := { s.ledger with unseen := false } }

/-- The worker takes the pending candidate. -/
def takePending (s : NotesSystem) (candidate : NotesDocument) : NotesSystem :=
  { s with
    state := { s.state with pending := none }
    worker := .saving candidate
    ledger := { s.ledger with inFlight := s.ledger.desired, unseen := false } }

/-- The repository's `save` returns. -/
def save (s : NotesSystem) (candidate : NotesDocument) (result : Except NotesError Unit) :
    NotesSystem :=
  { s with
    content := if replaces result then .ok candidate else s.content
    worker := .settling candidate result }

/-- The critical section after a save. -/
def settle (s : NotesSystem) (candidate : NotesDocument) (result : Except NotesError Unit) :
    NotesSystem :=
  let settled := s.state.settle candidate result
  { s with
    state := settled.2
    worker := .publishing settled.1 .take
    ledger := s.ledger.settle result s.state.pending.isNone settled.1.generation }

/-- The worker has loaded the document. -/
def load (s : NotesSystem) : NotesSystem :=
  let loaded := s.state.loaded s.content
  { s with state := loaded.2, worker := .publishing loaded.1 .wait }

/-- The worker makes a step. `result` is the result of a save that returns. -/
def work (s : NotesSystem) (result : Except NotesError Unit) : Option NotesSystem :=
  match s.worker with
  | .starting => some s.load
  | .publishing update next =>
    match s.slot.publish update with
    | none => some { s with worker := next.phase }
    | some slot => some { s with slot, worker := .notifying next }
  | .notifying next => some { s with notified := true, worker := next.phase }
  | .waiting => if s.wake then some { s with wake := false, worker := .taking } else none
  | .taking =>
    match s.state.pending with
    | none => some s.foundNone
    | some candidate => some (s.takePending candidate)
  | .checking => some { s with worker := if s.shutdown then .returned else .waiting }
  | .saving candidate => some (s.save candidate result)
  | .settling candidate result => some (s.settle candidate result)
  | .returned => none

/-- The receiver takes what is in the slot. -/
def takeSlot (s : NotesSystem) : NotesSystem :=
  { s with
    slot := { s.slot with latest := none }
    owner := .idle
    ledger := { s.ledger with given := s.ledger.given ++ s.slot.latest.toList } }

/-- The owner goes on with what it is doing. -/
def proceed (s : NotesSystem) : Option NotesSystem :=
  match s.owner with
  | .idle | .closed => none
  | .publishing update accepted =>
    match s.slot.publish update with
    | none => some { s with owner := .published accepted }
    | some slot => some { s with slot, owner := .notifying accepted }
  | .notifying accepted => some { s with notified := true, owner := .published accepted }
  | .waking =>
    match s.worker with
    | .returned => some { s with owner := .unavailable }
    | _ => some { s with wake := true, owner := .idle }
  | .unavailable => some s.giveUp
  | .taking => some s.takeSlot
  | .closing => some { s with wake := true, owner := .closed }

/-- A call of the owner, or a step of one of the threads. -/
inductive Action where
  | send (command : NotesCommand)
  | takeLatest
  | beginShutdown
  | proceed
  | work (result : Except NotesError Unit)

/-- One step. The owner makes one call at a time. -/
def step (s : NotesSystem) : Action → Option NotesSystem
  | .send command =>
    match s.owner with
    | .idle => some (s.send command)
    | _ => none
  | .takeLatest =>
    match s.owner with
    | .idle => some { s with notified := false, owner := if s.notified then .taking else .idle }
    | _ => none
  | .beginShutdown =>
    match s.owner with
    | .idle => some { s with shutdown := true, owner := .closing }
    | _ => none
  | .proceed => s.proceed
  | .work result => s.work result

/-! ### Transitions -/

/-- What a step can be, with the conditions under which it is taken. -/
inductive Transition (s : NotesSystem) : Action → NotesSystem → Prop where
  | rejected (command : NotesCommand) (error : NotesError)
      (hcandidate : s.state.candidate command = .error error) : Transition s (.send command) s
  | accepted (command : NotesCommand) (candidate : NotesDocument) (howner : s.owner = .idle)
      (hcandidate : s.state.candidate command = .ok candidate) :
      Transition s (.send command) (s.accept command candidate)
  | polled (howner : s.owner = .idle) : Transition s .takeLatest
      { s with notified := false, owner := if s.notified then .taking else .idle }
  | closing (howner : s.owner = .idle) : Transition s .beginShutdown
      { s with shutdown := true, owner := .closing }
  | ownerStale (update : PublishedNotesUpdate) (accepted : Bool)
      (howner : s.owner = .publishing update accepted)
      (hstale : update.generation ≤ s.slot.newestGeneration) :
      Transition s .proceed { s with owner := .published accepted }
  | ownerPublished (update : PublishedNotesUpdate) (accepted : Bool)
      (howner : s.owner = .publishing update accepted)
      (hfresh : s.slot.newestGeneration < update.generation) :
      Transition s .proceed
        { s with slot := ⟨update.generation, some update⟩, owner := .notifying accepted }
  | ownerNotified (accepted : Bool) (howner : s.owner = .notifying accepted) :
      Transition s .proceed { s with notified := true, owner := .published accepted }
  | woken (howner : s.owner = .waking) (hworker : s.worker ≠ .returned) :
      Transition s .proceed { s with wake := true, owner := .idle }
  | unwoken (howner : s.owner = .waking) (hworker : s.worker = .returned) :
      Transition s .proceed { s with owner := .unavailable }
  | gaveUp (howner : s.owner = .unavailable) : Transition s .proceed s.giveUp
  | tookSlot (howner : s.owner = .taking) : Transition s .proceed s.takeSlot
  | closed (howner : s.owner = .closing) :
      Transition s .proceed { s with wake := true, owner := .closed }
  | loaded (result : Except NotesError Unit) (hworker : s.worker = .starting) :
      Transition s (.work result) s.load
  | workerStale (result : Except NotesError Unit) (update : PublishedNotesUpdate)
      (next : AfterPublish) (hworker : s.worker = .publishing update next)
      (hstale : update.generation ≤ s.slot.newestGeneration) :
      Transition s (.work result) { s with worker := next.phase }
  | workerPublished (result : Except NotesError Unit) (update : PublishedNotesUpdate)
      (next : AfterPublish) (hworker : s.worker = .publishing update next)
      (hfresh : s.slot.newestGeneration < update.generation) :
      Transition s (.work result)
        { s with slot := ⟨update.generation, some update⟩, worker := .notifying next }
  | workerNotified (result : Except NotesError Unit) (next : AfterPublish)
      (hworker : s.worker = .notifying next) :
      Transition s (.work result) { s with notified := true, worker := next.phase }
  | awoken (result : Except NotesError Unit) (hworker : s.worker = .waiting)
      (hwake : s.wake = true) :
      Transition s (.work result) { s with wake := false, worker := .taking }
  | foundNone (result : Except NotesError Unit) (hworker : s.worker = .taking)
      (hpending : s.state.pending = none) : Transition s (.work result) s.foundNone
  | tookPending (result : Except NotesError Unit) (candidate : NotesDocument)
      (hworker : s.worker = .taking) (hpending : s.state.pending = some candidate) :
      Transition s (.work result) (s.takePending candidate)
  | checked (result : Except NotesError Unit) (hworker : s.worker = .checking) :
      Transition s (.work result)
        { s with worker := if s.shutdown then .returned else .waiting }
  | saved (result : Except NotesError Unit) (candidate : NotesDocument)
      (hworker : s.worker = .saving candidate) :
      Transition s (.work result) (s.save candidate result)
  | settled (result saved : Except NotesError Unit) (candidate : NotesDocument)
      (hworker : s.worker = .settling candidate saved) :
      Transition s (.work result) (s.settle candidate saved)

variable {s t : NotesSystem}

theorem transition_of_proceed (h : s.proceed = some t) : Transition s .proceed t := by
  unfold proceed at h
  split at h
  · cases h
  · cases h
  · next update accepted howner =>
    unfold UpdateSlot.publish at h
    by_cases hstale : update.generation ≤ s.slot.newestGeneration
    · rw [if_pos hstale] at h
      cases h
      exact .ownerStale update accepted howner hstale
    · rw [if_neg hstale] at h
      cases h
      exact .ownerPublished update accepted howner (Nat.lt_of_not_le hstale)
  · next accepted howner =>
    cases h
    exact .ownerNotified accepted howner
  · next howner =>
    split at h
    · next hworker =>
      cases h
      exact .unwoken howner hworker
    · next hworker =>
      cases h
      exact .woken howner hworker
  · next howner =>
    cases h
    exact .gaveUp howner
  · next howner =>
    cases h
    exact .tookSlot howner
  · next howner =>
    cases h
    exact .closed howner

theorem transition_of_work {result : Except NotesError Unit} (h : s.work result = some t) :
    Transition s (.work result) t := by
  unfold work at h
  split at h
  · next hworker =>
    cases h
    exact .loaded result hworker
  · next update next hworker =>
    unfold UpdateSlot.publish at h
    by_cases hstale : update.generation ≤ s.slot.newestGeneration
    · rw [if_pos hstale] at h
      cases h
      exact .workerStale result update next hworker hstale
    · rw [if_neg hstale] at h
      cases h
      exact .workerPublished result update next hworker (Nat.lt_of_not_le hstale)
  · next next hworker =>
    cases h
    exact .workerNotified result next hworker
  · next hworker =>
    rw [Option.ite_none_right_eq_some] at h
    obtain ⟨hwake, h⟩ := h
    cases h
    exact .awoken result hworker hwake
  · next hworker =>
    split at h
    · next hpending =>
      cases h
      exact .foundNone result hworker hpending
    · next candidate hpending =>
      cases h
      exact .tookPending result candidate hworker hpending
  · next hworker =>
    cases h
    exact .checked result hworker
  · next candidate hworker =>
    cases h
    exact .saved result candidate hworker
  · next candidate saved hworker =>
    cases h
    exact .settled result saved candidate hworker
  · cases h

/-- Every step is one of the transitions. -/
theorem transition_of_step {a : Action} (h : step s a = some t) : Transition s a t := by
  cases a with
  | send command =>
    unfold step at h
    dsimp only at h
    split at h
    · next howner =>
      cases h
      unfold send
      split
      · next error hcandidate => exact .rejected command error hcandidate
      · next candidate hcandidate => exact .accepted command candidate howner hcandidate
    · cases h
  | takeLatest =>
    unfold step at h
    dsimp only at h
    split at h
    · next howner =>
      cases h
      exact .polled howner
    · cases h
  | beginShutdown =>
    unfold step at h
    dsimp only at h
    split at h
    · next howner =>
      cases h
      exact .closing howner
    · cases h
  | proceed => exact transition_of_proceed h
  | work result => exact transition_of_work h

end NotesSystem

end OverCrow.Notes
