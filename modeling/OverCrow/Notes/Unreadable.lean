import OverCrow.Notes.Consistency

/-!
# Unreadable notes files

When the notes file cannot be loaded the service starts from the default document and is ready
for commands. The file is kept exactly as long as every command that is sent fails on the
default document: the first accepted one is saved over the file.
-/

namespace OverCrow.Notes
open OverCrow.Base List

/-- The default document accepts the command. -/
def NotesCommand.fitsDefault (command : NotesCommand) : Bool :=
  (({ ready := true } : WorkerState).candidate command).isOk

namespace NotesSystem

/-- The commands that a run sends. -/
def sent (actions : List Action) : List NotesCommand :=
  actions.filterMap fun
    | .send command => some command
    | _ => none

/-- Nothing was accepted since the file could not be loaded. -/
structure Untouched (error : NotesError) (s : NotesSystem) : Prop where
  content : s.content = .error error
  committed : s.state.committed = {}
  desired : s.state.desired = {}
  pending : s.state.pending = none
  inFlight : s.inFlight = none

variable {s t : NotesSystem} {a : Action} {error : NotesError}

theorem untouched_start (error : NotesError) : Untouched error (start (.error error)) :=
  ⟨rfl, rfl, rfl, rfl, rfl⟩

/-- What the service makes of a command depends on the desired document only. -/
theorem candidate_of_untouched (h : Untouched error s) {command : NotesCommand}
    {candidate : NotesDocument} (hcandidate : s.state.candidate command = .ok candidate) :
    command.fitsDefault = true := by
  have hready := (WorkerState.candidate_eq_ok hcandidate).1
  have hsame : ({ ready := true } : WorkerState).candidate command = .ok candidate := by
    unfold WorkerState.candidate at hcandidate ⊢
    rw [h.desired, hready] at hcandidate
    exact hcandidate
  unfold NotesCommand.fitsDefault
  rw [hsame]
  rfl

theorem Untouched.step (h : Untouched error s)
    (hrejected : ∀ command, a = .send command → command.fitsDefault = false)
    (ht : Transition s a t) : Untouched error t := by
  have hflight := h.inFlight
  cases ht with
  | rejected command rejection hcandidate => exact h
  | accepted command candidate howner hcandidate =>
    have hfits := candidate_of_untouched h hcandidate
    rw [hrejected command rfl] at hfits
    cases hfits
  | polled | closing | ownerStale | ownerPublished | ownerNotified | woken | unwoken | tookSlot
  | closed => exact { h with }
  | gaveUp howner => exact { h with desired := h.committed, pending := rfl }
  | loaded result hworker =>
    unfold load
    rw [h.content]
    exact { h with content := rfl, inFlight := rfl }
  | workerStale _ _ next | workerNotified _ next => cases next <;> exact { h with inFlight := rfl }
  | workerPublished | awoken | foundNone => exact { h with inFlight := rfl }
  | tookPending result candidate hworker hpending =>
    rw [h.pending] at hpending
    cases hpending
  | checked result hworker =>
    refine { h with inFlight := ?_ }
    cases hshutdown : s.shutdown <;> rfl
  | saved _ _ hworker | settled _ _ _ hworker =>
    unfold NotesSystem.inFlight at hflight
    rw [hworker] at hflight
    cases hflight

/-- A run whose commands all fail on the default document leaves the file alone. -/
theorem untouched_of_run {actions : List Action}
    (hrejected : ∀ command ∈ sent actions, command.fitsDefault = false)
    (hrun : run step (start (.error error)) actions = some s) : Untouched error s := by
  refine run_invariant_along
    (C := fun _ a => ∀ command, a = .send command → command.fitsDefault = false)
    (fun s a t hs hc hstep => hs.step hc (transition_of_step hstep)) (untouched_start error) ?_ hrun
  refine along_of_forall_mem (fun a ha _ command hsend => hrejected command ?_) _
  rw [hsend] at ha
  exact mem_filterMap.mpr ⟨_, ha, rfl⟩

/-! ### The first accepted command -/

/-- The service after it failed to load the file and published the error. -/
def failedLoad (error : NotesError) : NotesSystem :=
  let published := ({ } : WorkerState).loaded (.error error)
  { state := published.2
    slot := ⟨published.1.generation, some published.1⟩
    notified := true
    worker := .waiting
    content := .error error }

theorem run_loadSteps (error : NotesError) :
    run step (start (.error error)) loadSteps = some (failedLoad error) := rfl

/-- Commands that fail on the default document change nothing. -/
theorem run_rejected {commands : List NotesCommand}
    (h : ∀ command ∈ commands, command.fitsDefault = false) :
    run step (failedLoad error) (commands.map .send) = some (failedLoad error) := by
  induction commands with
  | nil => rfl
  | cons command commands ih =>
    have hfirst : step (failedLoad error) (.send command) = some (failedLoad error) := by
      have hfails := h command mem_cons_self
      unfold NotesCommand.fitsDefault at hfails
      change some ((failedLoad error).send command) = _
      cases hcandidate : ({ ready := true } : WorkerState).candidate command with
      | error rejection => rw [send, show (failedLoad error).state.candidate command = _ from hcandidate]
      | ok candidate =>
        rw [hcandidate] at hfails
        cases hfails
    exact run_cons_eq_some.mpr
      ⟨_, hfirst, ih fun other hother => h other (mem_cons_of_mem _ hother)⟩

/-- A command that the default document accepts is saved over the file. -/
theorem run_overwrites (error : NotesError) {command : NotesCommand}
    (h : command.fitsDefault = true) :
    ∃ candidate s, run step (failedLoad error)
      (sendSteps command ++ replicate 3 (.work (.ok ()))) = some s ∧
        s.content = .ok candidate := by
  unfold NotesCommand.fitsDefault at h
  cases hcandidate : ({ ready := true } : WorkerState).candidate command with
  | error rejection =>
    rw [hcandidate] at h
    cases h
  | ok candidate =>
    have hsend : step (failedLoad error) (.send command) =
        some ((failedLoad error).accept command candidate) := by
      change some ((failedLoad error).send command) = _
      rw [send, show (failedLoad error).state.candidate command = _ from hcandidate]
    exact ⟨candidate, _, run_cons_eq_some.mpr ⟨_, hsend, rfl⟩, rfl⟩

theorem sent_append (xs ys : List Action) : sent (xs ++ ys) = sent xs ++ sent ys :=
  filterMap_append

theorem sent_map_send (commands : List NotesCommand) : sent (commands.map .send) = commands := by
  unfold sent
  rw [filterMap_map]
  exact filterMap_some

/-- A file that cannot be loaded is kept, whatever the interleaving and the results of the saves,
exactly when every command of the sequence that is sent fails on the default document. -/
theorem unreadable_file_kept_iff {json : NotesJson} {io : LoadIo} {file : StoredFile}
    (hload : Notes.load json io file = .error error) (commands : List NotesCommand) :
    (∀ actions s, sent actions <+: commands →
      run step (start (Notes.load json io file)) actions = some s →
        s.content = Notes.load json io file) ↔
      ∀ command ∈ commands, command.fitsDefault = false := by
  rw [hload]
  constructor
  · intro hkept
    by_contra hfits
    -- the first command that the default document accepts
    have hsome : (commands.find? NotesCommand.fitsDefault).isSome = true := by
      rw [find?_isSome]
      simpa using hfits
    obtain ⟨command, hfind⟩ := Option.isSome_iff_exists.mp hsome
    obtain ⟨haccepted, before, after, rfl, hbefore⟩ := find?_eq_some_iff_append.mp hfind
    obtain ⟨candidate, s, hsave, hcontent⟩ := run_overwrites error haccepted
    have hrejected : ∀ other ∈ before, other.fitsDefault = false := by
      intro other hother
      exact (Bool.not_eq_true' _).mp (hbefore other hother)
    have hrun := run_append (run_append (run_loadSteps error) (run_rejected hrejected)) hsave
    have hsent : sent (loadSteps ++ before.map .send ++
        (sendSteps command ++ replicate 3 (.work (.ok ())))) = before ++ [command] := by
      rw [sent_append, sent_append, sent_map_send]
      rfl
    have hsame := hkept _ s (hsent ▸ ⟨after, by rw [append_assoc]; rfl⟩) hrun
    rw [hcontent] at hsame
    cases hsame
  · intro hrejected actions s hsent hrun
    exact (untouched_of_run (fun command hcommand => hrejected command (hsent.subset hcommand))
      hrun).content

/-- A reader that takes nothing for a notes file. -/
def unreadableJson : NotesJson where
  header _ := .error "expected value"
  legacy _ := .error "expected value"
  document _ := .error "expected value"
  render _ := .ok []

/-- A private regular file with a cut off text. -/
def cutOffFile : StoredFile := .present true 0o600 [0x7b]

theorem unreadable_file_kept_without_fitting_command :
    Notes.load unreadableJson {} cutOffFile = .error (.json "expected value") ∧
      ∀ actions s, sent actions <+: [.setActiveNote "note-9"] →
        run step (start (Notes.load unreadableJson {} cutOffFile)) actions = some s →
          s.content = Notes.load unreadableJson {} cutOffFile := by
  have hload : Notes.load unreadableJson {} cutOffFile = .error (.json "expected value") := rfl
  refine ⟨hload, (unreadable_file_kept_iff hload _).mpr ?_⟩
  decide +kernel

/-- One added note, and the file that could not be read is gone. -/
theorem unreadable_file_overwritten :
    ∃ error candidate s, Notes.load unreadableJson {} cutOffFile = .error error ∧
      run step (start (Notes.load unreadableJson {} cutOffFile))
        (loadSteps ++ sendSteps (.addNote "Raids") ++ replicate 3 (.work (.ok ()))) = some s ∧
      s.content = .ok candidate ∧
      saveWithWriter unreadableJson {} candidate cutOffFile =
        (.ok (), .present true 0o600 [0x0a]) := by
  have hload : Notes.load unreadableJson {} cutOffFile = .error (.json "expected value") := rfl
  have hrun : ((run step (start (Notes.load unreadableJson {} cutOffFile))
      (loadSteps ++ sendSteps (.addNote "Raids") ++ replicate 3 (.work (.ok ())))).map
        fun s => s.content.toOption.map fun candidate =>
          ((saveWithWriter unreadableJson {} candidate cutOffFile).1.isOk,
            (saveWithWriter unreadableJson {} candidate cutOffFile).2)) =
      some (some (true, .present true 0o600 [0x0a])) := by
    decide +kernel
  obtain ⟨s, hs, heq⟩ := Option.map_eq_some_iff.mp hrun
  cases hcontent : s.content with
  | error other =>
    rw [hcontent] at heq
    cases heq
  | ok candidate =>
    rw [hcontent] at heq
    obtain ⟨hok, hfile⟩ := Prod.mk.inj (Option.some.inj heq)
    refine ⟨_, candidate, s, hload, hs, hcontent, Prod.ext ?_ hfile⟩
    cases hresult : (saveWithWriter unreadableJson {} candidate cutOffFile).1 with
    | error other =>
      rw [hresult] at hok
      cases hok
    | ok => rfl

end NotesSystem

end OverCrow.Notes
