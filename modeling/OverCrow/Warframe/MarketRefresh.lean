import OverCrow.Warframe.MarketSafety

/-!
# Automatic refreshes

`WarframeController::sync` with the scheduler, the market client and its worker. A refresh is fired
once for a revision and a time. If it is given up, or ends in the snapshot that is there already,
neither of them changes, and no refresh is fired any more.
-/

namespace OverCrow.Warframe
open OverCrow.Base OverCrow.Overlay Option

/-- `crates/overcrow-overlay/src/runtime/scheduler.rs:6`. -/
structure MarketDeadline where
  revision : Nat
  wallSecs : Nat
  monotonic : Instant
  fired : Bool
  deriving DecidableEq

/-- The deadline that `take_market_refresh` goes by, `scheduler.rs:50-61`. -/
def currentDeadline (deadline : Option MarketDeadline) (revision refreshAtWallSecs : Nat)
    (now : Instant) (wallSecs : Nat) : MarketDeadline :=
  match deadline.filter fun d => d.revision = revision && d.wallSecs = refreshAtWallSecs with
  | some deadline => deadline
  | none =>
    { revision := revision, wallSecs := refreshAtWallSecs
      monotonic := (checkedAddDuration now (fromSecs (refreshAtWallSecs - wallSecs))).getD now
      fired := false }

/-- `scheduler.rs:36`. -/
def takeMarketRefresh (deadline : Option MarketDeadline) (enabled hasSelection : Bool)
    (revision refreshAtWallSecs : Nat) (now : Instant) (wallSecs : Nat) :
    Bool × Option MarketDeadline :=
  if !enabled || !hasSelection || refreshAtWallSecs = u64Max then (false, none)
  else
    let deadline := currentDeadline deadline revision refreshAtWallSecs now wallSecs
    if deadline.fired || (now < deadline.monotonic && wallSecs < deadline.wallSecs) then
      (false, some deadline)
    else (true, some { deadline with fired := true })

/-- Where `sync` stands, with the times that it was called with. -/
inductive Phase where
  | idle
  /-- `set_enabled` is called. -/
  | enabling (now : Instant) (wallSecs : Nat)
  /-- Updates are drained. -/
  | draining (now : Instant) (wallSecs : Nat)
  deriving DecidableEq

/-- The controller with its client. -/
structure Session where
  market : Market := {}
  phase : Phase := .idle
  /-- `scheduler.market_refresh`. -/
  deadline : Option MarketDeadline := none
  marketEnabled : Bool := false
  marketSnapshot : MarketSnapshot := {}
  marketRevision : Nat := 0

namespace Session

variable (s : Session)

/-- The end of `sync`: a refresh that is due is sent,
`crates/overcrow-overlay/src/warframe/controller.rs:233-242`. -/
def schedule (now : Instant) (wallSecs : Nat) : Option Session :=
  let taken := takeMarketRefresh s.deadline s.marketEnabled s.marketSnapshot.selected.isSome
    s.marketRevision s.marketSnapshot.nextRefreshAtSecs now wallSecs
  let s := { s with deadline := taken.2, phase := .idle }
  if taken.1 then (s.market.step (.send .refreshSelected)).map fun market => { s with market := market }
  else some s

/-- An update is taken, `controller.rs:215-218`. -/
def take (update : Option (VersionedValue MarketSnapshot)) : Session :=
  match update with
  | none => s
  | some update => { s with marketRevision := update.revision, marketSnapshot := update.value }

inductive Event where
  /-- `sync` is called. -/
  | sync (enabled : Bool) (now : Instant) (wallSecs : Nat)
  /-- The flags of the providers are taken. -/
  | ready
  /-- A value is taken from the channel. -/
  | take
  | schedule
  /-- A command of the user. -/
  | command (command : MarketCommand)
  /-- A step inside the client, its worker or the channel. -/
  | market (event : Market.Event)

/-- The steps that the client, the worker and the channel take by themselves. -/
def inner : Market.Event → Bool
  | .ui => true
  | .worker => true
  | .answer _ _ => true
  | .channel (.notify _) => true
  | .channel (.mark _) => true
  | .channel (.markOther _) => true
  | .channel .tryRecv => true
  | _ => false

def step (s : Session) : Event → Option Session
  | .sync enabled now wallSecs =>
    if s.phase = .idle then
      (s.market.step (.setEnabled enabled)).map fun market =>
        { s with market := market, marketEnabled := enabled, phase := .enabling now wallSecs }
    else none
  | .ready =>
    match s.phase with
    | .enabling now wallSecs =>
      if s.market.ui = .idle then
        (s.market.step (.channel .sync)).map fun market =>
          { s with market := market, phase := .draining now wallSecs }
      else none
    | _ => none
  | .take =>
    (s.market.step (.channel .lock)).map fun market =>
      { s.take s.market.channel.state.take.1 with market := market }
  | .schedule =>
    match s.phase with
    | .draining now wallSecs =>
      if s.market.channel.receiver = .idle then s.schedule now wallSecs else none
    | _ => none
  | .command command =>
    if s.phase = .idle then
      (s.market.step (.send command)).map fun market => { s with market := market }
    else none
  | .market event =>
    if inner event then (s.market.step event).map fun market => { s with market := market } else none

def start : Session := {}

/-- The market is enabled, nothing is under way and every update was drained. -/
def Settled : Prop :=
  s.phase = .idle ∧ s.market.ui = .idle ∧ s.market.enabled = true ∧ s.market.commands = [] ∧
    s.market.worker = .idle ∧ s.marketRevision = s.market.channel.state.revision

/-- What the next `sync` does with nothing changed: whether a refresh is sent. -/
def refreshes (now : Instant) (wallSecs : Nat) : Bool :=
  (takeMarketRefresh s.deadline true s.marketSnapshot.selected.isSome s.marketRevision
    s.marketSnapshot.nextRefreshAtSecs now wallSecs).1

end Session

/-! ### Refreshes that are under way -/

/-- The command that the worker has and has not yet published for. -/
def WorkerPlace.unpublished? : WorkerPlace → Option WorkerCommand
  | .received request => some request
  | .checking request => some request
  | .comparing request => some request
  | .cloning request => some request
  | .publishing request _ _ => some request
  | .gated request _ _ => some request
  | .calling request _ => some request
  | _ => none

/-- The command that the worker takes the snapshot for. -/
def WorkerPlace.clones? : WorkerPlace → Option WorkerCommand
  | .cloning request => some request
  | _ => none

/-- What the worker is about to publish. -/
def WorkerPlace.publishes? : WorkerPlace → Option (WorkerCommand × MarketSnapshot)
  | .publishing request snapshot _ => some (request, snapshot)
  | _ => none

/-- The command that `send` hands to the queue. -/
def UiPlace.tries? : UiPlace → Option WorkerCommand
  | .trySending request => some request
  | _ => none

/-- `send` has a refresh. -/
def UiPlace.refreshes : UiPlace → Bool
  | .sending command => command = .refreshSelected
  | .claiming => true
  | .loading command => command = .refreshSelected
  | .trySending request => request.isRefresh
  | .failed isRefresh full => isRefresh && full
  | .checking change => change = .busy
  | .updating change => change = .busy
  | _ => false

/-- `send` has found the queue full, and has not looked at the status. -/
def UiPlace.reports : UiPlace → Bool
  | .failed _ full => full
  | .checking change => change = .busy
  | _ => false

/-- What `set_enabled` was called with, before it has written. -/
def UiPlace.decides : UiPlace → Option Bool
  | .enabling value => some value
  | .gated value => some value
  | _ => none

/-- Not at the writes of `set_enabled` and `drop`. -/
def UiPlace.plain : UiPlace → Bool
  | .enabling _ => false
  | .gated _ => false
  | .swapped _ => false
  | .dropping _ => false
  | _ => true

theorem UiPlace.plain_spec {ui : UiPlace} (h : ui.plain = true) :
    ui.decides = none ∧ ui.drops = false ∧ ∀ value, ui ≠ .swapped value := by
  cases ui with
  | enabling | gated | swapped | dropping => cases h
  | _ => exact ⟨rfl, rfl, nofun⟩

namespace Market

/-- A refresh of the present generation. -/
def Refreshing (s : Market) (request : WorkerCommand) : Prop :=
  request.isRefresh = true ∧ request.generation = s.generation

instance (s : Market) (request : WorkerCommand) : Decidable (s.Refreshing request) :=
  inferInstanceAs (Decidable (_ ∧ _))

/-- A refresh of the present generation is queued, or with the worker and not yet published. -/
def Live (s : Market) : Prop :=
  (∃ request ∈ s.commands, s.Refreshing request) ∨
    ∃ request ∈ s.worker.unpublished?, s.Refreshing request

instance (s : Market) : Decidable s.Live := inferInstanceAs (Decidable (_ ∨ _))

/-- A refresh is being sent, or `send` is about to report that the queue is full. -/
def Sending (s : Market) : Prop :=
  s.ui.refreshes = true ∧ (s.ui.reports = true → Change.busy.needed s.current = true)

/-- What the next step of the client and of the worker must meet: a refresh is not given up for one
that will not publish any more, nor for a full queue that was reported already; its item can be asked
for; and it ends in another snapshot. -/
def Proceeds (s : Market) : Event → Prop
  | .ui =>
    (s.ui = .claiming → s.refreshPending = false ∨ s.Live) ∧
    ∀ request ∈ s.ui.tries?, request.isRefresh = true →
      s.commands.length < commandCapacity ∨ Change.busy.needed s.current = true
  | .worker =>
    (∀ request ∈ s.worker.clones?, request.isRefresh = true → ∀ detail ∈ s.current.selected,
      isSafeMarketSlug detail.slug = true) ∧
    ∀ published ∈ s.worker.publishes?, published.1.isRefresh = true →
      s.requestIsCurrent published.1 = true → s.current ≠ published.2
  | _ => True

instance (s : Market) : ∀ event, Decidable (s.Proceeds event)
  | .ui => inferInstanceAs (Decidable (_ ∧ _))
  | .worker => inferInstanceAs (Decidable (_ ∧ _))
  | .setEnabled _ | .send _ | .drop | .answer _ _ | .channel _ => isTrue trivial

variable {s t : Market}

/-- The worker does not touch what the interface alone changes. -/
theorem workerStep_eq (ht : s.workerStep = some t) :
    ∃ pending commands channel backoff worker log, t =
      { s with
        refreshPending := pending, commands := commands, channel := channel, errorBackoff := backoff
        worker := worker, log := log } := by
  obtain ⟨_, _, _, _, commands, _, _, _, _, worker, _⟩ := s
  cases worker with
  | idle =>
    cases commands with
    | cons request rest =>
      cases ht
      exact ⟨_, _, _, _, _, _, rfl⟩
    | nil =>
      obtain ⟨-, ht⟩ := ite_none_right_eq_some.mp ht
      cases ht
      exact ⟨_, _, _, _, _, _, rfl⟩
  | cloning request =>
    cases ht
    unfold begin
    cases request.command <;> exact ⟨_, _, _, _, _, _, rfl⟩
  | publishing request snapshot next =>
    obtain ⟨-, ht⟩ := ite_none_left_eq_some.mp ht
    cases ht
    exact ⟨_, _, _, _, _, _, rfl⟩
  | gated request snapshot next =>
    obtain ⟨channel, -, rfl⟩ := map_eq_some_iff.mp ht
    exact ⟨_, _, _, _, _, _, rfl⟩
  | announcing request snapshot next =>
    obtain ⟨-, ht⟩ := ite_none_right_eq_some.mp ht
    cases ht
    exact ⟨_, _, _, _, _, _, rfl⟩
  | calling request snapshot =>
    cases ht
  | stopped =>
    cases ht
  | _ =>
    cases ht
    exact ⟨_, _, _, _, _, _, rfl⟩

theorem not_sending_of_idle (hui : s.ui = .idle) : ¬Sending s := by
  rintro ⟨hrefreshes, -⟩
  rw [hui] at hrefreshes
  cases hrefreshes

/-- What is sent depends on the place of `send` and on the snapshot. -/
theorem Sending.of_current (h : Sending s) (hui : t.ui = s.ui) (hcurrent : t.current = s.current) :
    Sending t :=
  ⟨hui ▸ h.1, fun hreports => hcurrent ▸ h.2 (hui ▸ hreports)⟩

/-- A command that is not published yet goes on. -/
theorem Live.goOn (h : Live s) {place : WorkerPlace} (backoff : Duration)
    (hplace : ∀ request, s.Refreshing request → s.worker.unpublished? = some request →
      place.unpublished? = some request) : Live { s with errorBackoff := backoff, worker := place } := by
  rcases h with hqueued | ⟨request, hworker, hrefreshing⟩
  · exact .inl hqueued
  · exact .inr ⟨request, hplace request hrefreshing hworker, hrefreshing⟩

/-- Only a publication ends a refresh of an enabled market. -/
theorem live_workerStep (hlive : Live s) (hinv : Inv s) (halive : s.ui.drops = false)
    (henabled : s.enabled = true) (hproceeds : s.Proceeds .worker)
    (hselected : s.current.selected.isSome = true) (ht : s.workerStep = some t)
    (hrevision : t.channel.state.revision = s.channel.state.revision) : Live t := by
  have hshutdown : ¬s.shutdown = true := fun hs =>
    Bool.false_ne_true (halive.symm.trans (hinv.ended (.inl hs)))
  have hleaves : ¬s.worker.leaves = true := fun hl =>
    Bool.false_ne_true (halive.symm.trans (hinv.leaving hl))
  obtain ⟨enabled, generation, pending, shutdown, commands, closed, channel, backoff, ui, worker,
    log⟩ := s
  cases worker with
  | idle =>
    cases commands with
    | cons first rest =>
      cases ht
      rcases hlive with ⟨request, hmem, hrefreshing⟩ | ⟨request, hnone, -⟩
      · rcases List.mem_cons.mp hmem with rfl | hmem
        · exact .inr ⟨request, rfl, hrefreshing⟩
        · exact .inl ⟨request, hmem, hrefreshing⟩
      · cases hnone
    | nil =>
      obtain ⟨-, ht⟩ := ite_none_right_eq_some.mp ht
      cases ht
      exact hlive.goOn _ fun request _ hsome => by cases hsome
  | received first =>
    cases ht
    refine hlive.goOn _ fun request _ hsome => ?_
    rw [if_neg hshutdown]
    exact hsome
  | checking first =>
    cases ht
    refine hlive.goOn _ fun request _ hsome => ?_
    rw [if_pos henabled]
    exact hsome
  | comparing first =>
    cases ht
    refine hlive.goOn _ fun request hrefreshing hsome => ?_
    cases hsome
    rw [if_pos hrefreshing.2.symm]
    rfl
  | cloning first =>
    cases ht
    obtain ⟨detail, hdetail⟩ := isSome_iff_exists.mp hselected
    obtain ⟨number, command⟩ := first
    cases command with
    | refreshSelected =>
      refine hlive.goOn _ fun request hrefreshing hsome => ?_
      cases hsome
      rw [hdetail]
      dsimp only
      rw [if_pos (hproceeds.1 _ rfl hrefreshing.1 detail hdetail)]
      rfl
    | _ =>
      refine hlive.goOn _ fun request hrefreshing hsome => ?_
      cases hsome
      cases hrefreshing.1
  | publishing first snapshot next =>
    obtain ⟨-, ht⟩ := ite_none_left_eq_some.mp ht
    cases ht
    refine hlive.goOn _ fun request hrefreshing hsome => ?_
    cases hsome
    have hcurrent : (enabled && decide (generation = first.generation)) = true :=
      Bool.and_eq_true_iff.mpr ⟨henabled, decide_eq_true hrefreshing.2.symm⟩
    have hother := hproceeds.2 (first, snapshot) rfl hrefreshing.1 hcurrent
    rw [if_neg]
    · rfl
    · simp_all [requestIsCurrent]
  | gated first snapshot next =>
    obtain ⟨channel, hstore, rfl⟩ := map_eq_some_iff.mp ht
    have hadvanced := congrArg LatestState.revision (publish_eq hstore)
    exact absurd (hrevision.symm.trans hadvanced) (Nat.ne_of_lt (Nat.lt_succ_self _))
  | announcing first snapshot next =>
    obtain ⟨-, ht⟩ := ite_none_right_eq_some.mp ht
    cases ht
    exact hlive.goOn _ fun request _ hsome => by cases hsome
  | calling first snapshot => cases ht
  | releasing first next =>
    cases ht
    rcases hlive with hqueued | ⟨request, hsome, -⟩
    · exact .inl hqueued
    · cases hsome
  | finished =>
    cases ht
    exact hlive.goOn _ fun request _ hsome => by cases hsome
  | stopping | stopped => exact absurd rfl hleaves

/-- A refresh that is under way stays so in a call of the client, unless the snapshot changes. -/
theorem underway_uiStep (hunder : Live s ∨ Sending s) (hinv : Inv s) (halive : s.ui.drops = false)
    (hswapped : ∀ enabled, s.ui ≠ .swapped enabled) (henabled : s.enabled = true)
    (hproceeds : s.Proceeds .ui) (ht : s.uiStep = some t)
    (hrevision : t.channel.state.revision = s.channel.state.revision) : Live t ∨ Sending t := by
  have hstopped := hinv.not_stopped halive
  obtain ⟨enabled, generation, pending, shutdown, commands, closed, channel, backoff, ui, worker,
    log⟩ := s
  cases ui with
  | idle => cases ht
  | enabling value =>
    obtain ⟨-, ht⟩ := ite_none_left_eq_some.mp ht
    cases ht
    exact .inl (hunder.resolve_right fun hsending => nomatch hsending.1)
  | gated value =>
    cases ht
    exact .inl (hunder.resolve_right fun hsending => nomatch hsending.1)
  | swapped value => exact absurd rfl (hswapped value)
  | checking change =>
    cases ht
    refine hunder.imp id fun hsending => ?_
    obtain rfl : change = .busy := of_decide_eq_true hsending.1
    have hneeded := hsending.2 rfl
    rw [show (if Change.busy.needed _ = true then UiPlace.updating .busy else .idle) =
      .updating .busy from if_pos hneeded]
    exact ⟨rfl, nofun⟩
  | updating change =>
    obtain ⟨channel', hstore, rfl⟩ := map_eq_some_iff.mp ht
    have hadvanced := congrArg LatestState.revision (update_eq hstore)
    exact absurd (hrevision.symm.trans hadvanced) (Nat.ne_of_lt (Nat.lt_succ_self _))
  | announcing change =>
    obtain ⟨-, ht⟩ := ite_none_right_eq_some.mp ht
    cases ht
    exact .inl (hunder.resolve_right fun hsending => nomatch hsending.1)
  | sending command =>
    cases ht
    refine hunder.imp id fun hsending => ?_
    obtain rfl : enabled = true := henabled
    obtain rfl : command = .refreshSelected := of_decide_eq_true hsending.1
    exact ⟨rfl, nofun⟩
  | claiming =>
    cases ht
    cases pending with
    | true => exact .inl ((hproceeds.1 rfl).resolve_left nofun)
    | false => exact .inr ⟨rfl, nofun⟩
  | loading command =>
    cases ht
    exact hunder.imp id fun hsending => ⟨hsending.1, nofun⟩
  | trySending request =>
    unfold uiStep at ht
    dsimp only at ht
    rw [if_neg hstopped] at ht
    split at ht
    · cases ht
      refine .inl ?_
      rcases hunder with (⟨other, hmem, hrefreshing⟩ | hworker) | hsending
      · exact .inl ⟨other, List.mem_append_left _ hmem, hrefreshing⟩
      · exact .inr hworker
      · exact .inl ⟨request, List.mem_append_right _ (List.mem_singleton.mpr rfl), hsending.1,
          hinv.trying request rfl⟩
    · next hfull =>
      cases ht
      refine hunder.imp id fun hsending => ⟨?_, fun _ => ?_⟩
      · exact Bool.and_eq_true_iff.mpr ⟨hsending.1, rfl⟩
      · exact (hproceeds.2 request rfl hsending.1).resolve_left hfull
  | failed isRefresh full =>
    cases ht
    refine hunder.imp id fun hsending => ?_
    obtain ⟨-, rfl⟩ := Bool.and_eq_true_iff.mp hsending.1
    exact ⟨rfl, fun _ => hsending.2 rfl⟩
  | dropping writes => cases halive

end Market

namespace Session

/-- A refresh was fired for what the controller knows. -/
def Fired (s : Session) : Prop :=
  ∃ deadline, s.deadline = some deadline ∧ deadline.fired = true ∧
    deadline.revision = s.marketRevision ∧ deadline.wallSecs = s.marketSnapshot.nextRefreshAtSecs

/-- What holds in every state of a run in which refreshes proceed. -/
structure Ok (s : Session) : Prop where
  inv : Market.Inv s.market
  alive : s.market.ui.drops = false
  toggling : ∀ value, s.market.ui.decides = some value → s.phase ≠ .idle ∧ s.marketEnabled = value
  same : s.market.ui.decides = none → s.market.enabled = s.marketEnabled
  behind : s.marketRevision ≤ s.market.channel.state.revision
  pending : s.market.channel.state.pending = true →
    s.marketRevision < s.market.channel.state.revision
  drained : s.marketRevision = s.market.channel.state.revision → s.marketSnapshot = s.market.current
  dated : ∀ deadline, s.deadline = some deadline → deadline.revision ≤ s.marketRevision
  selected : ∀ deadline, s.deadline = some deadline → deadline.revision = s.marketRevision →
    s.marketSnapshot.selected.isSome = true
  disabled : s.market.enabled = false →
    s.deadline = none ∨ s.phase ≠ .idle ∧ s.marketEnabled = false
  swapped : s.market.ui = .swapped true → s.deadline = none
  settled : ∀ now wallSecs, s.phase = .draining now wallSecs → s.market.ui = .idle
  underway : s.market.enabled = true → s.Fired →
    s.marketRevision = s.market.channel.state.revision → s.market.Live ∨ s.market.Sending

/-- The condition on the steps. -/
def Proceeds (s : Session) : Event → Prop
  | .market event => s.market.Proceeds event
  | _ => True

instance (s : Session) : ∀ event, Decidable (s.Proceeds event)
  | .market event => inferInstanceAs (Decidable (s.market.Proceeds event))
  | .sync _ _ _ | .ready | .take | .schedule | .command _ => isTrue trivial

variable {s t : Session} {m : Market}

/-- The snapshot stays, or it has a new revision. -/
def Advances (s t : Market) : Prop :=
  (t.current = s.current ∧ t.channel.state.revision = s.channel.state.revision ∧
    (t.channel.state.pending = true → s.channel.state.pending = true)) ∨
  t.channel.state.revision = s.channel.state.revision + 1

theorem Ok.move (h : Ok s) (hinv : Market.Inv m) (hadvances : Advances s.market m)
    (halive : m.ui.drops = false)
    (htoggling : ∀ value, m.ui.decides = some value → s.phase ≠ .idle ∧ s.marketEnabled = value)
    (hsame : m.ui.decides = none → m.enabled = s.marketEnabled)
    (hdisabled : m.enabled = false → s.deadline = none ∨ s.phase ≠ .idle ∧ s.marketEnabled = false)
    (hswapped : m.ui = .swapped true → s.deadline = none)
    (hsettled : ∀ now wallSecs, s.phase = .draining now wallSecs → m.ui = .idle)
    (hunder : m.channel.state.revision = s.market.channel.state.revision → m.enabled = true →
      s.Fired → s.marketRevision = s.market.channel.state.revision → m.Live ∨ m.Sending) :
    Ok { s with market := m } := by
  have hbehind := h.behind
  refine ⟨hinv, halive, htoggling, hsame, ?_, fun hpending => ?_, fun heq => ?_, h.dated, h.selected,
    hdisabled, hswapped, hsettled, fun henabled hfired heq => ?_⟩
  all_goals
    rcases hadvances with ⟨hcurrent, hrevision, hsamePending⟩ | hrevision
  · exact hrevision ▸ hbehind
  · exact hrevision ▸ Nat.le_succ_of_le hbehind
  · exact hrevision ▸ h.pending (hsamePending hpending)
  · exact hrevision ▸ Nat.lt_succ_of_le hbehind
  · exact (h.drained (heq.trans hrevision)).trans hcurrent.symm
  · exact absurd (heq.trans hrevision) (Nat.ne_of_lt (Nat.lt_succ_of_le hbehind))
  · exact hunder hrevision henabled hfired (heq.trans hrevision)
  · exact absurd (heq.trans hrevision) (Nat.ne_of_lt (Nat.lt_succ_of_le hbehind))

/-- What does not touch the interface. -/
theorem Ok.moveWorker (h : Ok s) (hinv : Market.Inv m) (hadvances : Advances s.market m)
    (hui : m.ui = s.market.ui) (henabled : m.enabled = s.market.enabled)
    (hunder : m.channel.state.revision = s.market.channel.state.revision →
      s.market.enabled = true → s.Fired → s.marketRevision = s.market.channel.state.revision →
      m.Live ∨ m.Sending) : Ok { s with market := m } := by
  obtain ⟨enabled, _, _, _, _, _, _, _, ui, _, _⟩ := m
  cases hui
  cases henabled
  exact h.move hinv hadvances h.alive h.toggling h.same h.disabled h.swapped h.settled hunder

theorem advances_of_state_eq (h : m.channel.state = s.market.channel.state) :
    Advances s.market m := by
  unfold Advances Market.current
  rw [h]
  exact .inl ⟨rfl, rfl, id⟩

/-- Where the controller is up to date and a refresh was fired, an item is selected. -/
theorem Ok.isSome_selected (h : Ok s) (hfired : s.Fired)
    (hdrained : s.marketRevision = s.market.channel.state.revision) :
    s.market.current.selected.isSome = true := by
  obtain ⟨deadline, hdeadline, -, hrevision, -⟩ := hfired
  rw [← h.drained hdrained]
  exact h.selected deadline hdeadline hrevision

theorem Ok.worker (h : Ok s) (hproceeds : s.market.Proceeds .worker)
    (hm : s.market.workerStep = some m) : Ok { s with market := m } := by
  have hchannel := Market.channel_workerStep hm
  have hunder := Market.live_workerStep (t := m) (s := s.market)
  obtain ⟨pending, commands, channel, backoff, worker, log, rfl⟩ := Market.workerStep_eq hm
  refine h.moveWorker (h.inv.workerStep hm) ?_ rfl rfl fun hrevision he hfired hdrained => ?_
  · rcases hchannel with hsame | ⟨hadvanced, -⟩
    · exact advances_of_state_eq (congrArg LatestSystem.state hsame)
    · exact .inr hadvanced
  · rcases h.underway he hfired hdrained with hlive | hsending
    · exact .inl (hunder hlive h.inv h.alive he hproceeds (h.isSome_selected hfired hdrained) hm
        hrevision)
    · rcases hchannel with hsame | ⟨hadvanced, -⟩
      · exact .inr (hsending.of_current rfl (congrArg (·.state.current) hsame))
      · exact absurd (hrevision.symm.trans hadvanced) (Nat.ne_of_lt (Nat.lt_succ_self _))

theorem Ok.answer (h : Ok s) {result : Answer} {now : Nat} (hm : s.market.answer result now = some m) :
    Ok { s with market := m } := by
  have hinv : Market.Inv m := h.inv.step (.answer result now) hm
  unfold Market.answer at hm
  split at hm
  · next request snapshot hworker =>
    obtain ⟨settled, -, rfl⟩ := map_eq_some_iff.mp hm
    refine h.moveWorker hinv (advances_of_state_eq rfl) rfl rfl fun _ he hfired hdrained => ?_
    refine (h.underway he hfired hdrained).imp (fun hlive => ?_) id
    refine hlive.goOn _ fun other _ hsome => ?_
    rw [hworker] at hsome
    exact hsome
  · cases hm

/-- The receiver is told, or looks for a value. -/
theorem Ok.channel (h : Ok s) {event : LatestSystem.Event MarketSnapshot}
    (hm : s.market.step (.channel event) = some m) (hlock : event ≠ .lock) :
    Ok { s with market := m } := by
  have hinv : Market.Inv m := h.inv.step (.channel event) hm
  obtain ⟨hstores, hm⟩ := ite_none_left_eq_some.mp hm
  obtain ⟨channel, hchannel, rfl⟩ := map_eq_some_iff.mp hm
  have hstate := Market.state_eq (Bool.eq_false_iff.mpr hstores) hlock hchannel
  refine h.moveWorker hinv (advances_of_state_eq hstate) rfl rfl fun _ he hfired hdrained => ?_
  exact (h.underway he hfired hdrained).imp id fun hsending =>
    hsending.of_current rfl (congrArg LatestState.current hstate)

/-- What a call of the client does to `enabled`, and where it goes. -/
theorem uiStep_cases {s t : Market} (halive : s.ui.drops = false) (ht : s.uiStep = some t) :
    (∃ value, s.ui = .enabling value ∧ t.ui = .gated value ∧ t.enabled = s.enabled) ∨
    (∃ value, s.ui = .gated value ∧ t.enabled = value ∧
      (s.enabled = value ∧ t.ui = .idle ∨ s.enabled ≠ value ∧ t.ui = .swapped value)) ∨
    s.ui ≠ .idle ∧ s.ui.decides = none ∧ t.enabled = s.enabled ∧ t.ui.plain = true := by
  obtain ⟨enabled, generation, pending, shutdown, commands, closed, channel, backoff, ui, worker,
    log⟩ := s
  have hite {p : Prop} [Decidable p] {a b : UiPlace} (ha : a.plain = true) (hb : b.plain = true) :
      (if p then a else b).plain = true := by
    split
    · exact ha
    · exact hb
  cases ui with
  | idle => cases ht
  | enabling value =>
    obtain ⟨-, ht⟩ := ite_none_left_eq_some.mp ht
    cases ht
    exact .inl ⟨value, rfl, rfl, rfl⟩
  | gated value =>
    cases ht
    refine .inr (.inl ⟨value, rfl, rfl, ?_⟩)
    dsimp only
    by_cases hsame : enabled = value
    · exact .inl ⟨hsame, if_pos hsame⟩
    · exact .inr ⟨hsame, if_neg hsame⟩
  | swapped | checking | claiming =>
    cases ht
    exact .inr (.inr ⟨nofun, rfl, rfl, hite rfl rfl⟩)
  | updating change =>
    obtain ⟨channel, -, rfl⟩ := map_eq_some_iff.mp ht
    exact .inr (.inr ⟨nofun, rfl, rfl, rfl⟩)
  | announcing change =>
    obtain ⟨-, ht⟩ := ite_none_right_eq_some.mp ht
    cases ht
    exact .inr (.inr ⟨nofun, rfl, rfl, rfl⟩)
  | sending command =>
    cases ht
    exact .inr (.inr ⟨nofun, rfl, rfl, hite rfl (hite rfl rfl)⟩)
  | loading | failed =>
    cases ht
    exact .inr (.inr ⟨nofun, rfl, rfl, rfl⟩)
  | trySending request =>
    unfold Market.uiStep at ht
    dsimp only at ht
    split_ifs at ht
    all_goals
      cases ht
      exact .inr (.inr ⟨nofun, rfl, rfl, rfl⟩)
  | dropping writes => cases halive

theorem Ok.ui (h : Ok s) (hproceeds : s.market.Proceeds .ui) (hm : s.market.uiStep = some m) :
    Ok { s with market := m } := by
  have hadvances : Advances s.market m := by
    rcases Market.channel_uiStep hm with hsame | hadvanced
    · exact advances_of_state_eq (congrArg LatestSystem.state hsame)
    · exact .inr hadvanced
  have hunder (hswapped : ∀ value, s.market.ui ≠ .swapped value) (he : s.market.enabled = true)
      (hrevision : m.channel.state.revision = s.market.channel.state.revision) (hfired : s.Fired)
      (hdrained : s.marketRevision = s.market.channel.state.revision) : m.Live ∨ m.Sending :=
    Market.underway_uiStep (h.underway he hfired hdrained) h.inv h.alive hswapped he hproceeds hm
      hrevision
  have hunfired (hnone : s.deadline = none) (hfired : s.Fired) : False := by
    obtain ⟨deadline, hsome, -⟩ := hfired
    cases hnone.symm.trans hsome
  rcases uiStep_cases h.alive hm with ⟨value, hui, hui', he⟩ | ⟨value, hui, he, hwhere⟩ |
    ⟨hbusy, hdecides, he, hplain⟩
  · refine h.move (h.inv.ui hm) hadvances (hui' ▸ rfl) (fun other hother => ?_) (fun hnone => ?_) ?_ ?_
      (fun now wallSecs hphase => ?_) fun hrevision he' => hunder (hui ▸ nofun) (he.symm.trans he') hrevision
    · refine h.toggling other ?_
      rw [hui'] at hother
      rw [hui]
      exact hother
    · rw [hui'] at hnone
      cases hnone
    · rw [he]
      exact h.disabled
    · rw [hui']
      nofun
    · cases hui.symm.trans (h.settled now wallSecs hphase)
  · obtain ⟨hphase, hvalue⟩ := h.toggling value (hui ▸ rfl)
    have hdecides : m.ui.decides = none ∧ m.ui.drops = false := by
      rcases hwhere with ⟨-, hui'⟩ | ⟨-, hui'⟩ <;> rw [hui'] <;> exact ⟨rfl, rfl⟩
    have hdeadline (hswapped : m.ui = .swapped true) : s.deadline = none := by
      rcases hwhere with ⟨-, hui'⟩ | ⟨hne, hui'⟩
      · cases hui'.symm.trans hswapped
      · cases hui'.symm.trans hswapped
        refine (h.disabled (Bool.eq_false_iff.mpr hne)).resolve_right fun hfalse => ?_
        cases hvalue.symm.trans hfalse.2
    refine h.move (h.inv.ui hm) hadvances hdecides.2 (fun other hother => ?_) (fun _ => he.trans hvalue.symm)
      (fun hfalse => .inr ⟨hphase, hvalue.trans (he.symm.trans hfalse)⟩) hdeadline
      (fun now wallSecs hdraining => ?_) fun hrevision he' hfired hdrained => ?_
    · cases hdecides.1.symm.trans hother
    · cases hui.symm.trans (h.settled now wallSecs hdraining)
    · have htrue : value = true := he.symm.trans he'
      subst htrue
      rcases hwhere with ⟨hsame, -⟩ | ⟨-, hui'⟩
      · exact hunder (hui ▸ nofun) hsame hrevision hfired hdrained
      · exact (hunfired (hdeadline hui') hfired).elim
  · obtain ⟨hdecides', hdrops, hswapped⟩ := UiPlace.plain_spec hplain
    refine h.move (h.inv.ui hm) hadvances hdrops (fun other hother => ?_)
      (fun _ => he.trans (h.same hdecides)) (fun hfalse => h.disabled (he.symm.trans hfalse))
      (fun htrue => absurd htrue (hswapped true))
      (fun now wallSecs hdraining => absurd (h.settled now wallSecs hdraining) hbusy)
      fun hrevision he' hfired hdrained => ?_
    · cases hdecides'.symm.trans hother
    · have hold : s.market.enabled = true := he.symm.trans he'
      refine hunder (fun value hui => ?_) hold hrevision hfired hdrained
      -- After a toggle there is no deadline, or the market is disabled.
      cases value with
      | true => exact hunfired (h.swapped hui) hfired
      | false => exact Bool.false_ne_true ((h.inv.swapped false hui).symm.trans hold)

/-- `sync` is called between calls of the client. -/
theorem Ok.sync (h : Ok s) (hphase : s.phase = .idle) (hui : s.market.ui = .idle) (enabled : Bool)
    (now : Instant) (wallSecs : Nat) :
    Ok { s with
      market := { s.market with ui := .enabling enabled }, marketEnabled := enabled
      phase := .enabling now wallSecs } := by
  have hinv : Market.Inv { s.market with ui := .enabling enabled } :=
    h.inv.step (.setEnabled enabled) (if_pos hui)
  refine ⟨hinv, rfl, ?_, nofun, h.behind, h.pending, h.drained, h.dated, h.selected, fun hfalse => .inl ?_,
    nofun, nofun, fun he hfired hdrained => .inl ?_⟩
  · rintro _ ⟨⟩
    exact ⟨nofun, rfl⟩
  · exact (h.disabled hfalse).resolve_right fun hbusy => hbusy.1 hphase
  · exact (h.underway he hfired hdrained).resolve_right (Market.not_sending_of_idle hui)

/-- A command of the user. -/
theorem Ok.send (h : Ok s) (hphase : s.phase = .idle) (hui : s.market.ui = .idle)
    {command : MarketCommand}
    (hm : s.market.step (.send command) = some m) : Ok { s with market := m } := by
  have hinv : Market.Inv m := h.inv.step (.send command) hm
  obtain ⟨-, hm⟩ := ite_none_right_eq_some.mp hm
  have hplain : m.ui.plain = true := by
    cases hm
    dsimp only
    split <;> rfl
  cases hm
  obtain ⟨hdecides, hdrops, hswapped⟩ := UiPlace.plain_spec hplain
  refine h.move hinv (advances_of_state_eq rfl) hdrops (fun value hvalue => ?_)
    (fun _ => h.same (hui ▸ rfl)) h.disabled (fun htrue => absurd htrue (hswapped true))
    (fun now wallSecs hdraining => ?_) fun _ he hfired hdrained => .inl ?_
  · cases hdecides.symm.trans hvalue
  · cases hphase.symm.trans hdraining
  · exact (h.underway he hfired hdrained).resolve_right (Market.not_sending_of_idle hui)

/-- The flags were taken. -/
theorem Ok.rephase (h : Ok s) {phase : Phase} (hidle : phase ≠ .idle) (hui : s.market.ui = .idle) :
    Ok { s with phase := phase } :=
  ⟨h.inv, h.alive, fun value hvalue => ⟨hidle, (h.toggling value hvalue).2⟩, h.same, h.behind, h.pending,
    h.drained, h.dated, h.selected, fun hfalse => (h.disabled hfalse).imp_right fun hbusy =>
      ⟨hidle, hbusy.2⟩, h.swapped, fun _ _ _ => hui, h.underway⟩

/-- A value is taken: it is newer than what the controller knew. -/
theorem Ok.take (h : Ok s) (hm : s.market.step (.channel .lock) = some m) :
    Ok { s.take s.market.channel.state.take.1 with market := m } := by
  have hinv := h.inv.step (.channel .lock) hm
  obtain ⟨channel, hchannel, rfl⟩ := map_eq_some_iff.mp hm
  have hstate := Market.lock_eq hchannel
  have hpending : ¬channel.state.pending = true := by
    rw [hstate]
    nofun
  have hrevision : channel.state.revision = s.market.channel.state.revision := by rw [hstate]
  have hcurrent : channel.state.current = s.market.current := by
    rw [hstate]
    rfl
  cases hnew : s.market.channel.state.pending with
  | false =>
    have hnone : s.market.channel.state.take.1 = none := by
      rw [LatestState.take, if_neg (Bool.eq_false_iff.mp hnew)]
    rw [hnone]
    exact h.moveWorker hinv (.inl ⟨hcurrent, hrevision, fun hp => absurd hp hpending⟩) rfl rfl
      fun _ he hfired hdrained => (h.underway he hfired hdrained).imp id fun hsending =>
        hsending.of_current rfl hcurrent
  | true =>
    have hsome : s.market.channel.state.take.1 =
        some ⟨s.market.channel.state.revision, s.market.current⟩ := by
      rw [LatestState.take, if_pos hnew]
      rfl
    have hlt := h.pending hnew
    rw [hsome]
    have hold (deadline : MarketDeadline) (hdeadline : s.deadline = some deadline) :
        deadline.revision < s.market.channel.state.revision :=
      Nat.lt_of_le_of_lt (h.dated deadline hdeadline) hlt
    refine ⟨hinv, h.alive, h.toggling, h.same, hrevision.ge, fun hp => absurd hp hpending,
      fun _ => hcurrent.symm, fun deadline hdeadline => (hold deadline hdeadline).le,
      fun deadline hdeadline heq => absurd heq (Nat.ne_of_lt (hold deadline hdeadline)), h.disabled,
      h.swapped, h.settled, ?_⟩
    rintro - ⟨deadline, hdeadline, -, heq, -⟩
    exact absurd heq (Nat.ne_of_lt (hold deadline hdeadline))

/-- The present deadline is for what is known, and one that was fired was there before. -/
theorem currentDeadline_spec (deadline : Option MarketDeadline) (revision refreshAt : Nat) (now : Instant)
    (wallSecs : Nat) :
    (currentDeadline deadline revision refreshAt now wallSecs).revision = revision ∧
      (currentDeadline deadline revision refreshAt now wallSecs).wallSecs = refreshAt ∧
      ((currentDeadline deadline revision refreshAt now wallSecs).fired = true →
        deadline = some (currentDeadline deadline revision refreshAt now wallSecs)) := by
  unfold currentDeadline
  split
  · next present hfilter =>
    obtain ⟨hsome, hkey⟩ := filter_eq_some_iff.mp hfilter
    rw [Bool.and_eq_true, decide_eq_true_eq, decide_eq_true_eq] at hkey
    exact ⟨hkey.1, hkey.2, fun _ => hsome⟩
  · exact ⟨rfl, rfl, nofun⟩

/-- What the scheduler leaves: no deadline without anything to refresh, or the present one. -/
theorem takeMarketRefresh_cases (deadline : Option MarketDeadline) (enabled hasSelection : Bool)
    (revision refreshAt : Nat) (now : Instant) (wallSecs : Nat) :
    takeMarketRefresh deadline enabled hasSelection revision refreshAt now wallSecs = (false, none) ∨
    (enabled = true ∧ hasSelection = true ∧ ∃ present : MarketDeadline,
      present.revision = revision ∧ present.wallSecs = refreshAt ∧
      (present.fired = true → deadline = some present) ∧
      (takeMarketRefresh deadline enabled hasSelection revision refreshAt now wallSecs =
          (false, some present) ∨
        takeMarketRefresh deadline enabled hasSelection revision refreshAt now wallSecs =
          (true, some { present with fired := true }))) := by
  unfold takeMarketRefresh
  split
  · exact .inl rfl
  · next hactive =>
    rw [Bool.or_eq_true, Bool.or_eq_true, not_or, not_or, Bool.not_eq_true', Bool.not_eq_false,
      Bool.not_eq_true', Bool.not_eq_false] at hactive
    have hpresent := currentDeadline_spec deadline revision refreshAt now wallSecs
    refine .inr ⟨hactive.1.1, hactive.1.2, _, hpresent.1, hpresent.2.1, hpresent.2.2, ?_⟩
    dsimp only
    split
    · exact .inl rfl
    · exact .inr rfl

/-- The end of `sync`. -/
theorem Ok.schedule (h : Ok s) {now : Instant} {wallSecs : Nat} (hphase : s.phase = .draining now wallSecs)
    (ht : s.schedule now wallSecs = some t) : Ok t := by
  have hui := h.settled now wallSecs hphase
  have henabled : s.market.enabled = s.marketEnabled := h.same (hui ▸ rfl)
  have hleft (deadline : Option MarketDeadline)
      (hdated : ∀ d, deadline = some d → d.revision ≤ s.marketRevision)
      (hselected : ∀ d, deadline = some d → s.marketSnapshot.selected.isSome = true)
      (hdisabled : s.marketEnabled = false → deadline = none)
      (hunder : s.market.enabled = true → Fired { s with deadline := deadline } →
        s.marketRevision = s.market.channel.state.revision → s.market.Live ∨ s.market.Sending) :
      Ok { s with deadline := deadline, phase := .idle } :=
    ⟨h.inv, h.alive, fun value hvalue => (nomatch (hui ▸ hvalue : UiPlace.idle.decides = some value)),
      h.same, h.behind, h.pending, h.drained, hdated, fun d hd _ => hselected d hd,
      fun hfalse => .inl (hdisabled (henabled.symm.trans hfalse)),
      fun hswapped => (nomatch hui.symm.trans hswapped), nofun, hunder⟩
  unfold Session.schedule at ht
  dsimp only at ht
  rcases takeMarketRefresh_cases s.deadline s.marketEnabled s.marketSnapshot.selected.isSome
    s.marketRevision s.marketSnapshot.nextRefreshAtSecs now wallSecs with
    htaken | ⟨he, hselected, present, hrevision, hwall, hold, htaken | htaken⟩
  · rw [htaken] at ht
    cases ht
    refine hleft none nofun nofun (fun _ => rfl) ?_
    rintro - ⟨d, hd, -⟩
    cases hd
  · rw [htaken] at ht
    cases ht
    refine hleft (some present) ?_ (fun _ _ => hselected) ?_ ?_
    · rintro _ ⟨⟩
      exact hrevision.le
    · intro hfalse
      cases he.symm.trans hfalse
    · rintro he ⟨d, hd, hfired, hkey⟩
      cases hd
      exact h.underway he ⟨present, hold hfired, hfired, hkey⟩
  · rw [htaken] at ht
    obtain ⟨m, hm, rfl⟩ := map_eq_some_iff.mp ht
    have hinv : Market.Inv m := h.inv.step (.send .refreshSelected) hm
    obtain ⟨-, hm⟩ := ite_none_right_eq_some.mp hm
    cases hm
    refine ⟨hinv, rfl, nofun, fun _ => henabled, h.behind, h.pending, h.drained, ?_,
      fun _ _ _ => hselected, fun hfalse => ?_, nofun, nofun, fun _ _ _ => .inr ⟨rfl, nofun⟩⟩
    · rintro _ ⟨⟩
      exact hrevision.le
    · cases he.symm.trans (henabled.symm.trans hfalse)

theorem Ok.step (h : Ok s) (event : Event) (hproceeds : s.Proceeds event)
    (ht : s.step event = some t) : Ok t := by
  cases event with
  | sync enabled now wallSecs =>
    obtain ⟨hphase, ht⟩ := ite_none_right_eq_some.mp ht
    obtain ⟨m, hm, rfl⟩ := map_eq_some_iff.mp ht
    obtain ⟨hui, hm⟩ := ite_none_right_eq_some.mp hm
    cases hm
    exact h.sync hphase hui enabled now wallSecs
  | ready =>
    unfold Session.step at ht
    dsimp only at ht
    split at ht
    · obtain ⟨hui, ht⟩ := ite_none_right_eq_some.mp ht
      obtain ⟨m, hm, rfl⟩ := map_eq_some_iff.mp ht
      have hui' : m.ui = .idle := by
        obtain ⟨_, -, rfl⟩ := map_eq_some_iff.mp hm
        exact hui
      exact (h.channel hm nofun).rephase nofun hui'
    · cases ht
  | take =>
    obtain ⟨m, hm, rfl⟩ := map_eq_some_iff.mp ht
    exact h.take hm
  | schedule =>
    unfold Session.step at ht
    dsimp only at ht
    split at ht
    · next hphase =>
      obtain ⟨-, ht⟩ := ite_none_right_eq_some.mp ht
      exact h.schedule hphase ht
    · cases ht
  | command command =>
    obtain ⟨hphase, ht⟩ := ite_none_right_eq_some.mp ht
    obtain ⟨m, hm, rfl⟩ := map_eq_some_iff.mp ht
    exact h.send hphase (ite_none_right_eq_some.mp hm).1 hm
  | market event =>
    obtain ⟨hinner, ht⟩ := ite_none_right_eq_some.mp ht
    obtain ⟨m, hm, rfl⟩ := map_eq_some_iff.mp ht
    cases event with
    | ui => exact h.ui hproceeds hm
    | worker => exact h.worker hproceeds hm
    | answer result now => exact h.answer hm
    | channel event =>
      cases event with
      | notify | mark | markOther | tryRecv => exact h.channel hm nofun
      | _ => cases hinner
    | _ => cases hinner

theorem ok_start : Ok start :=
  ⟨Market.inv_start, rfl, nofun, fun _ => rfl, Nat.le_refl 0, nofun, fun _ => rfl, nofun, nofun,
    fun _ => .inl rfl, nofun, nofun, nofun⟩

/-- Where nothing is under way, no refresh was fired for what the controller knows. -/
theorem Ok.not_fired (h : Ok s) (hsettled : s.Settled) : ¬s.Fired := by
  obtain ⟨-, hui, he, hcommands, hworker, hdrained⟩ := hsettled
  intro hfired
  rcases h.underway he hfired hdrained with (⟨request, hmem, -⟩ | ⟨request, hsome, -⟩) | hsending
  · rw [hcommands] at hmem
    cases hmem
  · rw [hworker] at hsome
    cases hsome
  · exact Market.not_sending_of_idle hui hsending

/-- The deadline that the next `sync` goes by is unfired if none was fired for what is known. -/
theorem currentDeadline_of_not_fired (h : ¬s.Fired) (now : Instant) (wallSecs : Nat) :
    (currentDeadline s.deadline s.marketRevision s.marketSnapshot.nextRefreshAtSecs now wallSecs).fired =
      false := by
  obtain ⟨hrevision, hwall, hold⟩ := currentDeadline_spec s.deadline s.marketRevision
    s.marketSnapshot.nextRefreshAtSecs now wallSecs
  exact Bool.eq_false_iff.mpr fun hfired => h ⟨_, hold hfired, hfired, hrevision, hwall⟩

theorem refreshes_of_not_fired (h : ¬s.Fired) (hselected : s.marketSnapshot.selected.isSome = true)
    (hnext : s.marketSnapshot.nextRefreshAtSecs ≠ u64Max) {now : Instant} {wallSecs : Nat}
    (hdue : s.marketSnapshot.nextRefreshAtSecs ≤ wallSecs) : s.refreshes now wallSecs = true := by
  have hfired := currentDeadline_of_not_fired h now wallSecs
  have hwall := (currentDeadline_spec s.deadline s.marketRevision s.marketSnapshot.nextRefreshAtSecs now
    wallSecs).2.1
  unfold refreshes takeMarketRefresh
  rw [if_neg (by simp [hselected, hnext])]
  dsimp only
  rw [if_neg]
  rw [hfired, hwall]
  simp [Nat.not_lt.mpr hdue]

/-- If every refresh that is fired proceeds, then whenever the market is enabled with nothing under way
the next deadline is unfired, and a refresh is sent when it is due. -/
theorem refresh_due_of_proceeds (events : List Event) (hrun : run step start events = some s)
    (hproceeds : Along step Proceeds start events) (hsettled : s.Settled)
    (hselected : s.marketSnapshot.selected.isSome = true)
    (hnext : s.marketSnapshot.nextRefreshAtSecs ≠ u64Max) (now : Instant) (wallSecs : Nat) :
    (currentDeadline s.deadline s.marketRevision s.marketSnapshot.nextRefreshAtSecs now wallSecs).fired =
        false ∧
      (s.marketSnapshot.nextRefreshAtSecs ≤ wallSecs → s.refreshes now wallSecs = true) := by
  have hok : Ok s :=
    run_invariant_along (fun _ event _ hs hc ht => hs.step event hc ht) ok_start hproceeds hrun
  have hfired := hok.not_fired hsettled
  exact ⟨currentDeadline_of_not_fired hfired now wallSecs,
    fun hdue => refreshes_of_not_fired hfired hselected hnext hdue⟩

end Session

/-- An item of the market. -/
def sampleItem : MarketItemDetail := { name := "A", slug := "a" }

/-- `sync` with the market enabled, up to the scheduler. -/
def drainEvents (wallSecs : Nat) : List Session.Event :=
  [.sync true 0 wallSecs, .market .ui, .market .ui, .ready, .market (.channel .tryRecv), .take, .schedule]

/-- A refresh goes to the queue. -/
def sendEvents : List Session.Event := [.market .ui, .market .ui, .market .ui, .market .ui]

/-- The worker receives a command up to its call of the backend. -/
def receiveEvents : List Session.Event :=
  [.market .worker, .market .worker, .market .worker, .market .worker, .market .worker]

/-- A publication of the worker. -/
def publishEvents : List Session.Event :=
  [.market .worker, .market .worker, .market (.channel (.notify 1)), .market (.channel (.mark 1)),
    .market .worker]

/-- The backend answers a refresh with 429 and `Retry-After: 0`. -/
def refuseEvents : List Session.Event :=
  receiveEvents ++ [.market (.answer (.orders (.error (.status 429 (some 0)))) 130)]

/-- An item is selected, and the first refresh is refused. -/
def refusing : List Session.Event :=
  [.sync true 0 0, .market .ui, .market .ui, .market .ui, .ready, .schedule,
    .command (.select "a"), .market .ui, .market .ui, .market .ui] ++
  receiveEvents ++ publishEvents ++ [.market (.answer (.orders (.ok sampleItem)) 100)] ++
  publishEvents ++ [.market .worker, .market .worker] ++ drainEvents 130 ++ sendEvents ++
  refuseEvents ++ publishEvents ++ [.market .worker, .market .worker]

/-- The next refresh is refused in the same second. -/
def stalling : List Session.Event :=
  refusing ++ drainEvents 130 ++ sendEvents ++ refuseEvents ++
  [.market .worker, .market .worker, .market .worker]

/-- The second refusal gives the snapshot of the first one: it is not published, and no refresh is sent
any more. -/
theorem Session.refresh_stalled : ∃ s, run Session.step Session.start stalling = some s ∧ s.Settled ∧
    s.marketSnapshot.selected.isSome = true ∧ s.marketSnapshot.nextRefreshAtSecs ≠ u64Max ∧
    ∀ now wallSecs, s.refreshes now wallSecs = false := by
  refine ⟨_, rfl, ⟨rfl, rfl, rfl, rfl, rfl, rfl⟩, rfl, ?_, fun now wallSecs => rfl⟩
  decide

/-- After one refusal the next refresh is due in the same second. -/
theorem Session.refresh_due_of_proceeds_refusing :
    ∃ s, run Session.step Session.start (refusing ++ drainEvents 129) = some s ∧
      s.refreshes 0 130 = true := by
  refine ⟨_, rfl, (Session.refresh_due_of_proceeds (refusing ++ drainEvents 129) rfl (by decide)
    ⟨rfl, rfl, rfl, rfl, rfl, rfl⟩ rfl ?_ 0 130).2 ?_⟩
  · decide
  · decide

end OverCrow.Warframe
