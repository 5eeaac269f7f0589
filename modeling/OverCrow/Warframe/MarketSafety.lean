import OverCrow.Base.History
import OverCrow.Warframe.Market

/-!
# Market results and sessions

The worker publishes for a command of the present session only, and the flag of a pending refresh
follows the one refresh that there is.
-/

namespace OverCrow.Warframe
open OverCrow.Base OverCrow.Overlay Option

/-- The command that the worker has. -/
def WorkerPlace.request? : WorkerPlace → Option WorkerCommand
  | .idle => none
  | .received request => some request
  | .checking request => some request
  | .comparing request => some request
  | .cloning request => some request
  | .publishing request _ _ => some request
  | .gated request _ _ => some request
  | .announcing request _ _ => some request
  | .calling request _ => some request
  | .releasing request _ => some request
  | .finished => none
  | .stopping => none
  | .stopped => none

/-- The worker is leaving its loop. -/
def WorkerPlace.leaves : WorkerPlace → Bool
  | .releasing _ .stop => true
  | .stopping => true
  | .stopped => true
  | _ => false

/-- A refresh that `send` has claimed and not yet queued or given up. -/
def UiPlace.claims : UiPlace → Bool
  | .loading command => command = .refreshSelected
  | .trySending request => request.isRefresh
  | .failed isRefresh _ => isRefresh
  | _ => false

def UiPlace.drops : UiPlace → Bool
  | .dropping _ => true
  | _ => false

/-- `send` has found the market enabled. -/
def UiPlace.sends : UiPlace → Bool
  | .claiming => true
  | .loading _ => true
  | .trySending _ => true
  | .failed _ _ => true
  | .checking change => change ≠ .disabled
  | .updating change => change ≠ .disabled
  | .announcing change => change ≠ .disabled
  | _ => false

/-- `set_enabled` is about to clear the snapshot. -/
def UiPlace.clears : UiPlace → Bool
  | .swapped enabled => !enabled
  | .checking change => change = .disabled
  | .updating change => change = .disabled
  | _ => false

/-- No toggle of the market. -/
def Entry.untoggled : Entry → Prop
  | .toggled _ => False
  | _ => True

namespace Market

/-- The command was sent in the present session. -/
def SentNow (log : List Entry) (request : WorkerCommand) : Prop :=
  Since Entry.untoggled (· = .sent request) log

/-- The market was enabled last. -/
def EnabledNow (log : List Entry) : Prop := Since Entry.untoggled (· = .toggled true) log

/-- What justifies a publication. -/
def Justified (before : List Entry) (entry : Entry) : Prop :=
  ∀ request snapshot, entry = .published request snapshot → SentNow before request ∧ EnabledNow before

/-- A command that is queued or with the worker. -/
def Flying (s : Market) (request : WorkerCommand) : Prop :=
  request ∈ s.commands ∨ s.worker.request? = some request

/-- The refreshes that are queued or processed. -/
def carried (s : Market) : Nat :=
  s.commands.countP WorkerCommand.isRefresh +
    (s.worker.request?.any WorkerCommand.isRefresh).toNat

/-- The refreshes that are being sent, queued or processed. -/
def refreshes (s : Market) : Nat := s.ui.claims.toNat + s.carried

structure Inv (s : Market) : Prop where
  gate : s.ui.holdsGate = true → s.worker.holdsGate = false
  pending : s.worker ≠ .stopped → s.refreshes = s.refreshPending.toNat
  stopped : s.worker = .stopped → s.refreshPending = false
  leaving : s.worker.leaves = true → s.ui.drops = true
  ended : s.shutdown = true ∨ s.closed = true → s.ui.drops = true
  present : ∀ request snapshot next, s.worker = .gated request snapshot next →
    SentNow s.log request ∧ EnabledNow s.log ∧
    (s.ui.drops = false → s.enabled = true ∧ s.generation = request.generation)
  swapped : ∀ enabled, s.ui = .swapped enabled → s.enabled = enabled
  trying : ∀ request, s.ui = .trySending request → request.generation = s.generation
  sends : s.ui.sends = true → s.enabled = true
  enabled : s.enabled = true → s.ui ≠ .swapped true → EnabledNow s.log
  flying : ∀ request, s.Flying request → request.generation ≤ s.generation ∧
    (request.generation = s.generation → SentNow s.log request)
  quiet : s.enabled = false → s.ui.clears = false → s.ui.drops = false →
    s.current.status = none ∧ s.current.nextRefreshAtSecs = 0
  justified : Each Justified s.log

variable {s t : Market}
  {channel : LatestSystem MarketSnapshot} {event : LatestSystem.Event MarketSnapshot}
  {snapshot : MarketSnapshot} {request : WorkerCommand}

/-! ### The channel -/

theorem store_eq {i : Nat} {f : MarketSnapshot → MarketSnapshot} (h : s.store event = some channel)
    (hevent : s.channel.step .market event = s.channel.begin i f (s.channel.state.store f)) :
    channel.state = ⟨f s.current, s.channel.state.revision + 1, true⟩ := by
  obtain ⟨hlt, h⟩ := ite_none_right_eq_some.mp h
  rw [hevent] at h
  have hstore : s.channel.state.store f = some ⟨f s.current, s.channel.state.revision + 1, true⟩ := by
    unfold LatestState.store
    rw [checkedAdd_eq_some.mpr ⟨hlt, rfl⟩]
    rfl
  rw [hstore] at h
  obtain ⟨-, h⟩ := ite_none_right_eq_some.mp h
  cases h
  rfl

theorem update_eq {change : Change} (h : s.store (.update 0 change.apply) = some channel) :
    channel.state = ⟨change.apply s.current, s.channel.state.revision + 1, true⟩ := store_eq h rfl

theorem publish_eq (h : s.store (.publish 1 snapshot) = some channel) :
    channel.state = ⟨snapshot, s.channel.state.revision + 1, true⟩ := store_eq h rfl

/-- What neither stores nor takes a value leaves the state of the channel alone. -/
theorem state_eq (hstores : stores event = false) (hlock : event ≠ .lock)
    (h : s.channel.step .market event = some channel) : channel.state = s.channel.state := by
  cases event with
  | publish i value => cases hstores
  | update i f => cases hstores
  | markOther other =>
    cases h
    rfl
  | lock => exact absurd rfl hlock
  | _ =>
    obtain ⟨-, h⟩ := ite_none_right_eq_some.mp h
    cases h
    rfl

/-- Taking a value leaves nothing to take. -/
theorem lock_eq (h : s.channel.step .market .lock = some channel) :
    channel.state = { s.channel.state with pending := false } := by
  obtain ⟨-, h⟩ := ite_none_right_eq_some.mp h
  cases h
  unfold LatestState.take
  split
  · rfl
  · next hpending => rw [← Bool.eq_false_iff.mpr hpending]

/-- What does not store keeps the snapshot. -/
theorem channel_eq (hstores : stores event = false) (h : s.channel.step .market event = some channel) :
    channel.state.current = s.current := by
  by_cases hlock : event = .lock
  · subst hlock
    rw [lock_eq h]
    rfl
  · rw [state_eq hstores hlock h]
    rfl

/-! ### The interface -/

/-- The interface returns from a call. -/
theorem Inv.returnUi (h : Inv s) (hclaims : s.ui.claims = false) (hdrops : s.ui.drops = false)
    (henabled : s.enabled = true → EnabledNow s.log)
    (hquiet : s.enabled = false → s.current.status = none ∧ s.current.nextRefreshAtSecs = 0) :
    Inv { s with ui := .idle } := by
  refine { h with
    gate := nofun, pending := fun hworker => ?_
    leaving := fun hleaves => hdrops.symm.trans (h.leaving hleaves)
    ended := fun hended => hdrops.symm.trans (h.ended hended)
    present := fun request snapshot next hworker => ?_, swapped := nofun, trying := nofun
    sends := nofun, enabled := fun he _ => henabled he, quiet := fun he _ _ => hquiet he }
  · rw [← h.pending hworker]
    unfold refreshes
    rw [hclaims]
    rfl
  · exact (h.present request snapshot next hworker).imp_right
      (And.imp_right fun hcurrent _ => hcurrent hdrops)

/-- The client is being dropped. -/
theorem Inv.moveDrop (h : Inv s) (hclaims : s.ui.claims = false) (hswapped : s.ui ≠ .swapped true)
    {enabled shutdown closed : Bool} {generation : Nat} (writes : Nat)
    (henabled : enabled = true → s.enabled = true) (hgeneration : s.generation ≤ generation) :
    Inv { s with
      enabled := enabled, generation := generation, shutdown := shutdown, closed := closed
      ui := .dropping writes } := by
  refine ⟨nofun, fun hworker => ?_, h.stopped, fun _ => rfl, fun _ => rfl,
    fun request snapshot next hworker => ?_, nofun, nofun, nofun, fun he _ => ?_, fun request hflying => ?_,
    fun _ _ hdrops => (nomatch hdrops), h.justified⟩
  · rw [← h.pending hworker]
    unfold refreshes
    rw [hclaims]
    rfl
  · obtain ⟨hsent, hlast, -⟩ := h.present request snapshot next hworker
    exact ⟨hsent, hlast, fun hdrops => nomatch hdrops⟩
  · exact h.enabled (henabled he) hswapped
  · obtain ⟨hle, hsent⟩ := h.flying request hflying
    refine ⟨hle.trans hgeneration, fun heq => hsent (Nat.le_antisymm hle ?_)⟩
    exact hgeneration.trans heq.ge

/-- The market is toggled, with the gate held. -/
theorem Inv.toggle (h : Inv s) {value : Bool} (hui : s.ui = .swapped value) :
    Inv { s with
      generation := s.generation + 1, log := s.log ++ [.toggled value]
      ui := if value then .idle else .checking .disabled } := by
  obtain ⟨_, _, _, _, _, _, _, _, _, worker, _⟩ := s
  cases hui
  have hgate : worker.holdsGate = false := h.gate rfl
  refine { h with
    gate := fun _ => hgate, pending := ?_, leaving := fun hleaves => (nomatch h.leaving hleaves)
    ended := fun hended => (nomatch h.ended hended), present := fun request snapshot next hworker => ?_
    swapped := ?_, trying := ?_, sends := ?_, enabled := fun he _ => ?_
    flying := fun request hflying => ?_, quiet := fun he hclears => ?_
    justified := each_append_singleton.mpr ⟨h.justified, nofun⟩ }
  · cases value <;> exact h.pending
  · rw [show worker = _ from hworker] at hgate
    cases hgate
  · cases value <;> nofun
  · cases value <;> nofun
  · cases value <;> nofun
  · cases (h.swapped value rfl).symm.trans he
    exact since_append_singleton.mpr (.inl rfl)
  · obtain ⟨hle, -⟩ := h.flying request hflying
    exact ⟨Nat.le_succ_of_le hle, fun heq => absurd heq (Nat.ne_of_lt (Nat.lt_succ_of_le hle))⟩
  · cases (h.swapped value rfl).symm.trans he
    cases hclears

theorem EnabledNow.append {log : List Entry} (h : EnabledNow log) {entry : Entry}
    (hentry : entry.untoggled) : EnabledNow (log ++ [entry]) :=
  since_append_singleton.mpr (.inr ⟨hentry, h⟩)

theorem SentNow.append {log : List Entry} (h : SentNow log request)
    {entry : Entry} (hentry : entry.untoggled) : SentNow (log ++ [entry]) request :=
  since_append_singleton.mpr (.inr ⟨hentry, h⟩)

section

variable (h : Inv s)

include h

/-- A command is queued. -/
theorem Inv.queue (hui : s.ui = .trySending request) :
    Inv { s with
      commands := s.commands ++ [request], log := s.log ++ [.sent request], ui := .idle } := by
  obtain ⟨_, generation, _, _, commands, _, _, _, _, worker, log⟩ := s
  cases hui
  refine { h with
    gate := nofun, pending := fun hworker => ?_, present := fun other snapshot next hworker => ?_
    swapped := nofun, trying := nofun, sends := nofun
    enabled := fun he _ => (h.enabled he nofun).append trivial, flying := fun other hflying => ?_
    quiet := fun he _ => h.quiet he rfl
    justified := each_append_singleton.mpr ⟨h.justified, nofun⟩ }
  · rw [← h.pending hworker]
    unfold refreshes carried
    dsimp only
    rw [List.countP_append, List.countP_singleton]
    change 0 + _ = request.isRefresh.toNat + _
    cases request.isRefresh with
    | false => rfl
    | true =>
      change 0 + (_ + 1 + _) = 1 + (_ + _)
      omega
  · obtain ⟨hsent, hlast, hcurrent⟩ := h.present other snapshot next hworker
    exact ⟨hsent.append trivial, hlast.append trivial, hcurrent⟩
  · have hold (hother : other ∈ commands ∨ worker.request? = some other) : other.generation ≤ generation ∧
        (other.generation = generation → SentNow (log ++ [.sent request]) other) :=
      (h.flying other hother).imp_right fun hsent heq => (hsent heq).append trivial
    rcases hflying with hmem | hworker
    · rcases List.mem_append.mp hmem with hmem | hmem
      · exact hold (.inl hmem)
      · rw [List.mem_singleton.mp hmem]
        exact ⟨(h.trying request rfl).le, fun _ => since_append_singleton.mpr (.inl rfl)⟩
    · exact hold (.inr hworker)

/-- The snapshot is updated by the client. -/
theorem Inv.update {change : Change} (hui : s.ui = .updating change)
    (hcurrent : channel.state.current = change.apply s.current) :
    Inv { s with channel := channel, ui := .announcing change } := by
  obtain ⟨_, _, _, _, _, _, _, _, _, _, _⟩ := s
  cases hui
  refine { h with
    gate := ?_, swapped := nofun, trying := nofun, enabled := fun he _ => h.enabled he nofun
    quiet := fun he _ _ => ?_ }
  · cases change <;> exact h.gate
  · have hchange : change = .disabled := by
      by_contra hne
      exact Bool.false_ne_true (Eq.trans he.symm (h.sends (decide_eq_true hne)))
    unfold Market.current
    rw [hcurrent, hchange]
    exact ⟨rfl, rfl⟩

/-- Without a drop the worker goes on. -/
theorem Inv.not_stopped (hdrops : s.ui.drops = false) : s.worker ≠ .stopped := by
  intro hstopped
  exact Bool.false_ne_true (hdrops.symm.trans (h.leaving (hstopped ▸ rfl)))

/-- A refresh is claimed. -/
theorem Inv.claim (hui : s.ui = .claiming) (hpending : s.refreshPending = false) :
    Inv { s with refreshPending := true, ui := .loading .refreshSelected } := by
  have hstopped := h.not_stopped (hui ▸ rfl)
  obtain ⟨_, _, _, _, _, _, _, _, _, _, _⟩ := s
  cases hui
  cases hpending
  refine { h with
    gate := nofun, pending := fun hworker => ?_, stopped := fun hs => absurd hs hstopped
    swapped := nofun, trying := nofun, sends := fun _ => h.sends rfl
    enabled := fun he _ => h.enabled he nofun, quiet := fun he _ => h.quiet he rfl }
  have hcarried := (Nat.add_eq_zero_iff.mp (h.pending hworker)).2
  exact congrArg (1 + ·) hcarried

/-- A command that was not queued is given up. -/
theorem Inv.giveUp {isRefresh full : Bool} (hui : s.ui = .failed isRefresh full) :
    Inv { s with
      refreshPending := if isRefresh then false else s.refreshPending
      ui := .checking (if full then .busy else .unavailable) } := by
  have hstopped := h.not_stopped (hui ▸ rfl)
  obtain ⟨_, _, pending, _, _, _, _, _, _, _, _⟩ := s
  cases hui
  refine { h with
    gate := ?_, pending := fun hworker => ?_, stopped := fun hs => absurd hs hstopped
    swapped := nofun, trying := nofun, sends := fun _ => h.sends rfl
    enabled := fun he _ => h.enabled he nofun
    quiet := fun hfalse => absurd (h.sends rfl) (Bool.eq_false_iff.mp hfalse) }
  · cases full <;> nofun
  · have hcount := h.pending hworker
    cases isRefresh with
    | false => exact hcount
    | true =>
      have hle : 1 + _ ≤ 1 + 0 := hcount.trans_le pending.toNat_le
      exact (Nat.zero_add _).trans (Nat.le_zero.mp (Nat.le_of_add_le_add_left hle))

theorem Inv.ui (ht : s.uiStep = some t) : Inv t := by
  obtain ⟨enabled, generation, pending, shutdown, commands, closed, channel, backoff, ui, worker,
    log⟩ := s
  cases ui with
  | idle => cases ht
  | enabling value =>
    obtain ⟨hgate, ht⟩ := ite_none_left_eq_some.mp ht
    cases ht
    exact { h with
      gate := fun _ => Bool.eq_false_iff.mpr hgate, swapped := nofun, trying := nofun, sends := nofun
      enabled := fun he _ => h.enabled he nofun, quiet := fun he _ => h.quiet he rfl }
  | gated value =>
    cases ht
    dsimp only
    split
    · next hsame =>
      subst hsame
      exact h.returnUi rfl rfl (fun he => h.enabled he nofun) fun he => h.quiet he rfl rfl
    · refine { h with
        gate := fun _ => h.gate rfl, present := fun request snapshot next hworker => ?_, swapped := ?_
        trying := nofun, sends := nofun, enabled := ?_, quiet := ?_ }
      · have hgate := h.gate rfl
        rw [show worker = _ from hworker] at hgate
        cases hgate
      · rintro _ ⟨⟩
        rfl
      · intro he hne
        exact absurd (congrArg UiPlace.swapped he) hne
      · intro he hclears
        cases he
        cases hclears
  | swapped value =>
    cases ht
    exact h.toggle rfl
  | checking change =>
    cases ht
    split
    · refine { h with
        gate := fun hgate => h.gate ?_, swapped := nofun, trying := nofun
        enabled := fun he _ => h.enabled he nofun }
      cases change
      · rfl
      · cases hgate
      · cases hgate
    · next hneeded =>
      refine h.returnUi rfl rfl (fun he => h.enabled he nofun) fun he => ?_
      cases change with
      | disabled => simpa [Change.needed] using hneeded
      | busy | unavailable => exact absurd (h.sends rfl) (Bool.eq_false_iff.mp he)
  | updating change =>
    obtain ⟨channel', hstore, rfl⟩ := map_eq_some_iff.mp ht
    exact h.update rfl (congrArg LatestState.current (update_eq hstore))
  | announcing change =>
    obtain ⟨-, ht⟩ := ite_none_right_eq_some.mp ht
    cases ht
    exact h.returnUi rfl rfl (fun he => h.enabled he nofun) fun he => h.quiet he rfl rfl
  | sending command =>
    cases ht
    split
    · exact h.returnUi rfl rfl (fun he => h.enabled he nofun) fun he => h.quiet he rfl rfl
    · next he =>
      rw [Bool.not_eq_true', Bool.not_eq_false] at he
      cases command <;> exact { h with
        gate := nofun, swapped := nofun, trying := nofun, sends := fun _ => he
        enabled := fun he _ => h.enabled he nofun, quiet := fun he _ => h.quiet he rfl }
  | claiming =>
    cases ht
    cases pending with
    | true =>
      exact h.returnUi rfl rfl (fun he => h.enabled he nofun) fun he => h.quiet he rfl rfl
    | false => exact h.claim rfl rfl
  | loading command =>
    cases ht
    refine { h with
      gate := nofun, swapped := nofun, trying := ?_, sends := fun _ => h.sends rfl
      enabled := fun he _ => h.enabled he nofun, quiet := fun he _ => h.quiet he rfl }
    rintro _ ⟨⟩
    rfl
  | trySending request =>
    have hfailed (full : Bool) : Inv ⟨enabled, generation, pending, shutdown, commands, closed, channel,
        backoff, .failed request.isRefresh full, worker, log⟩ :=
      { h with
        gate := nofun, swapped := nofun, trying := nofun, sends := fun _ => h.sends rfl
        enabled := fun he _ => h.enabled he nofun, quiet := fun he _ => h.quiet he rfl }
    unfold uiStep at ht
    dsimp only at ht
    split at ht
    · cases ht
      exact hfailed false
    split at ht
    · cases ht
      exact h.queue rfl
    · cases ht
      exact hfailed true
  | failed isRefresh full =>
    cases ht
    exact h.giveUp rfl
  | dropping writes =>
    match writes, ht with
    | 0, rfl => exact h.moveDrop rfl nofun 1 id (Nat.le_refl _)
    | 1, rfl => exact h.moveDrop rfl nofun 2 nofun (Nat.le_refl _)
    | 2, rfl => exact h.moveDrop rfl nofun 3 id (Nat.le_succ _)
    | 3, rfl => exact h.moveDrop rfl nofun 4 id (Nat.le_refl _)

/-! ### The worker -/

/-- Only the place of the worker changes, with the same command. -/
theorem Inv.moveWorker {place : WorkerPlace} (backoff : Duration)
    (hrequest : place.request? = s.worker.request?) (hstopped : s.worker ≠ .stopped)
    (hnever : place ≠ .stopped) (hgate : s.ui.holdsGate = true → place.holdsGate = false)
    (hleaves : place.leaves = true → s.ui.drops = true)
    (hpresent : ∀ request snapshot next, place = .gated request snapshot next →
      SentNow s.log request ∧ EnabledNow s.log ∧
      (s.ui.drops = false → s.enabled = true ∧ s.generation = request.generation)) :
    Inv { s with errorBackoff := backoff, worker := place } := by
  refine ⟨hgate, fun _ => ?_, fun hworker => absurd hworker hnever, hleaves, h.ended, hpresent, h.swapped,
    h.trying, h.sends, h.enabled, fun request hflying => h.flying request ?_, h.quiet, h.justified⟩
  · rw [← h.pending hstopped]
    unfold refreshes carried
    rw [hrequest]
  · unfold Flying at hflying
    rw [hrequest] at hflying
    exact hflying

/-- Between the gate and the end the worker stands nowhere special. -/
theorem Inv.goOn {place : WorkerPlace} (backoff : Duration)
    (hrequest : place.request? = s.worker.request?) (hstopped : s.worker ≠ .stopped)
    (hgate : place.holdsGate = false) (hleaves : place.leaves = false) :
    Inv { s with errorBackoff := backoff, worker := place } := by
  refine h.moveWorker backoff hrequest hstopped ?_ (fun _ => hgate)
    (fun hl => absurd (hleaves.symm.trans hl) Bool.false_ne_true) ?_
  · rintro rfl
    cases hleaves
  · rintro request snapshot next rfl
    cases hgate

theorem Inv.afterPublish (next : AfterPublish) (hrequest : s.worker.request? = some request) :
    Inv { s with worker := next.place request snapshot } := by
  have hstopped : s.worker ≠ .stopped := by
    intro hstopped
    rw [hstopped] at hrequest
    cases hrequest
  cases next <;> exact h.goOn _ hrequest.symm hstopped rfl rfl

/-- A command is taken from the queue. -/
theorem Inv.receive {rest : List WorkerCommand}
    (hcommands : s.commands = request :: rest) (hworker : s.worker = .idle) :
    Inv { s with commands := rest, worker := .received request } := by
  obtain ⟨_, _, _, _, _, _, _, _, _, _, _⟩ := s
  cases hcommands
  cases hworker
  refine { h with
    gate := fun _ => rfl, pending := fun _ => ?_, stopped := nofun, leaving := nofun, present := nofun
    flying := fun other hflying => h.flying other (.inl ?_) }
  · rw [← h.pending nofun]
    unfold refreshes carried
    rw [List.countP_cons]
    change _ + (_ + request.isRefresh.toNat) = _ + (_ + 0)
    cases request.isRefresh <;> rfl
  · rcases hflying with hmem | hother
    · exact List.mem_cons_of_mem _ hmem
    · cases hother
      exact List.mem_cons_self

/-- A snapshot is published: the command is of the present session. -/
theorem Inv.publish {next : AfterPublish} (hworker : s.worker = .gated request snapshot next)
    (channel : LatestSystem MarketSnapshot) :
    Inv { s with
      channel := channel, worker := .announcing request snapshot next
      log := s.log ++ [.published request snapshot] } := by
  obtain ⟨_, _, _, _, _, _, _, _, _, _, _⟩ := s
  cases hworker
  obtain ⟨hsent, hlast, hcurrent⟩ := h.present request snapshot next rfl
  refine { h with
    gate := fun hgate => (nomatch h.gate hgate), pending := fun _ => h.pending nofun
    stopped := nofun, leaving := nofun, present := nofun
    enabled := fun he hne => (h.enabled he hne).append trivial
    flying := fun other hflying =>
      (h.flying other hflying).imp_right fun hs heq => (hs heq).append trivial
    quiet := fun he _ hdrops => absurd (hcurrent hdrops).1 (Bool.eq_false_iff.mp he)
    justified := each_append_singleton.mpr ⟨h.justified, ?_⟩ }
  rintro _ _ ⟨⟩
  exact ⟨hsent, hlast⟩

/-- The flag is released by the refresh that holds it. -/
theorem Inv.release {next : AfterRelease} (hworker : s.worker = .releasing request next) :
    Inv { s with
      refreshPending := if request.isRefresh then false else s.refreshPending
      worker := next.place } := by
  obtain ⟨_, _, pending, _, _, _, _, _, _, _, _⟩ := s
  cases hworker
  have hrequest : next.place.request? = none := by cases next <;> rfl
  have hcount := h.pending nofun
  refine { h with
    gate := fun _ => ?_, pending := fun _ => ?_, stopped := fun hstopped => ?_, leaving := ?_
    present := fun other snapshot after hgated => ?_
    flying := fun other hflying => h.flying other (.inl ?_) }
  · cases next <;> rfl
  · unfold refreshes carried at hcount ⊢
    dsimp only at hcount ⊢
    rw [hrequest]
    change _ + (_ + request.isRefresh.toNat) = _ at hcount
    change _ + (_ + 0) = _
    cases hrefresh : request.isRefresh with
    | false =>
      rw [hrefresh] at hcount
      exact hcount
    | true =>
      rw [hrefresh] at hcount
      change _ + (_ + 1) = _ at hcount
      have hle := pending.toNat_le
      change _ = 0
      omega
  · cases next <;> cases hstopped
  · cases next
    · nofun
    · nofun
    · exact fun _ => h.leaving rfl
  · cases next <;> cases hgated
  · rcases hflying with hmem | hother
    · exact hmem
    · cases hrequest.symm.trans hother

/-- The worker ends: what is queued is lost with the queue. -/
theorem Inv.stop (hworker : s.worker = .stopping) :
    Inv { s with refreshPending := false, commands := [], worker := .stopped } := by
  refine { h with
    gate := fun _ => rfl, pending := fun hne => absurd rfl hne, stopped := fun _ => rfl
    leaving := fun _ => h.leaving (hworker ▸ rfl), present := nofun, flying := ?_ }
  rintro other (hmem | hother)
  · cases hmem
  · cases hother

theorem Inv.workerStep (ht : s.workerStep = some t) : Inv t := by
  obtain ⟨_, _, _, _, commands, _, _, _, _, worker, _⟩ := s
  cases worker with
  | idle =>
    cases commands with
    | cons request rest =>
      cases ht
      exact h.receive rfl rfl
    | nil =>
      obtain ⟨hclosed, ht⟩ := ite_none_right_eq_some.mp ht
      cases ht
      exact h.moveWorker _ rfl nofun nofun (fun _ => rfl)
        (fun _ => h.ended (.inr hclosed)) nofun
  | received | finished =>
    cases ht
    split
    · next hshutdown =>
      exact h.moveWorker _ rfl nofun nofun (fun _ => rfl)
        (fun _ => h.ended (.inl hshutdown)) nofun
    · exact h.goOn _ rfl nofun rfl rfl
  | checking | comparing =>
    cases ht
    split <;> exact h.goOn _ rfl nofun rfl rfl
  | cloning request =>
    cases ht
    unfold Market.begin
    split
    · exact h.goOn _ rfl nofun rfl rfl
    · exact h.goOn _ rfl nofun rfl rfl
    · split <;> exact h.goOn _ rfl nofun rfl rfl
    · split
      · exact h.goOn _ rfl nofun rfl rfl
      · split <;> exact h.goOn _ rfl nofun rfl rfl
  | publishing request snapshot next =>
    obtain ⟨hgate, ht⟩ := ite_none_left_eq_some.mp ht
    cases ht
    split
    · exact h.afterPublish next rfl
    · next hchecks =>
      rw [Bool.or_eq_true, Bool.or_eq_true, not_or, not_or, Bool.not_eq_true', Bool.not_eq_false,
        requestIsCurrent, Bool.and_eq_true, decide_eq_true_eq] at hchecks
      obtain ⟨⟨-, he, hgeneration⟩, -⟩ := hchecks
      refine h.moveWorker _ rfl nofun nofun (fun hheld => absurd hheld hgate) nofun ?_
      rintro _ _ _ ⟨⟩
      refine ⟨?_, h.enabled he ?_, fun _ => ⟨he, hgeneration⟩⟩
      · exact (h.flying request (.inr rfl)).2 hgeneration.symm
      · intro hswapped
        rw [hswapped] at hgate
        exact hgate rfl
  | gated request snapshot next =>
    obtain ⟨channel, -, rfl⟩ := map_eq_some_iff.mp ht
    exact h.publish rfl channel
  | announcing request snapshot next =>
    obtain ⟨-, ht⟩ := ite_none_right_eq_some.mp ht
    cases ht
    exact h.afterPublish next rfl
  | calling | stopped =>
    cases ht
  | releasing request next =>
    cases ht
    exact h.release rfl
  | stopping =>
    cases ht
    exact h.stop rfl

end

/-! ### Runs -/

theorem inv_start : Inv start := by
  refine ⟨nofun, fun _ => rfl, nofun, nofun, ?_, nofun, nofun, nofun, nofun, nofun, ?_,
    fun _ _ _ => ⟨rfl, rfl⟩, each_nil⟩
  · rintro (h | h) <;> cases h
  · rintro request (h | h) <;> cases h

theorem Inv.step (h : Inv s) (event : Event) (ht : s.step event = some t) : Inv t := by
  cases event with
  | setEnabled value =>
    obtain ⟨hui, ht⟩ := ite_none_right_eq_some.mp ht
    obtain ⟨⟩ := s
    cases hui
    cases ht
    exact { h with
      gate := nofun, swapped := nofun, trying := nofun, sends := nofun
      enabled := fun he _ => h.enabled he nofun, quiet := fun he _ => h.quiet he rfl }
  | send command =>
    obtain ⟨hui, ht⟩ := ite_none_right_eq_some.mp ht
    obtain ⟨⟩ := s
    cases hui
    cases ht
    split
    · exact h
    · exact { h with
        gate := nofun, swapped := nofun, trying := nofun, sends := nofun
        enabled := fun he _ => h.enabled he nofun, quiet := fun he _ => h.quiet he rfl }
  | drop =>
    obtain ⟨hui, ht⟩ := ite_none_right_eq_some.mp ht
    cases ht
    exact h.moveDrop (hui ▸ rfl) (hui ▸ nofun) 0 id (Nat.le_refl _)
  | ui => exact h.ui ht
  | worker => exact h.workerStep ht
  | answer result now =>
    unfold Market.step Market.answer at ht
    dsimp only at ht
    split at ht
    · next request snapshot hworker =>
      obtain ⟨settled, -, rfl⟩ := map_eq_some_iff.mp ht
      exact h.goOn _ (hworker ▸ rfl) (hworker ▸ nofun) rfl rfl
    · cases ht
  | channel event =>
    obtain ⟨hstores, ht⟩ := ite_none_left_eq_some.mp ht
    obtain ⟨channel, hchannel, rfl⟩ := map_eq_some_iff.mp ht
    have hcurrent := channel_eq (Bool.eq_false_iff.mpr hstores) hchannel
    refine { h with quiet := fun he hclears hdrops => ?_ }
    unfold Market.current
    rw [hcurrent]
    exact h.quiet he hclears hdrops

theorem inv_of_run {events : List Event} (h : run step start events = some s) : Inv s :=
  reaches_invariant (fun _ event _ hs ht => hs.step event ht) inv_start ⟨events, h⟩

/-- A call of the client leaves the channel alone, or stores a new revision. -/
theorem channel_uiStep (ht : s.uiStep = some t) :
    t.channel = s.channel ∨ t.channel.state.revision = s.channel.state.revision + 1 := by
  obtain ⟨_, _, _, _, _, _, _, _, ui, _, _⟩ := s
  cases ui with
  | idle => cases ht
  | enabling value =>
    obtain ⟨-, ht⟩ := ite_none_left_eq_some.mp ht
    cases ht
    exact .inl rfl
  | updating change =>
    obtain ⟨channel, hstore, rfl⟩ := map_eq_some_iff.mp ht
    exact .inr (congrArg LatestState.revision (update_eq hstore))
  | announcing change =>
    obtain ⟨-, ht⟩ := ite_none_right_eq_some.mp ht
    cases ht
    exact .inl rfl
  | trySending request =>
    unfold uiStep at ht
    dsimp only at ht
    split at ht
    · cases ht
      exact .inl rfl
    split at ht <;> cases ht <;> exact .inl rfl
  | dropping writes =>
    match writes, ht with
    | 0, rfl | 1, rfl | 2, rfl | 3, rfl => exact .inl rfl
  | _ =>
    cases ht
    exact .inl rfl

/-- Commands begin without a publication. -/
theorem channel_begin (request : WorkerCommand) : (s.begin request).channel = s.channel := by
  unfold begin
  cases request.command <;> rfl

/-- The worker stores what it publishes, and records it. -/
theorem channel_workerStep (ht : s.workerStep = some t) :
    t.channel = s.channel ∨ t.channel.state.revision = s.channel.state.revision + 1 ∧
      ∃ request, t.log = s.log ++ [.published request t.current] := by
  obtain ⟨_, _, _, _, commands, _, _, _, _, worker, _⟩ := s
  cases worker with
  | idle =>
    cases commands with
    | cons request rest =>
      cases ht
      exact .inl rfl
    | nil =>
      obtain ⟨-, ht⟩ := ite_none_right_eq_some.mp ht
      cases ht
      exact .inl rfl
  | cloning request =>
    cases ht
    exact .inl (channel_begin request)
  | publishing request snapshot next =>
    obtain ⟨-, ht⟩ := ite_none_left_eq_some.mp ht
    cases ht
    exact .inl rfl
  | gated request snapshot next =>
    obtain ⟨channel, hstore, rfl⟩ := map_eq_some_iff.mp ht
    refine .inr ⟨congrArg LatestState.revision (publish_eq hstore), request, ?_⟩
    have hcurrent : channel.state.current = snapshot := congrArg LatestState.current (publish_eq hstore)
    unfold current
    rw [hcurrent]
  | announcing request snapshot next =>
    obtain ⟨-, ht⟩ := ite_none_right_eq_some.mp ht
    cases ht
    exact .inl rfl
  | calling request snapshot =>
    cases ht
  | stopped =>
    cases ht
  | _ =>
    cases ht
    exact .inl rfl

/-- What an event does to the snapshot and the record: the client changes the snapshot itself, and the
worker by a publication that is recorded. -/
theorem current_of_step {event : Event} (ht : s.step event = some t) (hchanged : t.current ≠ s.current) :
    event = .ui ∨ event = .worker ∧ ∃ request, t.log = s.log ++ [.published request t.current] := by
  have hsame (hchannel : t.channel = s.channel) : False := by
    unfold current at hchanged
    rw [hchannel] at hchanged
    exact hchanged rfl
  cases event with
  | ui => exact .inl rfl
  | worker => exact .inr ⟨rfl, ((channel_workerStep ht).resolve_left hsame).2⟩
  | answer result now =>
    unfold step answer at ht
    dsimp only at ht
    split at ht
    · obtain ⟨settled, -, rfl⟩ := map_eq_some_iff.mp ht
      exact (hsame rfl).elim
    · cases ht
  | channel event =>
    obtain ⟨hstores, ht⟩ := ite_none_left_eq_some.mp ht
    obtain ⟨channel, hchannel, rfl⟩ := map_eq_some_iff.mp ht
    exact absurd (channel_eq (Bool.eq_false_iff.mpr hstores) hchannel) hchanged
  | _ =>
    obtain ⟨-, ht⟩ := ite_none_right_eq_some.mp ht
    cases ht
    exact (hsame rfl).elim

end Market

/-- In every state of every run: each publication of the worker was made for a command that was sent
after the last toggle, which has enabled the market; the worker publishes while the market is enabled
in the generation of the command; nothing else of the worker changes the snapshot; after a call that
has disabled the market there is no status and no refresh time; and `refresh_pending` says that
there is exactly one refresh being sent, queued or processed, with a worker that has not stopped. -/
theorem Market.results_stay_in_session (events : List Event) (s : Market)
    (hs : run step start events = some s) :
    Each Justified s.log ∧
    (∀ request snapshot next, s.worker = .gated request snapshot next → s.ui.drops = false →
      s.enabled = true ∧ s.generation = request.generation) ∧
    (∀ event t, s.step event = some t → t.current ≠ s.current →
      event = .ui ∨ event = .worker ∧ ∃ request, t.log = s.log ++ [.published request t.current]) ∧
    (s.ui = .idle → s.enabled = false →
      s.current.status = none ∧ s.current.nextRefreshAtSecs = 0) ∧
    (s.refreshPending = true ↔ s.worker ≠ .stopped ∧ s.refreshes = 1) ∧
    (s.worker ≠ .stopped → s.refreshes ≤ 1) ∧
    (s.ui = .idle → s.refreshes = s.carried) := by
  have h := inv_of_run hs
  refine ⟨h.justified, fun request snapshot next hworker => (h.present request snapshot next hworker).2.2,
    fun event t ht => current_of_step ht, fun hui he => h.quiet he (hui ▸ rfl) (hui ▸ rfl), ?_, ?_, ?_⟩
  · constructor
    · intro hpending
      have hne : s.worker ≠ .stopped := fun hstopped =>
        Bool.false_ne_true ((h.stopped hstopped).symm.trans hpending)
      refine ⟨hne, ?_⟩
      rw [h.pending hne, hpending]
      rfl
    · rintro ⟨hne, hone⟩
      have hcount := h.pending hne
      rw [hone] at hcount
      cases hpending : s.refreshPending with
      | true => rfl
      | false =>
        rw [hpending] at hcount
        cases hcount
  · intro hne
    rw [h.pending hne]
    exact Bool.toNat_le _
  · intro hui
    unfold refreshes
    rw [hui]
    exact Nat.zero_add _

/-- The market is enabled and a refresh is queued. -/
theorem Market.results_stay_in_session_refresh :
    ∃ s, run step start [.setEnabled true, .ui, .ui, .ui, .send .refreshSelected, .ui, .ui, .ui, .ui] =
      some s ∧ s.refreshPending = true ∧ s.carried = 1 := by
  obtain ⟨-, -, -, -, hpending, -, hcarried⟩ := Market.results_stay_in_session
    [.setEnabled true, .ui, .ui, .ui, .send .refreshSelected, .ui, .ui, .ui, .ui] _ rfl
  exact ⟨_, rfl, rfl, (hcarried rfl).symm.trans (hpending.mp rfl).2⟩

end OverCrow.Warframe
