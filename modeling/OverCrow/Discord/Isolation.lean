import OverCrow.Discord.Authorization

/-!
# Channel isolation

Every step of a session keeps the invariant, and therefore every run does. It follows that a
voice event of one channel never writes to the snapshot of another, and that the server's
subscriptions have one owner.
-/

namespace OverCrow.Discord
open OverCrow.Base List Option Session

/-! ### Voice events -/

namespace WorkerState

theorem SameChannels.trans {w w' w'' : WorkerState} (h : w.SameChannels w')
    (h' : w'.SameChannels w'') : w.SameChannels w'' where
  nonce := h'.nonce.trans h.nonce
  pending := h'.pending.trans h.pending
  subscribed := h'.subscribed.trans h.subscribed
  request := h'.request.trans h.request
  selected := h'.selected.trans h.selected
  connection := h'.connection.trans h.connection
  channel := by
    intro channel'' hchannel''
    obtain ⟨channel', hchannel', hid'⟩ := h'.channel channel'' hchannel''
    obtain ⟨channel, hchannel, hid⟩ := h.channel channel' hchannel'
    exact ⟨channel, hchannel, hid.trans hid'⟩

theorem sameChannels_setChannel_none (w : WorkerState) : w.SameChannels (w.setChannel none) :=
  ⟨rfl, rfl, rfl, rfl, rfl, rfl, nofun⟩

/-- Writing to the held channel leaves it the channel it is. -/
theorem sameChannels_modifyActiveChannel (w : WorkerState) {f : VoiceChannel → VoiceChannel}
    (hf : ∀ channel, (f channel).id = channel.id) : w.SameChannels (w.modifyActiveChannel f) := by
  unfold modifyActiveChannel
  split
  · next channel _ hchannel =>
    split
    · refine ⟨rfl, rfl, rfl, rfl, rfl, rfl, ?_⟩
      intro channel' hchannel'
      cases hchannel'
      exact ⟨_, hchannel, (hf _).symm⟩
    · exact .rfl
  · exact .rfl

end WorkerState

namespace VoiceEvent

/-- What `handle_event` does to the worker for a voice event. -/
def apply (ctx : EventContext) : VoiceEvent → WorkerState → WorkerState
  | .created participant => participantCreated ctx participant
  | .updated participant => participantUpdated ctx participant
  | .deleted userId => participantDeleted userId
  | .speaking userId isSpeaking => speakingChanged ctx userId isSpeaking

theorem exec_handleEvent (ctx : EventContext) (event : VoiceEvent) (s : Session) :
    (handleEvent ctx event.toRpc).exec s =
      (.ok (), { s with worker := event.apply ctx s.worker }) := by
  cases event <;> rfl

theorem sameChannels_apply (ctx : EventContext) (event : VoiceEvent) (w : WorkerState) :
    w.SameChannels (event.apply ctx w) := by
  cases event with
  | created | updated =>
    apply WorkerState.sameChannels_modifyActiveChannel
    intro channel
    split <;> simp
  | deleted userId =>
    change w.SameChannels (participantDeleted userId w)
    unfold participantDeleted
    dsimp only
    split
    · refine .trans (w.sameChannels_modifyActiveChannel ?_)
        (WorkerState.sameChannels_setChannel_none _)
      exact fun _ => rfl
    · exact w.sameChannels_modifyActiveChannel fun _ => rfl
  | speaking userId isSpeaking =>
    apply WorkerState.sameChannels_modifyActiveChannel
    intro channel
    simp

end VoiceEvent

namespace DiscordSystem

variable {link : Link} {s : DiscordSystem}

/-! ### Receiving -/

theorem outcome_of {ε : Type} {r : Except ε Unit × Session}
    (hok : ∀ t, r = (.ok (), t) → Invariant link { s with session := t })
    (herror : ∀ e t, r = (.error e, t) → Ordered { s with session := t }) : Outcome link s r := by
  rcases r with ⟨result, t⟩
  cases result with
  | ok _ => exact hok t rfl
  | error e => exact herror e t rfl

/-- A handler that either does nothing or fails without having sent anything. -/
theorem Invariant.outcome_of_unsent (h : s.Invariant link) {r : Except FailureCategory Unit × Session}
    (hr : r = (.ok (), s.session) ∨ ∃ e t, r = (.error e, t) ∧ t.socket = s.session.socket) :
    Outcome link s r := by
  rcases hr with rfl | ⟨e, t, rfl, hsocket⟩
  · exact h
  · refine Ordered.withSession h.owned.order ?_
    rw [hsocket]

theorem exec_handleSubscriptionError (command : String) (nonce : Option String) (s : Session) :
    (handleSubscriptionError command nonce).exec s = (.ok (), s) ∨
      ∃ e t, (handleSubscriptionError command nonce).exec s = (.error e, t) ∧
        t.socket = s.socket := by
  unfold handleSubscriptionError
  cases nonce with
  | none => exact .inr ⟨_, _, rfl, rfl⟩
  | some nonce =>
    simp only [Task.exec_bind, Task.exec_get]
    split
    · exact .inl rfl
    · split <;> exact .inr ⟨_, _, rfl, rfl⟩

theorem exec_handleSelectedChannelError (nonce : Option String) (s : Session) :
    (handleSelectedChannelError nonce).exec s = (.ok (), s) ∨
      ∃ e t, (handleSelectedChannelError nonce).exec s = (.error e, t) ∧
        t.socket = s.socket := by
  unfold handleSelectedChannelError
  cases nonce with
  | none => exact .inr ⟨_, _, rfl, rfl⟩
  | some nonce =>
    simp only [Task.exec_bind, Task.exec_get]
    split
    · exact .inl rfl
    · exact .inr ⟨_, _, rfl, rfl⟩

theorem Invariant.providerError (h : s.Invariant link) (ctx : EventContext)
    (command : Option String) (code : Int) (nonce : Option String) :
    Outcome link s ((handleProviderError ctx command code nonce).exec s.session) := by
  unfold handleProviderError
  split
  · exact h.authenticateError ctx code nonce
  · split
    · exact h.authorizeError nonce
    · split
      · exact h.outcome_of_unsent (exec_handleSubscriptionError _ nonce s.session)
      · split
        · exact h.outcome_of_unsent (exec_handleSubscriptionError _ nonce s.session)
        · split
          · exact h.outcome_of_unsent (exec_handleSelectedChannelError nonce s.session)
          · exact h

section Receive

variable {m : Message} {rest : List Message} {budget : Nat} {failure : BackendError}

section

variable (h : s.Invariant link) (htake : s.toClient = m :: rest)

include h htake

/-- An answer that is skipped, or that says a request failed. -/
theorem Invariant.answered
    {c : SentCommand} (hc : m.answers = some c) (hcommand : ∀ p, c.command ≠ .subscription p) :
    Invariant link
      { s.taken m rest with session := (s.taken m rest).withBudget link budget failure } :=
  (h.settled htake (h.settles_of_not_subscription htake hc hcommand (.inl rfl))).withBudget
    budget failure

theorem Invariant.handleReply
    {c : SentCommand} {reply : SelectedChannelReply} (hbody : m.body = .reply c reply)
    {event : DiscordRpcEvent} (hevent : replyEvent c reply = some event) (ctx : EventContext) :
    Outcome link (s.taken m rest) ((handleEvent ctx event).exec
      ((s.taken m rest).withBudget link budget failure)) := by
  have hc : m.answers = some c := by
    unfold Message.answers
    rw [hbody]
  unfold replyEvent at hevent
  split at hevent
  · cases hevent
    exact outcome_of (fun t ht => h.subscriptionChanged htake hc ht)
      (fun e t ht => h.subscriptionChanged_error htake hc ht)
  · next hcommand =>
    cases hevent
    exact outcome_of (fun t ht => h.channelSnapshot htake hc hcommand ht)
      (fun e t ht => h.channelSnapshot_error htake hc hcommand ht)
  · next hcommand =>
    cases hevent
    have hanswered : Invariant link
        { s.taken m rest with session := (s.taken m rest).withBudget link budget failure } :=
      h.answered htake hc (fun p hp => nomatch hcommand.symm.trans hp)
    exact hanswered.providerError ctx _ _ _
  · cases hevent

/-- Handling any message keeps the invariant. -/
theorem Invariant.handleEvent
    {event : DiscordRpcEvent} (hevent : m.event = some event) (ctx : EventContext) :
    Outcome link (s.taken m rest) ((handleEvent ctx event).exec
      ((s.taken m rest).withBudget link budget failure)) := by
  have hmem : m ∈ s.toClient := by
    rw [htake]
    exact mem_cons_self
  have htaken (hm : m.answers = none) : Invariant link
      { s.taken m rest with session := (s.taken m rest).withBudget link budget failure } :=
    (h.taken htake hm).withBudget budget failure
  unfold Message.event at hevent
  unfold Message.answers at htaken
  cases hbody : m.body with
  | ready =>
    rw [hbody] at hevent htaken
    cases hevent
    obtain ⟨hconnection, hdone⟩ := h.once.of_ready htake hbody
    have hv := htaken rfl
    have hwaiting : Waiting link
        { s.taken m rest with session := (s.taken m rest).withBudget link budget failure } :=
      ⟨hv.numbered, hv.fresh (by
        change s.worker.snapshot.connection ≠ _
        simp [hconnection]), hdone⟩
    refine outcome_of (fun t ht => ?_) (fun e t ht => ?_)
    · exact ((keeps_handleReady ctx).of_ok hwaiting ht).invariant
    · exact (keeps_handleReady ctx).of_error hwaiting ht
  | reply c reply =>
    rw [hbody] at hevent
    exact h.handleReply htake hbody hevent ctx
  | voice x voiceEvent =>
    rw [hbody] at hevent htaken
    cases hevent
    rw [VoiceEvent.exec_handleEvent]
    exact (htaken rfl).withWorker _ (voiceEvent.sameChannels_apply ctx _)
  | selected channelId =>
    rw [hbody] at hevent htaken
    cases hevent
    have hready : s.worker.snapshot.connection = .ready := by
      by_contra hconnection
      exact ((h.fresh hconnection).messages m hmem).2 channelId hbody
    exact outcome_of (fun t ht => (htaken rfl).channelSelected hready ht)
      (fun e t ht => (htaken rfl).channelSelected_error ht)
  | unsolicited message =>
    rw [hbody] at hevent htaken
    have hv := htaken rfl
    cases message with
    | authorizationGranted nonce code =>
      cases hevent
      exact hv.authorizationGranted ctx nonce code
    | authenticated nonce userId =>
      cases hevent
      exact outcome_of (fun t ht => hv.authenticated ht) (fun e t ht => hv.authenticated_error ht)
    | providerError command code nonce =>
      cases hevent
      exact hv.providerError ctx command code nonce
    | ignored =>
      cases hevent
      exact hv
    | malformed => cases hevent

end

end Receive

/-! ### Steps -/

/-- What holds in every state of a run: the invariant while the session runs, and the order of
what was sent also afterwards. -/
structure Sound (link : Link) (s : DiscordSystem) : Prop where
  invariant : s.running = true → s.Invariant link
  ordered : s.Ordered

theorem Invariant.sound (h : s.Invariant link) : s.Sound link := ⟨fun _ => h, h.owned.order⟩

/-- A session that goes on. -/
theorem Invariant.sound_running (h : s.Invariant link) (hrunning : s.running = true) :
    Sound link { s with running := true } := by
  have hsame : { s with running := true } = s := by
    cases s
    cases hrunning
    rfl
  rw [hsame]
  exact h.sound

/-- A session that ends without sending anything more. -/
theorem Ordered.sound_ended (h : s.Ordered) {t : Session} (hqueue : t.socket.queue = s.queue) :
    Sound link { s with session := t, running := false } :=
  ⟨nofun, h.withSession hqueue⟩

theorem ReadyOnce.send (h : s.ReadyOnce) {body : MessageBody} (hbody : body ≠ .ready) :
    (s.send body).ReadyOnce := by
  have hreadies : (s.send body).readies = s.readies := by
    unfold readies DiscordSystem.send
    rw [filter_append, filter_singleton]
    simp [hbody]
  unfold ReadyOnce
  rw [hreadies]
  exact h

theorem Invariant.sendReady (h : s.Invariant link) (hready : s.readySent = false) :
    ({ s with readySent := true }.send .ready).Invariant link := by
  refine h.send true rfl ?_ (fun _ => ⟨nofun, nofun⟩) nofun
  have hreadies : ({ s with readySent := true }.send .ready).readies.length =
      s.readies.length + 1 := by
    unfold readies DiscordSystem.send
    rw [filter_append, length_append]
    rfl
  have honce := h.once
  unfold ReadyOnce at honce ⊢
  rw [hready] at honce
  rw [hreadies]
  exact honce

theorem Invariant.sendVoice (h : s.Invariant link) {channelId : String}
    (hheld : s.held.any (·.1 = channelId) = true) (event : VoiceEvent) :
    (s.send (.voice channelId event)).Invariant link := by
  obtain ⟨y, hy, hid⟩ := any_eq_true.mp hheld
  refine h.send s.readySent rfl (h.once.send nofun) (fun hf => ?_) ?_
  · rw [hf.held] at hy
    cases hy
  · intro x event' hbody
    cases hbody
    exact ⟨y, hy, of_decide_eq_true hid⟩

theorem Invariant.sendSelected (h : s.Invariant link) (hselect : s.selectSubscribed = true)
    (channelId : Option String) : (s.send (.selected channelId)).Invariant link := by
  refine h.send s.readySent rfl (h.once.send nofun) (fun hf => ?_) nofun
  rw [hf.selectSubscribed] at hselect
  cases hselect

theorem Invariant.process (h : s.Invariant link) {sent : SentCommand} {queue : List SentCommand}
    (hqueue : s.queue = sent :: queue) (reply : SelectedChannelReply) :
    (s.serve sent queue reply).Invariant link := by
  refine h.serve hqueue reply ?_
  exact ReadyOnce.send (s := { s with
    session := { s.session with socket := { s.session.socket with queue } }
    held := sent.command.hold s.held
    selectSubscribed := s.selectSubscribed ||
      decide (sent.command = RpcCommand.subscription ⟨.subscribe, .voiceChannelSelect, none⟩)
    served := sent.seq }) h.once nofun

theorem publish_sameChannels (w : WorkerState) : w.SameChannels w.publish :=
  ⟨rfl, rfl, rfl, rfl, rfl, rfl, fun channel h => ⟨channel, h, rfl⟩⟩

/-- A message that cannot be parsed is skipped. -/
theorem Invariant.skipped (h : s.Invariant link) {m : Message} {rest : List Message}
    (htake : s.toClient = m :: rest) (hevent : m.event = none) (budget : Nat)
    (failure : BackendError) : Invariant link
      { s.taken m rest with session := (s.taken m rest).withBudget link budget failure } := by
  cases hc : m.answers with
  | none => exact (h.taken htake hc).withBudget budget failure
  | some c =>
    refine h.answered htake hc fun p hp => ?_
    unfold Message.answers at hc
    unfold Message.event at hevent
    split at hc
    · next sent reply hbody =>
      cases hc
      rw [hbody] at hevent
      change replyEvent c reply = none at hevent
      unfold replyEvent at hevent
      rw [hp] at hevent
      cases hevent
    · cases hc

section

variable (h : s.Invariant link) (hrunning : s.running = true)

include h hrunning

theorem Invariant.receive {m : Message} {rest : List Message} (htake : s.toClient = m :: rest)
    (around : Surroundings) : Sound link (s.receive link around m rest) := by
  unfold DiscordSystem.receive Session.onMessage
  cases hevent : m.event with
  | none => exact (h.skipped htake hevent around.budget around.failure).sound_running hrunning
  | some event =>
    have houtcome : Outcome link (s.taken m rest) ((Session.handleEvent around.ctx event).exec
        ((s.taken m rest).withBudget link around.budget around.failure)) :=
      h.handleEvent htake hevent around.ctx
    dsimp only
    rcases hexec : (Session.handleEvent around.ctx event).exec
      ((s.taken m rest).withBudget link around.budget around.failure) with ⟨result, t⟩
    rw [hexec] at houtcome
    cases result with
    | error category => exact ⟨nofun, houtcome⟩
    | ok _ =>
      have hhandled : Invariant link { s.taken m rest with session := t } := houtcome
      dsimp only
      split
      · exact (hhandled.withWorker t.auth (publish_sameChannels t.worker)).sound_running hrunning
      · exact Ordered.sound_ended (s := { s.taken m rest with session := t }) hhandled.owned.order rfl

theorem Invariant.connected (around : Surroundings) {t : DiscordSystem}
    (hstep : s.step link (.connect around) = some t) : t.Sound link := by
  have houtcome := (h.withBudget around.budget around.failure).connect around.ctx around.clientId
  unfold DiscordSystem.step at hstep
  dsimp only at hstep
  rw [if_pos hrunning] at hstep
  rcases hexec : (Session.connect around.ctx around.clientId).exec
    (s.withBudget link around.budget around.failure) with ⟨result, session⟩
  rw [hexec] at houtcome hstep
  cases result with
  | ok _ =>
    cases hstep
    exact Invariant.sound houtcome
  | error e =>
    cases hstep
    exact ⟨nofun, houtcome⟩

theorem Invariant.signOut (ctx : EventContext) :
    Sound link { s with
      session := (s.session.processSignOut ctx).1
      running := !(s.session.processSignOut ctx).2 } := by
  unfold processSignOut
  dsimp only
  cases hsignedOut : (s.session.auth.invalidate ctx.services).1.isOk with
  | true => exact Ordered.sound_ended h.owned.order rfl
  | false =>
    refine (h.withWorker _ ?_).sound_running hrunning
    exact ⟨rfl, rfl, rfl, rfl, rfl, rfl, fun channel h => ⟨channel, h, rfl⟩⟩

end

/-- Every step keeps a session sound. -/
theorem Sound.step (h : s.Sound link) {a : Action} {t : DiscordSystem}
    (hstep : s.step link a = some t) : t.Sound link := by
  unfold DiscordSystem.step at hstep
  cases a with
  | sendReady =>
    obtain ⟨⟨hrunning, hready⟩, hnext⟩ := ite_none_right_eq_some.mp hstep
    cases hnext
    exact ((h.invariant hrunning).sendReady (Bool.eq_false_of_not_eq_true hready)).sound
  | process reply =>
    dsimp only at hstep
    split at hstep
    · next sent queue hqueue =>
      obtain ⟨hrunning, hnext⟩ := ite_none_right_eq_some.mp hstep
      cases hnext
      exact ((h.invariant hrunning).process hqueue reply).sound
    · cases hstep
  | sendVoice channelId event =>
    obtain ⟨⟨hrunning, hheld⟩, hnext⟩ := ite_none_right_eq_some.mp hstep
    cases hnext
    exact ((h.invariant hrunning).sendVoice hheld event).sound
  | sendSelected channelId =>
    obtain ⟨⟨hrunning, hselect⟩, hnext⟩ := ite_none_right_eq_some.mp hstep
    cases hnext
    exact ((h.invariant hrunning).sendSelected hselect channelId).sound
  | sendUnsolicited message =>
    obtain ⟨hrunning, hnext⟩ := ite_none_right_eq_some.mp hstep
    cases hnext
    have hinvariant := h.invariant hrunning
    have hsent : (s.send (.unsolicited message)).Invariant link :=
      hinvariant.send s.readySent rfl (hinvariant.once.send nofun) (fun _ => ⟨nofun, nofun⟩) nofun
    exact hsent.sound
  | receive around =>
    dsimp only at hstep
    split at hstep
    · next m rest htake =>
      obtain ⟨hrunning, hnext⟩ := ite_none_right_eq_some.mp hstep
      cases hnext
      exact (h.invariant hrunning).receive hrunning htake around
    · cases hstep
  | connect around =>
    by_cases hrunning : s.running = true
    · exact (h.invariant hrunning).connected hrunning around hstep
    · dsimp only at hstep
      rw [if_neg hrunning] at hstep
      cases hstep
  | signOut ctx =>
    obtain ⟨hrunning, hnext⟩ := ite_none_right_eq_some.mp hstep
    cases hnext
    exact (h.invariant hrunning).signOut hrunning ctx
  | gateChanged gate =>
    obtain ⟨hrunning, hstep⟩ := ite_none_right_eq_some.mp hstep
    split at hstep
    · cases hstep
      exact h
    · cases hstep
      exact h.ordered.sound_ended rfl
  | close =>
    obtain ⟨-, hnext⟩ := ite_none_right_eq_some.mp hstep
    cases hnext
    exact h.ordered.sound_ended rfl

theorem sound_start (link : Link) (worker : WorkerState) (auth : DiscordAuth) (now : Instant)
    (timeout : Duration) : (start worker auth now timeout).Sound link := by
  apply Invariant.sound
  apply Invariant.of_fresh
  · exact
      { nonce := rfl
        wire := fun _ hc => absurd hc not_mem_nil
        numbers := rfl
        sent := rfl
        room := Nat.zero_le _
        times := fun _ hm => absurd hm not_mem_nil
        sorted := .nil
        reached := fun _ hm => absurd hm not_mem_nil
        waiting := fun _ hc => absurd hc not_mem_nil
        served_le := Nat.le_refl _ }
  · exact Nat.le_refl 1
  · exact
      { commands := fun _ hc => absurd hc not_mem_nil
        pending := rfl
        subscribed := rfl
        request := rfl
        selected := rfl
        held := rfl
        selectSubscribed := rfl
        messages := fun _ hm => absurd hm not_mem_nil }

/-- Every state of every run is sound. -/
theorem sound_of_reaches {worker : WorkerState} {auth : DiscordAuth} {now : Instant}
    {timeout : Duration} (h : Reaches (step link) (start worker auth now timeout) s) : s.Sound link :=
  reaches_invariant (fun _ _ _ hs hstep => Sound.step hs hstep)
    (sound_start link worker auth now timeout) h

/-! ### Channel isolation -/

section Runs

variable {worker : WorkerState} {auth : DiscordAuth} {now : Instant} {timeout : Duration}

/-- In every run of a session, handling an event that the server emitted for the channel `x`
leaves the held channel as it is, unless the channel held is `x`. -/
theorem channel_isolation (h : Reaches (step link) (start worker auth now timeout) s)
    (hrunning : s.running = true) {served : Nat} {x : String} {event : VoiceEvent}
    {rest : List Message} (htake : s.toClient = ⟨served, .voice x event⟩ :: rest)
    (ctx : EventContext) (budget : Nat) (failure : BackendError) :
    ((handleEvent ctx event.toRpc).exec ((s.taken ⟨served, .voice x event⟩ rest).withBudget
        link budget failure)).2.worker.snapshot.channel = s.session.worker.snapshot.channel ∨
      ∃ channel, s.session.worker.snapshot.channel = some channel ∧ channel.id = x := by
  have hinvariant := (sound_of_reaches h).invariant hrunning
  rw [VoiceEvent.exec_handleEvent]
  cases hchannel : s.session.worker.snapshot.channel with
  | none =>
    left
    have hsame := event.sameChannels_apply ctx s.worker
    change (event.apply ctx s.worker).snapshot.channel = none
    cases hafter : (event.apply ctx s.worker).snapshot.channel with
    | none => rfl
    | some channel' =>
      obtain ⟨channel, hsome, -⟩ := hsame.channel channel' hafter
      cases hchannel.symm.trans hsome
  | some channel =>
    right
    have hmem : ⟨served, .voice x event⟩ ∈ s.toClient := by
      rw [htake]
      exact mem_cons_self
    exact ⟨channel, rfl, ((hinvariant.holds channel hchannel).voice _ hmem x event rfl).symm⟩

/-- In every run of a session, although the counter of the nonces wraps, no two unanswered commands share a
nonce, and every subscription that the client waits for is exactly one of them. -/
theorem answers_unambiguous (h : Reaches (step link) (start worker auth now timeout) s)
    (hrunning : s.running = true) :
    (s.unanswered.map SentCommand.nonce).Nodup ∧
      ∀ (nonce : String) p, s.session.worker.pendingSubscriptions[nonce]? = some p →
        ∃! c, c ∈ s.unanswered ∧ c.nonce = nonce ∧ c.command = .subscription p := by
  have hinvariant := (sound_of_reaches h).invariant hrunning
  have hnonce := fun c hc d hd => hinvariant.numbered.eq_of_nonce (c := c) (d := d) hc hd
  refine ⟨hinvariant.numbered.nodup.of_map.map_on hnonce, fun nonce p hp => ?_⟩
  obtain ⟨c, hc, rfl, hcommand⟩ := hinvariant.tracked.pending nonce p hp
  exact ⟨c, ⟨hc, rfl, hcommand⟩, fun d hd => hnonce d hd.1 c hc hd.2.1⟩

end Runs

/-! A session that joined the channel `a`, was told of the selection of `b`, and finds an event
of `a` behind it. -/

def sampleLink : Link := ⟨1000, by decide⟩

def sampleAuth : DiscordAuth where
  credentials := some ⟨"access", "refresh", 1000, by decide +kernel, by decide +kernel, by decide⟩
  persisted := true

def joinActions : List Action :=
  [.sendReady, .receive sampleAround, .sendUnsolicited (.authenticated "1" "me"),
    .receive sampleAround, .process .malformed, .receive sampleAround,
    .process .malformed, .receive sampleAround,
    .process (.channel (some ⟨"a", "A", []⟩)), .receive sampleAround]

def switchActions : List Action :=
  joinActions ++ [.process .malformed, .receive sampleAround, .sendSelected (some "b"),
    .sendVoice "a" (.deleted "me"), .receive sampleAround]

theorem answers_unambiguous_join :
    ∃ s, Reaches (step sampleLink) (start {} sampleAuth 0 0) s ∧
      (s.unanswered.map SentCommand.nonce).Nodup := by
  have hrun : (run (step sampleLink) (start {} sampleAuth 0 0) joinActions).map running = some true := by
    decide +kernel
  obtain ⟨s, hs, hrunning⟩ := map_eq_some_iff.mp hrun
  exact ⟨s, ⟨_, hs⟩, (answers_unambiguous ⟨_, hs⟩ hrunning).1⟩

theorem channel_isolation_switch :
    ∃ s, Reaches (step sampleLink) (start {} sampleAuth 0 0) s ∧ s.running = true ∧
      s.toClient = [⟨4, .voice "a" (.deleted "me")⟩] ∧
      (((handleEvent sampleAround.ctx (VoiceEvent.deleted "me").toRpc).exec
          ((s.taken ⟨4, .voice "a" (.deleted "me")⟩ []).withBudget sampleLink 0
            .timeout)).2.worker.snapshot.channel = s.session.worker.snapshot.channel ∨
        ∃ channel, s.session.worker.snapshot.channel = some channel ∧ channel.id = "a") := by
  have hrun : ((run (step sampleLink) (start {} sampleAuth 0 0) switchActions).map
      fun s => (s.running, s.toClient)) = some (true, [⟨4, .voice "a" (.deleted "me")⟩]) := by
    decide +kernel
  obtain ⟨s, hs, heq⟩ := map_eq_some_iff.mp hrun
  obtain ⟨hrunning, htake⟩ := Prod.mk.inj heq
  exact ⟨s, ⟨switchActions, hs⟩, hrunning, htake,
    channel_isolation ⟨switchActions, hs⟩ hrunning htake sampleAround.ctx 0 .timeout⟩

/-! ### One owner -/

/-- Commands that concern no channel leave the server's subscriptions alone. -/
theorem mem_holdAll_iff_of_unscoped {held : List Subscription} {commands : List SentCommand}
    (h : ∀ c ∈ commands, ∀ command x, ¬c.Scoped command x) {x : Subscription} :
    x ∈ holdAll held commands ↔ x ∈ held := by
  constructor
  · intro hx
    rcases mem_holdAll hx with hheld | ⟨c, hc, hscoped⟩
    · exact hheld
    · exact absurd hscoped (h c hc _ _)
  · exact fun hx => mem_holdAll_of_mem hx fun c hc => h c hc .unsubscribe

/-- With nothing pending, what the server holds is what the client believes it holds. -/
theorem Invariant.held_iff (h : s.Invariant link) (hpending : s.worker.pendingSubscriptions = ∅)
    (hrequest : s.worker.pendingChannelSnapshotNonce = none) (x : String) (event : VoiceSubscriptionEvent) :
    (x, event) ∈ s.held ↔
      s.worker.subscribedChannelId = some x ∧ event ∈ VoiceSubscriptionEvent.channelScoped := by
  rw [← h.owned.settled, mem_holdAll_iff_of_unscoped]
  rintro c hc command y ⟨event', hcommand⟩
  rcases h.requested.subscribe c (mem_unanswered_of_queue hc) _ hcommand with hp | ⟨g, hg, -⟩
  · rw [hpending, Std.ExtTreeMap.getElem?_empty] at hp
    cases hp
  · cases hrequest.symm.trans hg.pending

/-- In every run of a session the server's subscriptions and the pending ones are of one channel,
no subscribe to a channel is sent while an unsubscribe is unanswered, and with nothing pending
the server holds exactly the five subscriptions of the subscribed channel. -/
theorem single_subscription_owner {worker : WorkerState} {auth : DiscordAuth} {now : Instant}
    {timeout : Duration} (h : Reaches (step link) (start worker auth now timeout) s) :
    s.Ordered ∧ (s.running = true →
      (∃ owner, (∀ x ∈ s.held, x.1 = owner) ∧ ∀ (nonce : String) p channelId,
        s.session.worker.pendingSubscriptions[nonce]? = some p → p.channelId = some channelId →
          channelId = owner) ∧
      (s.session.worker.pendingSubscriptions = ∅ →
        s.session.worker.pendingChannelSnapshotNonce = none → ∀ x event, (x, event) ∈ s.held ↔
          s.session.worker.subscribedChannelId = some x ∧
            event ∈ VoiceSubscriptionEvent.channelScoped)) := by
  have hsound := sound_of_reaches h
  refine ⟨hsound.ordered, fun hrunning => ?_⟩
  have hinvariant := hsound.invariant hrunning
  refine ⟨?_, hinvariant.held_iff⟩
  obtain ⟨owner, hcommands, hheld, -⟩ := hinvariant.owned.owner
  refine ⟨owner, hheld, ?_⟩
  rintro nonce ⟨command, event, _⟩ channelId hp rfl
  obtain ⟨c, hc, -, hcommand⟩ := hinvariant.tracked.pending nonce _ hp
  exact hcommands c hc command channelId ⟨event, hcommand⟩

def settleActions : List Action :=
  joinActions ++ replicate 5 (.process .malformed) ++ replicate 5 (.receive sampleAround)

theorem single_subscription_owner_settled :
    ∃ s, Reaches (step sampleLink) (start {} sampleAuth 0 0) s ∧ s.Ordered ∧
      s.session.worker.subscribedChannelId = some "a" ∧
      ∀ x event, (x, event) ∈ s.held ↔ s.session.worker.subscribedChannelId = some x ∧
        event ∈ VoiceSubscriptionEvent.channelScoped := by
  have hrun : ((run (step sampleLink) (start {} sampleAuth 0 0) settleActions).map fun s =>
      (s.running, s.worker.pendingSubscriptions.isEmpty, s.worker.pendingChannelSnapshotNonce,
        s.worker.subscribedChannelId)) = some (true, true, none, some "a") := by
    decide +kernel
  obtain ⟨s, hs, heq⟩ := map_eq_some_iff.mp hrun
  obtain ⟨hrunning, heq⟩ := Prod.mk.inj heq
  obtain ⟨hpending, heq⟩ := Prod.mk.inj heq
  obtain ⟨hrequest, hsubscribed⟩ := Prod.mk.inj heq
  have howner := single_subscription_owner ⟨settleActions, hs⟩
  exact ⟨s, ⟨settleActions, hs⟩, howner.1, hsubscribed,
    (howner.2 hrunning).2 (Std.ExtTreeMap.isEmpty_iff.mp hpending) hrequest⟩

end DiscordSystem

end OverCrow.Discord
