import OverCrow.Discord.Session

/-!
# What the client sends

The session after a successful send, and after each of the sequences of sends that
`handle_event` makes. Later proofs use these states and never unfold the handlers' monad.
-/

namespace OverCrow.Discord.Session
open OverCrow.Base

@[simp] theorem exec_modifyWorker {ε : Type} (f : WorkerState → WorkerState) (s : Session) :
    (modifyWorker f : Task Session ε Unit).exec s = (.ok (), { s with worker := f s.worker }) :=
  rfl

theorem exec_modifyWorker_bind {ε α : Type} (f : WorkerState → WorkerState)
    (g : Unit → Task Session ε α) (s : Session) :
    (modifyWorker f >>= g).exec s = (g ()).exec { s with worker := f s.worker } := rfl

/-- The command that would be sent next. -/
def nextCommand (s : Session) (command : RpcCommand) : SentCommand :=
  ⟨s.socket.sent + 1, toString ((s.worker.nonce + 1) % 2 ^ 64), command⟩

/-- The session after a successful send. -/
def afterSend (s : Session) (command : RpcCommand) : Session :=
  { s with
    worker := { s.worker with nonce := (s.worker.nonce + 1) % 2 ^ 64 }
    socket :=
      { s.socket with
        queue := s.socket.queue ++ [s.nextCommand command]
        sent := s.socket.sent + 1
        budget := s.socket.budget - 1 } }

variable {s t : Session}

theorem exec_sendPayload_eq_ok {command : RpcCommand} {nonce : String} :
    (sendPayload command).exec s = (.ok nonce, t) ↔
      s.socket.budget ≠ 0 ∧ nonce = (s.nextCommand command).nonce ∧ t = s.afterSend command := by
  unfold sendPayload
  simp only [Task.exec_bind, exec_modifyWorker, Task.exec_get]
  split
  · next h => simp [h]
  · next h =>
    change ((.ok _, s.afterSend command) : Except _ _ × Session) = _ ↔ _
    simp only [Prod.mk.injEq, Except.ok.injEq]
    constructor
    · rintro ⟨rfl, rfl⟩
      exact ⟨h, rfl, rfl⟩
    · rintro ⟨-, rfl, rfl⟩
      exact ⟨rfl, rfl⟩

variable {e : BackendError}

/-- A failed send puts nothing on the socket. -/
theorem exec_sendPayload_error {command : RpcCommand}
    (h : (sendPayload command).exec s = (.error e, t)) : t.socket = s.socket := by
  unfold sendPayload at h
  simp only [Task.exec_bind, exec_modifyWorker, Task.exec_get] at h
  split at h
  · cases h
    rfl
  · cases h

section Note

variable {command : RpcCommand} {f : String → WorkerState → WorkerState} {s t : Session}

/-- A command is sent, and its nonce is noted. -/
theorem exec_sendPayload_note_eq_ok :
    (sendPayload command >>= fun nonce => modifyWorker (f nonce)).exec s = (.ok (), t) ↔
      s.socket.budget ≠ 0 ∧ t = { s.afterSend command with
        worker := f (s.nextCommand command).nonce (s.afterSend command).worker } := by
  rw [Task.exec_bind_eq_ok]
  constructor
  · rintro ⟨nonce, m, hsend, hmodify⟩
    obtain ⟨hb, rfl, rfl⟩ := exec_sendPayload_eq_ok.mp hsend
    cases hmodify
    exact ⟨hb, rfl⟩
  · rintro ⟨hb, rfl⟩
    exact ⟨_, _, exec_sendPayload_eq_ok.mpr ⟨hb, rfl, rfl⟩, rfl⟩

theorem exec_sendPayload_note_error {e : BackendError}
    (h : (sendPayload command >>= fun nonce => modifyWorker (f nonce)).exec s = (.error e, t)) :
    t.socket = s.socket := by
  rcases Task.exec_bind_eq_error.mp h with hsend | ⟨_, m, -, hmodify⟩
  · exact exec_sendPayload_error hsend
  · cases hmodify

end Note

/-- The session after `send_subscription`. -/
def afterSubscription (ctx : EventContext) (s : Session) (pending : PendingSubscription) :
    Session :=
  let t := s.afterSend (.subscription pending)
  { t with worker :=
    { t.worker with
      pendingSubscriptions := t.worker.pendingSubscriptions.insert
        (s.nextCommand (.subscription pending)).nonce pending
      setupDeadline := some (ctx.now + ctx.timeout) } }

variable {ctx : EventContext} {pending : PendingSubscription}

theorem exec_sendSubscription_eq_ok :
    (sendSubscription ctx pending).exec s = (.ok (), t) ↔
      s.socket.budget ≠ 0 ∧ t = s.afterSubscription ctx pending := by
  exact exec_sendPayload_note_eq_ok

theorem exec_sendSubscription_error
    (h : (sendSubscription ctx pending).exec s = (.error e, t)) : t.socket = s.socket := by
  exact exec_sendPayload_note_error h

/-- The session after a subscription was sent for each of the events. -/
def afterSubscriptions (ctx : EventContext) (command : SubscriptionCommand) (channelId : String) :
    List VoiceSubscriptionEvent → Session → Session
  | [], s => s
  | event :: events, s =>
    afterSubscriptions ctx command channelId events
      (s.afterSubscription ctx ⟨command, event, some channelId⟩)

theorem exec_sendSubscriptions_eq_ok {command : SubscriptionCommand}
    {channelId : String} {events : List VoiceSubscriptionEvent} :
    (sendSubscriptions ctx command channelId events).exec s = (.ok (), t) ↔
      events.length ≤ s.socket.budget ∧
        t = afterSubscriptions ctx command channelId events s := by
  induction events generalizing s with
  | nil =>
    simp only [sendSubscriptions, Task.exec_pure, Prod.mk.injEq, true_and, afterSubscriptions,
      List.length_nil, Nat.zero_le]
    exact eq_comm
  | cons event events ih =>
    rw [sendSubscriptions, Task.exec_bind_eq_ok]
    constructor
    · rintro ⟨_, m, hfirst, hrest⟩
      obtain ⟨hb, rfl⟩ := exec_sendSubscription_eq_ok.mp hfirst
      obtain ⟨hle, rfl⟩ := ih.mp hrest
      refine ⟨?_, rfl⟩
      change events.length ≤ s.socket.budget - 1 at hle
      rw [List.length_cons]
      omega
    · rintro ⟨hle, rfl⟩
      rw [List.length_cons] at hle
      refine ⟨(), _, exec_sendSubscription_eq_ok.mpr ⟨by omega, rfl⟩, ih.mpr ⟨?_, rfl⟩⟩
      change events.length ≤ s.socket.budget - 1
      omega

/-- The session after `request_selected_channel`. -/
def afterRequest (ctx : EventContext) (s : Session) : Session :=
  let t := s.afterSend .getSelectedVoiceChannel
  { t with worker :=
    { t.worker with
      pendingChannelSnapshotNonce := some (s.nextCommand .getSelectedVoiceChannel).nonce
      channelSnapshotReceived := false
      setupDeadline := some (ctx.now + ctx.timeout) } }

theorem exec_requestSelectedChannel_eq_ok :
    (requestSelectedChannel ctx).exec s = (.ok (), t) ↔
      s.socket.budget ≠ 0 ∧ t = s.afterRequest ctx := by
  exact exec_sendPayload_note_eq_ok

theorem exec_requestSelectedChannel_error
    (h : (requestSelectedChannel ctx).exec s = (.error e, t)) : t.socket = s.socket := by
  exact exec_sendPayload_note_error h

/-- The session with another subscribed channel noted. -/
def setSubscribed (s : Session) (channelId : Option String) : Session :=
  { s with worker := { s.worker with subscribedChannelId := channelId } }

/-- What a successful `reconcile_channel_subscriptions` did: nothing, give up the subscribed
channel, or subscribe to the held one. -/
theorem exec_reconcile_cases (h : (reconcileChannelSubscriptions ctx).exec s = (.ok (), t)) :
    (t = s ∧ (s.worker.unsubscribePending = true ∨
      s.worker.subscribedChannelId = s.worker.snapshot.channel.map VoiceChannel.id)) ∨
    (∃ previous, s.worker.unsubscribePending = false ∧
      s.worker.subscribedChannelId = some previous ∧
      s.worker.snapshot.channel.map VoiceChannel.id ≠ some previous ∧
      VoiceSubscriptionEvent.channelScoped.length ≤ s.socket.budget ∧
      t = afterSubscriptions ctx .unsubscribe previous VoiceSubscriptionEvent.channelScoped
        (s.setSubscribed none)) ∨
    (∃ next, s.worker.unsubscribePending = false ∧ s.worker.subscribedChannelId = none ∧
      s.worker.snapshot.channel.map VoiceChannel.id = some next ∧
      VoiceSubscriptionEvent.channelScoped.length ≤ s.socket.budget ∧
      t = (afterSubscriptions ctx .subscribe next VoiceSubscriptionEvent.channelScoped
        s).setSubscribed (some next)) := by
  unfold reconcileChannelSubscriptions at h
  simp only [Task.exec_bind, Task.exec_get] at h
  split at h
  · next hp =>
    cases h
    exact .inl ⟨rfl, .inl hp⟩
  · next hp =>
    rw [Bool.not_eq_true] at hp
    split at h
    · next heq =>
      cases h
      exact .inl ⟨rfl, .inr heq⟩
    · next hne =>
      split at h
      · next previous hprevious =>
        rw [exec_modifyWorker_bind] at h
        obtain ⟨hle, rfl⟩ := exec_sendSubscriptions_eq_ok.mp h
        rw [hprevious] at hne
        exact .inr (.inl ⟨previous, hp, hprevious, fun heq => hne heq.symm, hle, rfl⟩)
      · next hprevious hnext => exact absurd (hprevious.trans hnext.symm) hne
      · next next hprevious hnext =>
        rw [Task.exec_bind_eq_ok] at h
        obtain ⟨_, m, hsend, hmodify⟩ := h
        obtain ⟨hle, rfl⟩ := exec_sendSubscriptions_eq_ok.mp hsend
        cases hmodify
        exact .inr (.inr ⟨next, hp, hprevious, hnext, hle, rfl⟩)

end OverCrow.Discord.Session
