import OverCrow.Base.History
import OverCrow.Twitch.Worker

/-!
# Where messages go

While the worker is joined, it knows whose chat it is in; a message is sent to the user that was resolved
last, for the channel that the message names, and with the generation that was published last. Two steps
do not keep this by themselves. A worker whose authorization is cancelled while it is live goes on with its
socket; the user who then signs out leaves it joined without an identity, and so does a replaced socket.
And the last generation does not change any more when the user departs.
-/

namespace OverCrow.Twitch
open OverCrow.Base OverCrow.Config List Option

/-- A channel is resolved. -/
def Effect.resolves : Effect → Bool
  | .resolved _ _ => true
  | _ => false

/-- A snapshot is published. -/
def Effect.publishes : Effect → Bool
  | .published _ => true
  | _ => false

/-- The last answer of `resolve_channel` was this user, for this login. -/
def LastResolved (log : List Effect) (login : String) (user : TwitchUser) : Prop :=
  Since (·.resolves = false) (· = .resolved login user) log

/-- The last published snapshot has this generation. -/
def LastPublished (log : List Effect) (generation : Nat) : Prop :=
  Since (·.publishes = false) (fun e => ∃ snapshot, e = .published snapshot ∧
    snapshot.generation = generation) log

/-- No snapshot published before the user departed has this generation: a message that carries it was
composed after that. -/
def Fresh (log : List Effect) (generation : Nat) : Prop :=
  ∀ before after, log = before ++ .departed :: after →
    ∀ snapshot, .published snapshot ∈ before → snapshot.generation ≠ generation

/-- A message goes to the user that was resolved last, for the channel that it names; it carries the last
published generation and was composed after the user departed last. -/
def Justified (log : List Effect) : Effect → Prop
  | .sent message broadcasterId _ =>
    (∃ channel, normalizeTwitchChannel message.channel = .ok channel ∧
      LastResolved log channel ⟨broadcasterId⟩) ∧
    LastPublished log message.generation ∧ Fresh log message.generation
  | _ => True

namespace Worker

/-- The worker knows where it is, and what it sends goes there. -/
structure Sound (w : Worker) : Prop where
  joined : w.state.connection = .joined →
    w.socket.isSome = true ∧ w.activeGate.isOpen = true ∧ w.state.userPaused = false ∧
      ∃ channel identity, w.activeGate.channel = some channel ∧
        w.state.channelIdentity = some identity ∧ LastResolved w.log channel identity
  fresh : Fresh w.log w.state.generation
  sent : Each Justified w.log

/-- The condition on a turn. -/
def GuardedTurn (w : Worker) (t : Turn) : Prop :=
  match w.phase t.now, t.wake with
  | .restoring, _ | .connecting, _ => True
  | .live, .command .signOut => w.state.generation < u64Max
  | .live, .message (.ok ⟨deliveryId, .reconnect url⟩) =>
    (w.state.deliveryDedup.insert deliveryId).1 = true →
      (∃ welcomed, connectAndWelcome url t.welcoming = .ok welcomed) → w.state.channelIdentity ≠ none
  | _, .command .signOut => w.state.generation < u64Max ∧ w.state.connection ≠ .joined
  | _, _ => True

/-- The condition on an action. -/
def Guarded (w : Worker) (action : Action) : Prop :=
  match w.place, action with
  | .head, .head gate _ => w.departs gate.normalized = true → w.state.generation < u64Max
  | .turn, .turn t => w.GuardedTurn t
  | _, _ => True

end Worker

/-! ### Logs -/

section Log

variable {log : List Effect} {generation : Nat} {e : Effect}

theorem LastPublished.mem (h : LastPublished log generation) :
    ∃ snapshot, .published snapshot ∈ log ∧ snapshot.generation = generation := by
  obtain ⟨before, -, after, rfl, ⟨snapshot, rfl, hgeneration⟩, -⟩ := h
  exact ⟨snapshot, by simp, hgeneration⟩

/-- What is departed from is a part of the log before its last entry. -/
theorem Fresh.append (h : Fresh log generation) (he : e ≠ .departed) : Fresh (log ++ [e]) generation := by
  intro before after hsplit
  induction after using reverseRecOn with
  | nil => exact absurd (singleton_inj.mp (append_inj' hsplit rfl).2) he
  | append_singleton after last _ =>
    rw [← cons_append, ← append_assoc] at hsplit
    exact h before after (append_inj' hsplit rfl).1

theorem fresh_append_departed
    (h : ∀ snapshot, .published snapshot ∈ log → snapshot.generation ≠ generation) :
    Fresh (log ++ [.departed]) generation := by
  intro before after hsplit snapshot hmem
  refine h snapshot (List.IsPrefix.subset ?_ hmem)
  induction after using reverseRecOn with
  | nil => exact (append_inj' hsplit rfl).1 ▸ prefix_rfl
  | append_singleton after last _ =>
    rw [← cons_append, ← append_assoc] at hsplit
    exact (append_inj' hsplit rfl).1 ▸ prefix_append _ _

/-- The last generation is not left behind. -/
theorem lt_of_fresh (hbounded : generation ≤ u64Max) (hcurrent : LastPublished log generation)
    (h : Fresh (log ++ [.departed] ++ [e]) (saturatingAdd u64Max generation 1)) : generation < u64Max := by
  obtain ⟨snapshot, hmem, hgeneration⟩ := hcurrent.mem
  have hne := h log [e] (by simp) snapshot hmem
  unfold saturatingAdd at hne
  omega

end Log

/-! ### What the property speaks of -/

/-- The variables that it speaks of. -/
structure View where
  connection : TwitchConnectionState
  identity : Option TwitchUser
  generation : Nat
  paused : Bool
  gate : TwitchGate
  socket : Bool
  log : List Effect

/-- What holds at any time in a sound run. -/
structure View.Ready (v : View) : Prop where
  opened : v.connection = .joined → v.socket = true ∧ v.gate.isOpen = true ∧ v.paused = false
  identified : v.connection = .joined → v.identity ≠ none
  resolved : ∀ identity, v.identity = some identity →
    ∃ channel, v.gate.channel = some channel ∧ LastResolved v.log channel identity
  published : ∀ snapshot, .published snapshot ∈ v.log → snapshot.generation ≤ v.generation
  bounded : v.generation ≤ u64Max
  fresh : Fresh v.log v.generation
  sent : Each Justified v.log

namespace View.Ready

variable {v : View} (connection : TwitchConnectionState)

/-- Leaving a chat. -/
theorem leave (h : v.Ready) (hconnection : connection ≠ .joined) {identity : Option TwitchUser}
    (hidentity : identity = v.identity ∨ identity = none) {gate : TwitchGate}
    (hgate : gate.channel = v.gate.channel) (paused socket : Bool) :
    Ready ⟨connection, identity, v.generation, paused, gate, socket, v.log⟩ where
  opened hjoined := absurd hjoined hconnection
  identified hjoined := absurd hjoined hconnection
  resolved user huser := by
    rcases hidentity with rfl | rfl
    · exact hgate ▸ h.resolved user huser
    · exact nomatch huser
  published := h.published
  bounded := h.bounded
  fresh := h.fresh
  sent := h.sent

theorem unpause (h : v.Ready) : Ready { v with paused := false } :=
  { h with opened := fun hjoined => ⟨(h.opened hjoined).1, (h.opened hjoined).2.1, rfl⟩ }

theorem join (h : v.Ready) (hopen : v.gate.isOpen = true) (hpaused : v.paused = false)
    (hidentity : v.identity ≠ none) : Ready { v with connection := .joined, socket := true } :=
  { h with opened := fun _ => ⟨rfl, hopen, hpaused⟩, identified := fun _ => hidentity }

theorem append (h : v.Ready) {e : Effect} (hresolves : e.resolves = false ∨ v.identity = none)
    (hpublishes : ∀ snapshot, e = .published snapshot → snapshot.generation ≤ v.generation)
    (hdeparts : e ≠ .departed) (hjustified : Justified v.log e) : Ready { v with log := v.log ++ [e] } where
  opened := h.opened
  identified := h.identified
  resolved user huser := by
    obtain ⟨channel, hchannel, hlast⟩ := h.resolved user huser
    rcases hresolves with hresolves | hnone
    · exact ⟨channel, hchannel, since_append_singleton.mpr (.inr ⟨hresolves, hlast⟩)⟩
    · exact nomatch huser.symm.trans hnone
  published snapshot hmem := by
    rcases mem_append.mp hmem with hmem | hmem
    · exact h.published snapshot hmem
    · exact hpublishes snapshot (mem_singleton.mp hmem).symm
  bounded := h.bounded
  fresh := h.fresh.append hdeparts
  sent := each_append_singleton.mpr ⟨h.sent, hjustified⟩

/-- The private state is cleared. -/
theorem clear (h : v.Ready) (hconnection : connection ≠ .joined) (paused : Bool) (gate : TwitchGate)
    (socket : Bool) :
    Ready ⟨connection, none, saturatingAdd u64Max v.generation 1, paused, gate, socket, v.log⟩ := by
  have hbounded := h.bounded
  refine ⟨fun hjoined => absurd hjoined hconnection, fun hjoined => absurd hjoined hconnection, nofun,
    fun snapshot hmem => ?_, Nat.min_le_right _ _, fun before after hlog snapshot hmem heq => ?_, h.sent⟩
  · have hle := h.published snapshot hmem
    change snapshot.generation ≤ min (v.generation + 1) u64Max
    omega
  · have hle := h.published snapshot (hlog ▸ mem_append_left _ hmem)
    have hne := h.fresh before after hlog snapshot hmem
    unfold saturatingAdd at heq
    dsimp only at heq
    omega

/-- The private state is cleared because the user departs. -/
theorem depart (h : v.Ready) (hlt : v.generation < u64Max) (hconnection : connection ≠ .joined)
    (paused : Bool) (gate : TwitchGate) (socket : Bool) :
    Ready ⟨connection, none, saturatingAdd u64Max v.generation 1, paused, gate, socket,
      v.log ++ [.departed]⟩ := by
  have hcleared := h.clear connection hconnection paused gate socket
  refine { hcleared with
    resolved := nofun
    published := fun snapshot hmem => ?_
    fresh := fresh_append_departed fun snapshot hmem => ?_
    sent := each_append_singleton.mpr ⟨h.sent, trivial⟩ }
  · rcases mem_append.mp hmem with hmem | hmem
    · exact hcleared.published snapshot hmem
    · cases mem_singleton.mp hmem
  · have hle := h.published snapshot hmem
    dsimp only
    rw [saturatingAdd_one hlt]
    omega

end View.Ready

namespace Worker

variable {w after : Worker} {t : Turn} {answers : Answers} {now : Instant}

/-- What the property speaks of in a worker. -/
def view (w : Worker) : View :=
  ⟨w.state.connection, w.state.channelIdentity, w.state.generation, w.state.userPaused, w.activeGate,
    w.socket.isSome, w.log⟩

/-- What holds between the actions of a sound run. -/
structure Kept (w : Worker) : Prop where
  ready : w.view.Ready
  current : LastPublished w.log w.state.generation

theorem sound_of_ready (h : w.view.Ready) : w.Sound := by
  refine ⟨fun hjoined => ?_, h.fresh, h.sent⟩
  obtain ⟨identity, hidentity⟩ := ne_none_iff_exists'.mp (h.identified hjoined)
  obtain ⟨channel, hchannel, hresolved⟩ := h.resolved identity hidentity
  obtain ⟨hsocket, hopen, hpaused⟩ := h.opened hjoined
  exact ⟨hsocket, hopen, hpaused, channel, identity, hchannel, hidentity, hresolved⟩

theorem Sound.identified (h : w.Sound) (hjoined : w.state.connection = .joined) :
    w.state.channelIdentity ≠ none := by
  obtain ⟨-, -, -, -, identity, -, hidentity, -⟩ := h.joined hjoined
  exact hidentity ▸ some_ne_none identity

theorem kept_publish (h : w.view.Ready) : w.publish.Kept where
  ready := h.append (e := .published (w.state.snapshot w.auth)) (.inl rfl)
    (fun _ heq => by cases heq; exact Nat.le_refl _) nofun trivial
  current := since_append_singleton.mpr (.inl ⟨_, rfl, rfl⟩)

/-! ### Commands -/

/-- A command while the chat is closed. -/
theorem ready_handleClosedCommand (h : w.view.Ready) (command : TwitchCommand) (allowAuth : Bool)
    (hout : command = .signOut → w.state.generation < u64Max ∧ w.state.connection ≠ .joined) :
    (w.handleClosedCommand command allowAuth answers now).view.Ready := by
  cases command with
  | beginAuthentication =>
    dsimp only [handleClosedCommand]
    split
    · exact h
    · split
      · exact h.unpause
      · exact h
  | cancelAuthentication | sendMessage => exact h
  | disconnect => exact h.leave .disconnected nofun (.inl rfl) rfl true _
  | signOut => exact h.depart _ (hout rfl).1 (hout rfl).2 false _ _
  | reconnect =>
    dsimp only [handleClosedCommand]
    split
    · exact h.unpause
    · exact h

theorem connection_applyConnectionFailure (error : BackendError) (answers : Answers) :
    (w.applyConnectionFailure error answers).state.connection ≠ .joined := by
  cases error <;> exact nofun

theorem ready_applyConnectionFailure (answers : Answers) (h : w.view.Ready) (error : BackendError) :
    (w.applyConnectionFailure error answers).view.Ready :=
  h.leave _ (connection_applyConnectionFailure error answers) (.inr rfl) rfl _ _

theorem ready_failSocket (h : w.view.Ready) (error : BackendError) : (w.failSocket error t).view.Ready :=
  h.leave _ (connection_applyConnectionFailure error t.answers) (.inr rfl) rfl _ false

/-! ### Sending -/

variable {message : SendMessage} {result : Except HttpError ChatSendResult}

theorem accepts_spec (h : w.accepts message = true) :
    message.generation = w.state.generation ∧
      (normalizeTwitchChannel message.channel).toOption = w.activeGate.channel := by
  unfold accepts at h
  simp only [Bool.and_eq_true, decide_eq_true_eq] at h
  exact ⟨h.1.1.1.1.2, h.1.1.1.2⟩

/-- What is accepted goes to the channel that it names. -/
theorem justified_sent (h : w.Kept) (haccepts : w.accepts message = true)
    {identity : TwitchUser} (hidentity : w.state.channelIdentity = some identity) (senderId : String) :
    Justified w.log (.sent message identity.id senderId) := by
  obtain ⟨hgeneration, hnamed⟩ := accepts_spec haccepts
  obtain ⟨channel, hactive, hresolved⟩ := h.ready.resolved identity hidentity
  refine ⟨⟨channel, ?_, hresolved⟩, hgeneration ▸ h.current, hgeneration ▸ h.ready.fresh⟩
  cases hnormal : normalizeTwitchChannel message.channel with
  | error error =>
    rw [hnormal] at hnamed
    exact nomatch hnamed.trans hactive
  | ok other =>
    rw [hnormal] at hnamed
    exact congrArg _ (some.inj (hnamed.trans hactive))

theorem concludeSend_spec (h : w.view.Ready) :
    (w.concludeSend message answers result).2.view.Ready ∧
      ((w.concludeSend message answers result).1 = true →
        (w.concludeSend message answers result).2.state.connection ≠ .joined) := by
  unfold concludeSend
  split
  · exact ⟨h, nofun⟩
  · exact ⟨h, nofun⟩
  · split
    · exact ⟨h.leave (.failed .authentication) nofun (.inr rfl) rfl _ _, fun _ => nofun⟩
    · exact ⟨h, nofun⟩

/-- A message is rejected, or it is sent to the worker's channel. -/
theorem sendMessage_spec (h : w.Kept) :
    (w.sendMessage message answers result now).2.view.Ready ∧
      ((w.sendMessage message answers result now).1 = true →
        (w.sendMessage message answers result now).2.state.connection ≠ .joined) := by
  unfold sendMessage
  split
  · exact ⟨h.ready, nofun⟩
  · next haccepts =>
    split
    · next identity _ senderId hidentity _ _ =>
      split
      · exact ⟨h.ready, nofun⟩
      · have haccepts : w.accepts message = true := by simpa using haccepts
        refine concludeSend_spec (h.ready.append (e := .sent message identity.id senderId) (.inl rfl)
          (fun _ heq => nomatch heq) nofun ?_)
        exact justified_sent h haccepts hidentity senderId
    · exact ⟨h.ready, nofun⟩

/-- A command while the socket is open; a worker that closes it is not joined. -/
theorem handleLiveCommand_spec (h : w.Kept) (command : TwitchCommand)
    (hout : command = .signOut → w.state.generation < u64Max) :
    (w.handleLiveCommand command t).2.view.Ready ∧
      ((w.handleLiveCommand command t).1 = true →
        (w.handleLiveCommand command t).2.state.connection ≠ .joined) := by
  cases command with
  | sendMessage message => exact sendMessage_spec h
  | reconnect => exact ⟨h.ready.leave .reconnecting nofun (.inl rfl) rfl _ _, fun _ => nofun⟩
  | disconnect => exact ⟨h.ready.leave .disconnected nofun (.inl rfl) rfl _ _, fun _ => nofun⟩
  | signOut => exact ⟨h.ready.depart .disconnected (hout rfl) nofun _ _ _, fun _ => nofun⟩
  | beginAuthentication | cancelAuthentication => exact ⟨h.ready, nofun⟩

/-! ### Sockets -/

theorem ready_replaceSocket (h : w.view.Ready) (hopen : w.activeGate.isOpen = true)
    (hpaused : w.state.userPaused = false) (url : String)
    (hidentity : (∃ welcomed, connectAndWelcome url t.welcoming = .ok welcomed) →
      w.state.channelIdentity ≠ none) : (w.replaceSocket url t).view.Ready := by
  have hreplacing : ({ w with state := { w.state with connection := .reconnecting } }.publish).Kept :=
    kept_publish (h.leave .reconnecting nofun (.inl rfl) rfl _ _)
  unfold replaceSocket
  cases hwelcomed : connectAndWelcome url t.welcoming with
  | ok welcomed => exact hreplacing.ready.join hopen hpaused (hidentity ⟨welcomed, hwelcomed⟩)
  | error error => exact ready_failSocket hreplacing.ready error

/-- An event changes nothing but the buffer. -/
theorem applyEvent_eq_ok {state next : WorkerState} {event : EventSubKind} {changed : Bool}
    (h : state.applyEvent event now = .ok (changed, next)) :
    ∃ buffer, next = { state with buffer := buffer } := by
  unfold WorkerState.applyEvent at h
  split at h
  · exact nomatch h
  · split at h
    case h_3 | h_4 | h_5 =>
      split at h
      · exact nomatch h
      · cases h
        exact ⟨_, rfl⟩
    all_goals
      cases h
      try exact ⟨_, rfl⟩

theorem kept_receive (h : w.Kept) (hopen : w.activeGate.isOpen = true)
    (hpaused : w.state.userPaused = false) (kind : EventSubKind) (hidentity : ∀ url, kind = .reconnect url →
      (∃ welcomed, connectAndWelcome url t.welcoming = .ok welcomed) → w.state.channelIdentity ≠ none) :
    (w.receive kind t).Kept := by
  unfold receive
  split
  · next url => exact kept_publish (ready_replaceSocket h.ready hopen hpaused url (hidentity url rfl))
  · split
    · next state happly =>
      obtain ⟨buffer, rfl⟩ := applyEvent_eq_ok happly
      unfold WorkerState.scheduleChatPublication
      split <;> exact ⟨h.ready, h.current⟩
    · next state happly =>
      obtain ⟨buffer, rfl⟩ := applyEvent_eq_ok happly
      exact ⟨h.ready, h.current⟩
    · exact h
    · next error _ _ => exact kept_publish (ready_failSocket (t := t) h.ready error)

theorem subscribeAll_eq_ok {channel : TwitchUser} {session : ConnectedSession}
    (h : subscribeAll t channel = .ok session) : session.channel = channel := by
  obtain ⟨welcomed, -, h⟩ := bind_eq_ok.mp h
  obtain ⟨-, -, h⟩ := bind_eq_ok.mp h
  cases h
  rfl

/-- A login is resolved, or nothing is asked. -/
theorem connectInitial_cases (auth : AuthMachine) (gate : TwitchGate) (t : Turn) :
    (∃ error, connectInitial auth gate t = ([], .error error)) ∨
    ∃ login channel, gate.channel = some login ∧
      connectInitial auth gate t = ([.resolved login channel], subscribeAll t channel) := by
  unfold connectInitial
  split
  · exact .inl ⟨_, rfl⟩
  · exact .inl ⟨_, rfl⟩
  · exact .inl ⟨_, rfl⟩
  · next login _ _ hlogin =>
    split
    · exact .inl ⟨_, rfl⟩
    · next channel _ => exact .inr ⟨login, channel, hlogin, rfl⟩

theorem kept_connectingTurn (h : w.Kept) (hopen : w.activeGate.isOpen = true)
    (hpaused : w.state.userPaused = false) : (w.connectingTurn t).Kept := by
  have hkept : ({ w with state := { w.state with connection := .connecting } }.publish).Kept :=
    kept_publish (h.ready.leave .connecting nofun (.inl rfl) rfl _ _)
  unfold connectingTurn
  dsimp only
  generalize hconnecting : { w with state := { w.state with connection := .connecting } }.publish =
    connecting at hkept ⊢
  obtain ⟨error, hconnected⟩ | ⟨login, channel, hlogin, hconnected⟩ :=
    connectInitial_cases connecting.auth connecting.activeGate t
  · rw [hconnected]
    rw [append_nil]
    exact kept_publish (ready_applyConnectionFailure t.answers hkept.ready error)
  · -- a channel that was resolved is the worker's, unless the attempt fails later on
    have hresolved (identity : Option TwitchUser) (hidentity : identity = none ∨ identity = some channel)
        (connection : TwitchConnectionState) (hconnection : connection = .joined → identity ≠ none)
        (socket : Bool) (hsocket : connection = .joined → socket = true) :
        View.Ready ⟨connection, identity, connecting.state.generation, connecting.state.userPaused,
          connecting.activeGate, socket, connecting.log ++ [.resolved login channel]⟩ := by
      have hleft := (hkept.ready.leave .connecting nofun (.inr rfl) rfl
        connecting.state.userPaused socket).append (e := .resolved login channel) (.inr rfl)
        (fun _ heq => nomatch heq) nofun trivial
      refine { hleft with
        opened := fun hjoined => ⟨hsocket hjoined, hconnecting ▸ hopen, hconnecting ▸ hpaused⟩
        identified := hconnection
        resolved := fun user huser => ?_ }
      rcases hidentity with rfl | rfl
      · exact nomatch huser
      · cases huser
        exact ⟨login, hlogin, since_append_singleton.mpr (.inl rfl)⟩
    rw [hconnected]
    split
    · next session hsession =>
      have hchannel := subscribeAll_eq_ok hsession
      exact kept_publish (hresolved _ (.inr (hchannel ▸ rfl)) _ (fun _ => some_ne_none _) _
        fun _ => rfl)
    · next error _ =>
      have hjoined := connection_applyConnectionFailure (w := connecting) error t.answers
      exact kept_publish (hresolved _ (.inl rfl) _ (fun h => absurd h hjoined) _ fun h => absurd h hjoined)

/-! ### Turns -/

theorem fired_eq_some {deadline : Instant} {fresh : Worker} (h : fired deadline t fresh = some after) :
    after = fresh := by
  unfold fired at h
  split at h
  · exact (some.inj h).symm
  · exact nomatch h

/-- What signing out must not meet while the chat is closed. -/
def Leaves (w : Worker) (t : Turn) : Prop :=
  t.wake = .command .signOut → w.state.generation < u64Max ∧ w.state.connection ≠ .joined

theorem guardedTurn_iff_leaves (hphase : w.phase t.now = .idle ∨ w.phase t.now = .closed ∨
    w.phase t.now = .waiting) : w.GuardedTurn t ↔ w.Leaves t := by
  unfold GuardedTurn Leaves
  rcases hphase with hphase | hphase | hphase <;> rw [hphase] <;> cases hwake : t.wake with
    | command command => cases command <;> simp
    | _ => simp

/-- A command while the chat is closed. A worker that is sound after signing out was not joined before. -/
theorem closedCommand_spec (h : w.Kept) {command : TwitchCommand} (hwake : t.wake = .command command)
    {allowAuth : Bool} :
    (w.Leaves t → (w.handleClosedCommand command allowAuth answers now).publish.Kept) ∧
      ((w.handleClosedCommand command allowAuth answers now).publish.Sound → w.Leaves t) := by
  refine ⟨fun hleaves => kept_publish (ready_handleClosedCommand h.ready command allowAuth ?_),
    fun hsound hout => ?_⟩
  · exact fun hout => hleaves (hout ▸ hwake)
  · cases Wake.command.inj (hwake.symm.trans hout)
    exact ⟨lt_of_fresh h.ready.bounded h.current hsound.fresh, fun hjoined => hsound.identified hjoined rfl⟩

theorem leaves_of_ne (h : t.wake ≠ .command .signOut) : w.Leaves t := fun hout => absurd hout h

theorem idleTurn_spec (h : w.Kept) (hturn : w.idleTurn t = some after) :
    (w.Leaves t → after.Kept) ∧ (after.Sound → w.Leaves t) := by
  unfold idleTurn at hturn
  split at hturn
  · next hwake =>
    cases hturn
    exact ⟨fun _ => h, fun _ => leaves_of_ne (hwake ▸ nofun)⟩
  · next command hwake =>
    cases hturn
    exact closedCommand_spec h hwake
  · exact nomatch hturn

theorem closedTurn_spec (h : w.Kept) (hturn : w.closedTurn t = some after) :
    (w.Leaves t → after.Kept) ∧ (after.Sound → w.Leaves t) := by
  -- the connection is written first, and stays what it is
  have hconnection : (if (w.state.userPaused || w.activeGate.channel.isNone) = true then .disconnected
      else w.state.connection) = w.state.connection ∨ (w.state.connection ≠ .joined ∧
        (if (w.state.userPaused || w.activeGate.channel.isNone) = true then .disconnected
          else w.state.connection) ≠ TwitchConnectionState.joined) := by
    split
    · next hpaused =>
      refine .inr ⟨fun hjoined => ?_, nofun⟩
      obtain ⟨-, hopen, hfalse⟩ := h.ready.opened hjoined
      simp_all [view, TwitchGate.isOpen]
    · exact .inl rfl
  unfold closedTurn at hturn
  generalize (if (w.state.userPaused || w.activeGate.channel.isNone) = true then _ else _ :
    TwitchConnectionState) = connection at hturn hconnection
  have hkept : { w with state := { w.state with connection := connection } }.Kept := by
    refine ⟨?_, h.current⟩
    rcases hconnection with rfl | ⟨-, hjoined⟩
    · exact h.ready
    · exact h.ready.leave _ hjoined (.inl rfl) rfl _ _
  have hleaves : Leaves { w with state := { w.state with connection := connection } } t ↔ w.Leaves t := by
    rcases hconnection with rfl | ⟨hbefore, hjoined⟩
    · rfl
    · simp [Leaves, hbefore, hjoined]
  split at hturn
  · next hwake =>
    cases hturn
    exact ⟨fun _ => kept_publish hkept.ready, fun _ => leaves_of_ne (hwake ▸ nofun)⟩
  · next command hwake =>
    cases hturn
    rw [← hleaves]
    exact closedCommand_spec hkept hwake
  · next hwake =>
    cases fired_eq_some hturn
    exact ⟨fun _ => kept_publish hkept.ready, fun _ => leaves_of_ne (hwake ▸ nofun)⟩
  · exact nomatch hturn

theorem waitingTurn_spec (h : w.Kept) (hturn : w.waitingTurn t = some after) :
    (w.Leaves t → after.Kept) ∧ (after.Sound → w.Leaves t) := by
  unfold waitingTurn at hturn
  split at hturn
  · next hwake =>
    cases hturn
    exact ⟨fun _ => kept_publish h.ready, fun _ => leaves_of_ne (hwake ▸ nofun)⟩
  · next command hwake =>
    cases hturn
    exact closedCommand_spec h hwake
  · next hwake =>
    cases fired_eq_some hturn
    refine ⟨fun _ => kept_publish ?_, fun _ => leaves_of_ne (hwake ▸ nofun)⟩
    split <;> exact h.ready
  · exact nomatch hturn

theorem liveCommand_spec (h : w.Kept) (hphase : w.phase t.now = .live) {command : TwitchCommand}
    (hwake : t.wake = .command command) (hturn : w.liveTurn t = some after) :
    (w.GuardedTurn t → after.Kept) ∧ (after.Sound → w.GuardedTurn t) := by
  have hguard : w.GuardedTurn t ↔ (command = .signOut → w.state.generation < u64Max) := by
    unfold GuardedTurn
    rw [hphase, hwake]
    cases command <;> simp
  unfold liveTurn at hturn
  rw [hwake] at hturn
  cases hturn
  rw [hguard]
  constructor
  · intro hout
    obtain ⟨hready, hclosed⟩ := handleLiveCommand_spec (t := t) h command hout
    refine kept_publish ?_
    change (if (w.handleLiveCommand command t).1 = true then _ else _ : Worker).view.Ready
    split
    · next hdisconnect => exact hready.leave _ (hclosed hdisconnect) (.inl rfl) rfl _ false
    · exact hready
  · rintro hsound rfl
    exact lt_of_fresh h.ready.bounded h.current hsound.fresh

section

variable (h : w.Kept) (hopen : w.activeGate.isOpen = true) (hpaused : w.state.userPaused = false)
  (hphase : w.phase t.now = .live)

include h hopen hpaused hphase

theorem liveMessage_spec
    {parsed : Except EventSubParseError EventSubMessage} (hwake : t.wake = .message parsed)
    (hturn : w.liveTurn t = some after) :
    (w.GuardedTurn t → after.Kept) ∧ (after.Sound → w.GuardedTurn t) := by
  unfold liveTurn at hturn
  rw [hwake] at hturn
  obtain error | ⟨deliveryId, kind⟩ := parsed
  · cases hturn
    refine ⟨fun _ => ⟨h.ready, h.current⟩, fun _ => ?_⟩
    unfold GuardedTurn
    rw [hphase, hwake]
    trivial
  · have hguard : w.GuardedTurn t ↔ ∀ url, kind = .reconnect url →
        (w.state.deliveryDedup.insert deliveryId).1 = true →
          (∃ welcomed, connectAndWelcome url t.welcoming = .ok welcomed) →
            w.state.channelIdentity ≠ none := by
      unfold GuardedTurn
      rw [hphase, hwake]
      cases kind <;> simp
    rw [hguard]
    change some (if (w.state.deliveryDedup.insert deliveryId).1 = true then _ else _) = _ at hturn
    generalize w.state.deliveryDedup.insert deliveryId = inserted at hturn ⊢
    obtain ⟨fresh, dedup⟩ := inserted
    cases hturn
    cases fresh with
    | false => exact ⟨fun _ => ⟨h.ready, h.current⟩, fun _ _ _ hfresh => nomatch hfresh⟩
    | true =>
      constructor
      · intro hguard
        rw [if_pos rfl]
        refine kept_receive ?_ ?_ ?_ kind fun url hurl => hguard url hurl rfl
        · exact ⟨h.ready, h.current⟩
        · exact hopen
        · exact hpaused
      · rintro hsound url rfl - ⟨welcomed, hwelcomed⟩
        simp only [if_true, receive, replaceSocket, hwelcomed] at hsound
        exact hsound.identified rfl

theorem liveTurn_spec (hturn : w.liveTurn t = some after) :
    (w.GuardedTurn t → after.Kept) ∧ (after.Sound → w.GuardedTurn t) := by
  cases hwake : t.wake with
  | command command => exact liveCommand_spec h hphase hwake hturn
  | message parsed => exact liveMessage_spec h hopen hpaused hphase hwake hturn
  | _ =>
    have hguard : w.GuardedTurn t := by
      unfold GuardedTurn
      rw [hphase, hwake]
      trivial
    suffices after.Kept from ⟨fun _ => this, fun _ => hguard⟩
    have hclosed (connection : TwitchConnectionState) (hjoined : connection ≠ .joined) :
        View.Ready { w.view with connection := connection, socket := false } :=
      h.ready.leave _ hjoined (.inl rfl) rfl _ false
    simp only [liveTurn, hwake] at hturn
    first
      | cases hturn; exact h
      | cases hturn; exact kept_publish (hclosed .reconnecting nofun)
      | cases fired_eq_some hturn; exact kept_publish (hclosed .reconnecting nofun)
      | cases fired_eq_some hturn; exact kept_publish h.ready
      | cases fired_eq_some hturn
        refine kept_publish ?_
        split
        · exact h.ready
        · exact hclosed .disconnected nofun
      | cases hturn

end

/-! ### Passes -/

theorem phase_spec {now : Instant} (hphase : w.phase now = .connecting ∨ w.phase now = .live) :
    w.activeGate.isOpen = true ∧ w.state.userPaused = false := by
  unfold phase at hphase
  split_ifs at hphase with hidle hrestored hclosed <;> simp_all

theorem turn_spec (h : w.Kept) (hturn : w.turn t = some after) :
    (w.GuardedTurn t → after.Kept) ∧ (after.Sound → w.GuardedTurn t) := by
  unfold turn at hturn
  split at hturn
  · next hphase =>
    rw [guardedTurn_iff_leaves (.inl hphase)]
    exact idleTurn_spec h hturn
  · next hphase =>
    cases hturn
    exact ⟨fun _ => kept_publish h.ready, fun _ => by unfold GuardedTurn; rw [hphase]; trivial⟩
  · next hphase =>
    rw [guardedTurn_iff_leaves (.inr (.inl hphase))]
    exact closedTurn_spec h hturn
  · next hphase =>
    rw [guardedTurn_iff_leaves (.inr (.inr hphase))]
    exact waitingTurn_spec h hturn
  · next hphase =>
    obtain ⟨hopen, hpaused⟩ := phase_spec (.inl hphase)
    cases hturn
    exact ⟨fun _ => kept_connectingTurn h hopen hpaused,
      fun _ => by unfold GuardedTurn; rw [hphase]; trivial⟩
  · next hphase =>
    obtain ⟨hopen, hpaused⟩ := phase_spec (.inr hphase)
    exact liveTurn_spec h hopen hpaused hphase hturn

/-- A changed gate is adopted; the worker is not joined then. -/
theorem adopt_spec (h : w.Kept) (gate : TwitchGate) (now : Instant) :
    ((w.departs gate = true → w.state.generation < u64Max) → (w.adopt gate now).Kept) ∧
      ((w.adopt gate now).Sound → w.departs gate = true → w.state.generation < u64Max) := by
  unfold adopt
  split
  · next hgate =>
    subst hgate
    exact ⟨fun _ => h, fun _ hdeparts => by simp [departs] at hdeparts⟩
  · dsimp only
    have hjoined : (if gate.allowsControl = true then .disconnected else .inert) ≠
        TwitchConnectionState.joined := by
      split <;> exact nofun
    by_cases hcleared : ((!gate.lifecycleEnabled || !gate.widgetEnabled) ||
        decide (gate.channel ≠ w.activeGate.channel)) = true
    · rw [if_pos hcleared]
      by_cases hdeparts : w.departs gate = true
      · rw [if_pos hdeparts]
        exact ⟨fun hlt => kept_publish (h.ready.depart _ (hlt hdeparts) hjoined _ _ _),
          fun hsound _ => lt_of_fresh h.ready.bounded h.current hsound.fresh⟩
      · rw [if_neg hdeparts, append_nil]
        exact ⟨fun _ => kept_publish (h.ready.clear _ hjoined _ _ _), fun _ h => absurd h hdeparts⟩
    · -- who departs loses the private state; here the channel is the same one
      have hdeparts : w.departs gate = false := by simp_all [departs]
      have hchannel : gate.channel = w.activeGate.channel := by simp_all
      rw [if_neg hcleared, hdeparts, if_neg Bool.false_ne_true, append_nil]
      exact ⟨fun _ => kept_publish (h.ready.leave _ hjoined (.inl rfl) hchannel _ _), nofun⟩

theorem step_spec {action : Action} (h : w.Kept) (hstep : w.step action = some after) :
    (w.Guarded action → after.Kept) ∧ (after.Sound → w.Guarded action) := by
  unfold step at hstep
  unfold Guarded
  cases hplace : w.place <;> cases action <;> rw [hplace] at hstep
  case head.head gate now =>
    cases hstep
    obtain ⟨hkept, hguarded⟩ := adopt_spec h gate.normalized now
    exact ⟨fun hguard => ⟨(hkept hguard).ready, (hkept hguard).current⟩,
      fun hsound => hguarded ⟨hsound.joined, hsound.fresh, hsound.sent⟩⟩
  case turn.turn t =>
    obtain ⟨next, hturn, rfl⟩ := map_eq_some_iff.mp hstep
    obtain ⟨hkept, hguarded⟩ := turn_spec h hturn
    exact ⟨fun hguard => ⟨(hkept hguard).ready, (hkept hguard).current⟩,
      fun hsound => hguarded ⟨hsound.joined, hsound.fresh, hsound.sent⟩⟩
  all_goals exact nomatch hstep

/-- What the condition is about is never refused. -/
theorem guardedTurn_of_disabled (h : w.turn t = none) : w.GuardedTurn t := by
  unfold GuardedTurn
  unfold turn at h
  split
  · trivial
  · trivial
  · next hphase hwake =>
    unfold liveTurn at h
    rw [hphase, hwake] at h
    exact nomatch h
  · next hphase hwake =>
    unfold liveTurn at h
    rw [hphase, hwake] at h
    exact nomatch h
  · next phase _ hwake _ _ _ =>
    unfold idleTurn closedTurn waitingTurn liveTurn at h
    cases hphase : w.phase t.now <;> rw [hphase, hwake] at h <;> exact nomatch h
  · trivial

theorem guarded_of_disabled {action : Action} (h : w.step action = none) : w.Guarded action := by
  unfold step at h
  unfold Guarded
  cases hplace : w.place <;> cases action <;> rw [hplace] at h
  case head.head => exact nomatch h
  case turn.turn => exact guardedTurn_of_disabled (map_eq_none_iff.mp h)
  all_goals trivial

theorem kept_start {auth : AuthMachine} {initialBackoff maximumBackoff : Duration} :
    (start auth initialBackoff maximumBackoff now).Kept := by
  refine kept_publish ⟨nofun, nofun, nofun, fun _ hmem => absurd hmem not_mem_nil, Nat.zero_le _,
    fun before after h => ?_, each_nil⟩
  exact absurd h.symm (append_ne_nil_of_right_ne_nil before (cons_ne_nil _ after))

end Worker

/-- All states of a run are sound exactly if all of its actions are guarded. -/
theorem Worker.sound_iff_guarded (auth : AuthMachine) (initialBackoff maximumBackoff : Duration)
    (now : Instant) (actions : List Action) :
    (∀ begun, begun <+: actions → ∀ w,
      run step (start auth initialBackoff maximumBackoff now) begun = some w → w.Sound) ↔
      Along step Guarded (start auth initialBackoff maximumBackoff now) actions := by
  refine (along_iff_forall_reached (I := Kept) ?_ ?_ ?_ kept_start (sound_of_ready kept_start.ready)
    actions).symm
  · intro w action after hkept _ hsound hstep
    obtain ⟨hafter, hguarded⟩ := step_spec hkept hstep
    exact hafter (hguarded hsound)
  · intro w action after hkept _ hstep
    obtain ⟨hafter, hguarded⟩ := step_spec hkept hstep
    exact ⟨hguarded, fun hguard => sound_of_ready (hafter hguard).ready⟩
  · exact fun w action hnone => guarded_of_disabled hnone

/-- A gate that is open for a channel. -/
def openGate (channel : String) : TwitchGate := ⟨true, true, true, some channel⟩

/-- The authorization is cancelled while the worker is live, and the user signs out. -/
def cancelling : List Worker.Action :=
  [.head (openGate "channel") 0,
    .turn { answers := { validation := .ok ⟨"client", "login", "1", requiredScopes, 3600⟩ } },
    .head (openGate "channel") 0,
    .turn {
      resolve := fun _ => .ok ⟨"2"⟩
      welcoming := {
        connected := .ok (), first := .ok (some (.ok ⟨"welcome", .welcome "session" (fromSecs 10)⟩)) } },
    .head (openGate "channel") 0,
    .turn { wake := .command .cancelAuthentication },
    .head (openGate "channel") 0,
    .turn { wake := .command .signOut }]

/-- The worker is joined without an identity. -/
theorem Worker.unidentified :
    ∃ w, run step
        (start (.new "client" (TwitchCredentials.new "access" "refresh" 1).toOption) 1 60 0) cancelling =
          some w ∧ w.state.connection = .joined ∧ w.state.channelIdentity = none := by
  have h : (run step (start (.new "client" (TwitchCredentials.new "access" "refresh" 1).toOption) 1 60 0)
      cancelling).any
        (fun w => w.state.connection = .joined ∧ w.state.channelIdentity = none) = true := by
    decide +kernel
  obtain ⟨w, hw, hjoined⟩ := any_eq_true _ _ |>.mp h
  exact ⟨w, hw, of_decide_eq_true hjoined⟩

end OverCrow.Twitch
