import OverCrow.Base.Run
import OverCrow.Discord.Worker

/-!
# A Discord session and its peer

The branches of `run_socket`, `crates/overcrow-overlay/src/discord/client.rs:853`, and the
session they make with the RPC peer. The peer is a FIFO server: it processes the client's
commands in order and answers each where it processes it, acknowledging every `SUBSCRIBE`
and `UNSUBSCRIBE`. It emits voice events for the channels it holds a subscription of,
`VOICE_CHANNEL_SELECT` once that is subscribed, `READY` once, and provider errors and
authorization answers whenever it likes. What a reply to `GET_SELECTED_VOICE_CHANNEL`
contains is up to the peer, and so is whether it can be parsed.
-/

namespace OverCrow.Discord
open OverCrow.Base

/-- `client.rs:846`. -/
inductive SocketOutcome where
  | shutdown
  | restart
  | reconnect (category : FailureCategory)
  deriving DecidableEq

namespace Session

/-- A received message, `client.rs:874-913`. A message that
cannot be parsed is skipped; after a handled one the gate decides whether the socket stays. -/
def onMessage (ctx : EventContext) (gate : DiscordGate) (event : Option DiscordRpcEvent)
    (s : Session) : Session × Option SocketOutcome :=
  match event with
  | none => (s, none)
  | some event =>
    match (handleEvent ctx event).exec s with
    | (.error category, s) => (s, some (.reconnect category))
    | (.ok (), s) =>
      if gate.keepsSocketOpen s.worker.snapshot.connection then
        ({ s with worker := s.worker.publish }, none)
      else ({ s with worker := (s.worker.suspendForGate gate).publish }, some .restart)

/-- `client.rs:916-935`. The
context's timeout is the one for authorization here. -/
def connect (ctx : EventContext) (clientId : String) : Task Session BackendError Unit := do
  if (← get).worker.snapshot.connection = .authorizationRequired then
    modifyWorker (·.setConnection .authorizing)
    let nonce ← sendPayload (.authorize clientId)
    modifyWorker fun w =>
      ({ w with pendingAuthorizationNonce := some nonce }.beginSetup ctx.now ctx.timeout).publish

/-- `client.rs:1453`, and whether it
ends the session. -/
def processSignOut (ctx : EventContext) (s : Session) : Session × Bool :=
  let signedOut := s.auth.invalidate ctx.services
  let worker := if signedOut.1.isOk then
      s.worker.clearPrivateState.setConnection .authorizationRequired
    else s.worker
  ({ s with
     auth := signedOut.2
     worker := ({ worker with authLoaded := true }.updateAuthSnapshot signedOut.2).publish },
   signedOut.1.isOk)

end Session

/-! ### The peer -/

/-- A voice or speaking event. -/
inductive VoiceEvent where
  | created (participant : VoiceParticipant)
  | updated (participant : VoiceParticipant)
  | deleted (userId : String)
  | speaking (userId : String) (isSpeaking : Bool)
  deriving DecidableEq

/-- The parsed event; its channel is not part of it. -/
def VoiceEvent.toRpc : VoiceEvent → DiscordRpcEvent
  | .created participant => .participantCreated participant
  | .updated participant => .participantUpdated participant
  | .deleted userId => .participantDeleted userId
  | .speaking userId isSpeaking => .speakingChanged userId isSpeaking

/-- Messages that the peer may send at any time. -/
inductive UnsolicitedMessage where
  | authorizationGranted (nonce code : String)
  | authenticated (nonce userId : String)
  | providerError (command : Option String) (code : Int) (nonce : Option String)
  | ignored
  | malformed
  deriving DecidableEq

/-- What `parse_rpc_message` makes of it. -/
def UnsolicitedMessage.toRpc : UnsolicitedMessage → Option DiscordRpcEvent
  | .authorizationGranted nonce code => some (.authorizationGranted nonce code)
  | .authenticated nonce userId => some (.authenticated nonce userId)
  | .providerError command code nonce => some (.providerError command code nonce)
  | .ignored => some .ignored
  | .malformed => none

/-- How the peer answers `GET_SELECTED_VOICE_CHANNEL`. -/
inductive SelectedChannelReply where
  | channel (channel : Option VoiceChannel)
  | error (code : Int)
  | malformed
  deriving DecidableEq

/-- The parsed answer to a command. `AUTHORIZE` and `AUTHENTICATE` are answered by unsolicited
messages. -/
def replyEvent (sent : SentCommand) (reply : SelectedChannelReply) : Option DiscordRpcEvent :=
  match sent.command, reply with
  | .subscription pending, _ =>
    some (.subscriptionChanged (pending.command == .subscribe) pending.event sent.nonce)
  | .getSelectedVoiceChannel, .channel channel => some (.channelSnapshot sent.nonce channel)
  | .getSelectedVoiceChannel, .error code =>
    some (.providerError (some "GET_SELECTED_VOICE_CHANNEL") code (some sent.nonce))
  | _, _ => none

/-- What a message is about. -/
inductive MessageBody where
  | ready
  | reply (sent : SentCommand) (reply : SelectedChannelReply)
  | voice (channelId : String) (event : VoiceEvent)
  | selected (channelId : Option String)
  | unsolicited (message : UnsolicitedMessage)
  deriving DecidableEq

/-- A message on its way to the client. `served` is the number of the last command that the
server had processed when it sent the message. -/
structure Message where
  served : Nat
  body : MessageBody
  deriving DecidableEq

namespace Message

/-- What the client parses. -/
def event (m : Message) : Option DiscordRpcEvent :=
  match m.body with
  | .ready => some .ready
  | .reply sent reply => replyEvent sent reply
  | .voice _ event => some event.toRpc
  | .selected channelId => some (.channelSelected channelId)
  | .unsolicited message => message.toRpc

/-- The command that the message answers. -/
def answers (m : Message) : Option SentCommand :=
  match m.body with
  | .reply sent _ => some sent
  | _ => none

end Message

/-- A channel-scoped subscription. -/
abbrev Subscription := String × VoiceSubscriptionEvent

/-- The subscriptions held after a command. -/
def RpcCommand.hold (held : List Subscription) : RpcCommand → List Subscription
  | .subscription ⟨.subscribe, event, some channelId⟩ =>
    if (channelId, event) ∈ held then held else (channelId, event) :: held
  | .subscription ⟨.unsubscribe, event, some channelId⟩ => held.filter (· ≠ (channelId, event))
  | _ => held

/-- The socket's buffers hold fewer than `2 ^ 64` commands and answers, so that a send fails
long before a nonce that is still in use could come round again. -/
structure Link where
  capacity : Nat
  bounded : capacity < 2 ^ 64

/-- One session with its peer. -/
structure DiscordSystem where
  session : Session
  toClient : List Message := []
  readySent : Bool := false
  selectSubscribed : Bool := false
  held : List Subscription := []
  served : Nat := 0
  answered : Nat := 0
  running : Bool := true

namespace DiscordSystem

/-- The session as `run_provider` starts it, `client.rs:675`:
the RPC state is reset, a channel of an earlier session may still be held. -/
def start (worker : WorkerState) (auth : DiscordAuth) (now : Instant) (timeout : Duration) :
    DiscordSystem where
  session :=
    { worker := (worker.resetRpcSession.setConnection .connecting).armSetupDeadline now timeout
      socket := { sent := worker.nonce }
      auth }
  served := worker.nonce
  answered := worker.nonce

/-- Commands whose answer the client has not handled, in the order they were sent. -/
def unanswered (s : DiscordSystem) : List SentCommand :=
  s.toClient.filterMap Message.answers ++ s.session.socket.queue

/-- Sends that can still succeed before the buffers are full. -/
def withBudget (link : Link) (s : DiscordSystem) (budget : Nat) (failure : BackendError) :
    Session :=
  { s.session with socket :=
    { s.session.socket with
      budget := min budget (link.capacity - s.unanswered.length)
      failure } }

/-- What the client meets while it handles a message or a user's command. -/
structure Surroundings where
  ctx : EventContext
  gate : DiscordGate
  budget : Nat
  failure : BackendError
  clientId : String

/-- Surroundings in which the services fail and sends succeed. -/
def sampleAround : Surroundings where
  ctx :=
    { services :=
        { exchange := fun _ => .error .transport
          refresh := fun _ => .error .transport
          save := fun _ => .ok ()
          delete := .ok () }
      nowUnixSecs := 0
      now := 0
      timeout := 0
      lowercase := id }
  gate := ⟨true, true, true⟩
  budget := 100
  failure := .timeout
  clientId := "client"

/-- A step of the peer, of the client, or of its user. -/
inductive Action where
  | sendReady
  | process (reply : SelectedChannelReply)
  | sendVoice (channelId : String) (event : VoiceEvent)
  | sendSelected (channelId : Option String)
  | sendUnsolicited (message : UnsolicitedMessage)
  | receive (around : Surroundings)
  | connect (around : Surroundings)
  | signOut (ctx : EventContext)
  | gateChanged (gate : DiscordGate)
  | close

/-- Put a message on its way to the client. -/
def send (s : DiscordSystem) (body : MessageBody) : DiscordSystem :=
  { s with toClient := s.toClient ++ [⟨s.served, body⟩] }

/-- The server processes a command and answers it. -/
def serve (s : DiscordSystem) (sent : SentCommand) (queue : List SentCommand)
    (reply : SelectedChannelReply) : DiscordSystem :=
  let s := { s with
    session := { s.session with socket := { s.session.socket with queue } }
    held := sent.command.hold s.held
    selectSubscribed := s.selectSubscribed ||
      decide (sent.command = RpcCommand.subscription ⟨.subscribe, .voiceChannelSelect, none⟩)
    served := sent.seq }
  s.send (.reply sent reply)

/-- The client takes the oldest message. -/
def taken (s : DiscordSystem) (m : Message) (rest : List Message) : DiscordSystem :=
  { s with
    toClient := rest
    answered := (m.answers.map SentCommand.seq).getD s.answered }

/-- The client takes the oldest message and handles it. -/
def receive (link : Link) (s : DiscordSystem) (around : Surroundings) (m : Message)
    (rest : List Message) : DiscordSystem :=
  let s := s.taken m rest
  let handled := (s.withBudget link around.budget around.failure).onMessage around.ctx around.gate
    m.event
  { s with session := handled.1, running := handled.2.isNone }

/-- One step of a running session. The session ends with an outcome of the client, or because
the setup deadline passes, the connection is lost or the application shuts down. -/
def step (link : Link) (s : DiscordSystem) : Action → Option DiscordSystem
  | .sendReady =>
    if s.running ∧ ¬s.readySent then some ({ s with readySent := true }.send .ready) else none
  | .process reply =>
    match s.session.socket.queue with
    | sent :: queue => if s.running then some (s.serve sent queue reply) else none
    | [] => none
  | .sendVoice channelId event =>
    if s.running ∧ s.held.any (·.1 = channelId) then some (s.send (.voice channelId event))
    else none
  | .sendSelected channelId =>
    if s.running ∧ s.selectSubscribed then some (s.send (.selected channelId)) else none
  | .sendUnsolicited message =>
    if s.running then some (s.send (.unsolicited message)) else none
  | .receive around =>
    match s.toClient with
    | m :: rest => if s.running then some (s.receive link around m rest) else none
    | [] => none
  | .connect around =>
    if s.running then
      match (Session.connect around.ctx around.clientId).exec
          (s.withBudget link around.budget around.failure) with
      | (.ok (), session) => some { s with session }
      | (.error _, session) => some { s with session, running := false }
    else none
  | .signOut ctx =>
    if s.running then
      let signedOut := s.session.processSignOut ctx
      some { s with session := signedOut.1, running := !signedOut.2 }
    else none
  | .gateChanged gate =>
    if s.running then
      if gate.keepsSocketOpen s.session.worker.snapshot.connection then some s
      else some { s with
        session := { s.session with worker := (s.session.worker.suspendForGate gate).publish }
        running := false }
    else none
  | .close => if s.running then some { s with running := false } else none

end DiscordSystem

end OverCrow.Discord
