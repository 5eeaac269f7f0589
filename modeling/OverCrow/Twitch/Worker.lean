import OverCrow.Config.TwitchPrefs
import OverCrow.Twitch.Model

/-!
# The Twitch worker

`run_provider` of `crates/overcrow-overlay/src/twitch/client.rs`. A pass of its loop is two actions: the
`head` adopts the gate that it reads, the `turn` is the rest, at most one wait with what it wakes up to.
What the provider, the socket and the clock answer is part of the action. A shutdown ends the run.
-/

namespace OverCrow.Twitch
open OverCrow.Base OverCrow.Config

/-- `client.rs:68`. -/
inductive BackendError where
  | connection
  | timeout
  | protocol
  | authentication
  | channelUnavailable
  | provider
  deriving DecidableEq

/-- `client.rs:1129`. -/
def mapHttpError (error : HttpError) (resolvingChannel : Bool) : BackendError :=
  match error with
  | .timeout => .timeout
  | .transport => .connection
  | .invalidUrl | .invalidRequest | .bodyTooLarge => .protocol
  | .status code =>
    if code = 401 ∨ code = 403 then .authentication
    else if resolvingChannel then .channelUnavailable
    else .provider
  | .providerResponse => if resolvingChannel then .channelUnavailable else .provider

/-- `crates/overcrow-overlay/src/twitch/http.rs:82`. -/
structure TwitchUser where
  id : String
  deriving DecidableEq

/-- `http.rs:87`. -/
inductive ChatSubscription where
  | message
  | clear
  | messageDelete
  deriving DecidableEq

/-- `http.rs:104`. -/
structure ChatSendResult where
  messageId : Option String
  isSent : Bool
  deriving DecidableEq

/-- `client.rs:157`. -/
structure TwitchGate where
  lifecycleEnabled : Bool := false
  activeGameAuthorized : Bool := false
  widgetEnabled : Bool := false
  channel : Option String := none
  deriving DecidableEq

namespace TwitchGate

variable (gate : TwitchGate)

/-- `client.rs:165`. -/
def normalized : TwitchGate :=
  { gate with channel := gate.channel.bind fun channel => (normalizeTwitchChannel channel).toOption }

/-- `client.rs:173`. -/
def allowsControl : Bool := gate.lifecycleEnabled && gate.activeGameAuthorized && gate.widgetEnabled

/-- `client.rs:177`. -/
def isOpen : Bool := gate.allowsControl && gate.channel.isSome

end TwitchGate

/-- `client.rs:1232`. -/
structure Backoff where
  initial : Duration
  current : Duration
  maximum : Duration
  deriving DecidableEq

/-- `client.rs:1239`. -/
def Backoff.new (initial maximum : Duration) : Backoff := ⟨initial, initial, maximum⟩

/-- `client.rs:1247`. -/
def Backoff.nextDelay (backoff : Backoff) : Duration × Backoff :=
  (backoff.current,
    { backoff with current := min (saturatingMul durationMax backoff.current 2) backoff.maximum })

/-- `client.rs:1253`. -/
def Backoff.reset (backoff : Backoff) : Backoff := { backoff with current := backoff.initial }

/-- `client.rs:53`. -/
def keepaliveGrace : Duration := fromSecs 10

/-- `client.rs:54`. -/
def chatPublicationDelay : Duration := 33 * 1000000

/-- `client.rs:47`. -/
def initialEventsubUrl : String := "wss://eventsub.wss.twitch.tv/ws"

/-- `client.rs:1203`. -/
def farFuture (now : Instant) : Instant := (checkedAddDuration now (fromSecs (24 * 60 * 60))).getD now

/-- `client.rs:1209`. -/
def keepaliveDeadlineAfter (now : Instant) (timeout : Duration) : Option Instant :=
  checkedAddDuration now (addDuration timeout keepaliveGrace)

/-! ### State -/

/-- `WorkerState` with its default, `client.rs:358-384`. -/
structure WorkerState where
  connection : TwitchConnectionState := .inert
  channel : Option String := none
  channelIdentity : Option TwitchUser := none
  buffer : MessageBuffer := {}
  sendReceipt : Option TwitchSendReceipt := none
  generation : Nat := 0
  userPaused : Bool := false
  deliveryDedup : DeliveryDedup := {}
  snapshotDue : Option Instant := none
  deriving DecidableEq

namespace WorkerState

variable (state : WorkerState)

/-- `client.rs:387`. -/
def snapshot (auth : AuthMachine) : TwitchSnapshot where
  generation := state.generation
  channel := state.channel
  connection :=
    match auth.presentation with
    | .awaitingUser _ _ _ => .authorizing
    | .failed category => .failed category
    | .disconnected | .connected _ _ => state.connection
  messages := state.buffer.messages
  authorization :=
    match auth.presentation with
    | .awaitingUser userCode verificationUri expiresAt => some ⟨userCode, verificationUri, expiresAt⟩
    | _ => none
  authenticatedLogin := auth.authenticatedLogin
  credentialsAvailable := auth.credentialsAvailable
  credentialsPersisted := auth.credentialsPersisted
  clientConfigured := !auth.clientId.isEmpty
  sendReceipt := state.sendReceipt

/-- `client.rs:420`. -/
def clearPrivateState : WorkerState :=
  { state with
    channelIdentity := none, buffer := {}, sendReceipt := none, deliveryDedup := {}, snapshotDue := none
    generation := saturatingAdd u64Max state.generation 1 }

/-- `client.rs:429`. -/
def pauseChat : WorkerState := { state with userPaused := true, connection := .disconnected }

/-- `client.rs:434`. -/
def scheduleChatPublication (now : Instant) : WorkerState :=
  if state.snapshotDue.isNone then
    { state with snapshotDue := checkedAddDuration now chatPublicationDelay }
  else state

/-- The receipt of a rejected message. -/
def reject (requestId : Nat) : WorkerState :=
  { state with sendReceipt := some ⟨requestId, .rejected⟩ }

/-- `client.rs:854`. -/
def applyEvent (event : EventSubKind) (now : Instant) : Except BackendError (Bool × WorkerState) :=
  match state.channelIdentity with
  | none => .error .protocol
  | some expected =>
    match event with
    | .keepalive | .unsupported => .ok (false, state)
    | .chatMessage broadcasterUserId message =>
      if broadcasterUserId ≠ expected.id then .error .protocol
      else .ok (true, { state with buffer := state.buffer.upsertReceived message now })
    | .chatClear broadcasterUserId =>
      if broadcasterUserId ≠ expected.id then .error .protocol
      else .ok (true, { state with buffer := {} })
    | .chatMessageDelete broadcasterUserId messageId =>
      if broadcasterUserId ≠ expected.id then .error .protocol
      else .ok (true, { state with buffer := state.buffer.removeMessage messageId })
    | .revocation .authentication => .error .authentication
    | .revocation .channelUnavailable => .error .channelUnavailable
    | .revocation .provider => .error .provider
    | .welcome _ _ | .reconnect _ => .error .protocol

end WorkerState

/-- An open socket, by its address. -/
structure EventSocket where
  url : String
  deriving DecidableEq

/-- What the worker tells others, and when the user leaves a chat. -/
inductive Effect where
  /-- `resolve_channel` has answered with the user of a login. -/
  | resolved (login : String) (user : TwitchUser)
  /-- `send_chat_message` is called. -/
  | sent (message : SendMessage) (broadcasterId senderId : String)
  /-- The channel changes, the widget is lost, or the user signs out. -/
  | departed
  | published (snapshot : TwitchSnapshot)
  deriving DecidableEq

/-- Which half of a pass comes next. -/
inductive Place where
  | head
  | turn
  deriving DecidableEq

/-- The variables of `run_provider`, `client.rs:458-477`, with the
record of what it has done. -/
structure Worker where
  auth : AuthMachine
  state : WorkerState := {}
  activeGate : TwitchGate := {}
  socket : Option EventSocket := none
  keepaliveTimeout : Option Duration := none
  keepaliveDeadline : Option Instant := none
  restoreAttempted : Bool := false
  reconnectAt : Instant
  backoff : Backoff
  place : Place := .head
  log : List Effect := []
  deriving DecidableEq

/-! ### Answers -/

/-- What a socket answers while it is opened: within the timeout, and with its first message. -/
structure Welcoming where
  /-- `valid_eventsub_url` on the address. -/
  urlAccepted : Bool := true
  connected : Except BackendError Unit := .error .connection
  first : Except BackendError (Option (Except EventSubParseError EventSubMessage)) := .error .timeout

/-- What a wait wakes up to. -/
inductive Wake where
  /-- Nothing else than the gate. -/
  | gate
  | command (command : TwitchCommand)
  /-- `LiveWake::Socket(Ok(Some(raw)))`, as it is parsed. -/
  | message (parsed : Except EventSubParseError EventSubMessage)
  /-- `LiveWake::Socket(Ok(None) | Err(_))`. -/
  | socketEnded
  | keepaliveExpired
  | authDeadline
  | snapshotDue
  /-- The earlier one of the next attempt to connect and the deadline of the authorization. -/
  | deadline
  deriving DecidableEq

/-- The rest of a pass: its clocks before and after the wait, and all that is answered in it. -/
structure Turn where
  wake : Wake := .gate
  now : Instant := 0
  nowUnixSecs : Nat := 0
  wokenAt : Instant := 0
  wokenUnixSecs : Nat := 0
  answers : Answers := {}
  resolve : String → Except HttpError TwitchUser := fun _ => .error .transport
  welcoming : Welcoming := {}
  subscribe : ChatSubscription → Except HttpError Unit := fun _ => .ok ()
  send : Except HttpError ChatSendResult := .error .transport

/-! ### Connecting -/

/-- `client.rs:829`. -/
def connectAndWelcome (url : String) (welcoming : Welcoming) :
    Except BackendError (EventSocket × String × Duration) := do
  if !welcoming.urlAccepted then throw .protocol
  welcoming.connected
  match ← welcoming.first with
  | none => throw .connection
  | some (.error _) => throw .protocol
  | some (.ok message) =>
    match message.kind with
    | .welcome sessionId keepaliveTimeout => return (⟨url⟩, sessionId, keepaliveTimeout)
    | _ => throw .protocol

/-- `client.rs:441`. -/
structure ConnectedSession where
  socket : EventSocket
  keepaliveTimeout : Duration
  channel : TwitchUser
  deriving DecidableEq

/-- The socket and the subscriptions of a resolved channel,
`client.rs:792-817`. -/
def subscribeAll (t : Turn) (channel : TwitchUser) : Except BackendError ConnectedSession := do
  let (socket, _, keepaliveTimeout) ← connectAndWelcome initialEventsubUrl t.welcoming
  for subscription in [ChatSubscription.message, .clear, .messageDelete] do
    (t.subscribe subscription).mapError (mapHttpError · false)
  return ⟨socket, keepaliveTimeout, channel⟩

/-- `client.rs:770`, with what it resolves. -/
def connectInitial (auth : AuthMachine) (gate : TwitchGate) (t : Turn) :
    List Effect × Except BackendError ConnectedSession :=
  match auth.accessToken, auth.authenticatedUserId, gate.channel with
  | none, _, _ | some _, none, _ => ([], .error .authentication)
  | some _, some _, none => ([], .error .channelUnavailable)
  | some _, some _, some login =>
    match t.resolve login with
    | .error error => ([], .error (mapHttpError error true))
    | .ok channel => ([.resolved login channel], subscribeAll t channel)

/-! ### Parts of a turn -/

namespace Worker

variable (w : Worker)

/-- `client.rs:1180`. -/
def publish : Worker := { w with log := w.log ++ [.published (w.state.snapshot w.auth)] }

/-- The socket is closed with its deadlines, `client.rs:490-492`. -/
def closeSocket : Worker :=
  { w with socket := none, keepaliveTimeout := none, keepaliveDeadline := none }

/-- `client.rs:1112`. -/
def applyConnectionFailure (error : BackendError) (answers : Answers) : Worker :=
  { w with
    auth := if error = .authentication then w.auth.clearInvalidCredentials answers .authentication
      else w.auth
    state := { w.state with
      channelIdentity := none
      connection := match error with
        | .authentication => .failed .authentication
        | .channelUnavailable => .failed .channelUnavailable
        | .connection | .timeout => .reconnecting
        | .protocol | .provider => .failed .providerResponse } }

/-- `client.rs:1213`. -/
def reconnectAfter (now : Instant) : Worker :=
  { w with
    reconnectAt := (checkedAddDuration now w.backoff.nextDelay.1).getD now
    backoff := w.backoff.nextDelay.2 }

/-- `client.rs:929-934,987-993`. -/
def signOut (answers : Answers) : Worker :=
  { w with
    auth := (w.auth.disconnect answers).2
    state := { w.state with userPaused := false }.clearPrivateState
    log := w.log ++ [.departed] }

/-- `client.rs:904`. -/
def handleClosedCommand (command : TwitchCommand) (allowAuth : Bool) (answers : Answers)
    (now : Instant) : Worker :=
  match command with
  | .beginAuthentication =>
    if !allowAuth then w
    else if w.auth.canConnect then { w with state := { w.state with userPaused := false } }
    else { w with auth := (w.auth.begin answers now).2 }
  | .cancelAuthentication => { w with auth := w.auth.cancel }
  | .disconnect => { w with state := w.state.pauseChat }
  | .signOut => w.signOut answers
  | .reconnect => if allowAuth then { w with state := { w.state with userPaused := false } } else w
  | .sendMessage message => { w with state := w.state.reject message.requestId }

/-- The first checks of `send_message`, `client.rs:1026-1031`. -/
def accepts (message : SendMessage) : Bool :=
  w.state.connection = .joined && message.generation = w.state.generation &&
  (normalizeTwitchChannel message.channel).toOption = w.activeGate.channel &&
  !isBlank message.text && message.text.toList.length ≤ twitchMessageMaxChars &&
  !message.text.toList.any isControl

/-- What the answer to `send_chat_message` changes, `client.rs:1070-1103`. -/
def concludeSend (message : SendMessage) (answers : Answers)
    (result : Except HttpError ChatSendResult) : Bool × Worker :=
  let nonce := toString message.requestId
  let failed := { w with
    state := { w.state with buffer := w.state.buffer.failPending nonce }.reject message.requestId }
  match result with
  | .ok ⟨some messageId, true⟩ =>
    (false, { w with state := { w.state with
      buffer := w.state.buffer.markSent nonce messageId
      sendReceipt := some ⟨message.requestId, .accepted⟩ } })
  | .ok _ => (false, failed)
  | .error error =>
    if mapHttpError error false = .authentication then
      (true, failed.applyConnectionFailure .authentication answers)
    else (false, failed)

/-- `client.rs:1007`. -/
def sendMessage (message : SendMessage) (answers : Answers) (result : Except HttpError ChatSendResult)
    (now : Instant) : Bool × Worker :=
  let rejected := (false, { w with state := w.state.reject message.requestId })
  if !w.accepts message then rejected
  else
    match w.state.channelIdentity, w.auth.accessToken, w.auth.authenticatedUserId with
    | some identity, some _, some senderId =>
      match w.state.buffer.pushPending (toString message.requestId)
          (w.auth.authenticatedLogin.getD "") message.text now with
      | none => rejected
      | some buffer =>
        { w with
          state := { w.state with buffer := buffer }
          log := w.log ++ [Effect.sent message identity.id senderId] }.concludeSend message answers result
    | _, _, _ => rejected

/-- `client.rs:953`: whether the socket is to be
closed. -/
def handleLiveCommand (command : TwitchCommand) (t : Turn) : Bool × Worker :=
  match command with
  | .sendMessage message => w.sendMessage message t.answers t.send t.wokenAt
  | .reconnect =>
    (true, { w with state := { w.state with userPaused := false, connection := .reconnecting } })
  | .disconnect => (true, { w with state := w.state.pauseChat })
  | .signOut =>
    let signedOut := w.signOut t.answers
    (true, { signedOut with state := { signedOut.state with connection := .disconnected } })
  | .beginAuthentication => (false, w)
  | .cancelAuthentication => (false, { w with auth := w.auth.cancel })

/-- `client.rs:1198`. -/
def authDeadline (t : Turn) : Instant :=
  (w.auth.nextDeadline t.now t.nowUnixSecs).getD (farFuture t.now)

/-- The authorization ticks. -/
def tick (t : Turn) : Worker :=
  { w with auth := (w.auth.tick t.answers t.wokenAt t.wokenUnixSecs).2 }

/-- A timer has fired, which it does not before its deadline. -/
def fired (deadline : Instant) (t : Turn) (after : Worker) : Option Worker :=
  if deadline ≤ t.wokenAt then some after else none

/-! ### Turns -/

/-- Without control, `client.rs:514-529`. -/
def idleTurn (t : Turn) : Option Worker :=
  match t.wake with
  | .gate => some w
  | .command command => some (w.handleClosedCommand command false t.answers t.wokenAt).publish
  | _ => none

/-- The session is restored once, `client.rs:531-537`. -/
def restoringTurn (t : Turn) : Worker :=
  { w with
    restoreAttempted := true
    auth := (w.auth.restore t.answers t.now t.nowUnixSecs).2 }.publish

/-- Without a session, a channel, or while the user pauses,
`client.rs:539-564`. -/
def closedTurn (t : Turn) : Option Worker :=
  let w := { w with state := { w.state with
    connection := if w.state.userPaused || w.activeGate.channel.isNone then .disconnected
      else w.state.connection } }
  match t.wake with
  | .gate => some w.publish
  | .command command => some (w.handleClosedCommand command true t.answers t.wokenAt).publish
  | .authDeadline => fired (w.authDeadline t) t (w.tick t).publish
  | _ => none

/-- Until the next attempt to connect, `client.rs:568-593`. -/
def waitingTurn (t : Turn) : Option Worker :=
  match t.wake with
  | .gate => some w.publish
  | .command command => some (w.handleClosedCommand command true t.answers t.wokenAt).publish
  | .deadline =>
    let deadline := min w.reconnectAt (w.authDeadline t)
    fired deadline t (if deadline = w.authDeadline t then w.tick t else w).publish
  | _ => none

/-- An attempt to connect, `client.rs:595-619`. -/
def connectingTurn (t : Turn) : Worker :=
  let w := { w with state := { w.state with connection := .connecting } }.publish
  let connected := connectInitial w.auth w.activeGate t
  let w := { w with log := w.log ++ connected.1 }
  match connected.2 with
  | .ok session =>
    { w with
      state := { w.state with channelIdentity := some session.channel, connection := .joined }
      socket := some session.socket
      keepaliveTimeout := some session.keepaliveTimeout
      keepaliveDeadline := keepaliveDeadlineAfter t.wokenAt session.keepaliveTimeout
      backoff := w.backoff.reset }.publish
  | .error error => ((w.applyConnectionFailure error t.answers).reconnectAfter t.wokenAt).publish

/-- The end of a live pass, `client.rs:763-766`. -/
def publishNow : Worker := { w with state := { w.state with snapshotDue := none } }.publish

/-- A failure closes the socket, `client.rs:705-711,729-735`. -/
def failSocket (error : BackendError) (t : Turn) : Worker :=
  ({ w with socket := none, keepaliveTimeout := none }.applyConnectionFailure error
    t.answers).reconnectAfter t.wokenAt

/-- `EventSubKind::Reconnect`, `client.rs:690-713`. -/
def replaceSocket (url : String) (t : Turn) : Worker :=
  let w := { w with state := { w.state with connection := .reconnecting } }.publish
  match connectAndWelcome url t.welcoming with
  | .ok (replacement, _, timeout) =>
    { w with
      socket := some replacement
      keepaliveTimeout := some timeout
      keepaliveDeadline := keepaliveDeadlineAfter t.wokenAt timeout
      state := { w.state with connection := .joined } }
  | .error error => w.failSocket error t

/-- A message that has not been delivered before, `client.rs:689-737`. -/
def receive (kind : EventSubKind) (t : Turn) : Worker :=
  match kind with
  | .reconnect url => (w.replaceSocket url t).publishNow
  | kind =>
    match w.state.applyEvent kind t.wokenAt with
    | .ok (true, state) => { w with state := state.scheduleChatPublication t.wokenAt }
    | .ok (false, state) => { w with state := state }
    | .error .protocol => w
    | .error error => (w.failSocket error t).publishNow

/-- With an open socket, `client.rs:621-766`. -/
def liveTurn (t : Turn) : Option Worker :=
  match t.wake with
  | .gate => some w
  | .command command =>
    let (disconnect, w) := w.handleLiveCommand command t
    some (if disconnect then { w.closeSocket with reconnectAt := t.wokenAt } else w).publishNow
  | .message parsed =>
    let w := { w with
      keepaliveDeadline := w.keepaliveTimeout.bind (keepaliveDeadlineAfter t.wokenAt) }
    match parsed with
    | .error _ => some w
    | .ok message =>
      let (fresh, dedup) := w.state.deliveryDedup.insert message.deliveryId
      let w := { w with state := { w.state with deliveryDedup := dedup } }
      some (if fresh then w.receive message.kind t else w)
  | .socketEnded =>
    some (({ w.closeSocket with
      state := { w.state with connection := .reconnecting } }).reconnectAfter t.wokenAt).publishNow
  | .keepaliveExpired =>
    fired (w.keepaliveDeadline.getD (farFuture t.now)) t
      (({ w.closeSocket with
        state := { w.state with connection := .reconnecting } }).reconnectAfter t.wokenAt).publishNow
  | .authDeadline =>
    let ticked := w.tick t
    fired (w.authDeadline t) t
      (if ticked.auth.canConnect then ticked
        else { ticked.closeSocket with
          state := { ticked.state with connection := .disconnected } }).publishNow
  | .snapshotDue => fired (w.state.snapshotDue.getD (farFuture t.now)) t w.publishNow
  | .deadline => none

/-- The branches of the loop, `client.rs:514-621`. -/
inductive Phase where
  | idle
  | restoring
  | closed
  | waiting
  | connecting
  | live
  deriving DecidableEq

/-- The branch that is taken. -/
def phase (now : Instant) : Phase :=
  if !w.activeGate.allowsControl then .idle
  else if !w.restoreAttempted then .restoring
  else if !w.auth.canConnect || !w.activeGate.isOpen || w.state.userPaused then .closed
  else if w.socket.isNone then if now < w.reconnectAt then .waiting else .connecting
  else .live

/-- The rest of a pass. -/
def turn (t : Turn) : Option Worker :=
  match w.phase t.now with
  | .idle => w.idleTurn t
  | .restoring => some (w.restoringTurn t)
  | .closed => w.closedTurn t
  | .waiting => w.waitingTurn t
  | .connecting => some (w.connectingTurn t)
  | .live => w.liveTurn t

/-- The channel changes or the widget is lost. -/
def departs (gate : TwitchGate) : Bool :=
  gate.channel ≠ w.activeGate.channel || (w.activeGate.widgetEnabled && !gate.widgetEnabled)

/-- The gate is adopted if it has changed, `client.rs:485-512`. -/
def adopt (gate : TwitchGate) (now : Instant) : Worker :=
  if gate = w.activeGate then w
  else
    let channelChanged : Bool := gate.channel ≠ w.activeGate.channel
    let lostLifecycle := !gate.lifecycleEnabled || !gate.widgetEnabled
    let state := if lostLifecycle || channelChanged then w.state.clearPrivateState else w.state
    { w.closeSocket with
      auth := if lostLifecycle then w.auth.cancelPending else w.auth
      state := { state with
        userPaused := if channelChanged then false else state.userPaused
        channel := gate.channel
        connection := if gate.allowsControl then .disconnected else .inert }
      activeGate := gate
      reconnectAt := now
      backoff := w.backoff.reset
      log := w.log ++ if w.departs gate then [Effect.departed] else [] }.publish

/-- The worker at its start, `client.rs:469-478`. -/
def start (auth : AuthMachine) (initialBackoff maximumBackoff : Duration) (now : Instant) : Worker :=
  { auth := auth, reconnectAt := now, backoff := Backoff.new initialBackoff maximumBackoff
    : Worker }.publish

/-- The halves of a pass. -/
inductive Action where
  /-- The head of the loop reads the gate that `set_gate` has normalised. -/
  | head (gate : TwitchGate) (now : Instant)
  | turn (t : Turn)

/-- The loop of `run_provider`, `client.rs:479`. -/
def step (w : Worker) (action : Action) : Option Worker :=
  match w.place, action with
  | .head, .head gate now => some { w.adopt gate.normalized now with place := .turn }
  | .turn, .turn t => (w.turn t).map fun w => { w with place := .head }
  | _, _ => none

end Worker

end OverCrow.Twitch
