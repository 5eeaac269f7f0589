import OverCrow.Base.Task
import OverCrow.Discord.Auth
import OverCrow.Discord.Model

/-!
# Discord worker

The state machine of `crates/overcrow-overlay/src/discord/client.rs`: the worker state, the
commands it sends and `handle_event`. A send may fail, and the event is then abandoned with
the mutations made so far. Commands are given by their content rather than by their JSON
text. Diagnostics are written to the log only and are left out.
-/

namespace OverCrow.Discord
open OverCrow.Base

/-- `client.rs:65`. -/
inductive BackendError where
  | connection
  | timeout
  | protocol
  deriving DecidableEq

/-- The members of `FailureCategory` that a Discord session reports,
`crates/overcrow-overlay/src/runtime/widget_diagnostics.rs:29`. -/
inductive FailureCategory where
  | connection
  | timeout
  | validation
  | identity
  | response
  deriving DecidableEq

/-- `client.rs:1268`. -/
def backendFailureCategory : BackendError → FailureCategory
  | .connection => .connection
  | .timeout => .timeout
  | .protocol => .response

/-- `client.rs:54`. -/
def rpcInvalidToken : Int := 4009

/-- `client.rs:272`. -/
inductive DiscordConnectionState where
  | inert
  | clientNotConfigured
  | connecting
  | authorizationRequired
  | authorizing
  | authenticating
  | ready
  | discordUnavailable
  | failed
  deriving DecidableEq

/-- `client.rs:245`. -/
structure DiscordGate where
  lifecycleEnabled : Bool := false
  activeGameAuthorized : Bool := false
  widgetEnabled : Bool := false
  deriving DecidableEq

/-- `client.rs:252`. -/
def DiscordGate.isOpen (gate : DiscordGate) : Bool :=
  gate.lifecycleEnabled && gate.activeGameAuthorized && gate.widgetEnabled

/-- `client.rs:256`. -/
def DiscordGate.keepsSocketOpen (gate : DiscordGate) (connection : DiscordConnectionState) :
    Bool :=
  gate.isOpen || (gate.lifecycleEnabled && gate.widgetEnabled &&
    (connection == .authorizing || connection == .authenticating))

/-- `client.rs:266`. -/
def DiscordGate.retainsDisplayOnClose (gate : DiscordGate) : Bool :=
  gate.lifecycleEnabled && gate.widgetEnabled

/-- `client.rs:286`. -/
structure DiscordSnapshot where
  generation : Nat := 0
  connection : DiscordConnectionState := .inert
  channel : Option VoiceChannel := none
  credentialsAvailable : Bool := false
  credentialsPersisted : Bool := false
  clientConfigured : Bool := false
  deriving DecidableEq

/-- `client.rs:565`. -/
inductive SubscriptionCommand where
  | subscribe
  | unsubscribe
  deriving DecidableEq

/-- `client.rs:578`. -/
def SubscriptionCommand.matchesResponse (command : SubscriptionCommand) (subscribed : Bool) :
    Bool :=
  subscribed == (command == .subscribe)

/-- `client.rs:582`. -/
def SubscriptionCommand.parse (value : String) : Option SubscriptionCommand :=
  if value = "SUBSCRIBE" then some .subscribe
  else if value = "UNSUBSCRIBE" then some .unsubscribe
  else none

/-- `client.rs:592`. -/
structure PendingSubscription where
  command : SubscriptionCommand
  event : VoiceSubscriptionEvent
  channelId : Option String
  deriving DecidableEq

/-- The content of a command, without its nonce. -/
inductive RpcCommand where
  | authorize (clientId : String)
  | authenticate (accessToken : String)
  | subscription (pending : PendingSubscription)
  | getSelectedVoiceChannel
  deriving DecidableEq

/-- A command as it was sent. `seq` counts the commands of the worker without wrapping; it is
not part of the message. -/
structure SentCommand where
  seq : Nat
  nonce : String
  command : RpcCommand
  deriving DecidableEq

/-- `client.rs:483`. -/
structure WorkerState where
  snapshot : DiscordSnapshot := {}
  localUserId : Option String := none
  nonce : Nat := 0
  authLoaded : Bool := false
  authenticationRefreshAttempted : Bool := false
  pendingAuthorizationNonce : Option String := none
  pendingAuthenticationNonce : Option String := none
  subscribedChannelId : Option String := none
  pendingSubscriptions : Std.ExtTreeMap String PendingSubscription := ∅
  pendingChannelSnapshotNonce : Option String := none
  selectedChannelId : Option (Option String) := none
  channelSnapshotReceived : Bool := false
  sessionHealthy : Bool := false
  setupDeadline : Option Instant := none

namespace WorkerState

/-- `client.rs:536`. -/
def resetRpcSession (w : WorkerState) : WorkerState :=
  { w with
    localUserId := none
    pendingAuthorizationNonce := none
    pendingAuthenticationNonce := none
    subscribedChannelId := none
    pendingSubscriptions := ∅
    pendingChannelSnapshotNonce := none
    selectedChannelId := none
    channelSnapshotReceived := false
    sessionHealthy := false
    setupDeadline := none }

/-- Replace the held channel. -/
def setChannel (w : WorkerState) (channel : Option VoiceChannel) : WorkerState :=
  { w with snapshot := { w.snapshot with channel } }

/-- Replace the connection state. -/
def setConnection (w : WorkerState) (connection : DiscordConnectionState) : WorkerState :=
  { w with snapshot := { w.snapshot with connection } }

/-- `client.rs:523`. -/
def clearPrivateState (w : WorkerState) : WorkerState := (w.setChannel none).resetRpcSession

/-- `client.rs:528`. -/
def suspendForGate (w : WorkerState) (gate : DiscordGate) : WorkerState :=
  let w := if gate.retainsDisplayOnClose then w else w.setChannel none
  w.resetRpcSession.setConnection .inert

/-- `client.rs:554`. -/
def armSetupDeadline (w : WorkerState) (now : Instant) (timeout : Duration) : WorkerState :=
  { w with setupDeadline := some (now + timeout) }

/-- `client.rs:558`. -/
def beginSetup (w : WorkerState) (now : Instant) (timeout : Duration) : WorkerState :=
  { w with sessionHealthy := false }.armSetupDeadline now timeout

/-- `client.rs:1391`. -/
def markSessionHealthyIfReady (w : WorkerState) : WorkerState :=
  if w.channelSnapshotReceived && w.pendingSubscriptions.isEmpty then
    { w with setupDeadline := none, sessionHealthy := true }
  else w

/-- `client.rs:1401`. -/
def markAuthorizationReady (w : WorkerState) : WorkerState :=
  { w with setupDeadline := none, sessionHealthy := true }

/-- `client.rs:1476`. -/
def updateAuthSnapshot (w : WorkerState) (auth : DiscordAuth) : WorkerState :=
  { w with snapshot :=
    { w.snapshot with
      credentialsAvailable := auth.accessToken.isSome
      credentialsPersisted := auth.persisted } }

/-- `client.rs:1481`, on the worker's state. -/
def publish (w : WorkerState) : WorkerState :=
  { w with snapshot := { w.snapshot with generation := (w.snapshot.generation + 1) % 2 ^ 64 } }

/-- Whether an unsubscribe is pending, `client.rs:1344`. -/
def unsubscribePending (w : WorkerState) : Bool :=
  w.pendingSubscriptions.toList.any fun entry => entry.2.command == .unsubscribe

/-- `active_channel_mut`, `client.rs:1436`: the held channel
is only written to while it is the subscribed one. -/
def modifyActiveChannel (w : WorkerState) (f : VoiceChannel → VoiceChannel) : WorkerState :=
  match w.subscribedChannelId, w.snapshot.channel with
  | some subscribed, some channel =>
    if channel.id = subscribed then w.setChannel (some (f channel)) else w
  | _, _ => w

end WorkerState

/-! ### Sending -/

/-- The sending side of the socket: what was accepted for sending, oldest first, and how many
commands were sent so far. While the present event is handled `budget` more sends succeed;
the next one ends with `failure`, or with a timeout. -/
structure RpcSocket where
  queue : List SentCommand := []
  sent : Nat := 0
  budget : Nat := 0
  failure : BackendError := .timeout

/-- What `handle_event` works on. -/
structure Session where
  worker : WorkerState
  socket : RpcSocket
  auth : DiscordAuth

/-- What one event is handled with: the services' results, the clocks, the operation timeout,
and `str::to_lowercase`. -/
structure EventContext where
  services : AuthServices
  nowUnixSecs : Nat
  now : Instant
  timeout : Duration
  lowercase : String → String

namespace Session

/-- Mutate the worker state. -/
def modifyWorker {ε : Type} (f : WorkerState → WorkerState) : Task Session ε Unit :=
  modify fun s => { s with worker := f s.worker }

/-- `send_payload` with `next_nonce`,
`client.rs:549,1304`. The nonce is used up even when the
send fails. -/
def sendPayload (command : RpcCommand) : Task Session BackendError String := do
  modifyWorker fun w => { w with nonce := (w.nonce + 1) % 2 ^ 64 }
  let s ← get
  if s.socket.budget = 0 then throw s.socket.failure
  else
    let nonce := toString s.worker.nonce
    let socket := { s.socket with
      queue := s.socket.queue ++ [⟨s.socket.sent + 1, nonce, command⟩]
      sent := s.socket.sent + 1
      budget := s.socket.budget - 1 }
    set { s with socket }
    pure nonce

/-- `client.rs:1276`. -/
def sendAuthenticate (ctx : EventContext) : Task Session BackendError Unit := do
  match (← get).auth.accessToken with
  | none => throw .protocol
  | some accessToken =>
    modifyWorker (·.setConnection .authenticating)
    let nonce ← sendPayload (.authenticate accessToken)
    modifyWorker fun w =>
      { w with pendingAuthenticationNonce := some nonce }.armSetupDeadline ctx.now ctx.timeout

/-- `client.rs:1321`. -/
def requestSelectedChannel (ctx : EventContext) : Task Session BackendError Unit := do
  let nonce ← sendPayload .getSelectedVoiceChannel
  modifyWorker fun w =>
    { w with
      pendingChannelSnapshotNonce := some nonce
      channelSnapshotReceived := false }.armSetupDeadline ctx.now ctx.timeout

/-- `client.rs:1409`. -/
def sendSubscription (ctx : EventContext) (pending : PendingSubscription) :
    Task Session BackendError Unit := do
  let nonce ← sendPayload (.subscription pending)
  modifyWorker fun w =>
    { w with pendingSubscriptions :=
      w.pendingSubscriptions.insert nonce pending }.armSetupDeadline ctx.now ctx.timeout

/-- The loop over the channel-scoped events in `reconcile_channel_subscriptions`. -/
def sendSubscriptions (ctx : EventContext) (command : SubscriptionCommand) (channelId : String) :
    List VoiceSubscriptionEvent → Task Session BackendError Unit
  | [] => pure ()
  | event :: events => do
    sendSubscription ctx ⟨command, event, some channelId⟩
    sendSubscriptions ctx command channelId events

/-- `client.rs:1339`. -/
def reconcileChannelSubscriptions (ctx : EventContext) : Task Session BackendError Unit := do
  let w := (← get).worker
  let nextChannelId := w.snapshot.channel.map VoiceChannel.id
  if w.unsubscribePending then pure ()
  else if w.subscribedChannelId = nextChannelId then pure ()
  else
    match w.subscribedChannelId, nextChannelId with
    | some previous, _ => do
      modifyWorker fun w => { w with subscribedChannelId := none }
      sendSubscriptions ctx .unsubscribe previous VoiceSubscriptionEvent.channelScoped
    | none, none => pure ()
    | none, some next => do
      sendSubscriptions ctx .subscribe next VoiceSubscriptionEvent.channelScoped
      modifyWorker fun w => { w with subscribedChannelId := some next }

/-! ### Authorization events -/

/-- Run a step of the authorization and keep its state, `Err` included. -/
def authStep (f : DiscordAuth → Except AuthError Unit × DiscordAuth) :
    Task Session FailureCategory (Except AuthError Unit) := do
  let s ← get
  let stepped := f s.auth
  set { s with auth := stepped.2 }
  pure stepped.1

/-- `update_auth_snapshot` with the authorization as it now stands. -/
def refreshAuthSnapshot : Task Session FailureCategory Unit := do
  let auth := (← get).auth
  modifyWorker (·.updateAuthSnapshot auth)

/-- Back to waiting for the user, `client.rs:991`. -/
def requireAuthorization : Task Session FailureCategory Unit :=
  modifyWorker fun w => (w.setConnection .authorizationRequired).markAuthorizationReady

/-- `Ready`, `client.rs:984`. -/
def handleReady (ctx : EventContext) : Task Session FailureCategory Unit := do
  if (← get).auth.accessToken.isSome then
    match ← authStep (·.refreshIfNeeded ctx.services ctx.nowUnixSecs) with
    | .ok () => (sendAuthenticate ctx).mapError backendFailureCategory
    | .error .authorizationExpired => requireAuthorization
    | .error (.oauth .unauthorized) =>
      match ← authStep (·.invalidate ctx.services) with
      | .ok () => requireAuthorization
      | .error _ => modifyWorker (·.setConnection .failed)
    | .error _ => do
      modifyWorker (·.setConnection .failed)
      throw .identity
  else requireAuthorization
  refreshAuthSnapshot

/-- `AuthorizationGranted`, `client.rs:1015`. -/
def handleAuthorizationGranted (ctx : EventContext) (nonce code : String) :
    Task Session FailureCategory Unit := do
  let w := (← get).worker
  if w.snapshot.connection ≠ .authorizing ∨ w.pendingAuthorizationNonce ≠ some nonce then pure ()
  else
    modifyWorker fun w => { w with pendingAuthorizationNonce := none }
    match ← authStep (·.authorize ctx.services code ctx.nowUnixSecs) with
    | .ok () => (sendAuthenticate ctx).mapError backendFailureCategory
    | .error _ => modifyWorker fun w =>
        { w.setConnection .authorizationRequired with setupDeadline := none }
    refreshAuthSnapshot

/-- `Authenticated`, `client.rs:1033`. -/
def handleAuthenticated (ctx : EventContext) (nonce userId : String) :
    Task Session FailureCategory Unit := do
  let w := (← get).worker
  if w.snapshot.connection ≠ .authenticating ∨ w.pendingAuthenticationNonce ≠ some nonce then
    pure ()
  else
    modifyWorker fun w =>
      { w.setConnection .ready with
        pendingAuthenticationNonce := none
        localUserId := some userId
        authenticationRefreshAttempted := false }
    let pending := ⟨.subscribe, .voiceChannelSelect, none⟩
    let subscribed ← (sendPayload (.subscription pending)).mapError backendFailureCategory
    modifyWorker fun w =>
      { w with pendingSubscriptions := w.pendingSubscriptions.insert subscribed pending }
    (requestSelectedChannel ctx).mapError backendFailureCategory

/-- `ProviderError` for `AUTHENTICATE`, `client.rs:1168`. -/
def handleAuthenticateError (ctx : EventContext) (code : Int) (nonce : Option String) :
    Task Session FailureCategory Unit := do
  let w := (← get).worker
  if w.snapshot.connection ≠ .authenticating then pure ()
  else if nonce = none then throw .validation
  else if w.pendingAuthenticationNonce ≠ nonce then pure ()
  else
    modifyWorker fun w => { w with pendingAuthenticationNonce := none }
    if code ≠ rpcInvalidToken then do
      modifyWorker (·.setConnection .failed)
      throw .response
    else if w.authenticationRefreshAttempted then
      match ← authStep (·.invalidate ctx.services) with
      | .ok () => do
        modifyWorker (·.clearPrivateState)
        requireAuthorization
      | .error _ => modifyWorker (·.setConnection .failed)
    else
      modifyWorker fun w => { w with authenticationRefreshAttempted := true }
      match ← authStep (·.refreshAfterRejection ctx.services ctx.nowUnixSecs) with
      | .ok () => (sendAuthenticate ctx).mapError backendFailureCategory
      | .error .authorizationExpired => do
        modifyWorker (·.clearPrivateState)
        requireAuthorization
      | .error _ => do
        modifyWorker (·.setConnection .failed)
        throw .identity
    refreshAuthSnapshot

/-- `ProviderError` for `AUTHORIZE`, `client.rs:1217`. -/
def handleAuthorizeError (nonce : Option String) : Task Session FailureCategory Unit := do
  let w := (← get).worker
  if w.snapshot.connection ≠ .authorizing then pure ()
  else if nonce = none then throw .validation
  else if w.pendingAuthorizationNonce ≠ nonce then pure ()
  else modifyWorker fun w =>
    { w.setConnection .authorizationRequired with
      pendingAuthorizationNonce := none
      setupDeadline := none }

/-! ### Channel and voice events -/

/-- A new selection forgets the subscriptions that are still unacknowledged, whose
acknowledgements will find no entry, and gives up the channel held,
`client.rs:1063-1078`. -/
def selectChannel (channelId : Option String) (w : WorkerState) : WorkerState :=
  { w with
    pendingSubscriptions :=
      if w.selectedChannelId ≠ some channelId then
        w.pendingSubscriptions.filter fun _ pending =>
          pending.command == .unsubscribe || pending.channelId.isNone
      else w.pendingSubscriptions
    selectedChannelId := some channelId
    snapshot :=
      { w.snapshot with channel :=
        if channelId ≠ w.snapshot.channel.map VoiceChannel.id then none
        else w.snapshot.channel } }

/-- `ChannelSelected`, `client.rs:1062`. -/
def handleChannelSelected (ctx : EventContext) (channelId : Option String) :
    Task Session FailureCategory Unit := do
  modifyWorker (selectChannel channelId)
  (reconcileChannelSubscriptions ctx).mapError backendFailureCategory
  (requestSelectedChannel ctx).mapError backendFailureCategory

/-- The accepted snapshot replaces the held channel,
`client.rs:1096-1100`. -/
def installChannel (ctx : EventContext) (channel : Option VoiceChannel) (w : WorkerState) :
    WorkerState :=
  let channel := channel.map fun channel =>
    VoiceChannel.withParticipants channel ctx.lowercase w.localUserId id
  { w.setChannel channel with channelSnapshotReceived := true }

/-- `ChannelSnapshot`, `client.rs:1086`. -/
def handleChannelSnapshot (ctx : EventContext) (nonce : String) (channel : Option VoiceChannel) :
    Task Session FailureCategory Unit := do
  let w := (← get).worker
  if w.pendingChannelSnapshotNonce ≠ some nonce then pure ()
  else
    modifyWorker fun w => { w with pendingChannelSnapshotNonce := none }
    if w.selectedChannelId.any (· ≠ channel.map VoiceChannel.id) then throw .validation
    else
      modifyWorker (installChannel ctx channel)
      (reconcileChannelSubscriptions ctx).mapError backendFailureCategory
      modifyWorker (·.markSessionHealthyIfReady)

/-- `client.rs:1106`. -/
def participantCreated (ctx : EventContext) (participant : VoiceParticipant) (w : WorkerState) :
    WorkerState :=
  w.modifyActiveChannel fun channel =>
    if channel.participants.length < 64 ∧
        ¬channel.participants.any (·.id = participant.id) then
      channel.withParticipants ctx.lowercase w.localUserId (· ++ [participant])
    else channel

/-- `client.rs:1119`. -/
def participantUpdated (ctx : EventContext) (participant : VoiceParticipant) (w : WorkerState) :
    WorkerState :=
  w.modifyActiveChannel fun channel =>
    if channel.participants.any (·.id = participant.id) then
      channel.withParticipants ctx.lowercase w.localUserId (·.replaceF fun current =>
        if current.id = participant.id then some participant else none)
    else channel

/-- `client.rs:1131`. Leaving oneself
clears the held channel, whether or not it is the subscribed one. -/
def participantDeleted (userId : String) (w : WorkerState) : WorkerState :=
  let w := w.modifyActiveChannel fun channel =>
    { channel with participants := channel.participants.filter (·.id ≠ userId) }
  if w.localUserId = some userId then w.setChannel none else w

/-- `client.rs:1141`. -/
def speakingChanged (ctx : EventContext) (userId : String) (speaking : Bool) (w : WorkerState) :
    WorkerState :=
  w.modifyActiveChannel fun channel =>
    channel.withParticipants ctx.lowercase w.localUserId (·.replaceF fun current =>
      if current.id = userId then some { current with speaking } else none)

/-- `SubscriptionChanged`, `client.rs:1150`. -/
def handleSubscriptionChanged (ctx : EventContext) (subscribed : Bool)
    (event : VoiceSubscriptionEvent) (nonce : String) : Task Session FailureCategory Unit := do
  match (← get).worker.pendingSubscriptions[nonce]? with
  | none => pure ()
  | some pending =>
    modifyWorker fun w => { w with pendingSubscriptions := w.pendingSubscriptions.erase nonce }
    if pending.event ≠ event ∨ pending.command.matchesResponse subscribed = false then
      throw .validation
    else
      if pending.command = .unsubscribe then
        (reconcileChannelSubscriptions ctx).mapError backendFailureCategory
      modifyWorker (·.markSessionHealthyIfReady)

/-- `ProviderError` for `SUBSCRIBE` and `UNSUBSCRIBE`,
`client.rs:1233`. -/
def handleSubscriptionError (command : String) (nonce : Option String) :
    Task Session FailureCategory Unit := do
  match nonce with
  | none => throw .validation
  | some nonce =>
    match (← get).worker.pendingSubscriptions[nonce]? with
    | none => pure ()
    | some pending =>
      if SubscriptionCommand.parse command ≠ some pending.command then throw .validation
      else do
        modifyWorker (·.setConnection .failed)
        throw .response

/-- `ProviderError` for `GET_SELECTED_VOICE_CHANNEL`,
`client.rs:1248`. -/
def handleSelectedChannelError (nonce : Option String) : Task Session FailureCategory Unit := do
  match nonce with
  | none => throw .validation
  | some nonce =>
    if (← get).worker.pendingChannelSnapshotNonce ≠ some nonce then pure ()
    else do
      modifyWorker (·.setConnection .failed)
      throw .response

/-- The `ProviderError` arms, `client.rs:1168-1262`. -/
def handleProviderError (ctx : EventContext) (command : Option String) (code : Int)
    (nonce : Option String) : Task Session FailureCategory Unit :=
  if command = some "AUTHENTICATE" then handleAuthenticateError ctx code nonce
  else if command = some "AUTHORIZE" then handleAuthorizeError nonce
  else if command = some "SUBSCRIBE" then handleSubscriptionError "SUBSCRIBE" nonce
  else if command = some "UNSUBSCRIBE" then handleSubscriptionError "UNSUBSCRIBE" nonce
  else if command = some "GET_SELECTED_VOICE_CHANNEL" then handleSelectedChannelError nonce
  else pure ()

/-- `client.rs:974`. -/
def handleEvent (ctx : EventContext) : DiscordRpcEvent → Task Session FailureCategory Unit
  | .ready => handleReady ctx
  | .authorizationGranted nonce code => handleAuthorizationGranted ctx nonce code
  | .authenticated nonce userId => handleAuthenticated ctx nonce userId
  | .channelSelected channelId => handleChannelSelected ctx channelId
  | .channelSnapshot nonce channel => handleChannelSnapshot ctx nonce channel
  | .participantCreated participant => modifyWorker (participantCreated ctx participant)
  | .participantUpdated participant => modifyWorker (participantUpdated ctx participant)
  | .participantDeleted userId => modifyWorker (participantDeleted userId)
  | .speakingChanged userId speaking => modifyWorker (speakingChanged ctx userId speaking)
  | .subscriptionChanged subscribed event nonce =>
    handleSubscriptionChanged ctx subscribed event nonce
  | .providerError command code nonce => handleProviderError ctx command code nonce
  | .ignored => pure ()

end Session

end OverCrow.Discord
