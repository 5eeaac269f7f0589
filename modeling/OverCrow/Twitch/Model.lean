import Mathlib.Data.Finset.Erase
import Mathlib.Data.Finset.Insert
import OverCrow.Twitch.Auth

/-!
# Messages, commands and snapshots of the Twitch worker

`crates/overcrow-overlay/src/twitch/model.rs` and the window of delivered messages of
`crates/overcrow-overlay/src/twitch/client.rs:331-356`.
-/

namespace OverCrow.Twitch
open OverCrow.Base

/-- `model.rs:3`. -/
def twitchMessageBufferMax : Nat := 200

/-- `model.rs:4`. -/
def twitchPendingSendMax : Nat := 8

/-- `model.rs:5`. -/
def twitchMessageMaxChars : Nat := 500

/-- `model.rs:18`. -/
inductive TwitchMessageFragment where
  | text (text : String)
  | emote (id alt : String)
  deriving DecidableEq

/-- `model.rs:24`. -/
inductive TwitchConnectionState where
  | inert
  | disconnected
  | authorizing
  | connecting
  | joined
  | reconnecting
  | failed (category : TwitchFailureCategory)
  deriving DecidableEq

/-- `model.rs:46`. -/
structure DeviceAuthorization where
  userCode : String
  verificationUri : String
  expiresAt : Instant
  deriving DecidableEq

/-- `model.rs:53`. -/
structure TwitchReplyContext where
  messageId : String
  displayName : String
  body : String
  deriving DecidableEq

/-- `model.rs:60`. -/
structure ParsedChatMessage where
  id : String
  displayName : String
  nameColor : Option (UInt8 × UInt8 × UInt8)
  text : String
  fragments : List TwitchMessageFragment
  reply : Option TwitchReplyContext
  deriving DecidableEq

/-- `model.rs:70`. -/
inductive TwitchSendState where
  | received
  | pending
  | failed
  deriving DecidableEq

/-- `model.rs:77`. -/
structure TwitchMessage where
  id : String
  displayName : String
  nameColor : Option (UInt8 × UInt8 × UInt8)
  text : String
  fragments : List TwitchMessageFragment
  reply : Option TwitchReplyContext
  receivedAt : Instant
  clientNonce : Option String
  sendState : TwitchSendState
  deriving DecidableEq

/-- `model.rs:90`. -/
def TwitchMessage.received (parsed : ParsedChatMessage) (receivedAt : Instant) : TwitchMessage where
  id := parsed.id
  displayName := parsed.displayName
  nameColor := parsed.nameColor
  text := parsed.text
  fragments := parsed.fragments
  reply := parsed.reply
  receivedAt := receivedAt
  clientNonce := none
  sendState := .received

/-- `model.rs:137`. -/
inductive TwitchSendReceiptState where
  | accepted
  | rejected
  deriving DecidableEq

/-- `model.rs:143`. -/
structure TwitchSendReceipt where
  requestId : Nat
  state : TwitchSendReceiptState
  deriving DecidableEq

/-- `model.rs:106`. -/
structure TwitchSnapshot where
  generation : Nat
  channel : Option String
  connection : TwitchConnectionState
  messages : List TwitchMessage
  authorization : Option DeviceAuthorization
  authenticatedLogin : Option String
  credentialsAvailable : Bool
  credentialsPersisted : Bool
  clientConfigured : Bool
  sendReceipt : Option TwitchSendReceipt
  deriving DecidableEq

/-- The fields of `TwitchCommand::SendMessage`, `model.rs:158`. -/
structure SendMessage where
  requestId : Nat
  generation : Nat
  channel : String
  text : String
  replyTo : Option String
  deriving DecidableEq

/-- `model.rs:149`. -/
inductive TwitchCommand where
  | beginAuthentication
  | cancelAuthentication
  | disconnect
  | signOut
  | reconnect
  | sendMessage (message : SendMessage)
  deriving DecidableEq

/-! ### Buffer of messages -/

/-- `model.rs:167`: its messages, the oldest first. -/
structure MessageBuffer where
  messages : List TwitchMessage := []
  deriving DecidableEq

namespace MessageBuffer

variable (buffer : MessageBuffer)

/-- `model.rs:172`. -/
def push (message : TwitchMessage) : MessageBuffer :=
  if buffer.messages.length = twitchMessageBufferMax then ⟨buffer.messages.tail ++ [message]⟩
  else ⟨buffer.messages ++ [message]⟩

/-- `model.rs:179`; `none` for `false`. -/
def pushPending (nonce displayName text : String) (receivedAt : Instant) : Option MessageBuffer :=
  if twitchPendingSendMax ≤ buffer.messages.countP (·.sendState = .pending) then none
  else some (buffer.push {
    id := "", displayName := displayName, nameColor := none, text := text, fragments := [.text text]
    reply := none, receivedAt := receivedAt, clientNonce := some nonce, sendState := .pending })

/-- The pending message with the nonce is changed, if there is one. -/
def updatePending (nonce : String) (f : TwitchMessage → TwitchMessage) : MessageBuffer :=
  match buffer.messages.findIdx? fun message =>
      message.sendState = .pending && message.clientNonce = some nonce with
  | none => buffer
  | some index => ⟨buffer.messages.modify index f⟩

/-- `model.rs:208`. -/
def failPending (nonce : String) : MessageBuffer :=
  buffer.updatePending nonce fun message => { message with sendState := .failed }

/-- `model.rs:217`. -/
def markSent (nonce messageId : String) : MessageBuffer :=
  buffer.updatePending nonce fun message => { message with sendState := .received, id := messageId }

/-- `model.rs:227`. -/
def upsertReceived (parsed : ParsedChatMessage) (receivedAt : Instant) : MessageBuffer :=
  let preservedNonce := (buffer.messages.find? (·.id = parsed.id)).bind (·.clientNonce)
  let received := { TwitchMessage.received parsed receivedAt with clientNonce := preservedNonce }
  match buffer.messages.findIdx? (·.id = parsed.id) with
  | some index => ⟨buffer.messages.set index received⟩
  | none => buffer.push received

/-- `model.rs:243`. -/
def removeMessage (messageId : String) : MessageBuffer :=
  ⟨buffer.messages.filter (·.id ≠ messageId)⟩

end MessageBuffer

/-! ### Window of delivered messages -/

/-- `client.rs:49`. -/
def deliveryDedupCapacity : Nat := 512

/-- `client.rs:332`. -/
structure DeliveryDedup where
  order : List String := []
  entries : Finset String := ∅
  deriving DecidableEq

/-- `client.rs:338`. -/
def DeliveryDedup.insert (dedup : DeliveryDedup) (id : String) : Bool × DeliveryDedup :=
  if id ∈ dedup.entries then (false, dedup)
  else
    let expired : DeliveryDedup :=
      match dedup.order with
      | oldest :: order =>
        if dedup.order.length = deliveryDedupCapacity then ⟨order, dedup.entries.erase oldest⟩ else dedup
      | [] => dedup
    (true, ⟨expired.order ++ [id], Insert.insert id expired.entries⟩)

/-! ### Events -/

/-- `crates/overcrow-overlay/src/twitch/eventsub.rs:49`. -/
inductive EventSubRevocation where
  | authentication
  | channelUnavailable
  | provider
  deriving DecidableEq

/-- `eventsub.rs:24`. -/
inductive EventSubKind where
  | welcome (sessionId : String) (keepaliveTimeout : Duration)
  | keepalive
  | reconnect (url : String)
  | revocation (revocation : EventSubRevocation)
  | chatMessage (broadcasterUserId : String) (message : ParsedChatMessage)
  | chatClear (broadcasterUserId : String)
  | chatMessageDelete (broadcasterUserId messageId : String)
  | unsupported
  deriving DecidableEq

/-- `eventsub.rs:18`. -/
structure EventSubMessage where
  deliveryId : String
  kind : EventSubKind
  deriving DecidableEq

/-- `eventsub.rs:56`. -/
inductive EventSubParseError where
  | oversized
  | malformed
  | invalidEnvelope
  | invalidRouting
  | invalidIdentity
  | invalidContent
  deriving DecidableEq

end OverCrow.Twitch
