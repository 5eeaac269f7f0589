import Mathlib.Data.List.Sort

/-!
# Discord voice model

`crates/overcrow-overlay/src/discord/model.rs`. Channels, participants and the events that
`parse_rpc_message` makes of RPC messages. A voice event carries no channel.
-/

namespace OverCrow.Discord

/-- `model.rs:25`. -/
structure VoiceParticipant where
  id : String
  displayName : String
  avatarHash : Option String := none
  speaking : Bool := false
  muted : Bool := false
  deafened : Bool := false
  deriving DecidableEq

/-- `model.rs:49`. -/
structure VoiceChannel where
  id : String
  name : String
  participants : List VoiceParticipant
  deriving DecidableEq

/-- `model.rs:56`. -/
inductive VoiceSubscriptionEvent where
  | voiceChannelSelect
  | speakingStart
  | speakingStop
  | voiceStateCreate
  | voiceStateDelete
  | voiceStateUpdate
  deriving DecidableEq

/-- `model.rs:66`. -/
def VoiceSubscriptionEvent.channelScoped : List VoiceSubscriptionEvent :=
  [.speakingStart, .speakingStop, .voiceStateCreate, .voiceStateDelete, .voiceStateUpdate]

/-- `model.rs:93`. -/
inductive DiscordRpcEvent where
  | ready
  | authorizationGranted (nonce code : String)
  | authenticated (nonce userId : String)
  | channelSelected (channelId : Option String)
  | channelSnapshot (nonce : String) (channel : Option VoiceChannel)
  | participantCreated (participant : VoiceParticipant)
  | participantUpdated (participant : VoiceParticipant)
  | participantDeleted (userId : String)
  | speakingChanged (userId : String) (speaking : Bool)
  | subscriptionChanged (subscribed : Bool) (event : VoiceSubscriptionEvent) (nonce : String)
  | providerError (command : Option String) (code : Int) (nonce : Option String)
  | ignored
  deriving DecidableEq

/-- `model.rs:143`. -/
def participantRank (participant : VoiceParticipant) (localUserId : Option String) : Nat :=
  if localUserId = some participant.id then 0 else if participant.speaking then 1 else 2

/-- The order of `sort_participants`. `lowercase` is `str::to_lowercase`. -/
def participantLe (lowercase : String → String) (localUserId : Option String)
    (left right : VoiceParticipant) : Prop :=
  ((compare (participantRank left localUserId) (participantRank right localUserId)).then
    ((compare (lowercase left.displayName) (lowercase right.displayName)).then
      (compare left.id right.id))).isLE = true

instance (lowercase : String → String) (localUserId : Option String) :
    DecidableRel (participantLe lowercase localUserId) :=
  fun _ _ => inferInstanceAs (Decidable (_ = true))

/-- `model.rs:130`, a stable sort. -/
def sortParticipants (lowercase : String → String) (participants : List VoiceParticipant)
    (localUserId : Option String) : List VoiceParticipant :=
  participants.insertionSort (participantLe lowercase localUserId)

/-- The channel with its participants changed and sorted again. -/
def VoiceChannel.withParticipants (channel : VoiceChannel) (lowercase : String → String)
    (localUserId : Option String) (f : List VoiceParticipant → List VoiceParticipant) :
    VoiceChannel :=
  { channel with participants := sortParticipants lowercase (f channel.participants) localUserId }

@[simp] theorem VoiceChannel.id_withParticipants (channel : VoiceChannel)
    (lowercase : String → String) (localUserId : Option String)
    (f : List VoiceParticipant → List VoiceParticipant) :
    (channel.withParticipants lowercase localUserId f).id = channel.id := rfl

end OverCrow.Discord
