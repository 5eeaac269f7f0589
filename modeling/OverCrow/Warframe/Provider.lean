import OverCrow.Base.JsonCodec
import OverCrow.Base.Machine
import OverCrow.Config.WarframePrefs

/-!
# The document of the provider

The records that `parse_worldstate` reads, `crates/overcrow-overlay/src/warframe/worldstate/parse.rs:36-554`.
Every list has a bound, and the identifier of an invasion is checked as it is read. A number with a
fraction is read as an integer that no field can hold: it is ignored or refused at the same places.
-/

namespace OverCrow.Warframe
open OverCrow.Base OverCrow.Config Json

/-! ### Reading -/

section Read

variable {α : Type*}

/-- The fields of a struct that ignores unknown ones. An array gives the fields in order, at least up
to the last one without a default. -/
def asOpenFields (names : List String) (required : Nat) : Json → Option (List (String × Json))
  | object members =>
    let known := members.filter fun member => member.1 ∈ names
    if (known.map Prod.fst).Nodup then some known else none
  | array elements =>
    if required ≤ elements.length ∧ elements.length ≤ names.length then some (names.zip elements)
    else none
  | _ => none

/-- `deserialize_capped_vec`, `crates/overcrow-overlay/src/warframe/bounded_serde.rs:12`. -/
def asCapped (bound : Nat) (read : Json → Option α) : Json → Option (List α)
  | array elements => if elements.length ≤ bound then elements.mapM read else none
  | _ => none

def asI64 : Json → Option Int
  | number n => if -2 ^ 63 ≤ n ∧ n < 2 ^ 63 then some n else none
  | _ => none

/-- `Value::get` with a name: the last member of that name. -/
def getMember (name : String) : Json → Option Json
  | object members => members.reverse.lookup name
  | _ => none

end Read

/-- An `Option` with a default. -/
def optional {α : Type*} (fields : List (String × Json)) (name : String) (read : Json → Option α) :
    Option (Option α) :=
  fieldOr none fields name (asOption read)

/-! ### Times -/

/-- `parse.rs:1161`. -/
def normalizeEpoch (value : Nat) : Nat := if 10000000000 < value then value / 1000 else value

/-- A time as a number or a text. -/
def epochScalar : Json → Option Nat
  | number n => asUnsigned u64Max (number n)
  | string text => parseUnsigned u64Max text
  | _ => none

/-- `parse.rs:1136`. -/
def parseEpochSecs (value : Option Json) : Option Nat := do
  match ← value with
  | number n => return normalizeEpoch (← epochScalar (number n))
  | string text => return normalizeEpoch (← epochScalar (string text))
  | value =>
    match ← getMember "$date" value with
    | number n => return normalizeEpoch (← epochScalar (number n))
    | string text => return normalizeEpoch (← epochScalar (string text))
    | date =>
      let text ← (← getMember "$numberLong" date).asString
      return normalizeEpoch (← parseUnsigned u64Max text)

/-! ### Identifiers of invasions -/

/-- `parse.rs:900`. -/
def fnvOffsetBasis : UInt64 := 0xcbf29ce484222325

/-- `parse.rs:901`. -/
def fnvPrime : UInt64 := 0x00000100000001b3

def fnvByte (hash : UInt64) (byte : UInt8) : UInt64 := (hash ^^^ byte.toUInt64) * fnvPrime

/-- `parse.rs:903`. -/
def fnv1aDigest (bytes : List UInt8) : UInt64 := bytes.foldl fnvByte fnvOffsetBasis

/-- `INVASION_DONE_KEY_PREFIX`, `crates/overcrow-overlay/src/warframe/activity_keys.rs:7`. -/
def invasionDoneKeyStem : String := "invasion:"

/-- `activity_keys.rs:9`. -/
def invasionInstanceIdMaxChars : Nat :=
  warframeActivityDoneEntryMaxChars - invasionDoneKeyStem.length

/-- The test of `sanitize_invasion_instance_id`,
`parse.rs:862`. -/
def isInvasionInstanceId (raw : String) : Bool :=
  !raw.isEmpty && raw.length ≤ invasionInstanceIdMaxChars &&
    raw.toList.all fun c => isAsciiAlphanumeric c || c = '-' || c = '_'

/-- An identifier that `sanitize_invasion_instance_id` lets through. -/
structure ProviderOid where
  text : String
  valid : isInvasionInstanceId text = true
  deriving DecidableEq

/-- `parse.rs:192`. -/
structure RawObjectId where
  oid : Option ProviderOid := none
  invalidOidDigest : Option UInt64 := none
  deriving DecidableEq

/-- `LenientProviderOid::from_borrowed` and `from_owned`, and the values that are ignored,
`parse.rs:212-303`. -/
def lenientProviderOid : Json → RawObjectId
  | string text =>
    if h : isInvasionInstanceId text = true then { oid := some ⟨text, h⟩ }
    else { invalidOidDigest := some (fnv1aDigest text.toUTF8.toList) }
  | _ => {}

/-- A member of an object identifier: the first `$oid` with a text counts,
`parse.rs:366-377`. -/
def RawObjectId.visit (id : RawObjectId) (member : String × Json) : RawObjectId :=
  if member.1 = "$oid" ∧ id.oid = none ∧ id.invalidOidDigest = none then lenientProviderOid member.2
  else id

/-- `RawObjectId::deserialize`, `parse.rs:306`. -/
def RawObjectId.read : Json → Option RawObjectId
  | object members => some (members.foldl RawObjectId.visit {})
  | _ => some {}

/-! ### The records -/

/-- `crates/overcrow-overlay/src/warframe/model.rs:5`. -/
def cycleListMax : Nat := 16

/-- `model.rs:4`. -/
def fissureListMax : Nat := 96

/-- `model.rs:6`. -/
def invasionListMax : Nat := 32

/-- `model.rs:7`. -/
def activityMissionMax : Nat := 3

/-- `parse.rs:408`. -/
def syndicateMissionInputMax : Nat := 128

/-- `parse.rs:80`. -/
structure RawSyndicateMission where
  tag : Option String
  expiry : Option Json

def RawSyndicateMission.read (value : Json) : Option RawSyndicateMission := do
  let fields ← asOpenFields ["Tag", "Expiry"] 2 value
  return { tag := ← optional fields "Tag" asString, expiry := ← optional fields "Expiry" some }

/-- `parse.rs:88`. -/
structure RawVoidTrader where
  character : Option String
  node : Option String
  activation : Option Json
  expiry : Option Json

def RawVoidTrader.read (value : Json) : Option RawVoidTrader := do
  let fields ← asOpenFields ["Character", "Node", "Activation", "Expiry"] 4 value
  return {
    character := ← optional fields "Character" asString
    node := ← optional fields "Node" asString
    activation := ← optional fields "Activation" some
    expiry := ← optional fields "Expiry" some }

/-- `parse.rs:100`. -/
structure RawActiveMission where
  modifier : Option String
  missionType : Option String
  node : Option String
  expiry : Option Json
  hard : Bool

def RawActiveMission.read (value : Json) : Option RawActiveMission := do
  let fields ← asOpenFields ["Modifier", "MissionType", "Node", "Expiry", "Hard"] 4 value
  return {
    modifier := ← optional fields "Modifier" asString
    missionType := ← optional fields "MissionType" asString
    node := ← optional fields "Node" asString
    expiry := ← optional fields "Expiry" some
    hard := ← fieldOr false fields "Hard" asBool }

/-- `parse.rs:114`. -/
structure RawVoidStorm where
  activeMissionTiers : Option String
  node : Option String
  expiry : Option Json

def RawVoidStorm.read (value : Json) : Option RawVoidStorm := do
  let fields ← asOpenFields ["ActiveMissionTier", "Node", "Expiry"] 3 value
  return {
    activeMissionTiers := ← optional fields "ActiveMissionTier" asString
    node := ← optional fields "Node" asString
    expiry := ← optional fields "Expiry" some }

/-- `parse.rs:138`. -/
structure RawSortieVariant where
  missionType : Option String
  modifierType : Option String
  node : Option String

def RawSortieVariant.read (value : Json) : Option RawSortieVariant := do
  let fields ← asOpenFields ["missionType", "modifierType", "node"] 0 value
  return {
    missionType := ← optional fields "missionType" asString
    modifierType := ← optional fields "modifierType" asString
    node := ← optional fields "node" asString }

/-- `parse.rs:124`. -/
structure RawSortie where
  boss : Option String
  expiry : Option Json
  variants : List RawSortieVariant

def RawSortie.read (value : Json) : Option RawSortie := do
  let fields ← asOpenFields ["Boss", "Expiry", "Variants"] 2 value
  return {
    boss := ← optional fields "Boss" asString
    expiry := ← optional fields "Expiry" some
    variants := ← fieldOr [] fields "Variants" (asCapped activityMissionMax RawSortieVariant.read) }

/-- `parse.rs:162`. -/
structure RawArchonMission where
  missionType : Option String
  node : Option String

def RawArchonMission.read (value : Json) : Option RawArchonMission := do
  let fields ← asOpenFields ["missionType", "node"] 0 value
  return {
    missionType := ← optional fields "missionType" asString
    node := ← optional fields "node" asString }

/-- `parse.rs:148`. -/
structure RawLiteSortie where
  boss : Option String
  expiry : Option Json
  missions : List RawArchonMission

def RawLiteSortie.read (value : Json) : Option RawLiteSortie := do
  let fields ← asOpenFields ["Boss", "Expiry", "Missions"] 2 value
  return {
    boss := ← optional fields "Boss" asString
    expiry := ← optional fields "Expiry" some
    missions := ← fieldOr [] fields "Missions" (asCapped activityMissionMax RawArchonMission.read) }

/-- `parse.rs:394`. -/
structure RawCountedItem where
  itemType : Option String
  itemCount : Option Nat

def RawCountedItem.read (value : Json) : Option RawCountedItem := do
  let fields ← asOpenFields ["ItemType", "ItemCount"] 0 value
  return {
    itemType := ← optional fields "ItemType" asString
    itemCount := ← optional fields "ItemCount" (asUnsigned u64Max) }

/-- `RawReward::deserialize`, `parse.rs:497`: its
`counted_items`. -/
def readReward : Json → Option (List RawCountedItem)
  | object members => do
    let fields ← asOpenFields ["countedItems"] 0 (object members)
    fieldOr [] fields "countedItems" (asCapped invasionListMax RawCountedItem.read)
  | array [] => some []
  | null => some []
  | _ => none

/-- `parse.rs:170`. -/
structure RawInvasion where
  id : Option RawObjectId
  node : Option String
  faction : Option String
  defenderFaction : Option String
  count : Option Int
  goal : Option Int
  completed : Bool
  attackerReward : List RawCountedItem
  defenderReward : List RawCountedItem

def RawInvasion.read (value : Json) : Option RawInvasion := do
  let fields ← asOpenFields ["_id", "Node", "Faction", "DefenderFaction", "Count", "Goal",
    "Completed", "AttackerReward", "DefenderReward"] 0 value
  return {
    id := ← optional fields "_id" RawObjectId.read
    node := ← optional fields "Node" asString
    faction := ← optional fields "Faction" asString
    defenderFaction := ← optional fields "DefenderFaction" asString
    count := ← optional fields "Count" asI64
    goal := ← optional fields "Goal" asI64
    completed := ← fieldOr false fields "Completed" asBool
    attackerReward := ← fieldOr [] fields "AttackerReward" readReward
    defenderReward := ← fieldOr [] fields "DefenderReward" readReward }

/-- `parse.rs:409`. -/
def cycleSyndicateTags : List String := ["CetusSyndicate", "ZarimanSyndicate"]

/-- The first mission of each wanted tag,
`parse.rs:436-447`. -/
def retainCycleSyndicate (retained : List RawSyndicateMission) (mission : RawSyndicateMission) :
    List RawSyndicateMission :=
  let wanted := mission.tag.any (cycleSyndicateTags.contains ·)
  let duplicate := retained.any fun existing => existing.tag = mission.tag
  if wanted && !duplicate then retained ++ [mission] else retained

/-- `deserialize_cycle_syndicate_missions`,
`parse.rs:411`. -/
def readCycleSyndicateMissions (value : Json) : Option (List RawSyndicateMission) :=
  (asCapped syndicateMissionInputMax RawSyndicateMission.read value).map
    (List.foldl retainCycleSyndicate [])

/-- `parse.rs:36`. -/
structure RawWorldstate where
  time : Option Nat
  syndicateMissions : List RawSyndicateMission
  voidTraders : List RawVoidTrader
  activeMissions : List RawActiveMission
  voidStorms : List RawVoidStorm
  sorties : List RawSortie
  liteSorties : List RawLiteSortie
  invasions : List RawInvasion

def RawWorldstate.read (value : Json) : Option RawWorldstate := do
  let fields ← asOpenFields ["Time", "SyndicateMissions", "VoidTraders", "ActiveMissions", "VoidStorms",
    "Sorties", "LiteSorties", "Invasions"] 0 value
  return {
    time := ← optional fields "Time" (asUnsigned u64Max)
    syndicateMissions := ← fieldOr [] fields "SyndicateMissions" readCycleSyndicateMissions
    voidTraders := ← fieldOr [] fields "VoidTraders" (asCapped cycleListMax RawVoidTrader.read)
    activeMissions := ← fieldOr [] fields "ActiveMissions"
      (asCapped fissureListMax RawActiveMission.read)
    voidStorms := ← fieldOr [] fields "VoidStorms" (asCapped fissureListMax RawVoidStorm.read)
    sorties := ← fieldOr [] fields "Sorties" (asCapped activityMissionMax RawSortie.read)
    liteSorties := ← fieldOr [] fields "LiteSorties" (asCapped activityMissionMax RawLiteSortie.read)
    invasions := ← fieldOr [] fields "Invasions" (asCapped invasionListMax RawInvasion.read) }

end OverCrow.Warframe
