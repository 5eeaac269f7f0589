import Mathlib.Data.List.Sort
import OverCrow.Config.WarframeEdits
import OverCrow.Warframe.Market
import OverCrow.Warframe.Provider

/-!
# Activities of the worldstate

The part of `parse_worldstate` that the preferences refer to: the sortie, the archon hunt and the
invasions with their rewards, and the keys that the widgets make of them. The tables of labels are a
parameter.
-/

namespace OverCrow.Warframe
open OverCrow.Base OverCrow.Config List

/-! ### Labels -/

/-- The tables under `crates/overcrow-overlay/src/warframe/data`, and `char::to_uppercase`. -/
structure Labels where
  bosses : String → Option String
  modifiers : String → Option String
  items : String → Option String
  factions : String → Option String
  uppercase : Char → List Char

/-- `crates/overcrow-overlay/src/warframe/labels.rs:13`. -/
def displayMax : Nat := 64

/-- `crates/overcrow-overlay/src/warframe/sanitize.rs:6`. -/
def sanitizeDisplay (input : String) (maxChars : Nat) : String :=
  boundChars (trim (String.ofList (input.toList.filter fun c => !isControl c))) maxChars

/-- The words of a name in camel case or with underscores,
`labels.rs:54-67`. -/
def spaceWords : Bool → List Char → List Char
  | _, [] => []
  | prevLower, c :: rest =>
    if c = '_' then ' ' :: spaceWords false rest
    else
      let isUpper := 'A' ≤ c && c ≤ 'Z'
      let tail := c :: spaceWords ('a' ≤ c && c ≤ 'z') rest
      if prevLower && isUpper then ' ' :: tail else tail

/-- `labels.rs:43`. -/
def prettifyTail (uppercase : Char → List Char) (tail : String) : String :=
  let trimmed := trim tail
  let trimmed := ((stripStem "SORTIE_MODIFIER_" trimmed).or (stripStem "SORTIE_BOSS_" trimmed)).getD trimmed
  if trimmed.isEmpty then boundChars tail displayMax
  else
    let words := ((spaceWords false trimmed.toList).splitOnP isWhitespace).filter (!·.isEmpty)
    let pretty := words.map fun word =>
      match word with
      | first :: rest => uppercase first ++ rest
      | [] => []
    boundChars (String.ofList ([' '].intercalate pretty)) displayMax

/-- `labels.rs:81`. -/
def lookupOrPretty (uppercase : Char → List Char) (table : String → Option String) (raw : String) :
    String :=
  let raw := trim raw
  if raw.isEmpty then "—"
  else
    match table raw with
    | some label => sanitizeDisplay label displayMax
    | none =>
      let tail := pathTail raw
      match table tail with
      | some label => sanitizeDisplay label displayMax
      | none => sanitizeDisplay (prettifyTail uppercase tail) displayMax

namespace Labels

variable (labels : Labels)

/-- `labels.rs:96`. -/
def formatBoss : String → String := lookupOrPretty labels.uppercase labels.bosses

/-- `labels.rs:137`. -/
def formatModifier : String → String := lookupOrPretty labels.uppercase labels.modifiers

/-- `labels.rs:141`. -/
def formatItem : String → String := lookupOrPretty labels.uppercase labels.items

/-- `labels.rs:145`. -/
def formatFaction : String → String := lookupOrPretty labels.uppercase labels.factions

end Labels

/-- `labels.rs:149`. -/
def itemKey (path : String) : String := boundChars (pathTail path) displayMax

/-! ### The snapshot -/

/-- `crates/overcrow-overlay/src/warframe/model.rs:41`. -/
structure ActivityMission where
  missionType : String
  node : String
  modifier : Option String
  deriving DecidableEq

/-- `SortieMission` and `ArchonHunt`, `model.rs:48,55`. -/
structure ActivityBlock where
  boss : String
  expiresAtSecs : Nat
  missions : List ActivityMission
  deriving DecidableEq

/-- `model.rs:62`. -/
structure RewardLine where
  itemKey : String
  label : String
  count : Nat
  deriving DecidableEq

/-- `model.rs:70`. -/
structure InvasionMission where
  instanceId : String
  node : String
  attackerFaction : String
  defenderFaction : String
  attackerReward : Option RewardLine
  defenderReward : Option RewardLine
  count : Int
  goal : Int
  completed : Bool
  deriving DecidableEq

/-- `model.rs:11`. -/
structure WorldstateSnapshot where
  serverTimeSecs : Nat := 0
  fetchedAtSecs : Nat := 0
  lastAttemptAtSecs : Nat := 0
  sortie : Option ActivityBlock := none
  archon : Option ActivityBlock := none
  invasions : List InvasionMission := []
  error : Option String := none
  deriving DecidableEq

/-! ### Parsing -/

/-- A text of the provider, or a dash. -/
def boundedOrDash (text : Option String) : String := boundChars (text.getD "—") stringMaxChars

section Parse

variable (labels : Labels)

/-- `crates/overcrow-overlay/src/warframe/worldstate/parse.rs:771`. -/
def parseSortie (raw : RawSortie) (nowSecs : Nat) : Option ActivityBlock := do
  let expiresAtSecs ← parseEpochSecs raw.expiry
  if expiresAtSecs ≤ nowSecs then none
  else
    let missions := raw.variants.map fun variant =>
      { missionType := boundedOrDash variant.missionType
        node := boundedOrDash variant.node
        modifier := variant.modifierType.map labels.formatModifier : ActivityMission }
    return {
      boss := labels.formatBoss (raw.boss.getD "—")
      expiresAtSecs := expiresAtSecs
      missions := missions.take activityMissionMax }

/-- `parse.rs:796`. -/
def parseArchon (raw : RawLiteSortie) (nowSecs : Nat) : Option ActivityBlock := do
  let expiresAtSecs ← parseEpochSecs raw.expiry
  if expiresAtSecs ≤ nowSecs then none
  else
    let missions := raw.missions.map fun mission =>
      { missionType := boundedOrDash mission.missionType
        node := boundedOrDash mission.node
        modifier := none : ActivityMission }
    return {
      boss := labels.formatBoss (raw.boss.getD "—")
      expiresAtSecs := expiresAtSecs
      missions := missions.take activityMissionMax }

/-- `parse.rs:912`. -/
def parseReward (countedItems : List RawCountedItem) : Option RewardLine := do
  let first ← countedItems.head?
  let itemType ← first.itemType
  return {
    itemKey := itemKey itemType
    label := labels.formatItem itemType
    count := max (min (first.itemCount.getD 1) u32Max) 1 }

/-- Sixteen hexadecimal digits, as `{:016x}` prints them. -/
def hexDigits (hash : UInt64) : String :=
  String.ofList ((range 16).map fun i => Nat.digitChar (hash.toNat / 16 ^ (15 - i) % 16))

/-- A field of the digest, closed by a byte that no text contains. -/
def fnvField (hash : UInt64) (field : String) : UInt64 :=
  (field.toUTF8.toList ++ [0xff]).foldl fnvByte hash

/-- `parse.rs:871`. -/
def fallbackInvasionInstanceId (node attackerFaction defenderFaction : String) (goal : Int)
    (attackerRewardKey defenderRewardKey : Option String) (invalidProviderIdDigest : Option UInt64) :
    String :=
  hexDigits <| [(invalidProviderIdDigest.map hexDigits).getD "", node, attackerFaction, defenderFaction,
    toString goal, attackerRewardKey.getD "", defenderRewardKey.getD ""].foldl fnvField fnvOffsetBasis

/-- `parse.rs:818`. -/
def parseInvasion (raw : RawInvasion) : Option InvasionMission := do
  let node := trim (← raw.node)
  if node.isEmpty then none
  else
    let node := boundChars node stringMaxChars
    let attackerFaction := labels.formatFaction (raw.faction.getD "—")
    let defenderFaction := labels.formatFaction (raw.defenderFaction.getD "—")
    let attackerReward := parseReward labels raw.attackerReward
    let defenderReward := parseReward labels raw.defenderReward
    let goal := raw.goal.getD 0
    let instanceId := match raw.id.bind RawObjectId.oid with
      | some oid => oid.text
      | none => fallbackInvasionInstanceId node attackerFaction defenderFaction goal
          (attackerReward.map RewardLine.itemKey) (defenderReward.map RewardLine.itemKey)
          (raw.id.bind RawObjectId.invalidOidDigest)
    return {
      instanceId := instanceId, node := node
      attackerFaction := attackerFaction, defenderFaction := defenderFaction
      attackerReward := attackerReward, defenderReward := defenderReward
      count := raw.count.getD 0, goal := goal, completed := raw.completed }

/-- `parse.rs:556`. -/
def parseWorldstate (document : Json) (fetchedAtSecs : Nat) : Option WorldstateSnapshot := do
  let raw ← RawWorldstate.read document
  return {
    serverTimeSecs := raw.time.getD fetchedAtSecs
    fetchedAtSecs := fetchedAtSecs
    lastAttemptAtSecs := fetchedAtSecs
    sortie := raw.sorties.head?.bind fun entry => parseSortie labels entry fetchedAtSecs
    archon := raw.liteSorties.head?.bind fun entry => parseArchon labels entry fetchedAtSecs
    invasions := (raw.invasions.filterMap (parseInvasion labels)).take invasionListMax }

end Parse

/-! ### Keys -/

/-- `sortie_mission_key` and `archon_mission_key`,
`crates/overcrow-overlay/src/warframe/activity_keys.rs:13,17`. -/
def missionKey (kind : String) (expiresAtSecs index : Nat) : String :=
  s!"{kind}:{expiresAtSecs}:{index}"

/-- `sortie_mission_keys` and `archon_mission_keys`,
`activity_keys.rs:25,31`. -/
def missionKeys (kind : String) (block : ActivityBlock) : List String :=
  (range block.missions.length).map (missionKey kind block.expiresAtSecs)

/-- `activity_keys.rs:21`. -/
def invasionDoneKey (instanceId : String) : String := invasionDoneKeyStem ++ instanceId

/-- The rewards that there are. -/
def InvasionMission.rewards (invasion : InvasionMission) : List RewardLine :=
  invasion.attackerReward.toList ++ invasion.defenderReward.toList

/-- The keys of all rewards. -/
def rewardKeys (invasions : List InvasionMission) : List String :=
  (invasions.flatMap InvasionMission.rewards).map RewardLine.itemKey

/-- `activity_keys.rs:37`. -/
def currentActivityDoneKeys (snapshot : WorldstateSnapshot) : List String :=
  snapshot.sortie.toList.flatMap (missionKeys "sortie") ++
    snapshot.archon.toList.flatMap (missionKeys "archon") ++
    snapshot.invasions.map fun invasion => invasionDoneKey invasion.instanceId

/-- A reward of a key that is not listed yet,
`parse.rs:761-763`. -/
def pushReward (out : List (String × String)) (reward : RewardLine) : List (String × String) :=
  if out.any fun entry => entry.1 = reward.itemKey then out
  else out ++ [(reward.itemKey, reward.label)]

/-- The order of the catalog, `parse.rs:767`. -/
def catalogLe (left right : String × String) : Prop :=
  left.2 < right.2 ∨ left.2 = right.2 ∧ left.1 ≤ right.1

instance : DecidableRel catalogLe := fun _ _ => inferInstanceAs (Decidable (_ ∨ _))

/-- `parse.rs:754`. -/
def invasionRewardCatalog (invasions : List InvasionMission) : List (String × String) :=
  ((invasions.flatMap InvasionMission.rewards).foldl pushReward []).insertionSort catalogLe

/-! ### Keys of a parsed snapshot -/

theorem map_fst_foldl_pushReward (rewards : List RewardLine) (out : List (String × String)) :
    (rewards.foldl pushReward out).map Prod.fst =
      (rewards.map RewardLine.itemKey).foldl pushNew (out.map Prod.fst) := by
  induction rewards generalizing out with
  | nil => rfl
  | cons reward rewards ih =>
    have hpush : (pushReward out reward).map Prod.fst = pushNew (out.map Prod.fst) reward.itemKey := by
      unfold pushReward pushNew
      have hlisted : (out.any fun entry => entry.1 = reward.itemKey) = true ↔
          reward.itemKey ∈ out.map Prod.fst := by
        rw [any_eq_true, mem_map]
        simp only [decide_eq_true_eq]
      simp only [hlisted]
      split
      · rfl
      · rw [map_append, map_cons, map_nil]
    rw [foldl_cons, ih, hpush, map_cons, foldl_cons]

/-- The keys of the catalog are those of the rewards, each once. -/
theorem map_fst_invasionRewardCatalog_perm (invasions : List InvasionMission) :
    ((invasionRewardCatalog invasions).map Prod.fst).Perm ((rewardKeys invasions).foldl pushNew []) := by
  have hkeys := map_fst_foldl_pushReward (invasions.flatMap InvasionMission.rewards) []
  rw [rewardKeys, ← map_nil (f := Prod.fst), ← hkeys]
  exact (perm_insertionSort catalogLe _).map Prod.fst

theorem nodup_invasionRewardCatalog (invasions : List InvasionMission) :
    ((invasionRewardCatalog invasions).map Prod.fst).Nodup :=
  (map_fst_invasionRewardCatalog_perm invasions).nodup_iff.mpr (nodup_foldl_pushNew nodup_nil)

theorem mem_invasionRewardCatalog {invasions : List InvasionMission} {key : String} :
    key ∈ (invasionRewardCatalog invasions).map Prod.fst ↔ key ∈ rewardKeys invasions := by
  rw [(map_fst_invasionRewardCatalog_perm invasions).mem_iff, mem_foldl_pushNew]
  exact ⟨fun h => h.resolve_left nofun, .inr⟩

/-- The key of an item is its own tail. -/
theorem isTail_itemKey (path : String) : IsTail (itemKey path) := by
  have htail := isTail_pathTail path
  unfold itemKey boundChars
  split
  · exact htail
  · next hlong =>
    have htext : trimList (pathTail path).toList = (pathTail path).toList := by
      rw [← toList_trim, htail.1]
    have hkept : (pathTail path).toList.take (displayMax - 1) ≠ [] := by
      intro hnil
      have hlength := congrArg length hnil
      rw [length_take, String.length_toList, length_nil] at hlength
      unfold displayMax at hlength hlong
      omega
    constructor
    · rw [trim, String.toList_ofList,
        trimList_concat_eq_self htext (List.take_prefix _ _) hkept (by decide)]
    · rw [String.toList_ofList, mem_append]
      rintro (hmem | hmem)
      · exact htail.2 (mem_of_mem_take hmem)
      · exact absurd hmem (by decide)

theorem length_itemKey_le (path : String) : (itemKey path).length ≤ displayMax := by
  unfold itemKey boundChars
  split
  · assumption
  · rw [String.length_ofList, length_append, length_take]
    exact Nat.succ_le_succ (Nat.min_le_left _ _)

theorem hasControl_hexDigits (hash : UInt64) : hasControl (hexDigits hash) = false := by
  have hdigit : ∀ n : Fin 16, isAsciiAlphanumeric (Nat.digitChar n) = true := by decide
  rw [hasControl_eq_false_iff, hexDigits, String.toList_ofList]
  intro c hc
  obtain ⟨i, -, rfl⟩ := mem_map.mp hc
  exact isControl_of_isAsciiAlphanumeric (hdigit ⟨_, Nat.mod_lt _ (by decide)⟩)

theorem ProviderOid.hasControl_text (oid : ProviderOid) : hasControl oid.text = false := by
  have hvalid := oid.valid
  unfold isInvasionInstanceId at hvalid
  rw [Bool.and_eq_true, all_eq_true] at hvalid
  rw [hasControl_eq_false_iff]
  intro c hc
  have hallowed := hvalid.2 c hc
  rw [Bool.or_eq_true, Bool.or_eq_true, decide_eq_true_eq, decide_eq_true_eq] at hallowed
  rcases hallowed with (halphanumeric | rfl) | rfl
  · exact isControl_of_isAsciiAlphanumeric halphanumeric
  · decide
  · decide

section Parsed

variable {labels : Labels}

theorem exists_path_of_parseReward {items : List RawCountedItem} {reward : RewardLine}
    (h : parseReward labels items = some reward) : ∃ path, reward.itemKey = itemKey path := by
  unfold parseReward at h
  simp only [Option.bind_eq_bind, Option.bind_eq_some_iff, Option.pure_def, Option.some.injEq] at h
  obtain ⟨first, -, path, -, rfl⟩ := h
  use path

/-- The identifier of an invasion has no control character, and its rewards come from item types. -/
theorem of_parseInvasion {raw : RawInvasion} {invasion : InvasionMission}
    (h : parseInvasion labels raw = some invasion) :
    hasControl invasion.instanceId = false ∧
      ∀ reward ∈ invasion.rewards, ∃ path, reward.itemKey = itemKey path := by
  obtain ⟨node, -, h⟩ := Option.bind_eq_some_iff.mp h
  obtain ⟨-, h⟩ := Option.ite_none_left_eq_some.mp h
  cases h
  constructor
  · split
    · exact ProviderOid.hasControl_text _
    · exact hasControl_hexDigits _
  · intro reward hmem
    rcases mem_append.mp hmem with hattacker | hdefender
    · exact exists_path_of_parseReward (Option.mem_toList.mp hattacker)
    · exact exists_path_of_parseReward (Option.mem_toList.mp hdefender)

variable {document : Json} {fetchedAtSecs : Nat} {w : WorldstateSnapshot}

theorem exists_raw_of_mem_invasions (hw : parseWorldstate labels document fetchedAtSecs = some w)
    {invasion : InvasionMission} (h : invasion ∈ w.invasions) :
    ∃ raw, parseInvasion labels raw = some invasion := by
  obtain ⟨raw, -, hw⟩ := Option.bind_eq_some_iff.mp hw
  cases hw
  obtain ⟨entry, -, hentry⟩ := mem_filterMap.mp (mem_of_mem_take h)
  exact ⟨entry, hentry⟩

/-- The key of a reward is its own tail and short. -/
theorem rewardKeys_spec (hw : parseWorldstate labels document fetchedAtSecs = some w) {key : String}
    (h : key ∈ rewardKeys w.invasions) : IsTail key ∧ key.length ≤ displayMax := by
  obtain ⟨reward, hreward, hkey⟩ := mem_map.mp h
  obtain ⟨invasion, hinvasion, hreward⟩ := mem_flatMap.mp hreward
  obtain ⟨raw, hraw⟩ := exists_raw_of_mem_invasions hw hinvasion
  obtain ⟨path, hpath⟩ := (of_parseInvasion hraw).2 reward hreward
  rw [← hkey, hpath]
  exact ⟨isTail_itemKey path, length_itemKey_le path⟩

theorem hasControl_missionKey {kind : String} (hkind : hasControl kind = false) (expiresAtSecs index : Nat) :
    hasControl (missionKey kind expiresAtSecs index) = false := by
  unfold missionKey
  simp only [hasControl_append, hasControl_toString, Bool.or_false, Bool.or_eq_false_iff]
  exact ⟨⟨hkind, by decide⟩, by decide⟩

theorem hasControl_of_mem_currentActivityDoneKeys
    (hw : parseWorldstate labels document fetchedAtSecs = some w) {key : String}
    (h : key ∈ currentActivityDoneKeys w) : hasControl key = false := by
  have hmission {kind : String} (hkind : hasControl kind = false) {blocks : List ActivityBlock}
      (hmem : key ∈ blocks.flatMap (missionKeys kind)) : hasControl key = false := by
    obtain ⟨block, -, hmem⟩ := mem_flatMap.mp hmem
    obtain ⟨index, -, rfl⟩ := mem_map.mp hmem
    exact hasControl_missionKey hkind _ _
  rcases mem_append.mp h with hblock | hinvasion
  · rcases mem_append.mp hblock with hsortie | harchon
    · exact hmission (by decide) hsortie
    · exact hmission (by decide) harchon
  · obtain ⟨invasion, hmem, rfl⟩ := mem_map.mp hinvasion
    obtain ⟨raw, hraw⟩ := exists_raw_of_mem_invasions hw hmem
    rw [invasionDoneKey, hasControl_append, (of_parseInvasion hraw).1]
    decide

end Parsed

end OverCrow.Warframe
