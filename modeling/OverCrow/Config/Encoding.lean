import Mathlib.Data.List.Sort
import Mathlib.Order.Defs.LinearOrder
import OverCrow.Base.JsonCodec
import OverCrow.Base.Machine
import OverCrow.Config.Lifecycle
import OverCrow.Config.TwitchPrefs
import OverCrow.Config.WarframePrefs

/-!
# The files' values

The derived `Serialize` and `Deserialize` of the lifecycle settings and of the Twitch and Warframe
preferences. Every value that passes its validation reads back as itself.
-/

namespace OverCrow.Config
open OverCrow.Base Option Json

def strings (texts : List String) : Json := .array (texts.map string)

theorem asList_strings (texts : List String) : asList asString (strings texts) = some texts :=
  asList_array fun _ _ => rfl

/-! ### Lifecycle settings -/

/-- `crates/overcrow-config/src/model.rs:7`. -/
def ShortcutSettings.toJson (shortcut : ShortcutSettings) : Json :=
  .object [("enabled", .bool shortcut.enabled), ("accelerator", .string shortcut.accelerator)]

def ShortcutSettings.ofJson (v : Json) : Option ShortcutSettings := do
  let fields ← v.asFields ["enabled", "accelerator"]
  return {
    enabled := ← field fields "enabled" asBool
    accelerator := ← field fields "accelerator" asString }

/-- `model.rs:14`. -/
def ManualGame.toJson (game : ManualGame) : Json :=
  .object [("id", .string game.id), ("name", .string game.name),
    ("executable", .string game.executable.raw)]

def ManualGame.ofJson (v : Json) : Option ManualGame := do
  let fields ← v.asFields ["id", "name", "executable"]
  return {
    id := ← field fields "id" asString
    name := ← field fields "name" asString
    executable := ⟨← field fields "executable" asString⟩ }

def appIdToJson (id : UInt32) : Json := .number id.toNat

def appIdOfJson (v : Json) : Option UInt32 := (v.asUnsigned u32Max).map UInt32.ofNat

/-- `model.rs:101`: the set of the
numbers, if none stands twice. -/
def deserializeUniqueSteamAppIds (v : Json) : Option (List UInt32) := do
  let ids ← v.asList appIdOfJson
  if ids.Nodup then some (ids.insertionSort (· ≤ ·)) else none

/-- `model.rs:22`. -/
def LifecycleSettings.members (settings : LifecycleSettings) : List (String × Json) :=
  [("schema_version", .number settings.schemaVersion), ("enabled", .bool settings.enabled),
    ("selected_steam_app_ids", .array (settings.selectedSteamAppIds.map appIdToJson)),
    ("manual_games", .array (settings.manualGames.map ManualGame.toJson)),
    ("shortcut", settings.shortcut.toJson)]

def LifecycleSettings.toJson (settings : LifecycleSettings) : Json := .object settings.members

def LifecycleSettings.ofJson (v : Json) : Option LifecycleSettings := do
  let fields ← v.asFields
    ["schema_version", "enabled", "selected_steam_app_ids", "manual_games", "shortcut"]
  return {
    schemaVersion := ← field fields "schema_version" (asUnsigned u32Max)
    enabled := ← field fields "enabled" asBool
    selectedSteamAppIds := ←
      field fields "selected_steam_app_ids" deserializeUniqueSteamAppIds
    manualGames := ← field fields "manual_games" (asList ManualGame.ofJson)
    shortcut := ← field fields "shortcut" ShortcutSettings.ofJson }

theorem ShortcutSettings.ofJson_toJson (shortcut : ShortcutSettings) :
    ofJson shortcut.toJson = some shortcut := by
  rfl

theorem ManualGame.ofJson_toJson (game : ManualGame) : ofJson game.toJson = some game := by
  rfl

theorem appIdOfJson_appIdToJson (id : UInt32) : appIdOfJson (appIdToJson id) = some id := by
  have hle : id.toNat ≤ u32Max := Nat.le_pred_of_lt id.toNat_lt
  rw [appIdOfJson, appIdToJson, asUnsigned_number hle, map_some, UInt32.ofNat_toNat]

/-- The numbers of an ordered set read back. -/
theorem deserializeUniqueSteamAppIds_array {ids : List UInt32} (h : ids.Pairwise (· < ·)) :
    deserializeUniqueSteamAppIds (.array (ids.map appIdToJson)) = some ids := by
  have hnodup : ids.Nodup := h.imp fun hlt => UInt32.ne_of_lt hlt
  have hsorted : ids.Pairwise (· ≤ ·) := h.imp fun hlt => UInt32.le_of_lt hlt
  unfold deserializeUniqueSteamAppIds
  rw [asList_array fun id _ => appIdOfJson_appIdToJson id]
  change (if ids.Nodup then _ else _) = _
  rw [if_pos hnodup, hsorted.insertionSort_eq]

/-- The numbers of a set are in its order. -/
theorem pairwise_of_deserialize {v : Json} {ids : List UInt32}
    (h : deserializeUniqueSteamAppIds v = some ids) : ids.Pairwise (· < ·) := by
  obtain ⟨read, -, h⟩ := bind_eq_some_iff.mp h
  rw [ite_none_right_eq_some, some_inj] at h
  obtain ⟨hnodup, rfl⟩ := h
  have hsorted := List.pairwise_insertionSort (· ≤ ·) read
  have hdistinct : (read.insertionSort (· ≤ ·)).Nodup :=
    (List.perm_insertionSort (· ≤ ·) read).nodup_iff.mpr hnodup
  exact (hsorted.and hdistinct).imp fun hab => UInt32.lt_of_le_of_ne hab.1 hab.2

variable {settings : LifecycleSettings}

theorem LifecycleSettings.ordered_of_ofJson {v : Json}
    (h : ofJson v = some settings) : settings.selectedSteamAppIds.Pairwise (· < ·) := by
  obtain ⟨fields, -, h⟩ := bind_eq_some_iff.mp h
  obtain ⟨schemaVersion, -, h⟩ := bind_eq_some_iff.mp h
  obtain ⟨enabled, -, h⟩ := bind_eq_some_iff.mp h
  obtain ⟨ids, hids, h⟩ := bind_eq_some_iff.mp h
  obtain ⟨manualGames, -, h⟩ := bind_eq_some_iff.mp h
  obtain ⟨shortcut, -, h⟩ := bind_eq_some_iff.mp h
  cases h
  obtain ⟨numbers, -, hnumbers⟩ := bind_eq_some_iff.mp hids
  exact pairwise_of_deserialize hnumbers

theorem LifecycleSettings.ofJson_toJson (hschema : settings.schemaVersion ≤ u32Max)
    (hids : settings.selectedSteamAppIds.Pairwise (· < ·)) :
    ofJson settings.toJson = some settings := by
  have hnodup : (settings.members.map Prod.fst).Nodup := by simp [members]
  rw [ofJson, toJson, asFields_object hnodup (by simp [members])]
  simp only [bind_eq_bind, bind_some, field_getElem? hnodup 0 rfl,
    field_getElem? hnodup 1 rfl, field_getElem? hnodup 2 rfl,
    field_getElem? hnodup 3 rfl, field_getElem? hnodup 4 rfl,
    asUnsigned_number hschema, asBool_bool, deserializeUniqueSteamAppIds_array hids,
    asList_array (fun game _ => ManualGame.ofJson_toJson game), ShortcutSettings.ofJson_toJson]
  rfl

/-! ### Twitch preferences -/

def optionalString : Option String → Json
  | none => .null
  | some s => .string s

/-- `crates/overcrow-config/src/twitch_prefs.rs:26`. -/
def TwitchPrefs.members (prefs : TwitchPrefs) : List (String × Json) :=
  [("schema_version", .number prefs.schemaVersion),
    ("active_channel", optionalString prefs.activeChannel), ("favorites", strings prefs.favorites),
    ("passive_lifetime_secs", .number prefs.passiveLifetimeSecs)]

def TwitchPrefs.toJson (prefs : TwitchPrefs) : Json := .object prefs.members

def TwitchPrefs.ofJson (v : Json) : Option TwitchPrefs := do
  let fields ← v.asFields ["schema_version", "active_channel", "favorites", "passive_lifetime_secs"]
  return {
    schemaVersion := ← field fields "schema_version" (asUnsigned u32Max)
    activeChannel := ← fieldOr none fields "active_channel" (asOption asString)
    favorites := ← field fields "favorites" (asList asString)
    passiveLifetimeSecs := ← field fields "passive_lifetime_secs" (asUnsigned u32Max) }

theorem asOption_optionalString (text : Option String) :
    asOption asString (optionalString text) = some text := by
  cases text <;> rfl

theorem TwitchPrefs.Normal.ofJson_toJson {prefs : TwitchPrefs} (h : prefs.Normal) :
    ofJson prefs.toJson = some prefs := by
  have hschema : prefs.schemaVersion ≤ u32Max := h.schemaVersion ▸ by decide
  have hlifetime : prefs.passiveLifetimeSecs ≤ u32Max := h.lifetime.2.trans (by decide)
  have hnodup : (prefs.members.map Prod.fst).Nodup := by simp [members]
  rw [ofJson, toJson, asFields_object hnodup (by simp [members])]
  simp only [bind_eq_bind, bind_some, field_getElem? hnodup 0 rfl,
    fieldOr_getElem? hnodup 1 rfl, field_getElem? hnodup 2 rfl,
    field_getElem? hnodup 3 rfl, asUnsigned_number hschema,
    asUnsigned_number hlifetime, asOption_optionalString, asList_strings]
  rfl

/-! ### Warframe preferences -/

/-- The names of the eras, `crates/overcrow-config/src/warframe_prefs.rs:28`. -/
def FissureEra.name : FissureEra → String
  | lith => "lith"
  | meso => "meso"
  | neo => "neo"
  | axi => "axi"
  | requiem => "requiem"
  | omni => "omni"

def FissureEra.ofJson : Json → Option FissureEra :=
  asVariant ([lith, meso, neo, axi, requiem, omni].map fun era => (era.name, era))

def FissureEra.toJson (era : FissureEra) : Json := .string era.name

theorem FissureEra.ofJson_toJson (era : FissureEra) : ofJson era.toJson = some era := by
  cases era <;> rfl

/-- `warframe_prefs.rs:158`. The fields of the removed widget are not
written. -/
def WarframePrefs.members (prefs : WarframePrefs) : List (String × Json) :=
  [("schema_version", .number prefs.schemaVersion),
    ("fissure_eras", .array (prefs.fissureEras.map FissureEra.toJson)),
    ("show_normal", .bool prefs.showNormal),
    ("show_steel_path", .bool prefs.showSteelPath),
    ("show_railjack", .bool prefs.showRailjack),
    ("status_horizontal", .bool prefs.statusHorizontal),
    ("show_status_cetus", .bool prefs.showStatusCetus),
    ("show_status_vallis", .bool prefs.showStatusVallis),
    ("show_status_cambion", .bool prefs.showStatusCambion),
    ("show_status_zariman", .bool prefs.showStatusZariman),
    ("show_status_reset", .bool prefs.showStatusReset),
    ("show_status_baro", .bool prefs.showStatusBaro),
    ("show_status_seconds", .bool prefs.showStatusSeconds),
    ("show_fissure_seconds", .bool prefs.showFissureSeconds),
    ("show_fissure_node", .bool prefs.showFissureNode),
    ("last_market_query", .string prefs.lastMarketQuery),
    ("invasion_hide_completed", .bool prefs.invasionHideCompleted),
    ("invasion_push_done_down", .bool prefs.invasionPushDoneDown),
    ("invasion_compact", .bool prefs.invasionCompact),
    ("invasion_resource_filter", strings prefs.invasionResourceFilter),
    ("invasion_reward_watchlist", strings prefs.invasionRewardWatchlist),
    ("show_activity_seconds", .bool prefs.showActivitySeconds),
    ("activity_done", strings prefs.activityDone)]

def WarframePrefs.toJson (prefs : WarframePrefs) : Json := .object prefs.members

/-- The names of the fields, in order. -/
def warframeFieldNames : List String :=
  ["schema_version", "fissure_eras", "show_normal", "show_steel_path", "show_railjack",
    "status_horizontal", "show_status_cetus", "show_status_vallis", "show_status_cambion",
    "show_status_zariman", "show_status_reset", "show_status_baro", "show_status_seconds",
    "show_fissure_seconds", "show_fissure_node", "last_market_query", "invasion_hide_completed",
    "invasion_push_done_down", "invasion_compact", "invasion_resource_filter",
    "invasion_reward_watchlist", "nightwave_daily_only", "nightwave_show_expired",
    "show_activity_seconds", "activity_done"]

def WarframePrefs.ofFields (fields : List (String × Json)) : Option WarframePrefs := do
  return {
    schemaVersion := ← field fields "schema_version" (asUnsigned u32Max)
    fissureEras := ← field fields "fissure_eras" (asList FissureEra.ofJson)
    showNormal := ← fieldOr true fields "show_normal" asBool
    showSteelPath := ← fieldOr true fields "show_steel_path" asBool
    showRailjack := ← fieldOr true fields "show_railjack" asBool
    statusHorizontal := ← fieldOr false fields "status_horizontal" asBool
    showStatusCetus := ← fieldOr true fields "show_status_cetus" asBool
    showStatusVallis := ← fieldOr true fields "show_status_vallis" asBool
    showStatusCambion := ← fieldOr true fields "show_status_cambion" asBool
    showStatusZariman := ← fieldOr true fields "show_status_zariman" asBool
    showStatusReset := ← fieldOr true fields "show_status_reset" asBool
    showStatusBaro := ← fieldOr true fields "show_status_baro" asBool
    showStatusSeconds := ← fieldOr true fields "show_status_seconds" asBool
    showFissureSeconds := ← fieldOr true fields "show_fissure_seconds" asBool
    showFissureNode := ← fieldOr true fields "show_fissure_node" asBool
    lastMarketQuery := ← field fields "last_market_query" asString
    invasionHideCompleted := ← fieldOr true fields "invasion_hide_completed" asBool
    invasionPushDoneDown := ← fieldOr true fields "invasion_push_done_down" asBool
    invasionCompact := ← fieldOr false fields "invasion_compact" asBool
    invasionResourceFilter := ←
      fieldOr [] fields "invasion_resource_filter" (asList asString)
    invasionRewardWatchlist := ←
      fieldOr [] fields "invasion_reward_watchlist" (asList asString)
    nightwaveDailyOnly := ← fieldOr false fields "nightwave_daily_only" asBool
    nightwaveShowExpired := ← fieldOr false fields "nightwave_show_expired" asBool
    showActivitySeconds := ← fieldOr true fields "show_activity_seconds" asBool
    activityDone := ← fieldOr [] fields "activity_done" (asList asString) }

def WarframePrefs.ofJson (v : Json) : Option WarframePrefs :=
  (v.asFields warframeFieldNames).bind ofFields

theorem WarframePrefs.Normal.ofJson_toJson {prefs : WarframePrefs} (h : prefs.Normal) :
    ofJson prefs.toJson = some prefs := by
  have hschema : prefs.schemaVersion ≤ u32Max := h.schemaVersion ▸ by decide
  have hnodup : (prefs.members.map Prod.fst).Nodup := by simp [members]
  have hfield {α : Type} (i : Nat) {name : String} {v : Json}
      (hi : prefs.members[i]? = some (name, v)) (default : α) (read : Json → Option α) :
      fieldOr default prefs.members name read = read v :=
    fieldOr_getElem? hnodup i hi default read
  have hdaily : "nightwave_daily_only" ∉ prefs.members.map Prod.fst := by simp [members]
  have hexpired : "nightwave_show_expired" ∉ prefs.members.map Prod.fst := by simp [members]
  change ofFields prefs.members = some prefs
  unfold ofFields
  rw [field_getElem? hnodup 0 rfl, field_getElem? hnodup 1 rfl, hfield 2 rfl,
    hfield 3 rfl, hfield 4 rfl, hfield 5 rfl, hfield 6 rfl, hfield 7 rfl, hfield 8 rfl,
    hfield 9 rfl, hfield 10 rfl, hfield 11 rfl, hfield 12 rfl, hfield 13 rfl, hfield 14 rfl,
    field_getElem? hnodup 15 rfl, hfield 16 rfl, hfield 17 rfl, hfield 18 rfl, hfield 19 rfl,
    hfield 20 rfl, hfield 21 rfl, hfield 22 rfl, fieldOr_of_notMem hdaily,
    fieldOr_of_notMem hexpired, asUnsigned_number hschema,
    asList_array (fun era _ => FissureEra.ofJson_toJson era), asList_strings, asList_strings,
    asList_strings]
  exact congrArg some h.legacy

end OverCrow.Config
