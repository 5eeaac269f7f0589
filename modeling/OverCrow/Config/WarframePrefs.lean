import OverCrow.Base.Task
import OverCrow.Base.Trim

/-!
# Warframe preferences

`crates/overcrow-config/src/warframe_prefs.rs`. Validation normalises three lists of texts and the
list of eras; `WarframePrefs.Normal` says what it leaves behind, and what it leaves alone.
-/

namespace OverCrow.Config
open OverCrow.Base List

/-- `warframe_prefs.rs:16`. -/
def warframePrefsSchemaVersion : Nat := 1

/-- `warframe_prefs.rs:19`. -/
def warframeMarketQueryMaxChars : Nat := 64

/-- `warframe_prefs.rs:20`. -/
def warframeInvasionWatchlistMax : Nat := 24

/-- `warframe_prefs.rs:21`. -/
def warframeInvasionWatchlistEntryMaxChars : Nat := 96

/-- `warframe_prefs.rs:22`. -/
def warframeActivityDoneMax : Nat := 128

/-- `warframe_prefs.rs:23`. -/
def warframeActivityDoneEntryMaxChars : Nat := 96

/-- `warframe_prefs.rs:29`. -/
inductive FissureEra where
  | lith
  | meso
  | neo
  | axi
  | requiem
  | omni
  deriving DecidableEq

/-- `warframe_prefs.rs:118`. -/
inductive StatusRow where
  | cetus
  | vallis
  | cambion
  | zariman
  | dailyReset
  | baro
  deriving DecidableEq

/-- `warframe_prefs.rs:498`. -/
inductive FissureSource where
  | normal
  | steelPath
  | railjack
  deriving DecidableEq

/-- `WarframePrefs` with its default, `warframe_prefs.rs:160-257`. -/
structure WarframePrefs where
  schemaVersion : Nat := warframePrefsSchemaVersion
  fissureEras : List FissureEra := []
  showNormal : Bool := true
  showSteelPath : Bool := true
  showRailjack : Bool := true
  statusHorizontal : Bool := false
  showStatusCetus : Bool := true
  showStatusVallis : Bool := true
  showStatusCambion : Bool := true
  showStatusZariman : Bool := true
  showStatusReset : Bool := true
  showStatusBaro : Bool := true
  showStatusSeconds : Bool := true
  showFissureSeconds : Bool := true
  showFissureNode : Bool := true
  lastMarketQuery : String := ""
  invasionHideCompleted : Bool := true
  invasionPushDoneDown : Bool := true
  invasionCompact : Bool := false
  invasionResourceFilter : List String := []
  invasionRewardWatchlist : List String := []
  nightwaveDailyOnly : Bool := false
  nightwaveShowExpired : Bool := false
  showActivitySeconds : Bool := true
  activityDone : List String := []
  deriving DecidableEq, Inhabited

/-- `warframe_prefs.rs:517`. -/
inductive WarframePrefsError where
  | unsupportedSchemaVersion
  | queryTooLong
  | invalidQuery
  | noSourceSelected
  | watchlistTooLong
  | watchlistEntryTooLong
  | invalidWatchlistEntry
  | activityDoneTooLong
  | activityDoneEntryTooLong
  | invalidActivityDoneEntry
  deriving DecidableEq

/-- `Display` of `WarframePrefsError`, `warframe_prefs.rs:530`. -/
def WarframePrefsError.message : WarframePrefsError → String
  | .unsupportedSchemaVersion => "unsupported warframe prefs schema version"
  | .queryTooLong => "market query is too long"
  | .invalidQuery => "market query is invalid"
  | .noSourceSelected => "at least one fissure source must be enabled"
  | .watchlistTooLong => "invasion watchlist is too long"
  | .watchlistEntryTooLong => "invasion watchlist entry is too long"
  | .invalidWatchlistEntry => "invasion watchlist entry is invalid"
  | .activityDoneTooLong => "activity done list is too long"
  | .activityDoneEntryTooLong => "activity done entry is too long"
  | .invalidActivityDoneEntry => "activity done entry is invalid"

/-- A control character; the source checks for the null character, which is one, as well. -/
def hasControl (text : String) : Bool := text.toList.any fun c => isControl c || c = Char.ofNat 0

/-- The bounds and errors of a list of texts. -/
structure ListRules where
  maxChars : Nat
  maxLen : Nat
  tooLongEntry : WarframePrefsError
  invalidEntry : WarframePrefsError
  tooLongList : WarframePrefsError

/-- A pass of the loop of `normalize_string_list`,
`warframe_prefs.rs:85-102`. -/
def ListRules.push (rules : ListRules) (out : List String) (entry : String) :
    Except WarframePrefsError (List String) :=
  let trimmed := trim entry
  if trimmed.isEmpty then .ok out
  else if rules.maxChars < trimmed.length then .error rules.tooLongEntry
  else if hasControl trimmed then .error rules.invalidEntry
  else
    let out := pushNew out trimmed
    if rules.maxLen < out.length then .error rules.tooLongList else .ok out

/-- `warframe_prefs.rs:76`. -/
def normalizeStringList (rules : ListRules) (entries : List String) :
    Except WarframePrefsError (List String) :=
  entries.foldlM rules.push []

/-- The watchlist and the resource filter, `warframe_prefs.rs:287-302`. -/
def watchlistRules : ListRules where
  maxChars := warframeInvasionWatchlistEntryMaxChars
  maxLen := warframeInvasionWatchlistMax
  tooLongEntry := .watchlistEntryTooLong
  invalidEntry := .invalidWatchlistEntry
  tooLongList := .watchlistTooLong

/-- The finished activities, `warframe_prefs.rs:303-310`. -/
def activityDoneRules : ListRules where
  maxChars := warframeActivityDoneEntryMaxChars
  maxLen := warframeActivityDoneMax
  tooLongEntry := .activityDoneEntryTooLong
  invalidEntry := .invalidActivityDoneEntry
  tooLongList := .activityDoneTooLong

/-- `warframe_prefs.rs:261`. -/
def WarframePrefs.validate (prefs : WarframePrefs) : Except WarframePrefsError WarframePrefs :=
  if prefs.schemaVersion ≠ warframePrefsSchemaVersion then .error .unsupportedSchemaVersion
  else if warframeMarketQueryMaxChars < prefs.lastMarketQuery.length then .error .queryTooLong
  else if hasControl prefs.lastMarketQuery then .error .invalidQuery
  else
    let eras := prefs.fissureEras.foldl pushNew []
    if !prefs.showNormal && !prefs.showSteelPath && !prefs.showRailjack then
      .error .noSourceSelected
    else do
      let watchlist ← normalizeStringList watchlistRules prefs.invasionRewardWatchlist
      let resourceFilter ← normalizeStringList watchlistRules prefs.invasionResourceFilter
      let activityDone ← normalizeStringList activityDoneRules prefs.activityDone
      return { prefs with
        fissureEras := eras
        invasionResourceFilter := resourceFilter
        invasionRewardWatchlist := watchlist
        nightwaveDailyOnly := false
        nightwaveShowExpired := false
        activityDone := activityDone }

/-! ### Normal lists -/

/-- An entry as `normalize_string_list` leaves it. -/
structure NormalEntry (rules : ListRules) (entry : String) : Prop where
  trimmed : trim entry = entry
  nonempty : entry.isEmpty = false
  length_le : entry.length ≤ rules.maxChars
  no_control : hasControl entry = false

/-- A list as `normalize_string_list` leaves it. -/
structure NormalList (rules : ListRules) (entries : List String) : Prop where
  normal : ∀ entry ∈ entries, NormalEntry rules entry
  nodup : entries.Nodup
  length_le : entries.length ≤ rules.maxLen

section Lists

variable {rules : ListRules} {entries out : List String} {entry : String}

theorem normalList_nil : NormalList rules [] := ⟨by simp, List.nodup_nil, Nat.zero_le _⟩

theorem NormalList.push (h : NormalList rules entries) (hpush : rules.push entries entry = .ok out) :
    NormalList rules out := by
  unfold ListRules.push at hpush
  dsimp only at hpush
  split at hpush
  · exact Except.ok.inj hpush ▸ h
  next hnonempty =>
  split at hpush
  · cases hpush
  next hlength =>
  split at hpush
  · cases hpush
  next hcontrol =>
  split at hpush
  · cases hpush
  next hroom =>
    obtain rfl := Except.ok.inj hpush
    refine ⟨fun other hother => ?_, nodup_pushNew h.nodup _, Nat.not_lt.mp hroom⟩
    rcases mem_pushNew.mp hother with hold | rfl
    · exact h.normal other hold
    · exact ⟨trim_idem entry, (Bool.not_eq_true _).mp hnonempty, Nat.not_lt.mp hlength,
        (Bool.not_eq_true _).mp hcontrol⟩

theorem normalList_of_normalize (h : normalizeStringList rules entries = .ok out) :
    NormalList rules out :=
  foldlM_invariant NormalList.push normalList_nil h

/-- A normal entry that is new is appended, if there is room. -/
theorem ListRules.push_normal (h : NormalEntry rules entry) (hnew : entry ∉ entries)
    (hroom : entries.length < rules.maxLen) : rules.push entries entry = .ok (entries ++ [entry]) := by
  unfold ListRules.push
  dsimp only
  rw [h.trimmed, h.nonempty, h.no_control, if_neg Bool.false_ne_true,
    if_neg (Nat.not_lt.mpr h.length_le), if_neg Bool.false_ne_true, pushNew, if_neg hnew, if_neg]
  rw [length_append, length_singleton]
  omega

theorem foldlM_push_normal (out : List String) {rest : List String} (h : NormalList rules (out ++ rest)) :
    rest.foldlM rules.push out = .ok (out ++ rest) := by
  induction rest generalizing out with
  | nil => rw [append_nil]; rfl
  | cons entry rest ih =>
    have hnew : entry ∉ out := fun hmem =>
      (nodup_append.mp h.nodup).2.2 entry hmem entry mem_cons_self rfl
    have hroom : out.length < rules.maxLen := by
      have hlength := h.length_le
      rw [length_append, length_cons] at hlength
      omega
    have hpush := ListRules.push_normal
      (h.normal entry (mem_append_right out mem_cons_self)) hnew hroom
    rw [append_cons] at h ⊢
    rw [foldlM_cons, hpush]
    exact ih _ h

/-- A normal list is left alone. -/
theorem NormalList.normalize (h : NormalList rules entries) :
    normalizeStringList rules entries = .ok entries :=
  foldlM_push_normal [] h

end Lists

/-! ### Normal preferences -/

/-- Preferences as validation leaves them. -/
structure WarframePrefs.Normal (prefs : WarframePrefs) : Prop where
  schemaVersion : prefs.schemaVersion = warframePrefsSchemaVersion
  query_le : prefs.lastMarketQuery.length ≤ warframeMarketQueryMaxChars
  query_no_control : hasControl prefs.lastMarketQuery = false
  eras : prefs.fissureEras.Nodup
  source : (!prefs.showNormal && !prefs.showSteelPath && !prefs.showRailjack) = false
  watchlist : NormalList watchlistRules prefs.invasionRewardWatchlist
  resourceFilter : NormalList watchlistRules prefs.invasionResourceFilter
  activityDone : NormalList activityDoneRules prefs.activityDone
  nightwaveDailyOnly : prefs.nightwaveDailyOnly = false
  nightwaveShowExpired : prefs.nightwaveShowExpired = false

namespace WarframePrefs

variable {prefs validated : WarframePrefs}

theorem normal_of_validate (h : prefs.validate = .ok validated) : validated.Normal := by
  unfold validate at h
  split at h
  · cases h
  next hschema =>
  split at h
  · cases h
  next hlength =>
  split at h
  · cases h
  next hcontrol =>
  split at h
  · cases h
  next hsource =>
    obtain ⟨watchlist, hwatchlist, h⟩ := bind_eq_ok.mp h
    obtain ⟨resourceFilter, hfilter, h⟩ := bind_eq_ok.mp h
    obtain ⟨activityDone, hactivity, h⟩ := bind_eq_ok.mp h
    obtain rfl := Except.ok.inj h
    exact
      { schemaVersion := not_not.mp hschema
        query_le := Nat.not_lt.mp hlength
        query_no_control := (Bool.not_eq_true _).mp hcontrol
        eras := nodup_foldl_pushNew nodup_nil
        source := (Bool.not_eq_true _).mp hsource
        watchlist := normalList_of_normalize hwatchlist
        resourceFilter := normalList_of_normalize hfilter
        activityDone := normalList_of_normalize hactivity
        nightwaveDailyOnly := rfl
        nightwaveShowExpired := rfl }

/-- The fields of the removed widget are already cleared. -/
theorem Normal.legacy (h : prefs.Normal) :
    { prefs with nightwaveDailyOnly := false, nightwaveShowExpired := false } = prefs := by
  have hdaily := h.nightwaveDailyOnly
  have hexpired := h.nightwaveShowExpired
  cases prefs
  cases hdaily
  cases hexpired
  rfl

theorem Normal.validate (h : prefs.Normal) : prefs.validate = .ok prefs := by
  unfold WarframePrefs.validate
  rw [if_neg (not_not.mpr h.schemaVersion), if_neg (Nat.not_lt.mpr h.query_le),
    h.query_no_control, if_neg Bool.false_ne_true, h.source, if_neg Bool.false_ne_true,
    h.watchlist.normalize, h.resourceFilter.normalize, h.activityDone.normalize,
    foldl_pushNew_eq_self h.eras]
  exact congrArg Except.ok h.legacy

/-- The default preferences pass their own check. -/
theorem normal_default : ({} : WarframePrefs).Normal where
  schemaVersion := rfl
  query_le := by decide
  query_no_control := by decide
  eras := nodup_nil
  source := rfl
  watchlist := normalList_nil
  resourceFilter := normalList_nil
  activityDone := normalList_nil
  nightwaveDailyOnly := rfl
  nightwaveShowExpired := rfl

end WarframePrefs

end OverCrow.Config
