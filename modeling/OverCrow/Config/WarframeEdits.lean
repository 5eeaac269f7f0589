import OverCrow.Config.WarframePrefs

/-!
# Edits of Warframe preferences

The methods of `WarframePrefs` that the widgets call,
`crates/overcrow-config/src/warframe_prefs.rs:107-492`. An edit keeps normal preferences normal if the
text that it adds has no control character: no method looks for one.
-/

namespace OverCrow.Config
open OverCrow.Base List

/-- `warframe_prefs.rs:107`. -/
def pathTail (path : String) : String :=
  trim (String.ofList ((trim path).toList.rtakeWhile (· ≠ '/')))

/-- `warframe_prefs.rs:505`. -/
def FissureSource.all : List FissureSource := [.normal, .steelPath, .railjack]

/-- `warframe_prefs.rs:40`. -/
def FissureEra.all : List FissureEra := [.lith, .meso, .neo, .axi, .requiem, .omni]

/-! ### The lists -/

/-- The list part of `toggle_invasion_watchlist`, with the position of the key,
`warframe_prefs.rs:449-463`. -/
def toggleTail (entries : List String) (key : String) : List String :=
  match entries.findIdx? fun entry => pathTail entry = key with
  | some index => entries.eraseIdx index
  | none =>
    if entries.length < warframeInvasionWatchlistMax &&
        key.length ≤ warframeInvasionWatchlistEntryMaxChars then
      entries ++ [key]
    else entries

/-- If everything that is offered is selected, the filter is dropped,
`warframe_prefs.rs:388-396`. -/
def collapseFilter (available filter : List String) : List String :=
  if !available.isEmpty && available.all fun key => filter.any fun entry => pathTail entry = key then []
  else filter

/-- The list part of `toggle_activity_done`, `warframe_prefs.rs:420-432`. -/
def toggleMark (done : List String) (key : String) : List String :=
  let key := trim key
  if key.isEmpty || warframeActivityDoneEntryMaxChars < key.length then done
  else
    match done.findIdx? fun entry => entry = key with
    | some index => done.eraseIdx index
    | none =>
      let done := if warframeActivityDoneMax ≤ done.length then done.eraseIdx 0 else done
      done ++ [key]

namespace WarframePrefs

variable (prefs : WarframePrefs)

/-- `warframe_prefs.rs:448`. -/
def toggleInvasionWatchlist (itemKey : String) : WarframePrefs :=
  let key := pathTail itemKey
  if key.isEmpty then prefs
  else { prefs with invasionRewardWatchlist := toggleTail prefs.invasionRewardWatchlist key }

/-- `warframe_prefs.rs:351`. -/
def toggleInvasionResourceFilter (itemKey : String) (available : List String) : WarframePrefs :=
  let key := pathTail itemKey
  if key.isEmpty then prefs
  else
    let availableTails := (available.map pathTail).filter (!·.isEmpty)
    if prefs.invasionResourceFilter.isEmpty then
      { prefs with
        invasionResourceFilter := (availableTails.filter (· ≠ key)).take warframeInvasionWatchlistMax }
    else
      let filter := toggleTail prefs.invasionResourceFilter key
      if filter.isEmpty then { prefs with invasionResourceFilter := filter }
      else { prefs with invasionResourceFilter := collapseFilter availableTails filter }

/-- `warframe_prefs.rs:408`. -/
def activityIsDone (key : String) : Bool :=
  let key := trim key
  !key.isEmpty && prefs.activityDone.any fun entry => entry = key

/-- `warframe_prefs.rs:414`. -/
def pruneActivityDone (currentKeys : List String) : WarframePrefs :=
  { prefs with
    activityDone := prefs.activityDone.filter fun entry => currentKeys.any fun key => key = entry }

/-- `warframe_prefs.rs:419`. -/
def toggleActivityDone (key : String) : WarframePrefs :=
  { prefs with activityDone := toggleMark prefs.activityDone key }

/-- `warframe_prefs.rs:435`. -/
def setActivityDone (key : String) (done : Bool) : WarframePrefs :=
  if done ≠ prefs.activityIsDone key then prefs.toggleActivityDone key else prefs

/-- `warframe_prefs.rs:469`. -/
def sourceEnabled : FissureSource → Bool
  | .normal => prefs.showNormal
  | .steelPath => prefs.showSteelPath
  | .railjack => prefs.showRailjack

/-- `warframe_prefs.rs:477`. -/
def statusRowVisible : StatusRow → Bool
  | .cetus => prefs.showStatusCetus
  | .vallis => prefs.showStatusVallis
  | .cambion => prefs.showStatusCambion
  | .zariman => prefs.showStatusZariman
  | .dailyReset => prefs.showStatusReset
  | .baro => prefs.showStatusBaro

/-- `warframe_prefs.rs:488`. -/
def setStatusRowVisible (visible : Bool) : StatusRow → WarframePrefs
  | .cetus => { prefs with showStatusCetus := visible }
  | .vallis => { prefs with showStatusVallis := visible }
  | .cambion => { prefs with showStatusCambion := visible }
  | .zariman => { prefs with showStatusZariman := visible }
  | .dailyReset => { prefs with showStatusReset := visible }
  | .baro => { prefs with showStatusBaro := visible }

end WarframePrefs

/-! ### Texts without control characters -/

variable {text : String}

theorem hasControl_eq_false_iff : hasControl text = false ↔ ∀ c ∈ text.toList, isControl c = false := by
  unfold hasControl
  rw [any_eq_false]
  refine forall₂_congr fun c _ => ?_
  rw [Bool.not_eq_true, Bool.or_eq_false_iff, decide_eq_false_iff_not, and_iff_left_iff_imp]
  rintro hc rfl
  cases hc

theorem hasControl_append (a b : String) : hasControl (a ++ b) = (hasControl a || hasControl b) := by
  unfold hasControl
  rw [String.toList_append, any_append]

theorem hasControl_trim (h : hasControl text = false) : hasControl (trim text) = false := by
  rw [hasControl_eq_false_iff] at h ⊢
  rw [toList_trim]
  exact fun c hc => h c ((trimList_sublist _).mem hc)

theorem hasControl_toString (n : Nat) : hasControl (toString n) = false := by
  rw [hasControl_eq_false_iff]
  intro c hc
  have hdigit : isAsciiDigit c = true :=
    Nat.isDigit_of_mem_toDigits (by decide) (by decide) (Nat.toList_repr ▸ hc)
  refine isControl_of_isAsciiAlphanumeric ?_
  rw [isAsciiAlphanumeric, hdigit]
  rfl

/-! ### Tails of paths -/

/-- A text that is its own tail. -/
def IsTail (text : String) : Prop := trim text = text ∧ '/' ∉ text.toList

theorem notMem_rtakeWhile_slash (text : List Char) : '/' ∉ text.rtakeWhile (· ≠ '/') := by
  intro hmem
  have hne := mem_rtakeWhile_imp hmem
  exact of_decide_eq_true hne rfl

theorem isTail_pathTail (path : String) : IsTail (pathTail path) := by
  refine ⟨trim_idem _, fun hmem => ?_⟩
  rw [pathTail, toList_trim, String.toList_ofList] at hmem
  exact notMem_rtakeWhile_slash _ ((trimList_sublist _).mem hmem)

theorem IsTail.pathTail_eq (h : IsTail text) : pathTail text = text := by
  have hkept : text.toList.rtakeWhile (· ≠ '/') = text.toList := by
    rw [rtakeWhile_eq_self_iff]
    intro c hc
    exact decide_eq_true fun heq => h.2 (heq ▸ hc)
  rw [pathTail, h.1, hkept, String.ofList_toList, h.1]

/-! ### Normal lists -/

section Lists

variable {rules : ListRules} {entries shorter : List String} {entry : String}

theorem NormalList.sublist (h : NormalList rules entries) (hsub : shorter.Sublist entries) :
    NormalList rules shorter :=
  ⟨fun entry hentry => h.normal entry (hsub.mem hentry), h.nodup.sublist hsub,
    hsub.length_le.trans h.length_le⟩

theorem NormalList.append (h : NormalList rules entries) (hentry : NormalEntry rules entry)
    (hnew : entry ∉ entries) (hroom : entries.length < rules.maxLen) :
    NormalList rules (entries ++ [entry]) := by
  refine ⟨fun other hother => ?_, ?_, ?_⟩
  · rcases mem_append.mp hother with hold | hlast
    · exact h.normal other hold
    · exact mem_singleton.mp hlast ▸ hentry
  · rw [← concat_eq_append]
    exact h.nodup.concat hnew
  · rw [length_append]
    exact hroom

/-- An entry without control characters that is its own tail can be toggled. -/
theorem NormalList.toggleTail (h : NormalList watchlistRules entries) (htail : IsTail entry)
    (hnonempty : entry.isEmpty = false) (hcontrol : hasControl entry = false) :
    NormalList watchlistRules (toggleTail entries entry) := by
  unfold Config.toggleTail
  split
  · exact h.sublist (eraseIdx_sublist _ _)
  · next hnone =>
    split
    · next hroom =>
      rw [Bool.and_eq_true, decide_eq_true_eq, decide_eq_true_eq] at hroom
      refine h.append ⟨htail.1, hnonempty, hroom.2, hcontrol⟩ (fun hmem => ?_) hroom.1
      have hother := findIdx?_eq_none_iff.mp hnone entry hmem
      exact of_decide_eq_false hother htail.pathTail_eq
    · exact h

theorem NormalList.collapseFilter (h : NormalList watchlistRules entries) (available : List String) :
    NormalList watchlistRules (collapseFilter available entries) := by
  unfold Config.collapseFilter
  split
  · exact normalList_nil
  · exact h

/-- An activity without control characters can be toggled. -/
theorem NormalList.toggleMark (h : NormalList activityDoneRules entries)
    (hcontrol : hasControl (trim entry) = false) :
    NormalList activityDoneRules (toggleMark entries entry) := by
  unfold Config.toggleMark
  dsimp only
  split
  · exact h
  · next hfits =>
    rw [Bool.or_eq_true, not_or, decide_eq_true_eq, Nat.not_lt, Bool.not_eq_true] at hfits
    split
    · exact h.sublist (eraseIdx_sublist _ _)
    · next hnone =>
      have hnew : trim entry ∉ entries := fun hmem =>
        of_decide_eq_false (findIdx?_eq_none_iff.mp hnone _ hmem) rfl
      have hentry : NormalEntry activityDoneRules (trim entry) :=
        ⟨trim_idem entry, hfits.1, hfits.2, hcontrol⟩
      split
      · next hfull =>
        refine (h.sublist (eraseIdx_sublist _ _)).append hentry
          (fun hmem => hnew ((eraseIdx_sublist _ _).mem hmem)) ?_
        have hlength : entries.length ≤ warframeActivityDoneMax := h.length_le
        have hpos : 0 < entries.length := Nat.lt_of_lt_of_le (by decide) hfull
        rw [length_eraseIdx_of_lt hpos]
        change entries.length - 1 < warframeActivityDoneMax
        omega
      · next hroom => exact h.append hentry hnew (Nat.not_le.mp hroom)

end Lists

/-! ### Normal preferences -/

theorem hasControl_nonempty (h : hasControl text = true) : text.isEmpty = false := by
  rw [Bool.eq_false_iff]
  intro hempty
  rw [String.isEmpty_iff.mp hempty] at h
  cases h

/-- An entry with a control character is refused. -/
theorem normalize_singleton_ne_ok {rules : ListRules} {key : String} {out : List String}
    (htrim : trim key = key) (hcontrol : hasControl key = true) :
    normalizeStringList rules [key] ≠ .ok out := by
  intro hok
  obtain ⟨kept, hpush, -⟩ := bind_eq_ok.mp hok
  unfold ListRules.push at hpush
  dsimp only at hpush
  rw [htrim, hasControl_nonempty hcontrol, hcontrol, if_neg Bool.false_ne_true, if_pos rfl] at hpush
  split at hpush <;> cases hpush

/-- Accepted preferences have a query and a watchlist without control characters. -/
theorem WarframePrefs.accepts_of_validate {prefs validated : WarframePrefs}
    (h : prefs.validate = .ok validated) :
    hasControl prefs.lastMarketQuery = false ∧
      ∃ out, normalizeStringList watchlistRules prefs.invasionRewardWatchlist = .ok out := by
  unfold validate at h
  split at h
  · cases h
  split at h
  · cases h
  split at h
  · cases h
  next hcontrol =>
  split at h
  · cases h
  obtain ⟨watchlist, hwatchlist, -⟩ := bind_eq_ok.mp h
  exact ⟨Bool.eq_false_iff.mpr hcontrol, watchlist, hwatchlist⟩

namespace WarframePrefs.Normal

variable {prefs : WarframePrefs} {key : String}

section

variable (h : prefs.Normal)

include h

theorem toggleInvasionWatchlist (hcontrol : hasControl (pathTail key) = false) :
    (prefs.toggleInvasionWatchlist key).Normal := by
  unfold WarframePrefs.toggleInvasionWatchlist
  dsimp only
  split
  · exact h
  · next hnonempty =>
    exact { h with
      watchlist := h.watchlist.toggleTail (isTail_pathTail key) (Bool.eq_false_iff.mpr hnonempty) hcontrol }

/-- The keys that are offered are distinct and without control characters. -/
theorem toggleInvasionResourceFilter (hcontrol : hasControl (pathTail key) = false)
    {available : List String} (havailable : ∀ other ∈ available, IsTail other ∧
      other.length ≤ warframeInvasionWatchlistEntryMaxChars ∧ hasControl other = false)
    (hnodup : available.Nodup) : (prefs.toggleInvasionResourceFilter key available).Normal := by
  have htails : available.map pathTail = available := by
    conv_rhs => rw [← map_id available]
    exact map_congr_left fun other hother => (havailable other hother).1.pathTail_eq
  unfold WarframePrefs.toggleInvasionResourceFilter
  dsimp only
  split
  · exact h
  next hnonempty =>
  split
  · refine { h with resourceFilter := ⟨fun other hother => ?_, ?_, length_take_le _ _⟩ }
    · have hmem := mem_of_mem_filter (mem_of_mem_take hother)
      rw [htails, mem_filter] at hmem
      obtain ⟨htail, hlength, hcontrol⟩ := havailable other hmem.1
      exact ⟨htail.1, (Bool.not_eq_true' _).mp hmem.2, hlength, hcontrol⟩
    · rw [htails]
      exact ((hnodup.filter _).filter _).sublist (take_sublist _ _)
  · have htoggled := h.resourceFilter.toggleTail (isTail_pathTail key)
      (Bool.eq_false_iff.mpr hnonempty) hcontrol
    split
    · exact { h with resourceFilter := htoggled }
    · exact { h with resourceFilter := htoggled.collapseFilter _ }

theorem pruneActivityDone (currentKeys : List String) : (prefs.pruneActivityDone currentKeys).Normal := by
  exact { h with activityDone := h.activityDone.sublist filter_sublist }

theorem toggleActivityDone (hcontrol : hasControl (trim key) = false) :
    (prefs.toggleActivityDone key).Normal := by
  have htoggled := h.activityDone.toggleMark hcontrol
  unfold WarframePrefs.toggleActivityDone
  generalize toggleMark prefs.activityDone key = marks at htoggled ⊢
  exact { h with activityDone := htoggled }

theorem setActivityDone (hcontrol : hasControl (trim key) = false) (done : Bool) :
    (prefs.setActivityDone key done).Normal := by
  unfold WarframePrefs.setActivityDone
  split
  · exact h.toggleActivityDone hcontrol
  · exact h

theorem withQuery {query : String} (hle : query.length ≤ warframeMarketQueryMaxChars)
    (hcontrol : hasControl query = false) : Normal { prefs with lastMarketQuery := query } :=
  { h with query_le := hle, query_no_control := hcontrol }

theorem setStatusRowVisible (visible : Bool) (row : StatusRow) :
    (prefs.setStatusRowVisible visible row).Normal := by
  cases row <;> exact { h with }

end

end WarframePrefs.Normal

end OverCrow.Config
