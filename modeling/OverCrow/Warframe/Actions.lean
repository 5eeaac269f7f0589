import OverCrow.Warframe.Commit
import OverCrow.Warframe.Worldstate

/-!
# Actions of the Warframe widgets

`WarframeActionBatch` and `apply_action_batch`, `crates/overcrow-overlay/src/warframe/controller.rs:32-519`.
The keys of the actions come from a parsed snapshot and the query from the user. Neither the parser
nor the query's bound removes control characters, so validation accepts every batch just if the rewards
and the query have none.
-/

namespace OverCrow.Warframe
open OverCrow.Base OverCrow.Config List

/-- `crates/overcrow-overlay/src/widgets/warframe_status.rs:26`. -/
inductive StatusPrefsAction where
  | toggleHorizontal
  | toggleSeconds
  | toggleRow (row : StatusRow)
  deriving DecidableEq

/-- `crates/overcrow-overlay/src/widgets/warframe_fissures.rs:18`. -/
inductive FissurePrefsAction where
  | toggleEra (era : FissureEra)
  | toggleSource (source : FissureSource)
  | toggleShowNode
  | toggleSeconds
  deriving DecidableEq

/-- `crates/overcrow-overlay/src/widgets/warframe_sortie.rs:19`. -/
inductive SortiePrefsAction where
  | toggleSeconds
  | toggleDone (key : String)
  | setBlockDone (keys : List String) (done : Bool)
  deriving DecidableEq

/-- `crates/overcrow-overlay/src/widgets/warframe_invasions.rs:19`. -/
inductive InvasionPrefsAction where
  | toggleHideCompleted
  | togglePushDoneDown
  | toggleCompact
  | toggleWatchlist (key : String)
  | clearWatchlist
  | toggleDone (key : String)
  | toggleResourceFilter (key : String)
  | clearResourceFilter
  deriving DecidableEq

/-- `warframe_status.rs:368`. -/
def applyStatusPrefsAction (prefs : WarframePrefs) : StatusPrefsAction → WarframePrefs
  | .toggleHorizontal => { prefs with statusHorizontal := !prefs.statusHorizontal }
  | .toggleSeconds => { prefs with showStatusSeconds := !prefs.showStatusSeconds }
  | .toggleRow row => prefs.setStatusRowVisible (!prefs.statusRowVisible row) row

/-- An era is added or removed, `warframe_fissures.rs:303-315`. -/
def toggleEra (eras : List FissureEra) (era : FissureEra) : List FissureEra :=
  let eras :=
    if eras.isEmpty then FissureEra.all.filter (· ≠ era)
    else
      match eras.findIdx? fun item => item = era with
      | some index => eras.eraseIdx index
      | none => eras ++ [era]
  if eras.length = FissureEra.all.length then [] else eras

/-- `warframe_fissures.rs:285`. -/
def applyFissurePrefsAction (prefs : WarframePrefs) : FissurePrefsAction → WarframePrefs
  | .toggleSource source =>
    let next := !prefs.sourceEnabled source
    let othersOn := (FissureSource.all.filter (· ≠ source)).any prefs.sourceEnabled
    if !next && !othersOn then prefs
    else
      match source with
      | .normal => { prefs with showNormal := next }
      | .steelPath => { prefs with showSteelPath := next }
      | .railjack => { prefs with showRailjack := next }
  | .toggleEra era => { prefs with fissureEras := toggleEra prefs.fissureEras era }
  | .toggleShowNode => { prefs with showFissureNode := !prefs.showFissureNode }
  | .toggleSeconds => { prefs with showFissureSeconds := !prefs.showFissureSeconds }

/-- `warframe_sortie.rs:390`. -/
def applySortiePrefsAction (prefs : WarframePrefs) : SortiePrefsAction → WarframePrefs
  | .toggleSeconds => { prefs with showActivitySeconds := !prefs.showActivitySeconds }
  | .toggleDone key => prefs.toggleActivityDone key
  | .setBlockDone keys done => keys.foldl (fun prefs key => prefs.setActivityDone key done) prefs

/-- `warframe_invasions.rs:719`. -/
def applyInvasionPrefsAction (available : List String) (prefs : WarframePrefs) :
    InvasionPrefsAction → WarframePrefs
  | .toggleHideCompleted => { prefs with invasionHideCompleted := !prefs.invasionHideCompleted }
  | .togglePushDoneDown => { prefs with invasionPushDoneDown := !prefs.invasionPushDoneDown }
  | .toggleCompact => { prefs with invasionCompact := !prefs.invasionCompact }
  | .toggleWatchlist key => prefs.toggleInvasionWatchlist key
  | .clearWatchlist => { prefs with invasionRewardWatchlist := [] }
  | .toggleDone key => prefs.toggleActivityDone key
  | .toggleResourceFilter key => prefs.toggleInvasionResourceFilter key available
  | .clearResourceFilter => { prefs with invasionResourceFilter := [] }

/-- `controller.rs:33`. -/
structure WarframeActionBatch where
  status : List StatusPrefsAction := []
  fissures : List FissurePrefsAction := []
  sortie : List SortiePrefsAction := []
  invasions : List InvasionPrefsAction := []
  marketQuery : Option String := none
  deriving DecidableEq

/-- `controller.rs:438`. -/
def boundedMarketQuery (query : String) : String :=
  String.ofList ((trim query).toList.take warframeMarketQueryMaxChars)

namespace WarframeActionBatch

variable (batch : WarframeActionBatch) (worldstate : WorldstateSnapshot)

/-- `controller.rs:42`. -/
def isEmpty : Bool :=
  batch.status.isEmpty && batch.fissures.isEmpty && batch.sortie.isEmpty && batch.invasions.isEmpty &&
    batch.marketQuery.isNone

/-- `controller.rs:457`. -/
def invasionResourceKeys : List String :=
  if batch.invasions.any fun action => action matches .toggleResourceFilter _ then
    (invasionRewardCatalog worldstate.invasions).map Prod.fst
  else []

/-- `controller.rs:450`. -/
def pruneActivityDoneForSnapshot (prefs : WarframePrefs) : WarframePrefs :=
  prefs.pruneActivityDone (currentActivityDoneKeys worldstate)

/-- An action on sorties, `controller.rs:499-507`. -/
def sortieStep (prefs : WarframePrefs) (action : SortiePrefsAction) : WarframePrefs :=
  match action with
  | .toggleSeconds => applySortiePrefsAction prefs action
  | .toggleDone _ | .setBlockDone _ _ =>
    applySortiePrefsAction (pruneActivityDoneForSnapshot worldstate prefs) action

/-- An action on invasions, `controller.rs:508-513`. -/
def invasionStep (resourceKeys : List String) (prefs : WarframePrefs) (action : InvasionPrefsAction) :
    WarframePrefs :=
  match action with
  | .toggleDone _ =>
    applyInvasionPrefsAction resourceKeys (pruneActivityDoneForSnapshot worldstate prefs) action
  | _ => applyInvasionPrefsAction resourceKeys prefs action

/-- The candidate of `apply_action_batch`, `controller.rs:492-517`. -/
def candidate (prefs : WarframePrefs) : WarframePrefs :=
  let prefs := batch.status.foldl applyStatusPrefsAction prefs
  let prefs := batch.fissures.foldl applyFissurePrefsAction prefs
  let prefs := batch.sortie.foldl (sortieStep worldstate) prefs
  let prefs := batch.invasions.foldl (invasionStep worldstate (batch.invasionResourceKeys worldstate)) prefs
  match batch.marketQuery with
  | some query => { prefs with lastMarketQuery := boundedMarketQuery query }
  | none => prefs

/-- `controller.rs:476`. -/
def applyActionBatch (save : WarframePrefs → Task Disk IoError PUnit) (s : PrefsState) :
    Option WarframePrefsCommitOutcome × PrefsState :=
  s.commitWarframePrefsIfDirty save (!batch.isEmpty) (batch.candidate worldstate)

end WarframeActionBatch

/-! ### Keys from a snapshot -/

/-- The action names activities of the snapshot. -/
def SortiePrefsAction.From (worldstate : WorldstateSnapshot) : SortiePrefsAction → Prop
  | .toggleSeconds => True
  | .toggleDone key => key ∈ currentActivityDoneKeys worldstate
  | .setBlockDone keys _ => ∀ key ∈ keys, key ∈ currentActivityDoneKeys worldstate

/-- The action names activities or rewards of the snapshot. -/
def InvasionPrefsAction.From (worldstate : WorldstateSnapshot) : InvasionPrefsAction → Prop
  | .toggleDone key => key ∈ currentActivityDoneKeys worldstate
  | .toggleWatchlist key => key ∈ rewardKeys worldstate.invasions
  | .toggleResourceFilter key => key ∈ (invasionRewardCatalog worldstate.invasions).map Prod.fst
  | _ => True

structure WarframeActionBatch.From (batch : WarframeActionBatch) (worldstate : WorldstateSnapshot) :
    Prop where
  sortie : ∀ action ∈ batch.sortie, action.From worldstate
  invasions : ∀ action ∈ batch.invasions, action.From worldstate

/-! ### Normal preferences stay normal -/

section Normal

variable {prefs : WarframePrefs}

theorem normal_applyStatusPrefsAction (h : prefs.Normal) (action : StatusPrefsAction) :
    (applyStatusPrefsAction prefs action).Normal := by
  cases action with
  | toggleRow row => exact h.setStatusRowVisible _ row
  | _ => exact { h with }

theorem nodup_toggleEra {eras : List FissureEra} (h : eras.Nodup) (era : FissureEra) :
    (toggleEra eras era).Nodup := by
  have hall {eras : List FissureEra} (h : eras.Nodup) :
      (if eras.length = FissureEra.all.length then [] else eras).Nodup := by
    split
    · exact nodup_nil
    · exact h
  refine hall ?_
  split
  · have hdistinct : FissureEra.all.Nodup := by decide
    exact hdistinct.filter _
  · split
    · exact h.sublist (eraseIdx_sublist _ _)
    · next hnone =>
      rw [← concat_eq_append]
      refine h.concat fun hmem => ?_
      exact of_decide_eq_false (findIdx?_eq_none_iff.mp hnone era hmem) rfl

/-- A source is switched off only if another one is on. -/
theorem normal_applyFissurePrefsAction (h : prefs.Normal) (action : FissurePrefsAction) :
    (applyFissurePrefsAction prefs action).Normal := by
  cases action with
  | toggleSource source =>
    have hkept (first second third : Bool) (h : ¬(!!first && !(second || (third || false))) = true) :
        (!!first && !second && !third) = false := by
      revert first second third
      decide
    unfold applyFissurePrefsAction
    dsimp only
    split
    · exact h
    · next hothers =>
      cases source with
      | normal => exact { h with source := hkept _ _ _ hothers }
      | steelPath =>
        refine { h with source := ?_ }
        have hsource := hkept _ _ _ hothers
        rw [Bool.and_assoc] at hsource ⊢
        rwa [Bool.and_left_comm] at hsource
      | railjack =>
        refine { h with source := ?_ }
        have hsource := hkept _ _ _ hothers
        rwa [Bool.and_assoc, Bool.and_comm] at hsource
  | toggleEra era => exact { h with eras := nodup_toggleEra h.eras era }
  | _ => exact { h with }

variable {labels : Labels} {document : Json} {fetchedAtSecs : Nat} {w : WorldstateSnapshot}

theorem normal_sortieStep (hw : parseWorldstate labels document fetchedAtSecs = some w) (h : prefs.Normal)
    {action : SortiePrefsAction} (hfrom : action.From w) :
    (WarframeActionBatch.sortieStep w prefs action).Normal := by
  have hpruned := h.pruneActivityDone (currentActivityDoneKeys w)
  have hkey {key : String} (hmem : key ∈ currentActivityDoneKeys w) : hasControl (trim key) = false :=
    hasControl_trim (hasControl_of_mem_currentActivityDoneKeys hw hmem)
  cases action with
  | toggleSeconds => exact { h with }
  | toggleDone key => exact hpruned.toggleActivityDone (hkey hfrom)
  | setBlockDone keys done =>
    have hall (keys : List String) (hkeys : ∀ key ∈ keys, key ∈ currentActivityDoneKeys w)
        (prefs : WarframePrefs) (h : prefs.Normal) :
        (keys.foldl (fun prefs key => prefs.setActivityDone key done) prefs).Normal := by
      induction keys generalizing prefs with
      | nil => exact h
      | cons key keys ih =>
        rw [forall_mem_cons] at hkeys
        exact ih hkeys.2 _ (h.setActivityDone (hkey hkeys.1) done)
    exact hall keys hfrom _ hpruned

theorem normal_invasionStep (hw : parseWorldstate labels document fetchedAtSecs = some w)
    (hcontrol : ∀ key ∈ rewardKeys w.invasions, hasControl key = false) (h : prefs.Normal)
    {action : InvasionPrefsAction} (hfrom : action.From w) {available : List String}
    (havailable : available.Sublist ((invasionRewardCatalog w.invasions).map Prod.fst)) :
    (WarframeActionBatch.invasionStep w available prefs action).Normal := by
  have hreward {key : String} (hmem : key ∈ rewardKeys w.invasions) : IsTail key ∧
      key.length ≤ warframeInvasionWatchlistEntryMaxChars ∧ hasControl key = false := by
    obtain ⟨htail, hlength⟩ := rewardKeys_spec hw hmem
    exact ⟨htail, hlength.trans (by decide), hcontrol key hmem⟩
  have htail {key : String} (hmem : key ∈ rewardKeys w.invasions) :
      hasControl (pathTail key) = false := by
    rw [(hreward hmem).1.pathTail_eq]
    exact hcontrol key hmem
  cases action with
  | toggleWatchlist key =>
    change (prefs.toggleInvasionWatchlist key).Normal
    exact h.toggleInvasionWatchlist (htail hfrom)
  | clearWatchlist =>
    exact { h with watchlist := normalList_nil }
  | toggleDone key =>
    exact (h.pruneActivityDone _).toggleActivityDone
      (hasControl_trim (hasControl_of_mem_currentActivityDoneKeys hw hfrom))
  | toggleResourceFilter key =>
    change (prefs.toggleInvasionResourceFilter key available).Normal
    refine h.toggleInvasionResourceFilter (htail (mem_invasionRewardCatalog.mp hfrom))
      (fun other hother => hreward (mem_invasionRewardCatalog.mp (havailable.mem hother))) ?_
    exact (nodup_invasionRewardCatalog w.invasions).sublist havailable
  | clearResourceFilter =>
    exact { h with resourceFilter := normalList_nil }
  | toggleHideCompleted | togglePushDoneDown | toggleCompact => exact { h with }

theorem length_boundedMarketQuery_le (query : String) :
    (boundedMarketQuery query).length ≤ warframeMarketQueryMaxChars := by
  rw [boundedMarketQuery, String.length_ofList]
  exact length_take_le _ _

/-- A step that keeps preferences normal keeps them so over a list of actions. -/
theorem normal_foldl {α : Type*} {step : WarframePrefs → α → WarframePrefs} (actions : List α)
    (hstep : ∀ prefs : WarframePrefs, prefs.Normal → ∀ action ∈ actions, (step prefs action).Normal)
    (h : prefs.Normal) : (actions.foldl step prefs).Normal := by
  induction actions generalizing prefs with
  | nil => exact h
  | cons action actions ih =>
    refine ih (fun prefs hprefs other hother => ?_) (hstep prefs h action mem_cons_self)
    exact hstep prefs hprefs other (mem_cons_of_mem _ hother)

theorem normal_candidate (hw : parseWorldstate labels document fetchedAtSecs = some w)
    (hcontrol : ∀ key ∈ rewardKeys w.invasions, hasControl key = false) {batch : WarframeActionBatch}
    (hfrom : batch.From w)
    (hquery : ∀ query, batch.marketQuery = some query → hasControl (boundedMarketQuery query) = false)
    (h : prefs.Normal) : (batch.candidate w prefs).Normal := by
  have havailable : (batch.invasionResourceKeys w).Sublist
      ((invasionRewardCatalog w.invasions).map Prod.fst) := by
    unfold WarframeActionBatch.invasionResourceKeys
    split
    · exact List.Sublist.refl _
    · exact nil_sublist _
  unfold WarframeActionBatch.candidate
  have hstatus := normal_foldl batch.status
    (fun _ hprefs action _ => normal_applyStatusPrefsAction hprefs action) h
  have hfissures := normal_foldl batch.fissures
    (fun _ hprefs action _ => normal_applyFissurePrefsAction hprefs action) hstatus
  have hsortie := normal_foldl batch.sortie
    (fun _ hprefs action hmem => normal_sortieStep hw hprefs (hfrom.sortie action hmem)) hfissures
  have hinvasions := normal_foldl batch.invasions (fun _ hprefs action hmem =>
    normal_invasionStep hw hcontrol hprefs (hfrom.invasions action hmem) havailable) hsortie
  split
  · next query hsome =>
    exact hinvasions.withQuery (length_boundedMarketQuery_le query) (hquery query hsome)
  · exact hinvasions

/-- The watchlist after one toggle of the default preferences. -/
theorem watchlist_candidate {key : String} (htail : IsTail key) (hnonempty : key.isEmpty = false)
    (hlength : key.length ≤ warframeInvasionWatchlistEntryMaxChars) (query : Option String) :
    (WarframeActionBatch.candidate { invasions := [.toggleWatchlist key], marketQuery := query } w
      {}).invasionRewardWatchlist = [key] := by
  have htoggled : (({} : WarframePrefs).toggleInvasionWatchlist key).invasionRewardWatchlist =
      [key] := by
    rw [WarframePrefs.toggleInvasionWatchlist, htail.pathTail_eq, hnonempty,
      if_neg Bool.false_ne_true, toggleTail]
    dsimp only [findIdx?_nil]
    rw [decide_eq_true hlength]
    rfl
  unfold WarframeActionBatch.candidate
  simp only [foldl_nil, foldl_cons, WarframeActionBatch.invasionStep,
    applyInvasionPrefsAction]
  generalize ({} : WarframePrefs).toggleInvasionWatchlist key = toggled at htoggled ⊢
  split <;> exact htoggled

end Normal

/-- Tables without entries. -/
def plainLabels : Labels where
  bosses _ := none
  modifiers _ := none
  items _ := none
  factions _ := none
  uppercase c := [asciiUpper c]

/-- An invasion with a control character in the type of its reward. -/
def controlDocument : Json :=
  .object [("Invasions", .array [.object [
    ("_id", .object [("$oid", .string "x")]), ("Node", .string "n"),
    ("AttackerReward", .object [("countedItems", .array [.object [("ItemType", .string "a\x01b")]])])]])]

def controlSnapshot : WorldstateSnapshot where
  invasions := [{
    instanceId := "x", node := "n", attackerFaction := "—", defenderFaction := "—"
    attackerReward := some { itemKey := "a\x01b", label := "Ab", count := 1 }, defenderReward := none
    count := 0, goal := 0, completed := false }]

end OverCrow.Warframe
