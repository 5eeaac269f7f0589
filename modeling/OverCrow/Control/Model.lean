import OverCrow.Config.Saving

/-!
# The model of the Control Center

`crates/overcrow-control/src/model.rs`. The canonical path of an executable and the digest in a
game's identifier are given; everything that the settings go through is here. `Retained` is what
revalidation leaves of a list of manual games, and what it leaves alone.
-/

namespace OverCrow.Control
open OverCrow.Base OverCrow.Config List

/-- `crates/overcrow-control/src/steam.rs:38`: discovery leaves out the identifier
zero. -/
structure SteamGame where
  appId : UInt32
  appId_ne_zero : appId ≠ 0

/-- `model.rs:305`. Paths are texts here, so that none
is refused for its encoding. -/
inductive SelectionError where
  | emptyName
  | executableNotAbsolute
  | executableValidationFailed (kind : String)
  | executableNotRegularFile
  | executableNotExecutable
  | wineIdentityUnavailable
  | duplicateManualExecutable
  | manualGameIdCollision
  deriving DecidableEq

/-- `Display` of `SelectionError`, `model.rs:317`. -/
def SelectionError.message : SelectionError → String
  | emptyName => "manual game name must not be empty"
  | executableNotAbsolute => "manual game executable must be absolute"
  | executableValidationFailed kind => s!"could not validate manual game executable: {kind}"
  | executableNotRegularFile => "manual game executable must be a regular file"
  | executableNotExecutable => "manual game executable must have at least one Unix execute bit"
  | wineIdentityUnavailable => "Windows executables cannot be selected directly. Add the game " ++
      "to Steam, force a Proton compatibility tool, launch it once, then refresh this list."
  | duplicateManualExecutable => "manual game executable is already selected"
  | manualGameIdCollision => "manual game stable ID is already used by another executable"

/-- `Path::file_name`. -/
def fileName (path : PathBuf) : Option (List Char) :=
  match path.components.getLast? with
  | some part => if part = ['/'] ∨ part = ['.'] ∨ part = ['.', '.'] then none else some part
  | none => none

/-- `Path::extension`. -/
def fileExtension (path : PathBuf) : Option (List Char) :=
  (fileName path).bind fun file =>
    let stem := (file.rdropWhile (· ≠ '.')).dropLast
    if '.' ∈ file ∧ stem ≠ [] then some (file.rtakeWhile (· ≠ '.')) else none

/-- `model.rs:353`. -/
def hasExeExtension (path : PathBuf) : Bool :=
  (fileExtension path).any fun ext => ext.map asciiLower = "exe".toList

/-- The path validator, and `stable_manual_game_id`. -/
structure Identity where
  canonicalExecutable : PathBuf → Except SelectionError PathBuf
  stableManualGameId : PathBuf → String

/-- What the validator returns, it returns for itself. -/
def Identity.Canonical (identity : Identity) : Prop :=
  ∀ path canonical, identity.canonicalExecutable path = .ok canonical →
    identity.canonicalExecutable canonical = .ok canonical

/-- `model.rs:199`. -/
def validatedManualGame (identity : Identity) (name : String) (executable : PathBuf) :
    Except SelectionError ManualGame :=
  let name := trim name
  if name.isEmpty then .error .emptyName
  else if !executable.isAbsolute then .error .executableNotAbsolute
  else
    match identity.canonicalExecutable executable with
    | .error error => .error error
    | .ok canonical =>
      if !canonical.isAbsolute then .error .executableNotAbsolute
      else if hasExeExtension canonical then .error .wineIdentityUnavailable
      else .ok { id := identity.stableManualGameId canonical, name := name, executable := canonical }

/-- The equality that `ManualGame` derives: executables compare as paths. -/
def sameGame (a b : ManualGame) : Bool := a.id == b.id && a.name == b.name && a.executable == b.executable

def sameGames (a b : List ManualGame) : Bool := a.isEqv b sameGame

/-- `model.rs:230`. -/
def validateStoredManualGame (identity : Identity) (game : ManualGame) : Except String Unit :=
  match validatedManualGame identity game.name game.executable with
  | .error error => .error error.message
  | .ok validated =>
    if sameGame validated game then .ok ()
    else .error "stored manual game identity changed after validation"

/-- A pass of the loop of `revalidated_loaded_manual_games`,
`model.rs:259-281`: the sets hold the paths and identifiers of what is
retained. -/
def revalidate (identity : Identity) : List ManualGame × Nat → ManualGame → List ManualGame × Nat
  | (retained, dropped), loaded =>
    match validatedManualGame identity loaded.name loaded.executable with
    | .error _ => (retained, dropped + 1)
    | .ok validated =>
      if loaded.executable == validated.executable && loaded.id == validated.id &&
          !retained.any (·.executable == validated.executable) &&
          !retained.any (·.id == validated.id) then
        (retained ++ [validated], dropped)
      else (retained, dropped + 1)

/-- `model.rs:250`. -/
def revalidatedLoadedManualGames (identity : Identity) (games : List ManualGame) :
    List ManualGame × Nat :=
  games.foldl (revalidate identity) ([], 0)

/-- `model.rs:287`. -/
def mergedSettingsWarning (existing : Option String) (dropped : Nat) : Option String :=
  if dropped = 0 then existing
  else
    let plural := if dropped = 1 then "" else "s"
    let text := s!"Dropped {dropped} invalid manual game selection{plural}."
    some (match existing with
      | some existing => s!"{existing} {text}"
      | none => text)

/-- Settings after the revalidation of their manual games. -/
def revalidatedSettings (identity : Identity) (settings : OrderedSettings) : OrderedSettings :=
  let (manualGames, dropped) := revalidatedLoadedManualGames identity settings.manualGames
  { settings with
    manualGames := manualGames
    enabled := if dropped ≠ 0 then false else settings.enabled }

/-- `model.rs:68`. The search text and the warnings of
discovery only serve the view. -/
structure ControlModel where
  settings : OrderedSettings
  games : List SteamGame := []
  settingsWarning : Option String := none

namespace ControlModel

/-- `model.rs:111`; `new` does the same to the
first load, `model.rs:78`. -/
def applySettingsLoad (identity : Identity) (model : ControlModel) (load : Load OrderedSettings) :
    ControlModel :=
  { model with
    settings := revalidatedSettings identity load.value
    settingsWarning := mergedSettingsWarning load.warning
      (revalidatedLoadedManualGames identity load.value.manualGames).2 }

/-- `BTreeSet::insert`. -/
def insertAppId (ids : List UInt32) (appId : UInt32) : List UInt32 :=
  if appId ∈ ids then ids else ids.orderedInsert (· ≤ ·) appId

theorem ordered_insertAppId {ids : List UInt32} (h : ids.Pairwise (· < ·)) (appId : UInt32) :
    (insertAppId ids appId).Pairwise (· < ·) := by
  unfold insertAppId
  split
  · exact h
  · next hnew =>
    have hsorted : (ids.orderedInsert (· ≤ ·) appId).Pairwise (· ≤ ·) :=
      (h.imp fun hlt => UInt32.le_of_lt hlt).orderedInsert appId ids
    have hnodup : (ids.orderedInsert (· ≤ ·) appId).Nodup :=
      (perm_orderedInsert (· ≤ ·) appId ids).nodup_iff.mpr
        (nodup_cons.mpr ⟨hnew, h.imp fun hlt => UInt32.ne_of_lt hlt⟩)
    exact (hsorted.and hnodup).imp fun hab => UInt32.lt_of_le_of_ne hab.1 hab.2

/-- `model.rs:142`. -/
def setSteamSelected (model : ControlModel) (appId : UInt32) (selected : Bool) : ControlModel :=
  if selected then
    if model.games.any (·.appId == appId) then
      { model with settings := { model.settings with
        selectedSteamAppIds := insertAppId model.settings.selectedSteamAppIds appId
        ordered := ordered_insertAppId model.settings.ordered appId } }
    else model
  else
    { model with settings := { model.settings with
      selectedSteamAppIds := model.settings.selectedSteamAppIds.filter (· ≠ appId)
      ordered := model.settings.ordered.filter _ } }

/-- `model.rs:152`. -/
def addManualGame (identity : Identity) (model : ControlModel) (name : String)
    (executable : PathBuf) : Except SelectionError ControlModel :=
  match validatedManualGame identity name executable with
  | .error error => .error error
  | .ok game =>
    if model.settings.manualGames.any (·.executable == game.executable) then
      .error .duplicateManualExecutable
    else if model.settings.manualGames.any (·.id == game.id) then .error .manualGameIdCollision
    else .ok { model with settings := { model.settings with
      manualGames := model.settings.manualGames ++ [game] } }

/-- `model.rs:180`. -/
def removeManualGame (model : ControlModel) (id : String) : ControlModel :=
  { model with settings := { model.settings with
    manualGames := model.settings.manualGames.filter (·.id ≠ id) } }

/-- The settings that `save_selections` passes to the store, or its refusal,
`model.rs:187-195`. -/
def selectionsToSave (identity : Identity) (settings : OrderedSettings) :
    Except String OrderedSettings :=
  let (validated, dropped) := revalidatedLoadedManualGames identity settings.manualGames
  if dropped ≠ 0 || !sameGames validated settings.manualGames then
    .error "manual game selections changed or failed revalidation"
  else .ok { settings with manualGames := validated }

/-- `model.rs:186`. -/
def saveSelections (identity : Identity) (path : PathBuf) (faults : SaveFaults)
    (settings : OrderedSettings) : Task Disk IoError PUnit := do
  let settings ← liftResult (selectionsToSave identity settings)
  SettingsStore.save path faults settings

end ControlModel

/-! ### What revalidation retains -/

/-- Manual games that revalidation leaves alone. -/
structure Retained (identity : Identity) (games : List ManualGame) : Prop where
  valid : ∀ game ∈ games, validatedManualGame identity game.name game.executable = .ok game
  ids : games.Pairwise fun a b => a.id ≠ b.id
  executables : games.Pairwise fun a b => (a.executable == b.executable) = false

section Retained

variable {identity : Identity} {games retained : List ManualGame} {game loaded : ManualGame}
  {name : String} {executable : PathBuf}

theorem retained_nil : Retained identity [] :=
  ⟨by simp, List.Pairwise.nil, List.Pairwise.nil⟩

theorem validatedManualGame_eq_ok (h : validatedManualGame identity name executable = .ok game) :
    (trim name).isEmpty = false ∧ executable.isAbsolute = true ∧
      identity.canonicalExecutable executable = .ok game.executable ∧
      game.executable.isAbsolute = true ∧ hasExeExtension game.executable = false ∧
      game.id = identity.stableManualGameId game.executable ∧ game.name = trim name := by
  unfold validatedManualGame at h
  dsimp only at h
  split at h
  · cases h
  next hname =>
  split at h
  · cases h
  next habsolute =>
  split at h
  · cases h
  next canonical hcanonical =>
  split at h
  · cases h
  next hcanonicalAbsolute =>
  split at h
  · cases h
  next hexe =>
    obtain rfl := Except.ok.inj h
    rw [Bool.not_eq_true, Bool.not_eq_false'] at habsolute hcanonicalAbsolute
    exact ⟨(Bool.not_eq_true _).mp hname, habsolute, hcanonical, hcanonicalAbsolute,
      (Bool.not_eq_true _).mp hexe, rfl, rfl⟩

/-- A validated game validates as itself. -/
theorem validatedManualGame_self (hidentity : identity.Canonical)
    (h : validatedManualGame identity name executable = .ok game) :
    validatedManualGame identity game.name game.executable = .ok game := by
  obtain ⟨hname, -, hcanonical, habsolute, hexe, hid, hsame⟩ := validatedManualGame_eq_ok h
  unfold validatedManualGame
  dsimp only
  rw [hsame, trim_idem, hname, habsolute, hidentity _ _ hcanonical, if_neg Bool.false_ne_true,
    if_neg (by decide)]
  dsimp only
  rw [habsolute, hexe, if_neg (by decide), if_neg Bool.false_ne_true, ← hid, ← hsame]

theorem Retained.append (h : Retained identity games)
    (hgame : validatedManualGame identity game.name game.executable = .ok game)
    (hids : games.any (·.id == game.id) = false)
    (hexecutables : games.any (·.executable == game.executable) = false) :
    Retained identity (games ++ [game]) := by
  rw [any_eq_false] at hids hexecutables
  refine ⟨?_, pairwise_append.mpr ⟨h.ids, pairwise_singleton _ _, ?_⟩,
    pairwise_append.mpr ⟨h.executables, pairwise_singleton _ _, ?_⟩⟩
  · rw [forall_mem_append, forall_mem_singleton]
    exact ⟨h.valid, hgame⟩
  · intro a ha b hb
    rw [mem_singleton.mp hb]
    simpa using hids a ha
  · intro a ha b hb
    rw [mem_singleton.mp hb]
    simpa using hexecutables a ha

theorem Retained.filter (h : Retained identity games) (p : ManualGame → Bool) :
    Retained identity (games.filter p) :=
  ⟨fun game hgame => h.valid game (mem_of_mem_filter hgame), h.ids.filter p,
    h.executables.filter p⟩

/-- What one pass retains. -/
theorem Retained.revalidate (hidentity : identity.Canonical) {state : List ManualGame × Nat}
    (h : Retained identity state.1) : Retained identity (revalidate identity state loaded).1 := by
  obtain ⟨retained, dropped⟩ := state
  rw [Control.revalidate]
  split
  · exact h
  · next validated hvalidated =>
    split
    · next hsame =>
      simp only [Bool.and_eq_true, Bool.not_eq_true'] at hsame
      exact h.append (validatedManualGame_self hidentity hvalidated) hsame.2 hsame.1.2
    · exact h

/-- Revalidation retains games that it would retain again. -/
theorem retained_revalidated (hidentity : identity.Canonical) (games : List ManualGame) :
    Retained identity (revalidatedLoadedManualGames identity games).1 := by
  have hfold : ∀ (state : List ManualGame × Nat), Retained identity state.1 →
      Retained identity (games.foldl (revalidate identity) state).1 := by
    induction games with
    | nil => exact fun state h => h
    | cons game games ih =>
      intro state h
      rw [foldl_cons]
      exact ih (revalidate identity state game) (h.revalidate hidentity)
  exact hfold _ retained_nil

theorem Retained.foldl_revalidate {dropped : Nat} (h : Retained identity (retained ++ games)) :
    games.foldl (Control.revalidate identity) (retained, dropped) = (retained ++ games, dropped) := by
  induction games generalizing retained with
  | nil => rw [append_nil]; rfl
  | cons game games ih =>
    have hmem : game ∈ retained ++ game :: games := mem_append_right _ mem_cons_self
    have hids : retained.any (·.id == game.id) = false := by
      rw [any_eq_false]
      intro other hother
      simpa using (pairwise_append.mp h.ids).2.2 other hother game mem_cons_self
    have hexecutables : retained.any (·.executable == game.executable) = false := by
      rw [any_eq_false]
      intro other hother
      simpa using (pairwise_append.mp h.executables).2.2 other hother game mem_cons_self
    have hstep : Control.revalidate identity (retained, dropped) game =
        (retained ++ [game], dropped) := by
      rw [Control.revalidate, h.valid game hmem]
      dsimp only
      rw [hids, hexecutables, PathBuf.beq_self, beq_self_eq_true]
      rfl
    rw [append_cons] at h ⊢
    rw [foldl_cons, hstep]
    exact ih h

/-- Games that were retained are retained again, and none is dropped. -/
theorem Retained.revalidated (h : Retained identity games) :
    revalidatedLoadedManualGames identity games = (games, 0) :=
  Retained.foldl_revalidate h

/-- Revalidation is idempotent. -/
theorem revalidated_revalidated (hidentity : identity.Canonical) (games : List ManualGame) :
    revalidatedLoadedManualGames identity (revalidatedLoadedManualGames identity games).1 =
      ((revalidatedLoadedManualGames identity games).1, 0) :=
  (retained_revalidated hidentity games).revalidated

theorem sameGames_self (games : List ManualGame) : sameGames games games = true := by
  induction games with
  | nil => rfl
  | cons game games ih =>
    change (sameGame game game && sameGames games games) = true
    rw [ih, sameGame, PathBuf.beq_self]
    simp

/-- Settings whose games were retained are passed to the store as they are. -/
theorem Retained.selectionsToSave {settings : OrderedSettings}
    (h : Retained identity settings.manualGames) :
    ControlModel.selectionsToSave identity settings = .ok settings := by
  unfold ControlModel.selectionsToSave
  rw [h.revalidated]
  dsimp only
  rw [sameGames_self]
  rfl

theorem Retained.revalidatedSettings {settings : OrderedSettings}
    (h : Retained identity settings.manualGames) :
    Control.revalidatedSettings identity settings = settings := by
  unfold Control.revalidatedSettings
  rw [h.revalidated]
  rfl

end Retained

end OverCrow.Control
