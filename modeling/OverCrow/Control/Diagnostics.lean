import OverCrow.Control.Lifecycle

/-!
# Foundation diagnostics

`sync_model` and `collect_normalized_foundation_diagnostics` of
`crates/overcrow-control/src/diagnostics.rs`. What they take from the environment is given as the items
about it.
-/

namespace OverCrow.Control
open OverCrow.Base

/-- `diagnostics.rs:53`. -/
inductive Level where
  | ok
  | info
  | warning
  | error
  deriving DecidableEq

/-- `diagnostics.rs:61`. -/
structure DiagnosticItem where
  label : String
  detail : String
  level : Level
  deriving DecidableEq

/-- `diagnostics.rs:68`. -/
structure DiagnosticReport where
  lifecycleState : String
  items : List DiagnosticItem
  deriving DecidableEq

/-- The items of `desktop_session_item`, `settings_path_item` and `portal_picker_item`, and whether the
environment or a path was truncated for them. -/
structure Environment where
  items : List DiagnosticItem := []
  wasTruncated : Bool := false

/-- `diagnostics.rs:88`. -/
structure DiagnosticInput where
  environment : Environment := {}
  settingsWarning : Option String := none
  discoveryWarnings : List String := []
  discoveredSteamGames : Nat := 0
  selectedSteamGames : Nat := 0
  selectedManualGames : Nat := 0
  lifecycleStatus : LifecycleStatus := .disabled
  modelWasTruncated : Bool := false

/-- The model with the warnings of discovery. -/
structure DiagnosedModel extends ControlModel where
  discoveryWarnings : List String := []

def maxDiagnosticLabelBytes : Nat := 64
def maxDiagnosticDetailBytes : Nat := 512
def maxDiagnosticCount : Nat := 999999999
def maxDiscoveryWarnings : Nat := 16
def maxWarningBytes : Nat := 255
def maxSourceWarningAggregateBytes : Nat := 1024
def maxRenderedWarningAggregateBytes : Nat := 1536

/-- `diagnostics.rs:639`. -/
def boundedText (text : String) (limit : Nat) : String × Bool :=
  if text.utf8ByteSize ≤ limit then (text, false) else (.ofList (utf8Prefix text.toList limit), true)

/-- `diagnostics.rs:590`. The bytes that are left and whether something was truncated are passed on. -/
def boundedWarning (warning : String) (remaining : Nat) (truncated : Bool) : Option String × Nat × Bool :=
  if remaining = 0 then (none, 0, true)
  else
    let (warning, warningTruncated) := boundedText warning (min maxWarningBytes remaining)
    (some warning, remaining - warning.utf8ByteSize, truncated || warningTruncated)

/-- `diagnostics.rs:560`. -/
def boundedWarningSources (settingsWarning : Option String) (discoveryWarnings : List String) :
    Option String × List String × Bool :=
  let (settingsWarning, state) := match settingsWarning with
    | none => (none, maxSourceWarningAggregateBytes, false)
    | some warning => boundedWarning warning maxSourceWarningAggregateBytes false
  let (bounded, _, truncated) := (discoveryWarnings.take maxDiscoveryWarnings).foldl
    (fun (bounded, state) warning =>
      let (warning, state) := boundedWarning warning state.1 state.2
      (bounded ++ warning.toList, state)) ([], state)
  (settingsWarning, bounded, truncated || maxDiscoveryWarnings < discoveryWarnings.length)

namespace DiagnosedModel

variable (model : DiagnosedModel)

def bounded : Option String × List String × Bool :=
  boundedWarningSources model.settingsWarning model.discoveryWarnings

/-- What `sync_model` takes for truncated, `diagnostics.rs:158-161`. -/
def wasTruncated : Bool :=
  model.bounded.2.2 || (maxDiagnosticCount < model.games.length ||
    maxDiagnosticCount < model.settings.selectedSteamAppIds.length ||
    maxDiagnosticCount < model.settings.manualGames.length)

end DiagnosedModel

namespace DiagnosticInput

/-- `diagnostics.rs:151`. -/
def syncModel (input : DiagnosticInput) (model : DiagnosedModel) : DiagnosticInput :=
  { input with
    settingsWarning := model.bounded.1
    discoveryWarnings := model.bounded.2.1
    modelWasTruncated := input.modelWasTruncated || model.wasTruncated
    discoveredSteamGames := min model.games.length maxDiagnosticCount
    selectedSteamGames := min model.settings.selectedSteamAppIds.length maxDiagnosticCount
    selectedManualGames := min model.settings.manualGames.length maxDiagnosticCount
    lifecycleStatus := if model.settings.enabled then .enabled else .disabled }

end DiagnosticInput

def truncationItem : DiagnosticItem :=
  ⟨"Diagnostic bounds",
    "Some diagnostic input was truncated to bounded limits; discarded content is not shown.", .warning⟩

/-- `diagnostics.rs:606`. -/
def finalizeItems (items : List DiagnosticItem) (wasTruncated : Bool) : List DiagnosticItem :=
  let (items, _, wasTruncated) := items.foldl (fun (done, warningBytes, wasTruncated) item =>
    let (label, labelTruncated) := boundedText item.label maxDiagnosticLabelBytes
    let (detail, detailTruncated) := boundedText item.detail
      (if item.level = .warning then min maxDiagnosticDetailBytes warningBytes else maxDiagnosticDetailBytes)
    (done ++ [⟨label, detail, item.level⟩],
      if item.level = .warning then warningBytes - detail.utf8ByteSize else warningBytes,
      wasTruncated || labelTruncated || detailTruncated))
    ([], maxRenderedWarningAggregateBytes - truncationItem.detail.utf8ByteSize, wasTruncated)
  if wasTruncated then items ++ [truncationItem] else items

/-- `lifecycle.rs:251`. -/
def LifecycleStatus.label : LifecycleStatus → String
  | .disabled => "Disabled"
  | .enabled => "Enabled"
  | .warning => "Cleanup required (settings warning)"

/-- `diagnostics.rs:255`. -/
def collectNormalizedFoundationDiagnostics (input : DiagnosticInput) : DiagnosticReport where
  lifecycleState := input.lifecycleStatus.label
  items := finalizeItems (input.environment.items ++
    [match input.settingsWarning with
      | some warning => ⟨"Lifecycle settings", warning, .warning⟩
      | none => ⟨"Lifecycle settings", "Loaded without a settings warning.", .ok⟩,
    if input.discoveredSteamGames = 0 then
      ⟨"Steam discovery", "No Steam games are present in the current discovery snapshot.", .info⟩
    else ⟨"Steam discovery",
      toString input.discoveredSteamGames ++ " Steam games are present in the current snapshot.", .ok⟩] ++
    input.discoveryWarnings.map (⟨"Steam discovery warning", ·, .warning⟩) ++
    [⟨"Game selections", toString input.selectedSteamGames ++ " Steam and " ++
      toString input.selectedManualGames ++ " manual selection(s).", .info⟩])
    (input.environment.wasTruncated || input.modelWasTruncated)

/-- Every model that was ever synced leaves its truncation behind. -/
theorem syncModel_foldl (input : DiagnosticInput) (models : List DiagnosedModel) (model : DiagnosedModel) :
    (models.foldl .syncModel input).syncModel model = { input.syncModel model with
      modelWasTruncated :=
        input.modelWasTruncated || models.any DiagnosedModel.wasTruncated || model.wasTruncated } := by
  induction models generalizing input with
  | nil => simp [DiagnosticInput.syncModel]
  | cons first models ih =>
    rw [List.foldl_cons, ih]
    simp [DiagnosticInput.syncModel, Bool.or_assoc]

/-- The last model alone is diagnosed exactly if no earlier one has left a truncation that the last one or
the input does not have. -/
theorem last_model_diagnosed_iff (input : DiagnosticInput) (models : List DiagnosedModel)
    (model : DiagnosedModel) :
    let synced := (models.foldl .syncModel input).syncModel model
    (synced = input.syncModel model ∧ collectNormalizedFoundationDiagnostics synced =
        collectNormalizedFoundationDiagnostics (input.syncModel model)) ↔
      (∀ earlier ∈ models, earlier.wasTruncated = false) ∨ input.modelWasTruncated = true ∨
        model.wasTruncated = true := by
  intro synced
  have hsynced : synced = input.syncModel model ↔
      (input.modelWasTruncated || models.any DiagnosedModel.wasTruncated || model.wasTruncated) =
        (input.modelWasTruncated || model.wasTruncated) := by
    rw [show synced = _ from syncModel_foldl input models model]
    simp [DiagnosticInput.syncModel]
  rw [and_iff_left_of_imp (congrArg _), hsynced]
  cases input.modelWasTruncated <;> cases model.wasTruncated <;> simp

/-- A warning of 256 bytes is gone, and the notice about it stays. -/
theorem truncation_notice_stays :
    let settings : Config.OrderedSettings := ⟨{}, .nil⟩
    let oversized : DiagnosedModel := { settings, settingsWarning := some (.ofList (.replicate 256 'a')) }
    let items (models : List DiagnosedModel) :=
      (collectNormalizedFoundationDiagnostics (models.foldl .syncModel {})).items
    truncationItem ∈ items [oversized, { settings }] ∧ truncationItem ∉ items [{ settings }] := by
  decide +kernel

end OverCrow.Control
