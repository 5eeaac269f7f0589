import OverCrow.Base.Float

/-!
# Widget profile

`crates/overcrow-config/src/widgets.rs`. The per-widget layout that Core validates when
it is started and when the profile is reloaded. Positions, scales and sizes are binary32
values given by their bit pattern.
-/

namespace OverCrow.Config
open OverCrow.Base

/-- `widgets.rs:5`. -/
def widgetSchemaVersion : Nat := 3

/-- `widgets.rs:6`. -/
def discordParticipantLimitMin : Nat := 2

/-- `widgets.rs:7`. -/
def discordParticipantLimitMax : Nat := 16

/-- `0.0`. -/
def f32Zero : F32 := .ofBits 0

/-- `1.0`. -/
def f32One : F32 := .ofBits 0x3f800000

/-- `0.75`, `widgets.rs:10`. -/
def widgetScaleMin : F32 := .ofBits 0x3f400000

/-- `1.75`, `widgets.rs:11`. -/
def widgetScaleMax : F32 := .ofBits 0x3fe00000

/-- `160.0`, `widgets.rs:14`. -/
def widgetPanelMinHeight : F32 := .ofBits 0x43200000

/-- `900.0`, `widgets.rs:15`. -/
def widgetPanelMax : F32 := .ofBits 0x44610000

/-- `widgets.rs:18`. -/
inductive WidgetId where
  | session
  | clock
  | performance
  | manualStopwatch
  | media
  | notes
  | warframeStatus
  | warframeFissures
  | warframeMarket
  | warframeSortie
  | warframeInvasions
  | twitchChat
  | discordVoice
  deriving DecidableEq

namespace WidgetId

/-- `widgets.rs:36`. -/
def all : List WidgetId :=
  [.session, .clock, .performance, .manualStopwatch, .media, .notes, .warframeStatus,
    .warframeFissures, .warframeMarket, .warframeSortie, .warframeInvasions, .twitchChat,
    .discordVoice]

/-- `default_position` as a pair of patterns, `widgets.rs:52`. -/
def defaultPosition : WidgetId → Nat × Nat
  | .session => (0, 0)
  | .clock => (0x3f800000, 0)
  | .performance => (0, 0x3f800000)
  | .manualStopwatch => (0x3f800000, 0x3f800000)
  | .media => (0x3f000000, 0)
  | .notes => (0x3f000000, 0x3f800000)
  | .warframeStatus => (0x3f000000, 0x3df5c28f)
  | .warframeFissures => (0x3f800000, 0x3ee66666)
  | .warframeMarket => (0, 0x3ee66666)
  | .warframeSortie => (0, 0x3e3851ec)
  | .warframeInvasions => (0x3f800000, 0x3f3851ec)
  | .twitchChat => (0x3f800000, 0x3e8f5c29)
  | .discordVoice => (0, 0x3e8f5c29)

/-- `default_panel_size` as a pair of patterns; zero sizes the panel from its content.
`widgets.rs:71`. -/
def defaultPanelSize : WidgetId → Nat × Nat
  | .warframeStatus => (0x43be0000, 0x43700000)
  | .warframeFissures => (0x43dc0000, 0x43aa0000)
  | .warframeMarket => (0x43c80000, 0x43d20000)
  | .warframeSortie => (0x43c80000, 0x43960000)
  | .warframeInvasions => (0x43dc0000, 0x43b40000)
  | .twitchChat => (0x43d20000, 0x43b40000)
  | .discordVoice => (0x438c0000, 0x43200000)
  | .notes => (0x43b40000, 0x438c0000)
  | .media => (0x43a00000, 0x43200000)
  | _ => (0, 0)

end WidgetId

/-- `widgets.rs:89`. -/
structure WidgetPosition where
  x : F32
  y : F32
  deriving BEq, Inhabited

/-- `widgets.rs:102`. -/
structure WidgetSettings where
  enabled : Bool
  showInPassive : Bool
  position : WidgetPosition
  scale : F32
  width : F32
  height : F32
  transparentBackground : Bool
  deriving BEq, Inhabited

/-- `widgets.rs:130`. -/
def WidgetSettings.withPassive (id : WidgetId) (enabled showInPassive : Bool) : WidgetSettings :=
  { enabled, showInPassive
    position := ⟨.ofBits id.defaultPosition.1, .ofBits id.defaultPosition.2⟩
    scale := f32One
    width := .ofBits id.defaultPanelSize.1
    height := .ofBits id.defaultPanelSize.2
    transparentBackground := false }

/-- `widgets.rs:126`. -/
def WidgetSettings.new (id : WidgetId) (enabled : Bool) : WidgetSettings :=
  withPassive id enabled false

/-- `widgets.rs:178`. -/
inductive PerformanceLayout where
  | vertical
  | horizontal
  deriving DecidableEq, Inhabited

/-- `widgets.rs:200`. -/
inductive DiscordVoiceAlignment where
  | left
  | right
  deriving DecidableEq, Inhabited

/-- `widgets.rs:192`. -/
structure NotesDisplaySettings where
  showNote : Bool := true
  showChecklist : Bool := true
  deriving DecidableEq, Inhabited

/-- `widgets.rs:207`. -/
structure DiscordVoiceDisplaySettings where
  participantLimit : Nat := 8
  alignment : DiscordVoiceAlignment := .left
  deriving DecidableEq, Inhabited

/-- `WidgetProfile` and its default, `widgets.rs:262,321`. The
one-field clock and performance display records are their single field. -/
structure WidgetProfile where
  schemaVersion : Nat := widgetSchemaVersion
  session : WidgetSettings := .new .session true
  clock : WidgetSettings := .new .clock false
  clockShowDate : Bool := true
  performance : WidgetSettings := .new .performance false
  performanceLayout : PerformanceLayout := .horizontal
  manualStopwatch : WidgetSettings := .new .manualStopwatch false
  media : WidgetSettings := .new .media false
  notes : WidgetSettings := .new .notes false
  notesDisplay : NotesDisplaySettings := {}
  warframeStatus : WidgetSettings := .withPassive .warframeStatus false true
  warframeFissures : WidgetSettings := .withPassive .warframeFissures false true
  warframeMarket : WidgetSettings := .withPassive .warframeMarket false false
  warframeSortie : WidgetSettings := .withPassive .warframeSortie false true
  warframeInvasions : WidgetSettings := .withPassive .warframeInvasions false true
  twitchChat : WidgetSettings := .withPassive .twitchChat false false
  discordVoice : WidgetSettings := .withPassive .discordVoice false true
  discordVoiceDisplay : DiscordVoiceDisplaySettings := {}
  warframeNightwave : WidgetSettings := .withPassive .warframeStatus false true
  deriving BEq, Inhabited

/-- `widgets.rs:414`. -/
inductive WidgetProfileError where
  | unsupportedSchemaVersion
  | invalidPosition (id : WidgetId)
  | invalidScale (id : WidgetId)
  | invalidSize (id : WidgetId)
  | emptyNotesDisplay
  | invalidDiscordParticipantLimit
  deriving DecidableEq

/-- Inclusive range test of a finite value, shared by the three field checks below. -/
def finiteWithin (low high value : F32) : Bool :=
  value.isFinite && low.le value && value.le high

/-- `widgets.rs:450`. -/
def validRatio (value : F32) : Bool := finiteWithin f32Zero f32One value

/-- `widgets.rs:454`. -/
def validScale (value : F32) : Bool := finiteWithin widgetScaleMin widgetScaleMax value

/-- `widgets.rs:458`: zero means automatic. -/
def validPanelDim (value : F32) : Bool :=
  (value.isFinite && value == f32Zero) || finiteWithin widgetPanelMinHeight widgetPanelMax value

/-- `widgets.rs:95`. -/
def WidgetPosition.isValid (position : WidgetPosition) : Bool :=
  validRatio position.x && validRatio position.y

namespace WidgetProfile

/-- `widgets.rs:348`. -/
def settings (profile : WidgetProfile) : WidgetId → WidgetSettings
  | .session => profile.session
  | .clock => profile.clock
  | .performance => profile.performance
  | .manualStopwatch => profile.manualStopwatch
  | .media => profile.media
  | .notes => profile.notes
  | .warframeStatus => profile.warframeStatus
  | .warframeFissures => profile.warframeFissures
  | .warframeMarket => profile.warframeMarket
  | .warframeSortie => profile.warframeSortie
  | .warframeInvasions => profile.warframeInvasions
  | .twitchChat => profile.twitchChat
  | .discordVoice => profile.discordVoice

/-- The checks of one widget in `validate`, `widgets.rs:388`. -/
def checkWidget (profile : WidgetProfile) (id : WidgetId) : Except WidgetProfileError Unit :=
  let settings := profile.settings id
  if !settings.position.isValid then .error (.invalidPosition id)
  else if !validScale settings.scale then .error (.invalidScale id)
  else if !validPanelDim settings.width || !validPanelDim settings.height then
    .error (.invalidSize id)
  else .ok ()

/-- The loop of `validate` over the widgets still to be checked. -/
def checkWidgets (profile : WidgetProfile) : List WidgetId → Except WidgetProfileError Unit
  | [] => .ok ()
  | id :: rest =>
    match profile.checkWidget id with
    | .error error => .error error
    | .ok () => profile.checkWidgets rest

/-- `widgets.rs:384`. -/
def validate (profile : WidgetProfile) : Except WidgetProfileError WidgetProfile :=
  if profile.schemaVersion ≠ widgetSchemaVersion then .error .unsupportedSchemaVersion
  else match profile.checkWidgets WidgetId.all with
    | .error error => .error error
    | .ok () =>
      if !profile.notesDisplay.showNote && !profile.notesDisplay.showChecklist then
        .error .emptyNotesDisplay
      else if profile.discordVoiceDisplay.participantLimit < discordParticipantLimitMin ∨
          discordParticipantLimitMax < profile.discordVoiceDisplay.participantLimit then
        .error .invalidDiscordParticipantLimit
      else .ok profile

/-- The default profile passes its own check. -/
theorem isOk_validate_default : ({} : WidgetProfile).validate.isOk = true := by decide

end WidgetProfile

end OverCrow.Config
