import OverCrow.Base.Mealy
import OverCrow.Hyprland.Window

/-!
# Geometry of the game and its overlays

`GeometrySynchronizer` of `crates/overcrow-hyprland/src/geometry.rs` and `sync_geometry_once` of
`crates/overcrow-hyprland/src/bridge.rs:509`. The overlay may move the game once the two have been
seen aligned. The synchronizer forgets the alignment with the game, but it is not called while
there is none.
-/

namespace OverCrow.Hyprland
open OverCrow.Base OverCrow.Protocol List

/-- `geometry.rs:6`. -/
structure LiveClient where
  address : WindowAddress
  rect : Rect
  workspaceId : Int
  deriving DecidableEq

/-- `geometry.rs:13`. -/
structure TrackedIdentity where
  pid : UInt32
  appId : String
  address : WindowAddress
  deriving DecidableEq

/-- `geometry.rs:20`. -/
structure GeometrySynchronizer where
  identity : Option TrackedIdentity := none
  converged : Option Rect := none
  lastDispatch : Option (List String) := none
  deriving DecidableEq

/-- `geometry.rs:136`. -/
def liveClient (window : HyprWindow) : Option LiveClient :=
  if !window.mapped || window.hidden then none
  else do
    let workspace ← window.workspace
    if workspace.id ≤ 0 then none
    else do
      let address ← WindowAddress.parse window.address
      let rect ← window.rect
      return ⟨address, rect, workspace.id⟩

/-- `geometry.rs:151`. -/
def activeOverlay (active : Option HyprWindow) (overlays : List LiveClient) :
    Option LiveClient := do
  let active ← active
  if active.appClass != overlayAppId then none
  else do
    let address ← WindowAddress.parse active.address
    overlays.find? (·.address == address)

/-- `geometry.rs:163`. -/
def exactGeometryCommands (address : WindowAddress) (rect : Rect) : List WindowCommand :=
  [.resizeWindowPixel rect.width rect.height address, .moveWindowPixel rect.x rect.y address]

/-- `geometry.rs:180`. -/
def overlayFollowCommands (overlay game : LiveClient) : List WindowCommand :=
  .moveToWorkspaceSilent game.workspaceId overlay.address ::
    exactGeometryCommands overlay.address game.rect ++ [.alterZorder overlay.address]

/-- The overlay has the rectangle and the workspace of the game. -/
def LiveClient.aligned (game overlay : LiveClient) : Bool :=
  overlay.rect == game.rect && overlay.workspaceId == game.workspaceId

/-- The identity and the window of the active game, or `none` where `commands` resets,
`geometry.rs:37-68`. -/
def trackedGame (snapshot : CoreSnapshot) (clients : List HyprWindow) :
    Option (TrackedIdentity × LiveClient) := do
  let game ← snapshot.activeGame
  let pid ← game.pid
  let appId ← game.appId
  let window ← exactlyOne (clients.filter (HyprWindow.isGame pid appId))
  let liveGame ← liveClient window
  return (⟨pid, appId, liveGame.address⟩, liveGame)

/-- The overlays among the clients, `geometry.rs:75`. -/
def liveOverlays (clients : List HyprWindow) : List LiveClient :=
  (clients.filter HyprWindow.isOverlay).filterMap liveClient

namespace GeometrySynchronizer

/-- `geometry.rs:119`. -/
def reset (_ : GeometrySynchronizer) : List WindowCommand × GeometrySynchronizer := ([], {})

/-- `geometry.rs:126`. -/
def dispatchOnce (s : GeometrySynchronizer) (commands : List WindowCommand) :
    List WindowCommand × GeometrySynchronizer :=
  if commands.isEmpty || s.lastDispatch == some (commands.map WindowCommand.text) then ([], s)
  else (commands, { s with lastDispatch := some (commands.map WindowCommand.text) })

/-- The change of the tracked game, `geometry.rs:69-73`. -/
def track (s : GeometrySynchronizer) (identity : TrackedIdentity) : GeometrySynchronizer :=
  if s.identity ≠ some identity then { identity := some identity } else s

/-- The overlay that the game is to follow, `geometry.rs:93-102`. -/
def drivingOverlay (s : GeometrySynchronizer) (mode : OverlayMode) (active : Option HyprWindow)
    (overlays : List LiveClient) (game : LiveClient) : Option LiveClient :=
  if mode = .interactive ∧ s.converged = some game.rect then
    (activeOverlay active overlays).filter fun overlay =>
      overlay.workspaceId == game.workspaceId && overlay.rect != game.rect &&
        overlays.all fun other => other.address == overlay.address || game.aligned other
  else none

/-- `geometry.rs:31`. -/
def commands (s : GeometrySynchronizer) (snapshot : CoreSnapshot) (active : Option HyprWindow)
    (clients : List HyprWindow) : List WindowCommand × GeometrySynchronizer :=
  match trackedGame snapshot clients with
  | none => s.reset
  | some (identity, game) =>
    let s := s.track identity
    let overlays := liveOverlays clients
    if overlays.isEmpty then ([], { s with converged := none, lastDispatch := none })
    else if overlays.all game.aligned then
      ([], { s with converged := some game.rect, lastDispatch := none })
    else
      match s.drivingOverlay snapshot.overlayMode active overlays game with
      | some overlay => s.dispatchOnce (exactGeometryCommands game.address overlay.rect)
      | none =>
        s.dispatchOnce ((overlays.filter (!game.aligned ·)).flatMap (overlayFollowCommands · game))

end GeometrySynchronizer

/-! ### What a step does -/

theorem address_exactGeometryCommands {address : WindowAddress} {rect : Rect}
    {command : WindowCommand} (h : command ∈ exactGeometryCommands address rect) :
    command.address = address := by
  rw [exactGeometryCommands, mem_cons, mem_singleton] at h
  rcases h with rfl | rfl <;> rfl

theorem address_overlayFollowCommands {overlay game : LiveClient} {command : WindowCommand}
    (h : command ∈ overlayFollowCommands overlay game) : command.address = overlay.address := by
  unfold overlayFollowCommands at h
  rw [mem_append, mem_cons, mem_singleton] at h
  rcases h with (rfl | h) | rfl
  · rfl
  · exact address_exactGeometryCommands h
  · rfl

/-- The active window is an overlay, and it is the only one that is not aligned. -/
structure OnlyMismatch (game : LiveClient) (active : Option HyprWindow)
    (overlays : List LiveClient) (overlay : LiveClient) : Prop where
  listed : overlay ∈ overlays
  active : ∃ window, active = some window ∧ window.appClass = overlayAppId ∧
    window.address = overlay.address.text
  mismatching : game.aligned overlay = false
  only : ∀ other ∈ overlays, game.aligned other = false → other.address = overlay.address

theorem activeOverlay_eq_some {active : Option HyprWindow} {overlays : List LiveClient}
    {overlay : LiveClient} (h : activeOverlay active overlays = some overlay) :
    overlay ∈ overlays ∧ ∃ window, active = some window ∧ window.appClass = overlayAppId ∧
      window.address = overlay.address.text := by
  unfold activeOverlay at h
  cases active with
  | none => cases h
  | some window =>
    rw [Option.bind_eq_bind, Option.bind_some, Option.ite_none_left_eq_some,
      Option.bind_eq_bind, Option.bind_eq_some_iff] at h
    obtain ⟨hclass, address, hparse, hfind⟩ := h
    have hfound := find?_some hfind
    refine ⟨mem_of_find?_eq_some hfind, window, rfl, ?_, ?_⟩
    · exact not_not.mp (mt bne_iff_ne.mpr hclass)
    · rw [beq_iff_eq.mp hfound, WindowAddress.parse_eq_some.mp hparse]

namespace GeometrySynchronizer

variable {s : GeometrySynchronizer} {snapshot : CoreSnapshot} {active : Option HyprWindow}
  {clients : List HyprWindow}

theorem mem_dispatchOnce {commands : List WindowCommand} {command : WindowCommand}
    (h : command ∈ (s.dispatchOnce commands).1) : command ∈ commands := by
  unfold dispatchOnce at h
  split at h
  · cases h
  · exact h

theorem dispatchOnce_memory (s : GeometrySynchronizer) (commands : List WindowCommand) :
    (s.dispatchOnce commands).2.identity = s.identity ∧
      (s.dispatchOnce commands).2.converged = s.converged := by
  unfold dispatchOnce
  split <;> exact ⟨rfl, rfl⟩

theorem identity_track (s : GeometrySynchronizer) (identity : TrackedIdentity) :
    (s.track identity).identity = some identity := by
  unfold track
  split
  · rfl
  · next hsame => exact not_not.mp hsame

/-- A tracked game that has converged was tracked before. -/
theorem converged_track {identity : TrackedIdentity} {rect : Rect}
    (h : (s.track identity).converged = some rect) :
    s.identity = some identity ∧ s.converged = some rect := by
  unfold track at h
  split at h
  · cases h
  · next hsame => exact ⟨not_not.mp hsame, h⟩

theorem drivingOverlay_eq_some {mode : OverlayMode} {overlays : List LiveClient}
    {game overlay : LiveClient} (h : s.drivingOverlay mode active overlays game = some overlay) :
    mode = .interactive ∧ s.converged = some game.rect ∧
      OnlyMismatch game active overlays overlay := by
  unfold drivingOverlay at h
  rw [Option.ite_none_right_eq_some, Option.filter_eq_some_iff, Bool.and_eq_true, Bool.and_eq_true,
    bne_iff_ne, all_eq_true] at h
  obtain ⟨⟨hmode, hconverged⟩, hactive, ⟨-, hrect⟩, honly⟩ := h
  obtain ⟨hlisted, hwindow⟩ := activeOverlay_eq_some hactive
  refine ⟨hmode, hconverged, hlisted, hwindow, ?_, ?_⟩
  · unfold LiveClient.aligned
    rw [beq_false_of_ne hrect, Bool.false_and]
  · intro other hother hmismatch
    have hsame := honly other hother
    rw [hmismatch, Bool.or_false, beq_iff_eq] at hsame
    exact hsame

/-- A command is for the game, with the active overlay as the only one that is not aligned, or for
an overlay. -/
theorem mem_commands {command : WindowCommand}
    (h : command ∈ (s.commands snapshot active clients).1) :
    ∃ identity game, trackedGame snapshot clients = some (identity, game) ∧
      ((snapshot.overlayMode = .interactive ∧ s.identity = some identity ∧
          s.converged = some game.rect ∧
          ∃ overlay, OnlyMismatch game active (liveOverlays clients) overlay) ∨
        ∃ overlay ∈ liveOverlays clients, command.address = overlay.address) := by
  unfold commands at h
  split at h
  · cases h
  · next identity game htracked =>
    refine ⟨identity, game, htracked, ?_⟩
    dsimp only at h
    split at h
    · cases h
    · split at h
      · cases h
      · split at h
        · next overlay hdriving =>
          obtain ⟨hmode, hconverged, honly⟩ := drivingOverlay_eq_some hdriving
          obtain ⟨hidentity, hconverged⟩ := converged_track hconverged
          exact .inl ⟨hmode, hidentity, hconverged, overlay, honly⟩
        · have hfollow := mem_dispatchOnce h
          rw [mem_flatMap] at hfollow
          obtain ⟨overlay, hoverlay, hcommand⟩ := hfollow
          exact .inr ⟨overlay, (mem_filter.mp hoverlay).1,
            address_overlayFollowCommands hcommand⟩

/-- After a call the game is tracked, and a converged rectangle was converged before or is that of
the game, with the overlays aligned to it. -/
theorem converged_commands {rect : Rect}
    (h : (s.commands snapshot active clients).2.converged = some rect) :
    ∃ identity game, trackedGame snapshot clients = some (identity, game) ∧
      (s.commands snapshot active clients).2.identity = some identity ∧
      ((s.identity = some identity ∧ s.converged = some rect) ∨
        (game.rect = rect ∧ liveOverlays clients ≠ [] ∧
          ∀ overlay ∈ liveOverlays clients, game.aligned overlay = true)) := by
  unfold commands at h ⊢
  split at h
  · cases h
  · next identity game htracked =>
    refine ⟨identity, game, htracked, ?_⟩
    dsimp only at h ⊢
    split at h
    · cases h
    · next hnonempty =>
      split at h
      · next haligned =>
        rw [if_neg hnonempty, if_pos haligned]
        exact ⟨identity_track s identity, .inr ⟨Option.some.inj h,
          isEmpty_eq_false_iff.mp (Bool.not_eq_true _ ▸ hnonempty),
          all_eq_true.mp haligned⟩⟩
      · next haligned =>
        rw [if_neg hnonempty, if_neg haligned]
        split at h
        · rw [(dispatchOnce_memory _ _).2] at h
          exact ⟨(dispatchOnce_memory _ _).1.trans (identity_track s identity),
            .inl (converged_track h)⟩
        · rw [(dispatchOnce_memory _ _).2] at h
          exact ⟨(dispatchOnce_memory _ _).1.trans (identity_track s identity),
            .inl (converged_track h)⟩

end GeometrySynchronizer

/-! ### Runs -/

/-- What one `sync_geometry_once` is given and what its queries answer. A failed query ends the
bridge. -/
structure GeometryStep where
  snapshot : CoreSnapshot
  active : Option HyprWindow
  clients : List HyprWindow

namespace GeometryStep

/-- The identity and the window of the game at the step. -/
def trackedGame (i : GeometryStep) : Option (TrackedIdentity × LiveClient) :=
  OverCrow.Hyprland.trackedGame i.snapshot i.clients

/-- All live overlays were observed with the rectangle and the workspace of the game. -/
def Aligned (i : GeometryStep) (game : LiveClient) : Prop :=
  liveOverlays i.clients ≠ [] ∧ ∀ overlay ∈ liveOverlays i.clients, game.aligned overlay = true

end GeometryStep

/-- `bridge.rs:509`: the commands it dispatches
and the synchronizer afterwards. -/
def syncGeometryOnce (s : GeometrySynchronizer) (i : GeometryStep) :
    List WindowCommand × GeometrySynchronizer :=
  if i.snapshot.activeGame.isNone then ([], s) else s.commands i.snapshot i.active i.clients

/-- The game was seen aligned with this rectangle, and it has been tracked in every step since. -/
def AlignedSince (identity : TrackedIdentity) (rect : Rect) : List GeometryStep → Prop :=
  Since (fun j => j.trackedGame.map Prod.fst = some identity) fun i =>
    ∃ game, i.trackedGame = some (identity, game) ∧ game.rect = rect ∧ i.Aligned game

/-- The game is lost only while nothing has converged, and no overlay has its address. -/
def Guarded (s : GeometrySynchronizer) (i : GeometryStep) : Prop :=
  (i.snapshot.activeGame = none → s.converged = none) ∧
    ∀ tracked ∈ i.trackedGame, ∀ overlay ∈ liveOverlays i.clients,
      overlay.address ≠ tracked.2.address

/-- What has converged was seen aligned and not lost since. -/
def Justified (steps : List GeometryStep) (s : GeometrySynchronizer) : Prop :=
  ∀ rect, s.converged = some rect →
    ∃ identity, s.identity = some identity ∧ AlignedSince identity rect steps

section Runs

variable {steps : List GeometryStep} {s : GeometrySynchronizer} {i : GeometryStep}

theorem justified_start : Justified [] {} := by
  intro rect hconverged
  cases hconverged

theorem Justified.step (h : Justified steps s) (hguarded : Guarded s i) :
    Justified (steps ++ [i]) (syncGeometryOnce s i).2 := by
  intro rect hconverged
  unfold syncGeometryOnce at hconverged ⊢
  split at hconverged
  · next hlost =>
    rw [hguarded.1 (Option.isNone_iff_eq_none.mp hlost)] at hconverged
    cases hconverged
  · next hgame =>
    rw [if_neg hgame]
    obtain ⟨identity, game, htracked, hidentity, hbefore | ⟨hrect, haligned⟩⟩ :=
      GeometrySynchronizer.converged_commands hconverged
    · obtain ⟨other, hother, hsince⟩ := h rect hbefore.2
      rw [hbefore.1] at hother
      cases hother
      refine ⟨identity, hidentity, since_append_singleton.mpr (.inr ⟨?_, hsince⟩)⟩
      exact congrArg (Option.map Prod.fst) htracked
    · exact ⟨identity, hidentity,
        since_append_singleton.mpr (.inl ⟨game, htracked, hrect, haligned⟩)⟩

theorem justified_of_along (h : Mealy.Along syncGeometryOnce Guarded {} steps) :
    Justified steps (Mealy.after syncGeometryOnce {} steps) := by
  have hinvariant := Mealy.invariant_along
    (P := fun history s => Justified (history.map Prod.fst) s) justified_start
    (fun history s i hs hi => by
      rw [map_append]
      exact hs.step hi) h
  rwa [Mealy.map_fst_trace] at hinvariant

/-- In a run whose steps are all guarded, a command for the game is dispatched in the interactive
mode, with the active overlay as the only one that is not aligned, to a game that was seen aligned
with the rectangle that it has now and was not lost since. -/
theorem game_driven_after_alignment {command : WindowCommand} {identity : TrackedIdentity}
    {game : LiveClient} (hguarded : Mealy.Along syncGeometryOnce Guarded {} (steps ++ [i]))
    (htracked : i.trackedGame = some (identity, game))
    (hcommand : command ∈ (syncGeometryOnce (Mealy.after syncGeometryOnce {} steps) i).1)
    (haddress : command.address = game.address) :
    i.snapshot.overlayMode = .interactive ∧
      (∃ overlay, OnlyMismatch game i.active (liveOverlays i.clients) overlay) ∧
      AlignedSince identity game.rect steps := by
  obtain ⟨hsteps, hlast⟩ := Mealy.along_append_singleton.mp hguarded
  unfold syncGeometryOnce at hcommand
  split at hcommand
  · cases hcommand
  · obtain ⟨identity', game', htracked', hcase⟩ := GeometrySynchronizer.mem_commands hcommand
    have hsame := Option.some.inj (htracked'.symm.trans htracked)
    cases hsame
    rcases hcase with ⟨hmode, hidentity, hconverged, honly⟩ | ⟨overlay, hoverlay, hother⟩
    · obtain ⟨identity', hidentity', hsince⟩ := justified_of_along hsteps _ hconverged
      have hsame := Option.some.inj (hidentity'.symm.trans hidentity)
      cases hsame
      exact ⟨hmode, honly, hsince⟩
    · exact absurd (hother.symm.trans haddress) (hlast.2 _ htracked overlay hoverlay)

end Runs

instance (s : GeometrySynchronizer) (i : GeometryStep) : Decidable (Guarded s i) :=
  inferInstanceAs (Decidable ((i.snapshot.activeGame = none → _) ∧
    ∀ tracked ∈ i.trackedGame, ∀ overlay ∈ liveOverlays i.clients,
      overlay.address ≠ tracked.2.address))

/-- The game where it is and the focused overlay at some place. -/
def sampleStep (position : Int × Int) : GeometryStep :=
  let overlay := sampleWindow "0x20" overlayAppId 42 position
  ⟨sampleSnapshot, some overlay,
    [sampleWindow "0x10" "steam_app_1623730" 136279 (12, 36), overlay]⟩

/-- The game as the steps see it. -/
def sampleGame : TrackedIdentity × LiveClient :=
  (⟨136279, "steam_app_1623730", ⟨"0x10", by decide +kernel⟩⟩,
    ⟨⟨"0x10", by decide +kernel⟩, ⟨12, 36, 2417, 1680⟩, 1⟩)

theorem game_driven_by_dragged_overlay :
    .moveWindowPixel (-88) 36 sampleGame.2.address ∈ (syncGeometryOnce
        (Mealy.after syncGeometryOnce {} [sampleStep (12, 36)]) (sampleStep (-88, 36))).1 ∧
      AlignedSince sampleGame.1 sampleGame.2.rect [sampleStep (12, 36)] := by
  have hcommand : .moveWindowPixel (-88) 36 sampleGame.2.address ∈ (syncGeometryOnce
      (Mealy.after syncGeometryOnce {} [sampleStep (12, 36)]) (sampleStep (-88, 36))).1 := by
    decide +kernel
  exact ⟨hcommand, (game_driven_after_alignment (by decide +kernel) (by decide +kernel)
    hcommand rfl).2.2⟩

/-- The game is lost and found again where it was, and the first thing that happens is that it is
moved to the overlay. -/
theorem found_game_driven_unaligned :
    (sampleStep (-88, 36)).trackedGame = some sampleGame ∧
      .moveWindowPixel (-88) 36 sampleGame.2.address ∈ (syncGeometryOnce
        (Mealy.after syncGeometryOnce {} [sampleStep (12, 36), ⟨{}, none, []⟩])
        (sampleStep (-88, 36))).1 ∧
      ¬ AlignedSince sampleGame.1 sampleGame.2.rect [sampleStep (12, 36), ⟨{}, none, []⟩] := by
  refine ⟨by decide +kernel, by decide +kernel, fun hsince => ?_⟩
  change AlignedSince _ _ ([sampleStep (12, 36)] ++ [⟨{}, none, []⟩]) at hsince
  rw [AlignedSince, since_append_singleton] at hsince
  rcases hsince with ⟨game, hgame, -⟩ | ⟨htracked, -⟩
  · cases hgame
  · cases htracked

end OverCrow.Hyprland
