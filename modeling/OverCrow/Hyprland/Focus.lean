import Mathlib.Data.List.Nodup
import OverCrow.Base.Mealy
import OverCrow.Hyprland.Window

/-!
# Input-blocking tags and focus

`focus_plan` of `crates/overcrow-hyprland/src/bridge.rs`. While the overlay is interactive the game
has a tag that blocks its input and the overlay one that gives it the input. The tags are put in
place before the focus is moved.
-/

namespace OverCrow.Hyprland
open OverCrow.Base OverCrow.Protocol List HyprWindow

/-- `bridge.rs:27`. -/
def interactiveTag : String := "overcrow-interactive"

/-- `bridge.rs:28`. -/
def gameInputBlockedTag : String := "overcrow-game-input-blocked"

/-- `bridge.rs:200`. -/
structure FocusSyncState where
  observedMode : Option OverlayMode := none
  interactiveFocusPending : Bool := false
  passiveFocusPending : Bool := false
  deriving DecidableEq

/-- `bridge.rs:227`. -/
structure FocusPlan where
  commands : List WindowCommand
  clearCore : Bool
  deriving DecidableEq

/-- `bridge.rs:233`. -/
structure InteractionTargets where
  game : WindowAddress
  overlay : WindowAddress
  deriving DecidableEq

/-- What one call of `focus_plan` is given besides its state. -/
structure FocusStep where
  clients : List HyprWindow
  active : Option HyprWindow
  snapshot : CoreSnapshot

/-- `bridge.rs:207`. -/
def FocusSyncState.observeMode (s : FocusSyncState) (mode : OverlayMode) : FocusSyncState :=
  if s.observedMode = some mode then s
  else
    match mode with
    | .interactive =>
      { observedMode := some .interactive, interactiveFocusPending := true,
        passiveFocusPending := false }
    | .passive =>
      { observedMode := some .passive, interactiveFocusPending := false,
        passiveFocusPending := s.observedMode = some .interactive }

/-- `bridge.rs:238`: the commands, and whether
the intended window has the tag. -/
def reconcileWindowTag (clients : List HyprWindow) (tag : String)
    (intended : Option WindowAddress) : List WindowCommand × Bool :=
  let removals := clients.filterMap fun window => do
    let address ← WindowAddress.parse window.address
    if tag ∈ window.tags ∧ intended ≠ some address then some (.tagWindow false tag address)
    else none
  let targetHasTag := intended.any fun address =>
    (clients.find? (·.address == address.text)).any fun window => tag ∈ window.tags
  let additions := if targetHasTag then [] else intended.toList.map (.tagWindow true tag ·)
  (removals ++ additions, targetHasTag)

/-- `bridge.rs:466`. -/
def validatedGameAddress (clients : List HyprWindow) (snapshot : CoreSnapshot) :
    Option WindowAddress := do
  let game ← snapshot.activeGame
  let pid ← game.pid
  let appId ← game.appId
  let window ← exactlyOne (clients.filter (isGame pid appId))
  WindowAddress.parse window.address

/-- `bridge.rs:372`. -/
def uniqueOverlayAddress (clients : List HyprWindow) : Option WindowAddress := do
  let overlay ← exactlyOne (clients.filter isOverlay)
  WindowAddress.parse overlay.address

/-- `bridge.rs:383`. -/
def interactionTargets (clients : List HyprWindow) (snapshot : CoreSnapshot) :
    Option InteractionTargets := do
  let game ← validatedGameAddress clients snapshot
  let overlay ← uniqueOverlayAddress clients
  return ⟨game, overlay⟩

namespace FocusStep

/-- The targets of an interactive snapshot, `bridge.rs:276`. -/
def targets (i : FocusStep) : Option InteractionTargets :=
  if i.snapshot.overlayMode = .interactive then interactionTargets i.clients i.snapshot else none

/-- `bridge.rs:279`. -/
def effectiveMode (i : FocusStep) : OverlayMode :=
  if i.targets.isSome then .interactive else .passive

/-- Some window has one of the two tags, `bridge.rs:327`. -/
def managedTagsPresent (i : FocusStep) : Bool :=
  i.clients.any fun window =>
    window.tags.any fun tag => tag = interactiveTag ∨ tag = gameInputBlockedTag

end FocusStep

namespace FocusSyncState

/-- The interactive branch, `bridge.rs:297-324`. -/
def interactiveFocus (s : FocusSyncState) (i : FocusStep) (targets : InteractionTargets)
    (inPlace : Bool) : List WindowCommand × FocusSyncState :=
  let overlayFocused := i.active.any (·.address == targets.overlay.text)
  let gameFocused := i.active.any (·.address == targets.game.text)
  let canTakeFocus := i.active.isNone || gameFocused
  let shouldFocus := !overlayFocused && canTakeFocus && (s.interactiveFocusPending || gameFocused)
  if inPlace && shouldFocus then
    ([.focusWindow targets.overlay], { s with interactiveFocusPending := false })
  else ([], s)

/-- The passive branch, `bridge.rs:326-342`. -/
def passiveFocus (s : FocusSyncState) (i : FocusStep) : List WindowCommand × FocusSyncState :=
  if i.snapshot.overlayMode = .passive ∧ s.passiveFocusPending ∧ !i.managedTagsPresent then
    ((validatedGameAddress i.clients i.snapshot).toList.map .focusWindow,
      { s with passiveFocusPending := false })
  else ([], s)

end FocusSyncState

/-- The commands for the two tags and whether both targets have theirs,
`bridge.rs:286-294`. -/
def tagCommands (i : FocusStep) : List WindowCommand × Bool :=
  let (gameCommands, gameTagged) :=
    reconcileWindowTag i.clients gameInputBlockedTag (i.targets.map (·.game))
  let (overlayCommands, overlayTagged) :=
    reconcileWindowTag i.clients interactiveTag (i.targets.map (·.overlay))
  (gameCommands ++ overlayCommands, gameTagged && overlayTagged)

/-- The focus command, if any, once the mode has been observed. The effective mode is interactive
exactly when there are targets, `bridge.rs:296`. -/
def FocusSyncState.moveFocus (s : FocusSyncState) (i : FocusStep) :
    List WindowCommand × FocusSyncState :=
  match i.targets with
  | some targets =>
    s.interactiveFocus i targets ((tagCommands i).2 && (tagCommands i).1.isEmpty)
  | none => s.passiveFocus i

/-- `bridge.rs:270`. -/
def focusPlan (s : FocusSyncState) (i : FocusStep) : FocusPlan × FocusSyncState :=
  let (focus, s) := (s.observeMode i.effectiveMode).moveFocus i
  (⟨(tagCommands i).1 ++ focus, i.snapshot.overlayMode = .interactive ∧ i.targets = none⟩, s)

/-! ### The compositor -/

/-- A compositor as far as the plans touch it. -/
structure Compositor where
  clients : List HyprWindow
  active : Option HyprWindow

/-- A window obeys the commands that are addressed to it. -/
def HyprWindow.obey (window : HyprWindow) : WindowCommand → HyprWindow
  | .tagWindow true tag address =>
    if window.address = address.text ∧ tag ∉ window.tags then
      { window with tags := window.tags ++ [tag] }
    else window
  | .tagWindow false tag address =>
    if window.address = address.text then
      { window with tags := window.tags.filter (· ≠ tag) }
    else window
  | _ => window

/-- The compositor executes a command exactly. -/
def Compositor.execute (c : Compositor) (command : WindowCommand) : Compositor where
  clients := c.clients.map (·.obey command)
  active := match command with
    | .focusWindow address => c.clients.find? (·.address == address.text)
    | _ => c.active.map (·.obey command)

theorem clients_execute (c : Compositor) (commands : List WindowCommand) :
    (commands.foldl Compositor.execute c).clients =
      c.clients.map fun window => commands.foldl obey window := by
  induction commands generalizing c with
  | nil => simp
  | cons command commands ih =>
    rw [foldl_cons, ih]
    simp [Compositor.execute]

namespace HyprWindow

variable {window : HyprWindow} {tag : String} {address : WindowAddress}
  {commands : List WindowCommand}

theorem address_obey (window : HyprWindow) (command : WindowCommand) :
    (window.obey command).address = window.address := by
  unfold obey
  split
  · split <;> rfl
  · split <;> rfl
  · rfl

theorem address_foldl_obey (window : HyprWindow) (commands : List WindowCommand) :
    (commands.foldl obey window).address = window.address := by
  induction commands generalizing window with
  | nil => rfl
  | cons command commands ih => rw [foldl_cons, ih, address_obey]

section

variable (haddress : window.address = address.text)

include haddress

/-- What one command does to a tag of the window. -/
theorem mem_tags_obey (command : WindowCommand) :
    tag ∈ (window.obey command).tags ↔
      command = .tagWindow true tag address ∨
        tag ∈ window.tags ∧ command ≠ .tagWindow false tag address := by
  unfold obey
  split
  · next other target =>
    rw [haddress]
    by_cases hother : target = address
    · subst hother
      by_cases htag : other = tag
      · subst htag
        by_cases hmem : other ∈ window.tags <;> simp [hmem]
      · have htag' : ¬ tag = other := fun h => htag h.symm
        by_cases hmem : other ∈ window.tags
        · simp [hmem, htag]
        · simp [hmem, htag, htag']
    · have hne : ¬ address.text = target.text := fun h => hother (WindowAddress.ext h.symm)
      simp [hne, hother]
  · next other target =>
    rw [haddress]
    by_cases hother : target = address
    · subst hother
      by_cases htag : other = tag
      · subst htag
        simp
      · have htag' : ¬ tag = other := fun h => htag h.symm
        simp [htag, htag']
    · have hne : ¬ address.text = target.text := fun h => hother (WindowAddress.ext h.symm)
      simp [hne, hother]
  · next hadd hremove =>
    exact ⟨fun h => .inr ⟨h, hremove tag address⟩,
      fun h => (h.resolve_left (hadd tag address)).1⟩

/-- Without a command that adds the tag it stays unless it is removed. -/
theorem mem_tags_of_no_add (hadd : .tagWindow true tag address ∉ commands) :
    tag ∈ (commands.foldl obey window).tags ↔
      tag ∈ window.tags ∧ .tagWindow false tag address ∉ commands := by
  induction commands generalizing window with
  | nil => simp
  | cons command commands ih =>
    rw [mem_cons, not_or] at hadd
    rw [foldl_cons, ih ((address_obey _ _).trans haddress) hadd.2, mem_tags_obey haddress,
      mem_cons, not_or, or_iff_right fun h => hadd.1 h.symm, and_assoc, ne_comm]

/-- Without a command that removes the tag it is there if it was or if it is added. -/
theorem mem_tags_of_no_remove (hremove : .tagWindow false tag address ∉ commands) :
    tag ∈ (commands.foldl obey window).tags ↔
      tag ∈ window.tags ∨ .tagWindow true tag address ∈ commands := by
  induction commands generalizing window with
  | nil => simp
  | cons command commands ih =>
    rw [mem_cons, not_or] at hremove
    have hkept : command ≠ .tagWindow false tag address := fun h => hremove.1 h.symm
    rw [foldl_cons, ih ((address_obey _ _).trans haddress) hremove.2, mem_tags_obey haddress,
      mem_cons, and_iff_left hkept, or_right_comm, or_comm, eq_comm]

end

end HyprWindow

/-! ### Tags -/

/-- The addresses of the clients are valid and distinct. -/
structure DistinctClients (clients : List HyprWindow) : Prop where
  valid : ∀ window ∈ clients, isWindowAddress window.address = true
  distinct : (clients.map (·.address)).Nodup

section Tags

variable {clients : List HyprWindow} {tag : String} {intended : Option WindowAddress}
  {window : HyprWindow} {address : WindowAddress}

theorem mem_reconcileWindowTag {command : WindowCommand} :
    command ∈ (reconcileWindowTag clients tag intended).1 ↔
      (∃ address, command = .tagWindow false tag address ∧ intended ≠ some address ∧
        ∃ window ∈ clients, window.address = address.text ∧ tag ∈ window.tags) ∨
      ∃ address, command = .tagWindow true tag address ∧ intended = some address ∧
        (reconcileWindowTag clients tag intended).2 = false := by
  unfold reconcileWindowTag
  rw [mem_append]
  refine or_congr ?_ ?_
  · simp only [mem_filterMap, Option.bind_eq_bind, Option.bind_eq_some_iff,
      Option.ite_none_right_eq_some, WindowAddress.parse_eq_some, Option.some_inj]
    constructor
    · rintro ⟨window, hwindow, address, haddress, ⟨htag, hintended⟩, rfl⟩
      exact ⟨address, rfl, hintended, window, hwindow, haddress, htag⟩
    · rintro ⟨address, rfl, hintended, window, hwindow, haddress, htag⟩
      exact ⟨window, hwindow, address, haddress, ⟨htag, hintended⟩, rfl⟩
  · generalize (intended.any _) = targetHasTag
    cases targetHasTag with
    | true => simp
    | false =>
      simp only [Bool.false_eq_true, if_false, mem_map, Option.mem_toList, and_true]
      constructor
      · rintro ⟨address, haddress, rfl⟩
        exact ⟨address, rfl, haddress⟩
      · rintro ⟨address, rfl, haddress⟩
        exact ⟨address, haddress, rfl⟩

/-- The intended window is the one whose tags are looked at. -/
theorem reconcileWindowTag_snd (h : DistinctClients clients) (hwindow : window ∈ clients)
    (haddress : window.address = address.text) :
    (reconcileWindowTag clients tag (some address)).2 = decide (tag ∈ window.tags) := by
  have hfind : clients.find? (·.address == address.text) = some window := by
    rw [← haddress]
    cases hfound : clients.find? (·.address == window.address) with
    | none =>
      have hmissed := find?_eq_none.mp hfound window hwindow
      exact absurd (beq_self_eq_true _) hmissed
    | some other =>
      have hsame := find?_some hfound
      have hother := mem_of_find?_eq_some hfound
      rw [inj_on_of_nodup_map h.distinct hother hwindow (beq_iff_eq.mp hsame)]
  unfold reconcileWindowTag
  rw [Option.any_some, hfind, Option.any_some]

/-- After commands that treat the tag as `reconcile_window_tag` does, it is on the intended window
only. -/
theorem mem_tags_reconciled {commands : List WindowCommand} (h : DistinctClients clients)
    (hwindow : window ∈ clients) (hcommands : ∀ add address, .tagWindow add tag address ∈ commands ↔
      .tagWindow add tag address ∈ (reconcileWindowTag clients tag intended).1) :
    tag ∈ (commands.foldl obey window).tags ↔
      intended.map (·.text) = some window.address := by
  obtain ⟨address, haddress⟩ : ∃ address : WindowAddress, window.address = address.text :=
    ⟨⟨window.address, h.valid window hwindow⟩, rfl⟩
  by_cases hintended : intended = some address
  · subst hintended
    have hremove : .tagWindow false tag address ∉ commands := by
      rw [hcommands, mem_reconcileWindowTag]
      rintro (⟨other, hsame, hne, -⟩ | ⟨other, hsame, -⟩)
      · cases hsame
        exact hne rfl
      · cases hsame
    rw [mem_tags_of_no_remove haddress hremove, hcommands, mem_reconcileWindowTag,
      reconcileWindowTag_snd h hwindow haddress]
    refine iff_of_true ?_ (congrArg some haddress.symm)
    by_cases htag : tag ∈ window.tags
    · exact .inl htag
    · exact .inr (.inr ⟨address, rfl, rfl, decide_eq_false htag⟩)
  · have hadd : .tagWindow true tag address ∉ commands := by
      rw [hcommands, mem_reconcileWindowTag]
      rintro (⟨other, hsame, -⟩ | ⟨other, hsame, hother, -⟩)
      · cases hsame
      · cases hsame
        exact hintended hother
    rw [mem_tags_of_no_add haddress hadd, hcommands, mem_reconcileWindowTag]
    refine iff_of_false ?_ ?_
    · rintro ⟨htag, hkept⟩
      exact hkept (.inl ⟨address, rfl, hintended, window, hwindow, haddress, htag⟩)
    · intro hmap
      obtain ⟨other, hother, htext⟩ := Option.map_eq_some_iff.mp hmap
      rw [haddress] at htext
      exact hintended (hother.trans (congrArg some (WindowAddress.ext htext)))

end Tags

/-- The targets are among the clients, and each tag is on its target and on no other window. -/
structure TagsPlaced (targets : Option InteractionTargets) (clients : List HyprWindow) :
    Prop where
  listed : ∀ t ∈ targets, t.game.text ∈ clients.map (·.address) ∧
    t.overlay.text ∈ clients.map (·.address)
  blocked : ∀ window ∈ clients, gameInputBlockedTag ∈ window.tags ↔
    targets.map (·.game.text) = some window.address
  interactive : ∀ window ∈ clients, interactiveTag ∈ window.tags ↔
    targets.map (·.overlay.text) = some window.address

section Plan

variable {s : FocusSyncState} {i : FocusStep} {address : WindowAddress}
  {clients : List HyprWindow} {tag : String} {command : WindowCommand} {intended : Option WindowAddress}

theorem mem_map_of_exactlyOne {p : HyprWindow → Bool}
    (h : (exactlyOne (clients.filter p)).bind (WindowAddress.parse ·.address) = some address) :
    address.text ∈ clients.map (·.address) := by
  obtain ⟨window, hwindow, hparse⟩ := Option.bind_eq_some_iff.mp h
  have hmem : window ∈ clients.filter p := by
    rw [exactlyOne_eq_some.mp hwindow]
    exact mem_singleton_self window
  rw [← WindowAddress.parse_eq_some.mp hparse]
  exact mem_map_of_mem (mem_filter.mp hmem).1

theorem validatedGameAddress_listed {snapshot : CoreSnapshot}
    (h : validatedGameAddress clients snapshot = some address) :
    address.text ∈ clients.map (·.address) := by
  unfold validatedGameAddress at h
  simp only [Option.bind_eq_bind] at h
  obtain ⟨game, -, h⟩ := Option.bind_eq_some_iff.mp h
  obtain ⟨pid, -, h⟩ := Option.bind_eq_some_iff.mp h
  obtain ⟨appId, -, h⟩ := Option.bind_eq_some_iff.mp h
  exact mem_map_of_exactlyOne h

theorem targets_eq_some {t : InteractionTargets} :
    i.targets = some t ↔ i.snapshot.overlayMode = .interactive ∧
      validatedGameAddress i.clients i.snapshot = some t.game ∧
      uniqueOverlayAddress i.clients = some t.overlay := by
  unfold FocusStep.targets interactionTargets
  rw [Option.ite_none_right_eq_some]
  refine and_congr_right fun _ => ?_
  simp only [Option.bind_eq_bind, Option.bind_eq_some_iff, Option.pure_def, Option.some_inj]
  constructor
  · rintro ⟨game, hgame, overlay, hoverlay, rfl⟩
    exact ⟨hgame, hoverlay⟩
  · rintro ⟨hgame, hoverlay⟩
    exact ⟨t.game, hgame, t.overlay, hoverlay, rfl⟩

theorem mem_tagCommands {add : Bool} :
    .tagWindow add tag address ∈ (tagCommands i).1 ↔
      .tagWindow add tag address ∈
          (reconcileWindowTag i.clients gameInputBlockedTag (i.targets.map (·.game))).1 ∨
        .tagWindow add tag address ∈
          (reconcileWindowTag i.clients interactiveTag (i.targets.map (·.overlay))).1 :=
  mem_append

/-- A command that `reconcile_window_tag` gives is for its tag. -/
theorem exists_of_mem_reconcileWindowTag (h : command ∈ (reconcileWindowTag clients tag intended).1) :
    ∃ add address, command = .tagWindow add tag address := by
  rcases mem_reconcileWindowTag.mp h with ⟨address, hsame, -⟩ | ⟨address, hsame, -⟩
  · exact ⟨false, address, hsame⟩
  · exact ⟨true, address, hsame⟩

theorem eq_of_mem_reconcileWindowTag {other : String} {add : Bool}
    (h : .tagWindow add other address ∈ (reconcileWindowTag clients tag intended).1) : other = tag := by
  obtain ⟨_, _, hsame⟩ := exists_of_mem_reconcileWindowTag h
  cases hsame
  rfl

theorem exists_of_mem_tagCommands (h : command ∈ (tagCommands i).1) :
    ∃ add tag address, command = .tagWindow add tag address := by
  rcases mem_append.mp h with h | h
  · obtain ⟨add, address, hsame⟩ := exists_of_mem_reconcileWindowTag h
    exact ⟨add, _, address, hsame⟩
  · obtain ⟨add, address, hsame⟩ := exists_of_mem_reconcileWindowTag h
    exact ⟨add, _, address, hsame⟩

theorem tagsPlaced_of_commands (commands : List WindowCommand) (h : DistinctClients i.clients)
    (hcommands : ∀ add tag address,
      .tagWindow add tag address ∈ commands ↔ .tagWindow add tag address ∈ (tagCommands i).1) :
    TagsPlaced i.targets (i.clients.map fun window => commands.foldl obey window) := by
  have hne : gameInputBlockedTag ≠ interactiveTag := by decide
  refine ⟨fun t ht => ?_, fun _ hmem => ?_, fun _ hmem => ?_⟩
  · obtain ⟨-, hgame, hoverlay⟩ := targets_eq_some.mp ht
    have haddresses : (i.clients.map fun window => commands.foldl obey window).map
        (·.address) = i.clients.map (·.address) := by
      rw [map_map]
      exact map_congr_left fun window _ => address_foldl_obey window commands
    rw [haddresses]
    exact ⟨validatedGameAddress_listed hgame, mem_map_of_exactlyOne hoverlay⟩
  · obtain ⟨window, hwindow, rfl⟩ := mem_map.mp hmem
    have htext : i.targets.map (·.game.text) = (i.targets.map (·.game)).map (·.text) :=
      (Option.map_map _ _ _).symm
    rw [address_foldl_obey, htext]
    refine mem_tags_reconciled h hwindow fun add address => ?_
    rw [hcommands, mem_tagCommands]
    exact or_iff_left fun hother => hne (eq_of_mem_reconcileWindowTag hother)
  · obtain ⟨window, hwindow, rfl⟩ := mem_map.mp hmem
    have htext : i.targets.map (·.overlay.text) = (i.targets.map (·.overlay)).map (·.text) :=
      (Option.map_map _ _ _).symm
    rw [address_foldl_obey, htext]
    refine mem_tags_reconciled h hwindow fun add address => ?_
    rw [hcommands, mem_tagCommands]
    exact or_iff_right fun hother => hne (eq_of_mem_reconcileWindowTag hother).symm

/-! ### Focus -/

theorem mem_interactiveFocus {t : InteractionTargets} {inPlace : Bool}
    (h : command ∈ (s.interactiveFocus i t inPlace).1) :
    command = .focusWindow t.overlay ∧ inPlace = true ∧
      (i.active = none ∨ ∃ window, i.active = some window ∧ window.address = t.game.text) := by
  unfold FocusSyncState.interactiveFocus at h
  extract_lets overlayFocused gameFocused canTakeFocus shouldFocus at h
  split at h
  · next hfocus =>
    rw [Bool.and_eq_true, Bool.and_eq_true, Bool.and_eq_true, Bool.or_eq_true] at hfocus
    obtain ⟨hplace, ⟨-, htake⟩, -⟩ := hfocus
    refine ⟨mem_singleton.mp h, hplace, htake.imp Option.isNone_iff_eq_none.mp ?_⟩
    intro hgame
    obtain ⟨window, hwindow, haddress⟩ := (Option.any_eq_true _ _).mp hgame
    exact ⟨window, hwindow, beq_iff_eq.mp haddress⟩
  · cases h

theorem mem_passiveFocus (h : command ∈ (s.passiveFocus i).1) :
    i.snapshot.overlayMode = .passive ∧ i.managedTagsPresent = false ∧
      ∃ address, validatedGameAddress i.clients i.snapshot = some address ∧
        command = .focusWindow address := by
  unfold FocusSyncState.passiveFocus at h
  split at h
  · next hfocus =>
    obtain ⟨hmode, -, htags⟩ := hfocus
    obtain ⟨address, haddress, rfl⟩ := mem_map.mp h
    exact ⟨hmode, (Bool.not_eq_true' _).mp htags, address, Option.mem_toList.mp haddress, rfl⟩
  · cases h

theorem commands_focusPlan (s : FocusSyncState) (i : FocusStep) :
    (focusPlan s i).1.commands =
      (tagCommands i).1 ++ ((s.observeMode i.effectiveMode).moveFocus i).1 := rfl

/-- Only focus commands are added to those for the tags. -/
theorem tagWindow_mem_focusPlan {add : Bool} :
    .tagWindow add tag address ∈ (focusPlan s i).1.commands ↔
      .tagWindow add tag address ∈ (tagCommands i).1 := by
  rw [commands_focusPlan, mem_append]
  refine or_iff_left fun h => ?_
  unfold FocusSyncState.moveFocus at h
  split at h
  · cases (mem_interactiveFocus h).1
  · obtain ⟨-, -, _, -, hsame⟩ := mem_passiveFocus h
    cases hsame

theorem focusWindow_mem_focusPlan :
    .focusWindow address ∈ (focusPlan s i).1.commands ↔
      .focusWindow address ∈ ((s.observeMode i.effectiveMode).moveFocus i).1 := by
  rw [commands_focusPlan, mem_append]
  refine or_iff_right fun h => ?_
  obtain ⟨_, _, _, hsame⟩ := exists_of_mem_tagCommands h
  cases hsame

/-- An interactive overlay is focused only with the tags in place, and not away from another
application. -/
theorem interactive_focus (h : DistinctClients i.clients) (hmode : i.snapshot.overlayMode = .interactive)
    (hfocus : .focusWindow address ∈ (focusPlan s i).1.commands) :
    ∃ t, i.targets = some t ∧ address = t.overlay ∧ TagsPlaced i.targets i.clients ∧
      (i.active = none ∨ ∃ window, i.active = some window ∧ window.address = t.game.text) := by
  rw [focusWindow_mem_focusPlan, FocusSyncState.moveFocus] at hfocus
  split at hfocus
  · next t ht =>
    obtain ⟨hcommand, hplace, hactive⟩ := mem_interactiveFocus hfocus
    rw [Bool.and_eq_true, List.isEmpty_iff] at hplace
    cases hcommand
    have hplaced := tagsPlaced_of_commands [] h (by simp [hplace.2])
    rw [map_id''] at hplaced
    · exact ⟨t, ht, rfl, hplaced, hactive⟩
    · intro window
      rfl
  · next ht =>
    have hpassive := (mem_passiveFocus hfocus).1
    rw [hmode] at hpassive
    cases hpassive

theorem targets_of_passive (hmode : i.snapshot.overlayMode = .passive) : i.targets = none := by
  unfold FocusStep.targets
  rw [hmode]
  rfl

/-- In the passive mode only the validated game is focused, and only without the tags. -/
theorem passive_focus (hmode : i.snapshot.overlayMode = .passive)
    (hfocus : .focusWindow address ∈ (focusPlan s i).1.commands) :
    validatedGameAddress i.clients i.snapshot = some address ∧ i.managedTagsPresent = false := by
  rw [focusWindow_mem_focusPlan, FocusSyncState.moveFocus, targets_of_passive hmode] at hfocus
  obtain ⟨-, htags, other, hother, hsame⟩ := mem_passiveFocus hfocus
  cases hsame
  exact ⟨hother, htags⟩

/-- Is the command a focus command? -/
def WindowCommand.isFocus : WindowCommand → Bool
  | focusWindow _ => true
  | _ => false

/-- How many focus commands a plan has. -/
def FocusPlan.focusCount (plan : FocusPlan) : Nat := plan.commands.countP WindowCommand.isFocus

/-- How many focus commands a state may still give while the mode is passive. -/
def FocusSyncState.owed (s : FocusSyncState) : Nat :=
  if s.passiveFocusPending ∨ s.observedMode = some .interactive then 1 else 0

theorem focusCount_focusPlan (s : FocusSyncState) (i : FocusStep) :
    (focusPlan s i).1.focusCount =
      ((s.observeMode i.effectiveMode).moveFocus i).1.countP WindowCommand.isFocus := by
  unfold FocusPlan.focusCount
  rw [commands_focusPlan, countP_append, countP_eq_zero.mpr, Nat.zero_add]
  intro command hcommand
  obtain ⟨_, _, _, rfl⟩ := exists_of_mem_tagCommands hcommand
  exact Bool.false_ne_true

theorem owed_observeMode (s : FocusSyncState) :
    (s.observeMode .passive).owed ≤ s.owed ∧
      ((s.observeMode .passive).passiveFocusPending = true → s.owed = 1) ∧
      (s.observeMode .passive).observedMode = some .passive := by
  unfold FocusSyncState.observeMode FocusSyncState.owed
  split
  · next hmode => simp [hmode]
  · cases hmode : s.observedMode with
    | none => simp
    | some mode =>
      cases mode with
      | passive => simp
      | interactive => simp

/-- A focus command in the passive mode is paid for. -/
theorem focusCount_add_owed (hmode : i.snapshot.overlayMode = .passive) :
    (focusPlan s i).1.focusCount + (focusPlan s i).2.owed ≤ s.owed := by
  have htargets := targets_of_passive hmode
  have heffective : i.effectiveMode = .passive := by
    unfold FocusStep.effectiveMode
    rw [htargets]
    rfl
  have hstate : (focusPlan s i).2 = ((s.observeMode .passive).passiveFocus i).2 := by
    unfold focusPlan FocusSyncState.moveFocus
    rw [htargets, heffective]
  obtain ⟨hle, hpending, hobserved⟩ := owed_observeMode s
  rw [focusCount_focusPlan, hstate, heffective, FocusSyncState.moveFocus, htargets]
  dsimp only
  unfold FocusSyncState.passiveFocus
  split
  · next hfocus =>
    have hcount : ((validatedGameAddress i.clients i.snapshot).toList.map
        WindowCommand.focusWindow).countP WindowCommand.isFocus ≤ 1 := by
      refine Nat.le_trans countP_le_length ?_
      rw [length_map]
      exact Option.length_toList_le
    have howed : ({ s.observeMode .passive with
        passiveFocusPending := false } : FocusSyncState).owed = 0 := by
      unfold FocusSyncState.owed
      simp [hobserved]
    rw [hpending hfocus.2.1, howed]
    exact hcount
  · rw [countP_nil, Nat.zero_add]
    exact hle

theorem focusCount_passive_run {steps : List FocusStep}
    (hmode : ∀ i ∈ steps, i.snapshot.overlayMode = .passive) :
    ((Mealy.trace focusPlan s steps).map (·.2.focusCount)).sum +
      (Mealy.after focusPlan s steps).owed ≤ s.owed := by
  induction steps generalizing s with
  | nil => exact Nat.le_of_eq (Nat.zero_add _)
  | cons i steps ih =>
    have hstep := focusCount_add_owed (s := s) (hmode i mem_cons_self)
    have hrest := ih (s := (focusPlan s i).2) fun j hj => hmode j (mem_cons_of_mem _ hj)
    rw [Mealy.trace, map_cons, sum_cons]
    have hafter : Mealy.after focusPlan s (i :: steps) =
        Mealy.after focusPlan (focusPlan s i).2 steps := rfl
    rw [hafter]
    dsimp only
    omega

/-- Once a stretch of passive steps begins, at most one focus command is given, and none if there
was no interactive step before it. -/
theorem focusCount_after_interactive {before steps : List FocusStep}
    (hmode : ∀ i ∈ steps, i.snapshot.overlayMode = .passive) :
    ((Mealy.trace focusPlan (Mealy.after focusPlan {} before) steps).map (·.2.focusCount)).sum ≤
      if ∃ i ∈ before, i.snapshot.overlayMode = .interactive then 1 else 0 := by
  have hrun := focusCount_passive_run (s := Mealy.after focusPlan {} before) hmode
  split
  · have howed : (Mealy.after focusPlan {} before).owed ≤ 1 := by
      unfold FocusSyncState.owed
      split <;> omega
    omega
  · next hnone =>
    have hpassive : ∀ i ∈ before, i.snapshot.overlayMode = .passive := by
      intro i hi
      cases hi' : i.snapshot.overlayMode with
      | passive => rfl
      | interactive => exact absurd ⟨i, hi, hi'⟩ hnone
    have hbefore := focusCount_passive_run (s := {}) hpassive
    have hstart : ({} : FocusSyncState).owed = 0 := rfl
    omega

theorem clearCore_focusPlan (s : FocusSyncState) (i : FocusStep) :
    (focusPlan s i).1.clearCore = true ↔ i.snapshot.overlayMode = .interactive ∧
      (validatedGameAddress i.clients i.snapshot = none ∨ uniqueOverlayAddress i.clients = none) := by
  have hclear : (focusPlan s i).1.clearCore =
      decide (i.snapshot.overlayMode = .interactive ∧ i.targets = none) := rfl
  rw [hclear, decide_eq_true_eq]
  refine and_congr_right fun hmode => ?_
  unfold FocusStep.targets interactionTargets
  rw [if_pos hmode]
  cases validatedGameAddress i.clients i.snapshot with
  | none => simp
  | some game =>
    cases uniqueOverlayAddress i.clients with
    | none => simp
    | some overlay => simp

end Plan

/-- Executing a plan puts the tags in place. An interactive overlay is focused only with the tags
in place and no other application focused. In the passive mode the validated game is focused, at
most once after an interactive step and only without the tags. The game is given up exactly when
an interactive overlay has no targets. -/
theorem tags_and_focus :
    (∀ s i, DistinctClients i.clients →
      TagsPlaced i.targets ((focusPlan s i).1.commands.foldl Compositor.execute
        ⟨i.clients, i.active⟩).clients) ∧
    (∀ s i address, DistinctClients i.clients → i.snapshot.overlayMode = .interactive →
      .focusWindow address ∈ (focusPlan s i).1.commands →
        ∃ t, i.targets = some t ∧ address = t.overlay ∧ TagsPlaced i.targets i.clients ∧
          (i.active = none ∨ ∃ window, i.active = some window ∧ window.address = t.game.text)) ∧
    (∀ s i address, i.snapshot.overlayMode = .passive →
      .focusWindow address ∈ (focusPlan s i).1.commands →
        validatedGameAddress i.clients i.snapshot = some address ∧ i.managedTagsPresent = false) ∧
    (∀ before steps : List FocusStep, (∀ i ∈ steps, i.snapshot.overlayMode = .passive) →
      ((Mealy.trace focusPlan (Mealy.after focusPlan {} before) steps).map (·.2.focusCount)).sum ≤
        if ∃ i ∈ before, i.snapshot.overlayMode = .interactive then 1 else 0) ∧
    ∀ s i, (focusPlan s i).1.clearCore = true ↔ i.snapshot.overlayMode = .interactive ∧
      (validatedGameAddress i.clients i.snapshot = none ∨
        uniqueOverlayAddress i.clients = none) := by
  refine ⟨fun s i h => ?_, fun _ _ _ => interactive_focus, fun _ _ _ => passive_focus,
    fun _ _ => focusCount_after_interactive, clearCore_focusPlan⟩
  rw [clients_execute]
  exact tagsPlaced_of_commands _ h fun _ _ _ => tagWindow_mem_focusPlan

/-- The game and the overlay with the given tags, and nothing focused. -/
def sampleFocus (gameTags overlayTags : List String) : FocusStep where
  clients := [{ sampleWindow "0x10" "steam_app_1623730" 136279 (12, 36) with tags := gameTags },
    { sampleWindow "0x20" overlayAppId 42 (12, 36) with tags := overlayTags }]
  active := none
  snapshot := sampleSnapshot

theorem overlay_focused_with_tags :
    DistinctClients (sampleFocus [gameInputBlockedTag] [interactiveTag]).clients ∧
      (∃ address, .focusWindow address ∈
        (focusPlan {} (sampleFocus [gameInputBlockedTag] [interactiveTag])).1.commands) ∧
      TagsPlaced (sampleFocus [gameInputBlockedTag] [interactiveTag]).targets
        (sampleFocus [gameInputBlockedTag] [interactiveTag]).clients := by
  have hdistinct : DistinctClients (sampleFocus [gameInputBlockedTag] [interactiveTag]).clients :=
    ⟨by decide +kernel, by decide +kernel⟩
  have hfocus : .focusWindow ⟨"0x20", by decide +kernel⟩ ∈
      (focusPlan {} (sampleFocus [gameInputBlockedTag] [interactiveTag])).1.commands := by
    decide +kernel
  obtain ⟨t, -, -, hplaced, -⟩ := tags_and_focus.2.1 {} _ _ hdistinct rfl hfocus
  exact ⟨hdistinct, ⟨_, hfocus⟩, hplaced⟩

end OverCrow.Hyprland
