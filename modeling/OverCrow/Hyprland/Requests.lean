import OverCrow.Base.Run
import OverCrow.Base.Task
import OverCrow.Hyprland.ShortcutSpec

/-!
# Requests for bindings

`ShortcutSpec::from_owned_binding` of `crates/overcrow-hyprland/src/shortcut.rs`, and the requests
that `sync_shortcuts_once` and `cleanup_shortcut_state_with` of
`crates/overcrow-hyprland/src/bridge.rs` dispatch for the lists they read. Whether a request is
dispatched depends on no answer to an earlier one, except that a failure is the end.
-/

namespace OverCrow.Hyprland
open OverCrow.Base OverCrow.Config List ShortcutSpec

/-- The table of `known_binding_identity`, `shortcut.rs:274`: the
actions with their legacy names and the descriptions of their bindings. -/
def knownIdentities : List (String × String × String) :=
  [(portalShortcutName, legacyPortalShortcutName, bindDescription),
    (toggleManualStopwatchPortalAction, legacyToggleManualStopwatchPortalAction,
      toggleManualStopwatchBindDescription),
    (resetManualStopwatchPortalAction, legacyResetManualStopwatchPortalAction,
      resetManualStopwatchBindDescription)]

/-- `shortcut.rs:273`. -/
def knownBindingIdentity (binding : HyprBinding) : Option (String × String) :=
  knownIdentities.findSome? fun (action, legacyAction, description) =>
    if (binding.arg = action ∨ binding.arg = legacyAction) ∧ binding.description = description then
      some (action, description)
    else none

/-- `shortcut.rs:153`. -/
def supportedMask : UInt32 := 64 ||| 4 ||| 8 ||| 1

/-- Some modifiers, and only those that OverCrow uses. -/
def SupportedMask (mask : UInt32) : Prop := mask ≠ 0 ∧ mask &&& ~~~supportedMask = 0

instance (mask : UInt32) : Decidable (SupportedMask mask) := instDecidableAnd

/-- `shortcut.rs:141`. -/
def ShortcutSpec.fromOwnedBinding (binding : HyprBinding) : Option ShortcutSpec :=
  if binding.dispatcher ≠ "global" then none
  else
    (knownBindingIdentity binding).bind fun (portalAction, description) =>
      match binding.key.toList with
      | [keyCharacter] =>
        if !isAsciiAlphanumeric keyCharacter then none
        else if binding.modmask = 0 ∨ binding.modmask &&& ~~~supportedMask ≠ 0 then none
        else
          let names := modifierMasks.filterMap fun (bit, name) =>
            if binding.modmask &&& bit ≠ 0 then some name else none
          some (.rendered portalAction description keyCharacter (binding.modmask, names))
      | _ => none

/-! ### Requests -/

/-- A request with the chord it is for. -/
inductive ShortcutRequest where
  | bind (spec : ShortcutSpec) (backend : ShortcutBackend) (action : String)
  | unbind (spec : ShortcutSpec) (backend : ShortcutBackend)
  deriving DecidableEq

/-- The text that is dispatched. -/
def ShortcutRequest.text : ShortcutRequest → String
  | bind spec backend action => spec.bindRequestForAction backend action
  | unbind spec backend => spec.unbindRequest backend

/-- The request that `plan` decides on. -/
def ShortcutReconciler.request (r : ShortcutReconciler) (desired : Bool)
    (globals : List GlobalShortcut) (bindings : List HyprBinding) : Option ShortcutRequest :=
  match (r.plan desired globals bindings).1, r.spec.advertisedPortalAction globals with
  | .bind _, some action => some (.bind r.spec r.backend action)
  | .unbind _, _ => some (.unbind r.spec r.backend)
  | _, _ => none

/-- The requests of the loop of `sync_shortcuts_once`. -/
def syncRequests (desired : Bool) (globals : List GlobalShortcut) (bindings : List HyprBinding)
    (probed : List (Bool × ShortcutReconciler)) : List ShortcutRequest :=
  probed.filterMap fun (probe, r) => if probe then r.request desired globals bindings else none

/-- The requests of the loop of `cleanup_shortcut_state_with`,
`bridge.rs:428`, over the bindings still to be looked at. -/
def cleanupLoop (backend : ShortcutBackend) (bindings : List HyprBinding) :
    List (UInt32 × String) → List HyprBinding → List ShortcutRequest
  | _, [] => []
  | processed, binding :: rest =>
    match fromOwnedBinding binding with
    | none => cleanupLoop backend bindings processed rest
    | some spec =>
      let identity := (spec.modmask, spec.key)
      if identity ∈ processed then cleanupLoop backend bindings processed rest
      else
        match bindings.filter spec.matchesAccelerator with
        | [matching] =>
          if spec.owns matching then
            .unbind spec backend :: cleanupLoop backend bindings (identity :: processed) rest
          else cleanupLoop backend bindings (identity :: processed) rest
        | _ => cleanupLoop backend bindings (identity :: processed) rest

/-- `cleanup_shortcut_state_with`, `bridge.rs:423`, on the bindings
that were read. -/
def cleanupRequests (backend : ShortcutBackend) (bindings : List HyprBinding) :
    List ShortcutRequest :=
  cleanupLoop backend bindings [] bindings

/-- `bridge.rs:604`. Without a supported
backend there are no reconcilers. -/
def prepareShortcutReconcilers (overlay : Option ShortcutSpec) (backend : Option ShortcutBackend) :
    Except ShortcutError (List ShortcutReconciler) :=
  match backend with
  | none => .ok []
  | some backend =>
    manualStopwatch.map fun stopwatch =>
      (overlay.toList ++ stopwatch).map fun spec => { spec, backend }

/-- What changes the reconcilers: a sync, with the answers of its queries if they succeed, and a
tick or a reloaded configuration, which invalidates them. -/
inductive ShortcutEvent where
  | sync (desired : Bool) (desktop : Option Desktop)
  | invalidate

/-- The reconcilers after an event. A sync that fails ends the bridge. -/
def ShortcutEvent.step (reconcilers : List ShortcutReconciler) :
    ShortcutEvent → Option (List ShortcutReconciler)
  | .sync desired desktop => syncShortcutsOnce desired desktop reconcilers
  | .invalidate => some (reconcilers.map ShortcutReconciler.invalidate)

/-! ### Identities and masks -/

variable {action description : String}

theorem legacyPortalAction_of_mem {legacyAction : String}
    (h : (action, legacyAction, description) ∈ knownIdentities) :
    legacyPortalAction action = some legacyAction := by
  simp only [knownIdentities, mem_cons, not_mem_nil, or_false, Prod.mk.injEq] at h
  rcases h with ⟨rfl, rfl, -⟩ | ⟨rfl, rfl, -⟩ | ⟨rfl, rfl, -⟩ <;> decide

variable {binding : HyprBinding}

/-- The descriptions tell the identities apart. -/
theorem knownBindingIdentity_eq_some :
    knownBindingIdentity binding = some (action, description) ↔
      ∃ legacyAction, (action, legacyAction, description) ∈ knownIdentities ∧
        (binding.arg = action ∨ binding.arg = legacyAction) ∧
        binding.description = description := by
  constructor
  · intro h
    obtain ⟨⟨_, legacyAction, _⟩, hmem, hfound⟩ := exists_of_findSome?_eq_some h
    obtain ⟨hmatches, hsame⟩ := Option.ite_none_right_eq_some.mp hfound
    cases hsame
    exact ⟨legacyAction, hmem, hmatches⟩
  · rintro ⟨legacyAction, hmem, harg, rfl⟩
    simp only [knownIdentities, mem_cons, not_mem_nil, or_false, Prod.mk.injEq] at hmem
    simp only [knownBindingIdentity, knownIdentities, findSome?_cons]
    rcases hmem with ⟨rfl, rfl, hdescription⟩ | ⟨rfl, rfl, hdescription⟩ | ⟨rfl, rfl, hdescription⟩
    · rw [hdescription, if_pos ⟨harg, rfl⟩]
    · rw [hdescription, if_neg fun h => absurd h.2 (by decide), if_pos ⟨harg, rfl⟩]
    · rw [hdescription, if_neg fun h => absurd h.2 (by decide),
        if_neg fun h => absurd h.2 (by decide), if_pos ⟨harg, rfl⟩]

theorem foldl_mask_and {bits : UInt32} (modifiers : List Modifier) (mask : UInt32)
    (h : mask &&& bits = 0) (hbits : ∀ m, modifierMask m &&& bits = 0) :
    modifiers.foldl (fun mask m => mask ||| modifierMask m) mask &&& bits = 0 := by
  induction modifiers generalizing mask with
  | nil => exact h
  | cons m modifiers ih =>
    refine ih _ ?_
    have hdistrib : (mask ||| modifierMask m) &&& bits = mask &&& bits ||| modifierMask m &&& bits :=
      UInt32.toBitVec_inj.mp BitVec.and_or_distrib_right
    rw [hdistrib, h, hbits]
    rfl

theorem supportedMask_modmaskOf {modifiers : List Modifier} (h : modifiers ≠ []) :
    SupportedMask (modmaskOf modifiers) := by
  refine ⟨fun hzero => ?_, foldl_mask_and modifiers 0 (by decide) fun m => by cases m <;> decide⟩
  obtain ⟨m, rest, rfl⟩ := exists_cons_of_ne_nil h
  have hbit : modmaskOf (m :: rest) &&& modifierMask m = 0 := by
    rw [hzero]
    exact UInt32.zero_and
  exact ((foldl_mask_bit m _ 0).mp hbit).2 mem_cons_self

/-- Every supported mask is that of an accelerator. -/
theorem exists_modifiers {mask : UInt32} (h : SupportedMask mask) :
    ∃ modifiers : List Modifier, modifiers ≠ [] ∧
      modifiers.Pairwise (fun a b => a.rank < b.rank) ∧ modmaskOf modifiers = mask := by
  let bitsOf (mask : UInt32) : List Modifier :=
    [.logo, .ctrl, .alt, .shift].filter fun m => mask &&& modifierMask m ≠ 0
  have hcheck : ∀ n : Fin 128, UInt32.ofNat n &&& ~~~supportedMask = 0 →
      modmaskOf (bitsOf (UInt32.ofNat n)) = UInt32.ofNat n := by decide +kernel
  have hsplit : mask &&& supportedMask ||| mask &&& ~~~supportedMask = mask := by
    have hdistrib : mask &&& (supportedMask ||| ~~~supportedMask) =
        mask &&& supportedMask ||| mask &&& ~~~supportedMask :=
      UInt32.toBitVec_inj.mp BitVec.and_or_distrib_left
    rw [← hdistrib, show supportedMask ||| ~~~supportedMask = -1 by decide, UInt32.and_neg_one]
  have hlt : mask.toNat < 128 := by
    rw [h.2, UInt32.or_zero] at hsplit
    rw [← hsplit, UInt32.toNat_and]
    exact Nat.lt_of_le_of_lt Nat.and_le_right (by decide)
  have hmask := hcheck ⟨mask.toNat, hlt⟩
  rw [UInt32.ofNat_toNat] at hmask
  refine ⟨bitsOf mask, fun hnil => h.1 ?_, List.Pairwise.filter _ (by decide), hmask h.2⟩
  rw [← hmask h.2, hnil]
  rfl

/-! ### Specifications -/

/-- What the specifications of the bridge and the cleanup have in common. -/
structure ShortcutSpec.Known (spec : ShortcutSpec) : Prop where
  identity : ∃ legacyAction, (spec.portalAction, legacyAction, spec.description) ∈ knownIdentities
  key : ∃ c, isAsciiAlphanumeric c = true ∧ spec.key = String.singleton (asciiUpper c)
  modmask : SupportedMask spec.modmask

variable {spec : ShortcutSpec}

theorem known_of_parse {accelerator legacyAction : String}
    (hmem : (action, legacyAction, description) ∈ knownIdentities)
    (h : parse accelerator action description = .ok spec) : spec.Known := by
  rw [parse_eq] at h
  split at h
  · next modifiers key hreading =>
    cases h
    obtain ⟨a, rfl, rfl, -⟩ := Accelerator.reading_eq_some.mp hreading
    exact ⟨⟨legacyAction, hmem⟩, ⟨a.key, a.alphanumeric, rfl⟩, supportedMask_modmaskOf a.nonempty⟩
  · cases h

theorem fromOwnedBinding_eq_some :
    fromOwnedBinding binding = some spec ↔
      binding.dispatcher = "global" ∧ SupportedMask binding.modmask ∧
      ∃ action description c, knownBindingIdentity binding = some (action, description) ∧
        binding.key.toList = [c] ∧ isAsciiAlphanumeric c = true ∧
        spec = .rendered action description c (binding.modmask,
          modifierMasks.filterMap fun (bit, name) =>
            if binding.modmask &&& bit ≠ 0 then some name else none) := by
  unfold fromOwnedBinding
  rw [Option.ite_none_left_eq_some, Option.bind_eq_some_iff, not_not]
  refine and_congr_right fun _ => ?_
  constructor
  · rintro ⟨⟨action, description⟩, hidentity, h⟩
    dsimp only at h
    split at h
    · next c hkey =>
      rw [Option.ite_none_left_eq_some, Option.ite_none_left_eq_some, not_or, not_not] at h
      obtain ⟨halphanumeric, hmask, hspec⟩ := h
      cases hspec
      exact ⟨hmask, action, description, c, hidentity, hkey, by simpa using halphanumeric, rfl⟩
    · cases h
  · rintro ⟨⟨hzero, hmask⟩, action, description, c, hidentity, hkey, halphanumeric, rfl⟩
    refine ⟨_, hidentity, ?_⟩
    simp only [hkey, halphanumeric, hzero, hmask, Bool.not_true, Bool.false_eq_true, ne_eq,
      not_true, or_false, if_false]

theorem known_of_fromOwnedBinding
    (h : fromOwnedBinding binding = some spec) : spec.Known := by
  obtain ⟨-, hmask, action, description, c, hidentity, -, halphanumeric, rfl⟩ :=
    fromOwnedBinding_eq_some.mp h
  obtain ⟨legacyAction, hmem, -⟩ := knownBindingIdentity_eq_some.mp hidentity
  exact ⟨⟨legacyAction, hmem⟩, ⟨c, halphanumeric, rfl⟩, hmask⟩

namespace ShortcutSpec

variable {spec : ShortcutSpec} {binding : HyprBinding}

theorem matchesAccelerator_iff :
    spec.matchesAccelerator binding = true ↔
      binding.modmask = spec.modmask ∧ binding.key = spec.key := by
  rw [matchesAccelerator, Bool.and_eq_true, beq_iff_eq, beq_iff_eq]

/-- A known specification owns the bindings of its identity that are spelled as its chord. -/
theorem Known.owns_iff (h : spec.Known) :
    spec.owns binding = true ↔
      spec.matchesAccelerator binding = true ∧ binding.dispatcher = "global" ∧
        knownBindingIdentity binding = some (spec.portalAction, spec.description) := by
  obtain ⟨legacyAction, hmem⟩ := h.identity
  have hidentity : knownBindingIdentity binding = some (spec.portalAction, spec.description) ↔
      (binding.arg = spec.portalAction ∨ binding.arg = legacyAction) ∧
        binding.description = spec.description := by
    rw [knownBindingIdentity_eq_some]
    constructor
    · rintro ⟨other, hother, harg, hdescription⟩
      have hsame := (legacyPortalAction_of_mem hmem).symm.trans (legacyPortalAction_of_mem hother)
      cases hsame
      exact ⟨harg, hdescription⟩
    · exact fun hmatches => ⟨legacyAction, hmem, hmatches⟩
  rw [owns, legacyPortalAction_of_mem hmem, Option.any_some, hidentity, ownsAction, ownsAction]
  simp only [Bool.or_eq_true, Bool.and_eq_true, beq_iff_eq]
  tauto

end ShortcutSpec

/-! ### What the reconcilers decide -/

namespace ShortcutReconciler

variable {r : ShortcutReconciler} {desired : Bool} {globals : List GlobalShortcut}
  {bindings : List HyprBinding}

/-- What holds of the bindings, as the reconciler compares them, when it decides on a request. -/
def Justified (spec : ShortcutSpec) (backend : ShortcutBackend) (globals : List GlobalShortcut)
    (bindings : List HyprBinding) : ShortcutDecision → Prop
  | .bind text => ∃ action, spec.advertisedPortalAction globals = some action ∧
      text = spec.bindRequestForAction backend action ∧
      bindings.filter spec.matchesAccelerator = []
  | .unbind text => text = spec.unbindRequest backend ∧
      ∃ binding, bindings.filter spec.matchesAccelerator = [binding] ∧ spec.owns binding = true
  | _ => True

theorem observeDesired_fixed (r : ShortcutReconciler) (desired : Bool) :
    (r.observeDesired desired).spec = r.spec ∧ (r.observeDesired desired).backend = r.backend := by
  unfold observeDesired
  split <;> exact ⟨rfl, rfl⟩

/-- One owned and no foreign binding is one binding, and it is owned. -/
theorem eq_singleton_of_counts {matching : List HyprBinding} {spec : ShortcutSpec}
    (howned : matching.countP spec.owns = 1)
    (hforeign : matching.length - matching.countP spec.owns = 0) :
    ∃ binding, matching = [binding] ∧ spec.owns binding = true := by
  have hle : matching.countP spec.owns ≤ matching.length := countP_le_length
  obtain ⟨binding, rfl⟩ := length_eq_one_iff.mp (by omega : matching.length = 1)
  refine ⟨binding, rfl, ?_⟩
  rw [countP_singleton] at howned
  by_contra hnot
  rw [if_neg hnot] at howned
  cases howned

theorem planUnbound_justified (r : ShortcutReconciler) (desired : Bool)
    (globals : List GlobalShortcut) (bindings : List HyprBinding) :
    Justified r.spec r.backend globals bindings
      (r.planUnbound desired ((bindings.filter r.spec.matchesAccelerator).countP r.spec.owns)
        ((bindings.filter r.spec.matchesAccelerator).length -
          (bindings.filter r.spec.matchesAccelerator).countP r.spec.owns)).1 := by
  unfold planUnbound
  split
  · cases desired with
    | false | true => exact trivial
  · next howned hforeign => exact ⟨rfl, eq_singleton_of_counts howned hforeign⟩
  · exact trivial

theorem planBound_justified {action : String}
    (hadvertised : r.spec.advertisedPortalAction globals = some action) :
    Justified r.spec r.backend globals bindings
      (r.planBound action (bindings.filter r.spec.matchesAccelerator)
        ((bindings.filter r.spec.matchesAccelerator).countP r.spec.owns)
        ((bindings.filter r.spec.matchesAccelerator).length -
          (bindings.filter r.spec.matchesAccelerator).countP r.spec.owns)).1 := by
  unfold planBound
  dsimp only
  split
  · exact trivial
  split
  · next h => exact ⟨rfl, eq_singleton_of_counts h.2.1 h.2.2⟩
  split
  · exact trivial
  · next hempty => exact ⟨action, hadvertised, rfl, isEmpty_iff.mp (not_not.mp hempty)⟩

theorem plan_justified (r : ShortcutReconciler) (desired : Bool) (globals : List GlobalShortcut)
    (bindings : List HyprBinding) :
    Justified r.spec r.backend globals bindings (r.plan desired globals bindings).1 := by
  obtain ⟨hspec, hbackend⟩ :=
    r.observeDesired_fixed (desired && (r.spec.advertisedPortalAction globals).isSome)
  unfold plan
  dsimp only
  rw [← hbackend]
  generalize r.observeDesired (desired && (r.spec.advertisedPortalAction globals).isSome) = r' at *
  rw [← hspec]
  split
  · next action hadvertised =>
    split
    · exact trivial
    · exact planBound_justified hadvertised
  · exact planUnbound_justified r' _ globals bindings

theorem planUnbound_spec (r : ShortcutReconciler) (desired : Bool) (owned foreign : Nat) :
    (r.planUnbound desired owned foreign).2.spec = r.spec := by
  unfold planUnbound
  split <;> rfl

theorem planBound_spec (r : ShortcutReconciler) (action : String) (matching : List HyprBinding)
    (owned foreign : Nat) : (r.planBound action matching owned foreign).2.spec = r.spec := by
  unfold planBound
  dsimp only
  split
  · rfl
  split
  · rfl
  split <;> rfl

theorem plan_spec (r : ShortcutReconciler) (desired : Bool) (globals : List GlobalShortcut)
    (bindings : List HyprBinding) : (r.plan desired globals bindings).2.spec = r.spec := by
  have hspec :=
    (r.observeDesired_fixed (desired && (r.spec.advertisedPortalAction globals).isSome)).1
  unfold plan
  dsimp only
  split
  · split
    · exact hspec
    · rw [planBound_spec, hspec]
  · rw [planUnbound_spec, hspec]

theorem needsProbe_spec (r : ShortcutReconciler) (desired : Bool) :
    (r.needsProbe desired).2.spec = r.spec := (r.observeDesired_fixed desired).1

theorem takeWarning_spec (r : ShortcutReconciler) : r.takeWarning.2.spec = r.spec := by
  unfold takeWarning
  split <;> rfl

/-- The request is the one that the decision carries. -/
theorem request_text (r : ShortcutReconciler) (desired : Bool) (globals : List GlobalShortcut)
    (bindings : List HyprBinding) :
    (r.request desired globals bindings).map ShortcutRequest.text =
      match (r.plan desired globals bindings).1 with
      | .bind text => some text
      | .unbind text => some text
      | _ => none := by
  have hjustified := r.plan_justified desired globals bindings
  unfold request
  cases hdecision : (r.plan desired globals bindings).1 with
  | bind text =>
    rw [hdecision] at hjustified
    obtain ⟨action, hadvertised, rfl, -⟩ := hjustified
    rw [hadvertised]
    rfl
  | unbind text =>
    rw [hdecision] at hjustified
    obtain ⟨rfl, -⟩ := hjustified
    rfl
  | idle | waitForPortal | conflict | ambiguousOwnership => rfl

end ShortcutReconciler

/-! ### What is dispatched -/

variable {desktop desktop' : Desktop}

theorem dispatch_eq_some {text : String} (h : desktop.dispatch text = some desktop') :
    desktop'.globalShortcuts = desktop.globalShortcuts ∧ desktop'.bindings = desktop.bindings ∧
      desktop'.dispatched = desktop.dispatched ++ [text] := by
  obtain ⟨-, hsome⟩ := Option.ite_none_left_eq_some.mp h
  cases hsome
  exact ⟨rfl, rfl, rfl⟩

variable {desired : Bool}

/-- What one round of the loop leaves. -/
theorem syncShortcut_eq_some
    {r r' : ShortcutReconciler} (h : syncShortcut desired desktop r = some (desktop', r')) :
    r'.spec = r.spec ∧ desktop'.globalShortcuts = desktop.globalShortcuts ∧
      desktop'.bindings = desktop.bindings ∧
      desktop'.dispatched = desktop.dispatched ++
        ((r.request desired desktop.globalShortcuts desktop.bindings).map
          ShortcutRequest.text).toList := by
  have hspec := r.plan_spec desired desktop.globalShortcuts desktop.bindings
  rw [r.request_text]
  unfold syncShortcut at h
  generalize r.plan desired desktop.globalShortcuts desktop.bindings = decided at h hspec
  obtain ⟨decision, next⟩ := decided
  cases decision with
  | bind | unbind =>
    obtain ⟨_, hdispatch, hsame⟩ := Option.map_eq_some_iff.mp h
    cases hsame
    exact ⟨hspec, dispatch_eq_some hdispatch⟩
  | conflict | ambiguousOwnership =>
    cases h
    exact ⟨next.takeWarning_spec.trans hspec, rfl, rfl, (append_nil _).symm⟩
  | idle | waitForPortal =>
    cases h
    exact ⟨hspec, rfl, rfl, (append_nil _).symm⟩

variable {probed : List (Bool × ShortcutReconciler)} {reconcilers : List ShortcutReconciler}

/-- A probed reconciler takes its round, then come the others. -/
theorem syncShortcuts_cons_eq_some {probe : Bool} {r : ShortcutReconciler}
    (h : syncShortcuts desired desktop ((probe, r) :: probed) = some (desktop', reconcilers)) :
    ∃ next r' rest,
      (if probe then syncShortcut desired desktop r else some (desktop, r)) = some (next, r') ∧
        syncShortcuts desired next probed = some (desktop', rest) ∧ reconcilers = r' :: rest := by
  rw [syncShortcuts] at h
  cases probe with
  | false =>
    obtain ⟨⟨_, rest⟩, hrest, hsame⟩ := Option.bind_eq_some_iff.mp h
    cases hsame
    exact ⟨desktop, r, rest, rfl, hrest, rfl⟩
  | true =>
    obtain ⟨⟨next, r'⟩, hround, h⟩ := Option.bind_eq_some_iff.mp h
    obtain ⟨⟨_, rest⟩, hrest, hsame⟩ := Option.bind_eq_some_iff.mp h
    cases hsame
    exact ⟨next, r', rest, hround, hrest, rfl⟩

/-- A sync that succeeds has dispatched its requests, in their order, and keeps the
specifications. -/
theorem syncShortcuts_eq_some
    (h : syncShortcuts desired desktop probed = some (desktop', reconcilers)) :
    reconcilers.map ShortcutReconciler.spec = probed.map (·.2.spec) ∧
      desktop'.dispatched = desktop.dispatched ++
        (syncRequests desired desktop.globalShortcuts desktop.bindings probed).map
          ShortcutRequest.text := by
  induction probed generalizing desktop reconcilers with
  | nil =>
    cases h
    exact ⟨rfl, (append_nil _).symm⟩
  | cons entry probed ih =>
    obtain ⟨probe, r⟩ := entry
    obtain ⟨next, r', rest, hround, hrest, rfl⟩ := syncShortcuts_cons_eq_some h
    obtain ⟨hspecs, hdispatched⟩ := ih hrest
    cases probe with
    | false =>
      cases hround
      exact ⟨congrArg _ hspecs, hdispatched⟩
    | true =>
      obtain ⟨hspec, hglobals, hbindings, hround⟩ := syncShortcut_eq_some hround
      refine ⟨congrArg₂ _ hspec hspecs, ?_⟩
      rw [hdispatched, hround, hglobals, hbindings, syncRequests, syncRequests, filterMap_cons]
      cases hrequest : r.request desired desktop.globalShortcuts desktop.bindings with
      | none | some => simp [hrequest]

/-- Events keep the specifications. -/
theorem ShortcutEvent.specs_step {reconcilers' : List ShortcutReconciler}
    {event : ShortcutEvent} (h : event.step reconcilers = some reconcilers') :
    reconcilers'.map ShortcutReconciler.spec = reconcilers.map ShortcutReconciler.spec := by
  cases event with
  | invalidate =>
    cases h
    rw [map_map]
    rfl
  | sync desired desktop =>
    have hprobed : (reconcilers.map fun r => r.needsProbe desired).map (·.2.spec) =
        reconcilers.map ShortcutReconciler.spec := by
      rw [map_map]
      exact map_congr_left fun r _ => r.needsProbe_spec desired
    change syncShortcutsOnce desired desktop reconcilers = some reconcilers' at h
    unfold syncShortcutsOnce at h
    dsimp only at h
    split at h
    · cases h
      rw [← hprobed, map_map]
      rfl
    · obtain ⟨desktop, -, h⟩ := Option.bind_eq_some_iff.mp h
      obtain ⟨_, hsync, rfl⟩ := Option.map_eq_some_iff.mp h
      rw [(syncShortcuts_eq_some hsync).1, hprobed]

/-! ### The bridge's specifications -/

variable {settings : ShortcutSettings}

theorem known_of_fromSettings
    (h : fromSettings settings = .ok (some spec)) : spec.Known := by
  unfold fromSettings at h
  split at h
  · cases h
  · obtain ⟨parsed, hparse, hsame⟩ := map_eq_ok.mp h
    cases hsame
    exact known_of_parse mem_cons_self hparse

theorem known_of_manualStopwatch {specs : List ShortcutSpec}
    (h : manualStopwatch = .ok specs) : ∀ spec ∈ specs, spec.Known := by
  obtain ⟨toggle, htoggle, h⟩ := bind_eq_ok.mp h
  obtain ⟨reset, hreset, h⟩ := bind_eq_ok.mp h
  cases h
  have htoggle := known_of_parse (mem_cons_of_mem _ mem_cons_self) htoggle
  have hreset := known_of_parse
    (mem_cons_of_mem _ (mem_cons_of_mem _ mem_cons_self)) hreset
  simpa using ⟨htoggle, hreset⟩

theorem known_of_prepare {overlay : Option ShortcutSpec}
    {backend : Option ShortcutBackend} {start : List ShortcutReconciler}
    (hsettings : fromSettings settings = .ok overlay)
    (hstart : prepareShortcutReconcilers overlay backend = .ok start) :
    ∀ spec ∈ start.map ShortcutReconciler.spec, spec.Known := by
  unfold prepareShortcutReconcilers at hstart
  cases backend with
  | none =>
    cases hstart
    nofun
  | some backend =>
    obtain ⟨stopwatch, hstopwatch, hsame⟩ := map_eq_ok.mp hstart
    cases hsame
    intro spec hmem
    rw [map_map, mem_map] at hmem
    obtain ⟨_, hmem, rfl⟩ := hmem
    rcases mem_append.mp hmem with hoverlay | hmem
    · rw [Option.mem_toList] at hoverlay
      rw [Option.mem_def.mp hoverlay] at hsettings
      exact known_of_fromSettings hsettings
    · exact known_of_manualStopwatch hstopwatch _ hmem

end OverCrow.Hyprland
