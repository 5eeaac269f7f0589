import Mathlib.Data.Finset.Union
import OverCrow.Base.Task
import OverCrow.Core.Broker

/-!
# Shortcuts of X11 as keys and modifiers

`plan_bindings` and `activated_shortcut` of `crates/overcrow-core/src/x11_shortcut.rs`: the keyboard
of the server decides which keycode and which modifier bits an accelerator is. Every binding is
registered once for each combination of the lock modifiers, so that a registered chord is exactly
one that is recognised when the lock modifiers are disregarded.
-/

namespace OverCrow.Core.X11
open OverCrow.Base OverCrow.Core.Portal BitVec

abbrev Keycode := UInt8

abbrev Keysym := UInt32

/-- The modifier bits of an event. -/
abbrev ModMask := BitVec 16

/-- `x11_shortcut.rs:40`. -/
def modifierBits : List ModMask := (List.range 8).map (twoPow 16)

/-- `x11_shortcut.rs:50`. -/
def coreModifierMask : ModMask := 0x00ff

/-- `ModMask::SHIFT` and `ModMask::CONTROL`. -/
def shiftMask : ModMask := 1
def controlMask : ModMask := 4

/-- The keysyms of the modifiers, `x11_shortcut.rs:51-63`. -/
def superKeysyms : List Keysym := [0xffeb, 0xffec]
def metaKeysyms : List Keysym := [0xffe7, 0xffe8]
def altKeysyms : List Keysym := [0xffe9, 0xffea]
def lockKeysyms : List Keysym := [0xffe5, 0xff7f, 0xff14]
def shiftKeysyms : List Keysym := [0xffe1, 0xffe2]
def controlKeysyms : List Keysym := [0xffe3, 0xffe4]

/-! ### The keyboard -/

/-- `x11_shortcut.rs:579`. -/
structure KeyboardMap where
  minKeycode : Keycode
  keycodeCount : UInt8
  keysymsPerKeycode : Nat
  keysyms : List Keysym
  keysymsPerKeycode_ne : keysymsPerKeycode ≠ 0
  length_keysyms : keysyms.length = keycodeCount.toNat * keysymsPerKeycode

namespace KeyboardMap

/-- `x11_shortcut.rs:587`. -/
def new (minKeycode : Keycode) (keycodeCount keysymsPerKeycode : UInt8) (keysyms : List Keysym) :
    Except ShortcutError KeyboardMap :=
  if h : keysymsPerKeycode.toNat ≠ 0 ∧
      keysyms.length = keycodeCount.toNat * keysymsPerKeycode.toNat then
    .ok ⟨minKeycode, keycodeCount, keysymsPerKeycode.toNat, keysyms, h.1, h.2⟩
  else .error ⟨"native X11 keyboard mapping is invalid"⟩

/-- `KeyboardMap::keysyms`, `x11_shortcut.rs:608`. -/
def keysymsOf (keymap : KeyboardMap) (keycode : Keycode) : List Keysym :=
  if keymap.minKeycode ≤ keycode ∧ keycode - keymap.minKeycode < keymap.keycodeCount then
    let start := (keycode - keymap.minKeycode).toNat * keymap.keysymsPerKeycode
    (keymap.keysyms.drop start).take keymap.keysymsPerKeycode
  else []

/-- `x11_shortcut.rs:620`. -/
def keycodeForAscii (keymap : KeyboardMap) (key : UInt8) : Option Keycode :=
  let lower := if 65 ≤ key ∧ key ≤ 90 then key + 32 else key
  let upper := if 97 ≤ key ∧ key ≤ 122 then key - 32 else key
  ((List.range keymap.keycodeCount.toNat).map (keymap.minKeycode + UInt8.ofNat ·)).find?
    fun keycode => (keymap.keysymsOf keycode).any fun keysym =>
      keysym = lower.toUInt32 ∨ keysym = upper.toUInt32

end KeyboardMap

/-! ### The modifiers -/

/-- The modifiers to which a key with one of the keysyms is mapped,
`x11_shortcut.rs:656-687`. -/
def modifierMasks (keymap : KeyboardMap) (groups : List (List Keycode)) (keysyms : List Keysym) :
    List ModMask :=
  ((modifierBits.zip groups).filter fun (_, group) =>
    (group.filter (· ≠ 0)).any fun keycode =>
      (keymap.keysymsOf keycode).any (· ∈ keysyms)).map Prod.fst

variable {mask : ModMask}

theorem mem_modifierBits_of_mem_modifierMasks {keymap : KeyboardMap}
    {groups : List (List Keycode)} {keysyms : List Keysym}
    (h : mask ∈ modifierMasks keymap groups keysyms) : mask ∈ modifierBits := by
  obtain ⟨⟨_, group⟩, hmem, rfl⟩ := List.mem_map.mp h
  exact (List.of_mem_zip (List.mem_of_mem_filter hmem)).1

def modifierMappingInvalid : ShortcutError := ⟨"native X11 modifier mapping is invalid"⟩

def modifierMappingAmbiguous : ShortcutError := ⟨"native X11 modifier mapping is ambiguous"⟩

/-- `x11_shortcut.rs:726`. -/
def uniqueMask (masks : List ModMask) : Except ShortcutError (Option ModMask) :=
  if 1 < masks.length then .error modifierMappingAmbiguous else .ok masks.head?

/-- `x11_shortcut.rs:722`. -/
def uniqueRequiredMask (masks : List ModMask) : Except ShortcutError ModMask := do
  match ← uniqueMask masks with
  | some mask => return mask
  | none => .error modifierMappingInvalid

/-- `x11_shortcut.rs:633`. -/
structure ModifierMapping where
  logo : Option ModMask
  alt : Option ModMask
  lockMasks : List ModMask
  lockMasks_mem : ∀ mask ∈ lockMasks, mask ∈ modifierBits

/-- The field `ignored_lock_mask`, `x11_shortcut.rs:712`. -/
def ModifierMapping.ignoredLockMask (modifiers : ModifierMapping) : ModMask :=
  modifiers.lockMasks.foldl (· ||| ·) 0

/-- `x11_shortcut.rs:641`. -/
def ModifierMapping.fromKeycodes (keymap : KeyboardMap) (keycodes : List Keycode) :
    Except ShortcutError ModifierMapping :=
  let perModifier := keycodes.length / modifierBits.length
  if keycodes.length % modifierBits.length ≠ 0 ∨ perModifier = 0 then .error modifierMappingInvalid
  else do
    let groups := (List.range modifierBits.length).map fun index =>
      (keycodes.drop (index * perModifier)).take perModifier
    let superMasks := modifierMasks keymap groups superKeysyms
    let metaMasks := modifierMasks keymap groups metaKeysyms
    let altMasks := modifierMasks keymap groups altKeysyms
    let shiftMasks := modifierMasks keymap groups shiftKeysyms
    let controlMasks := modifierMasks keymap groups controlKeysyms
    if (← uniqueRequiredMask shiftMasks) ≠ shiftMask then .error modifierMappingInvalid
    if (← uniqueRequiredMask controlMasks) ≠ controlMask then .error modifierMappingInvalid
    if (modifierMasks keymap groups lockKeysyms).any
        (· ∈ shiftMasks ++ controlMasks ++ altMasks ++ superMasks ++ metaMasks) then
      .error modifierMappingAmbiguous
    let logo ← uniqueMask (if superMasks.isEmpty then metaMasks else superMasks)
    let alt ← uniqueMask altMasks
    return ⟨logo, alt, modifierMasks keymap groups lockKeysyms,
      fun _ => mem_modifierBits_of_mem_modifierMasks⟩

/-- `x11_shortcut.rs:735`. -/
def lockVariants (lockMasks : List ModMask) : Finset ModMask :=
  lockMasks.foldl (fun variants mask => variants ∪ variants.image (· ||| mask)) {0}

/-! ### The bindings -/

/-- `x11_shortcut.rs:445`. -/
structure NativeBinding where
  id : String
  keycode : Keycode
  modifiers : ModMask
  deriving DecidableEq

/-- `x11_shortcut.rs:452`. -/
structure GrabRegistration where
  keycode : Keycode
  modifiers : ModMask
  deriving DecidableEq

/-- `ok_or_else` with a message. -/
def okOr {α : Type} (message : String) : Option α → Except ShortcutError α
  | some a => .ok a
  | none => .error ⟨message⟩

/-- The bit of Meta, `x11_shortcut.rs:477-487`. -/
def logoMask (modifiers : ModifierMapping) (parsed : ParsedAccelerator) :
    Except ShortcutError ModMask :=
  if parsed.logo then do
    let logo ← okOr "native X11 Meta modifier is unavailable" modifiers.logo
    if parsed.alt ∧ modifiers.alt = some logo then .error modifierMappingAmbiguous
    else .ok logo
  else .ok 0

/-- The bit of Alt, `x11_shortcut.rs:491-495`. -/
def altMask (modifiers : ModifierMapping) (parsed : ParsedAccelerator) :
    Except ShortcutError ModMask :=
  if parsed.alt then okOr "native X11 Alt modifier is unavailable" modifiers.alt else .ok 0

/-- The modifier bits of an accelerator, `x11_shortcut.rs:476-503`. -/
def requiredMask (modifiers : ModifierMapping) (parsed : ParsedAccelerator) :
    Except ShortcutError ModMask := do
  let logo ← logoMask modifiers parsed
  let control := if parsed.control then controlMask else 0
  let alt ← altMask modifiers parsed
  let shift := if parsed.shift then shiftMask else 0
  let required := logo ||| control ||| alt ||| shift
  if required &&& modifiers.ignoredLockMask ≠ 0 then .error modifierMappingAmbiguous
  else .ok required

/-- The loop of `plan_bindings`, `x11_shortcut.rs:471-515`. -/
def planDefinitions (keymap : KeyboardMap) (modifiers : ModifierMapping)
    (nativeChords : Finset (Keycode × ModMask)) :
    List ShortcutDefinition → Except ShortcutError (List NativeBinding)
  | [] => .ok []
  | definition :: rest => do
    let parsed ← parseAccelerator definition.accelerator
    let keycode ← okOr "native X11 shortcut key is unavailable" (keymap.keycodeForAscii parsed.key)
    let required ← requiredMask modifiers parsed
    if (keycode, required) ∈ nativeChords then
      .error ⟨"native X11 shortcut accelerators resolve to the same key"⟩
    else do
      let bindings ← planDefinitions keymap modifiers (insert (keycode, required) nativeChords) rest
      return ⟨definition.id, keycode, required⟩ :: bindings

/-- `x11_shortcut.rs:744`. -/
def activatedShortcut (bindings : List NativeBinding) (keycode : Keycode) (state : ModMask)
    (ignoredLockMask : ModMask) : Option String :=
  let modifiers := (state &&& coreModifierMask) &&& ~~~ignoredLockMask
  (bindings.find? fun binding =>
    binding.keycode = keycode ∧ binding.modifiers = modifiers).map (·.id)

variable {modifiers : ModifierMapping}

/-- A binding never needs a lock modifier. -/
theorem requiredMask_and_ignoredLockMask {parsed : ParsedAccelerator}
    {required : ModMask} (h : requiredMask modifiers parsed = .ok required) :
    required &&& modifiers.ignoredLockMask = 0 := by
  obtain ⟨logo, -, h⟩ := bind_eq_ok.mp h
  obtain ⟨alt, -, h⟩ := bind_eq_ok.mp h
  dsimp only at h
  generalize logo ||| _ ||| alt ||| _ = mask at h
  split at h
  · cases h
  · next hlocks =>
    cases h
    exact not_not.mp hlocks

theorem and_ignoredLockMask_of_mem_planDefinitions {keymap : KeyboardMap}
    {nativeChords : Finset (Keycode × ModMask)}
    {definitions : List ShortcutDefinition} {bindings : List NativeBinding}
    (h : planDefinitions keymap modifiers nativeChords definitions = .ok bindings) :
    ∀ binding ∈ bindings, binding.modifiers &&& modifiers.ignoredLockMask = 0 := by
  induction definitions generalizing nativeChords bindings with
  | nil =>
    cases h
    nofun
  | cons definition rest ih =>
    obtain ⟨parsed, -, h⟩ := bind_eq_ok.mp h
    obtain ⟨keycode, -, h⟩ := bind_eq_ok.mp h
    obtain ⟨required, hrequired, h⟩ := bind_eq_ok.mp h
    split at h
    · cases h
    · obtain ⟨others, hothers, h⟩ := bind_eq_ok.mp h
      cases h
      exact List.forall_mem_cons.mpr ⟨requiredMask_and_ignoredLockMask hrequired, ih hothers⟩

/-! ### What is registered is what is recognised -/

/-- A modifier bit is in a mask or not. -/
theorem and_modifierBit (h : mask ∈ modifierBits) (v : ModMask) :
    v &&& mask = 0 ∨ v &&& mask = mask := by
  obtain ⟨i, -, rfl⟩ := List.mem_map.mp h
  rw [and_twoPow]
  split
  · exact .inr rfl
  · exact .inl rfl

/-- A mask is within the locks. -/
theorem and_not_eq_zero_iff {v locks : ModMask} :
    v &&& ~~~locks = 0 ↔ ∀ i, (hi : i < 16) → v[i] = true → locks[i] = true := by
  rw [BitVec.eq_of_getElem_eq_iff]
  exact forall₂_congr fun i hi => by simp

/-- Within the locks and one more: without that one, or with it added. -/
theorem and_not_or_eq_zero_iff {locks v : ModMask} (h : mask ∈ modifierBits) :
    v &&& ~~~(locks ||| mask) = 0 ↔
      v &&& ~~~locks = 0 ∨ ∃ w, w &&& ~~~locks = 0 ∧ w ||| mask = v := by
  simp only [and_not_eq_zero_iff, getElem_or, Bool.or_eq_true]
  constructor
  · intro hwithin
    rcases and_modifierBit h v with hnone | hall
    · refine .inl fun i hi hv => (hwithin i hi hv).resolve_right fun hmask => ?_
      have hbit : (v &&& mask)[i] = true := by simp [hv, hmask]
      simp [hnone] at hbit
    · refine .inr ⟨v &&& locks, fun i hi hv => ?_, ?_⟩
      · exact (Bool.and_eq_true_iff.mp (getElem_and hi ▸ hv)).2
      · ext i hi
        have hbit : (v &&& mask)[i] = mask[i] := by rw [hall]
        grind
  · rintro (hwithin | ⟨w, hwithin, rfl⟩) i hi hv
    · exact .inl (hwithin i hi hv)
    · rw [getElem_or, Bool.or_eq_true] at hv
      exact hv.imp_left (hwithin i hi)

/-- The combinations of the lock modifiers. -/
theorem mem_lockVariants {lockMasks : List ModMask} (h : ∀ mask ∈ lockMasks, mask ∈ modifierBits)
    (v : ModMask) : v ∈ lockVariants lockMasks ↔ v &&& ~~~lockMasks.foldl (· ||| ·) 0 = 0 := by
  suffices hgeneral : ∀ (variants : Finset ModMask) (locks : ModMask),
      (∀ v, v ∈ variants ↔ v &&& ~~~locks = 0) → ∀ v,
        v ∈ lockMasks.foldl (fun variants mask => variants ∪ variants.image (· ||| mask)) variants ↔
          v &&& ~~~lockMasks.foldl (· ||| ·) locks = 0 from
    hgeneral {0} 0 (fun v => by
      change _ ↔ v &&& allOnes 16 = 0
      rw [Finset.mem_singleton, and_allOnes]) v
  induction lockMasks with
  | nil => exact fun _ _ hvariants => hvariants
  | cons mask rest ih =>
    obtain ⟨hmask, hrest⟩ := List.forall_mem_cons.mp h
    intro variants locks hvariants
    refine ih hrest _ _ fun v => ?_
    rw [Finset.mem_union, Finset.mem_image, hvariants, and_not_or_eq_zero_iff hmask]
    exact or_congr_right (exists_congr fun w => and_congr_left fun _ => hvariants w)

/-- `x11_shortcut.rs:457`: no binding has a lock modifier,
and each is registered with every combination of them. -/
structure BindingPlan where
  bindings : List NativeBinding
  registrations : Finset GrabRegistration
  ignoredLockMask : ModMask
  and_ignoredLockMask : ∀ binding ∈ bindings, binding.modifiers &&& ignoredLockMask = 0
  mem_registrations : ∀ registration, registration ∈ registrations ↔
    ∃ binding ∈ bindings, ∃ locks, locks &&& ~~~ignoredLockMask = 0 ∧
      GrabRegistration.mk binding.keycode (binding.modifiers ||| locks) = registration

/-- `x11_shortcut.rs:463`. -/
def planBindings (definitions : List ShortcutDefinition) (keymap : KeyboardMap)
    (modifierKeycodes : List Keycode) : Except ShortcutError BindingPlan := do
  let modifiers ← ModifierMapping.fromKeycodes keymap modifierKeycodes
  match h : planDefinitions keymap modifiers ∅ definitions with
  | .error error => .error error
  | .ok bindings =>
    return {
      bindings
      registrations := bindings.toFinset.biUnion fun binding =>
        (lockVariants modifiers.lockMasks).image fun locks =>
          ⟨binding.keycode, binding.modifiers ||| locks⟩
      ignoredLockMask := modifiers.ignoredLockMask
      and_ignoredLockMask := and_ignoredLockMask_of_mem_planDefinitions h
      mem_registrations := by
        simp [mem_lockVariants modifiers.lockMasks_mem, ModifierMapping.ignoredLockMask] }

/-- The server has a grab for the key with the modifiers of an event. -/
def BindingPlan.Registered (plan : BindingPlan) (keycode : Keycode) (state : ModMask) : Prop :=
  ⟨keycode, state &&& coreModifierMask⟩ ∈ plan.registrations

instance (plan : BindingPlan) (keycode : Keycode) (state : ModMask) :
    Decidable (plan.Registered keycode state) :=
  inferInstanceAs (Decidable (_ ∈ _))

/-- The registered chords are those of the bindings up to the lock modifiers. -/
theorem BindingPlan.registered_iff {plan : BindingPlan} {keycode : Keycode} {state : ModMask} :
    plan.Registered keycode state ↔ ∃ binding ∈ plan.bindings, binding.keycode = keycode ∧
      binding.modifiers = (state &&& coreModifierMask) &&& ~~~plan.ignoredLockMask := by
  rw [Registered, plan.mem_registrations]
  refine exists_congr fun binding => and_congr_right fun hmem => ?_
  have hlocks := plan.and_ignoredLockMask binding hmem
  constructor
  · rintro ⟨locks, hwithin, hregistration⟩
    obtain ⟨hkeycode, hmodifiers⟩ := GrabRegistration.mk.inj hregistration
    refine ⟨hkeycode, ?_⟩
    rw [← hmodifiers]
    ext i hi
    have hbit : (binding.modifiers &&& plan.ignoredLockMask)[i] = false := by simp [hlocks]
    have hlock := and_not_eq_zero_iff.mp hwithin i hi
    grind
  · rintro ⟨rfl, hmodifiers⟩
    refine ⟨state &&& coreModifierMask &&& plan.ignoredLockMask, ?_, ?_⟩
    · exact and_not_eq_zero_iff.mpr fun i hi hv =>
        (Bool.and_eq_true_iff.mp (getElem_and hi ▸ hv)).2
    · congr 1
      ext i hi
      grind

end OverCrow.Core.X11
