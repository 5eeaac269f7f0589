import OverCrow.Config.Accelerator
import OverCrow.Hyprland.Shortcut

/-!
# Shortcut specifications from accelerators

`ShortcutSpec::parse` of `crates/overcrow-hyprland/src/shortcut.rs` and the specifications that the
bridge starts with.
-/

namespace OverCrow.Hyprland
open OverCrow.Base OverCrow.Config List

/-- `shortcut.rs:31`. -/
structure ShortcutError where
  message : String
  deriving DecidableEq

/-- `shortcut.rs:36`. -/
def invalidAccelerator : ShortcutError := ⟨"unsupported shortcut accelerator"⟩

/-- The descriptions of the stopwatch's bindings, `shortcut.rs:12,17`. -/
def toggleManualStopwatchBindDescription : String := "OverCrow manual stopwatch start or pause"
def resetManualStopwatchBindDescription : String := "OverCrow manual stopwatch reset"

/-- The ranks, names and masks of the modifiers, `shortcut.rs:115`. -/
def specModifier : List Char → Option (Nat × String × UInt32) :=
  modifierEntry ("SUPER", 64) ("CTRL", 4) ("ALT", 8) ("SHIFT", 1)

namespace ShortcutSpec

/-- The specification with the mask and the rendered modifiers that were collected,
`shortcut.rs:129-138`. -/
def rendered (portalAction description : String) (key : Char)
    (collected : UInt32 × List String) : ShortcutSpec where
  keys := " + ".intercalate (collected.2 ++ [String.singleton (asciiUpper key)])
  key := String.singleton (asciiUpper key)
  modmask := collected.1
  portalAction
  description

/-- `shortcut.rs:90`. -/
def parse (accelerator portalAction description : String) : Except ShortcutError ShortcutSpec :=
  let parts := accelerator.toList.splitOn '+'
  if parts.length < 2 then .error invalidAccelerator
  else
    match parts.getLast? with
    | some [keyCharacter] =>
      if !isAsciiAlphanumeric keyCharacter then .error invalidAccelerator
      else
        let push (collected : UInt32 × List String) (modifier : String × UInt32) :=
          (collected.1 ||| modifier.2, collected.2 ++ [modifier.1])
        match scanModifiers specModifier push none (0, []) parts.dropLast with
        | some collected => .ok (rendered portalAction description keyCharacter collected)
        | none => .error invalidAccelerator
    | _ => .error invalidAccelerator

/-- `shortcut.rs:60`. -/
def fromSettings (settings : ShortcutSettings) : Except ShortcutError (Option ShortcutSpec) :=
  if !settings.enabled then .ok none
  else (parse settings.accelerator portalShortcutName bindDescription).map some

/-- `shortcut.rs:73`. -/
def manualStopwatch : Except ShortcutError (List ShortcutSpec) := do
  let toggle ← parse "Meta+Alt+P" toggleManualStopwatchPortalAction
    toggleManualStopwatchBindDescription
  let reset ← parse "Meta+Alt+R" resetManualStopwatchPortalAction
    resetManualStopwatchBindDescription
  return [toggle, reset]

end ShortcutSpec

/-! ### What `parse` makes of an accelerator -/

def modifierName : Modifier → String
  | .logo => "SUPER"
  | .ctrl => "CTRL"
  | .alt => "ALT"
  | .shift => "SHIFT"

def modifierMask : Modifier → UInt32
  | .logo => 64
  | .ctrl => 4
  | .alt => 8
  | .shift => 1

/-- The modifiers' masks together. -/
def modmaskOf (modifiers : List Modifier) : UInt32 :=
  modifiers.foldl (fun mask m => mask ||| modifierMask m) 0

/-- The specification of an accelerator. -/
def specOf (portalAction description : String) (modifiers : List Modifier) (key : Char) :
    ShortcutSpec :=
  .rendered portalAction description key (modmaskOf modifiers, modifiers.map modifierName)

theorem specModifier_eq (part : List Char) :
    specModifier part =
      (Modifier.ofName part).map fun m => (m.rank, modifierName m, modifierMask m) :=
  modifierEntry_eq (fun m => (modifierName m, modifierMask m)) part

theorem foldl_collected (modifiers : List Modifier) (mask : UInt32) (names : List String) :
    modifiers.foldl (fun (collected : UInt32 × List String) m =>
        (collected.1 ||| modifierMask m, collected.2 ++ [modifierName m])) (mask, names) =
      (modifiers.foldl (fun mask m => mask ||| modifierMask m) mask,
        names ++ modifiers.map modifierName) := by
  induction modifiers generalizing mask names with
  | nil => rw [map_nil, append_nil, foldl_nil, foldl_nil]
  | cons m modifiers ih =>
    rw [foldl_cons, ih, map_cons, append_assoc, singleton_append,
      foldl_cons]

/-- The mask has the bits of the modifiers. -/
theorem foldl_mask_bit (m : Modifier) (modifiers : List Modifier) (mask : UInt32) :
    modifiers.foldl (fun mask m => mask ||| modifierMask m) mask &&&
        modifierMask m = 0 ↔
      mask &&& modifierMask m = 0 ∧ m ∉ modifiers := by
  induction modifiers generalizing mask with
  | nil => simp
  | cons n modifiers ih =>
    have hdistrib : (mask ||| modifierMask n) &&& modifierMask m =
        mask &&& modifierMask m |||
          modifierMask n &&& modifierMask m :=
      UInt32.toBitVec_inj.mp BitVec.and_or_distrib_right
    have hbit : modifierMask n &&& modifierMask m = 0 ↔ m ≠ n := by
      cases n <;> cases m <;> decide
    rw [foldl_cons, ih, hdistrib, UInt32.or_eq_zero_iff, hbit, mem_cons, not_or,
      and_assoc]

/-- `parse` gives the specification of what the text denotes. -/
theorem ShortcutSpec.parse_eq (s portalAction description : String) :
    parse s portalAction description =
      match reading s with
      | some (modifiers, key) => .ok (specOf portalAction description modifiers key)
      | none => .error invalidAccelerator := by
  obtain ⟨init, last, hparts⟩ := exists_parts s
  unfold parse
  dsimp only
  rw [reading_eq hparts, hparts, getLast?_concat, dropLast_concat,
    scanModifiers_eq specModifier_eq, readParts, length_append, length_singleton]
  cases init with
  | nil =>
    rw [readModifiers, Option.bind_some]
    cases readKey last with
    | none => rfl
    | some key => rfl
  | cons part init =>
    rw [if_neg (by simp)]
    split
    · next c hlast =>
      cases hlast
      rw [readKey]
      cases isAsciiAlphanumeric c with
      | false =>
        cases readModifiers none (part :: init) with
        | none | some => rfl
      | true =>
        cases hmodifiers : readModifiers none (part :: init) with
        | none => rfl
        | some modifiers =>
          have hne : modifiers ≠ [] := by
            rintro rfl
            have hnames := (readModifiers_eq_some.mp hmodifiers).1
            cases hnames
          simp only [Option.map_some, Option.bind_some, if_pos, if_neg hne, Bool.not_true,
            Bool.false_eq_true, if_false]
          rw [foldl_collected, nil_append]
          rfl
    · next hlast =>
      have hkey : readKey last = none := by
        unfold readKey
        split
        · next c => exact absurd rfl (hlast c)
        · rfl
      rw [hkey]
      cases readModifiers none (part :: init) with
      | none | some => rfl

end OverCrow.Hyprland
