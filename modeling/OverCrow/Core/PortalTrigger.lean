import OverCrow.Config.Accelerator

/-!
# Triggers of the portal and keys of X11

`portal_trigger` of `crates/overcrow-core/src/shortcut.rs` and `parse_accelerator` of
`crates/overcrow-core/src/x11_shortcut.rs`, which reads the trigger again.
-/

namespace OverCrow.Core
open OverCrow.Base OverCrow.Config List

/-- `shortcut.rs:120`. -/
structure ShortcutError where
  message : String
  deriving DecidableEq

/-- `shortcut.rs:135`,
`x11_shortcut.rs:575`. -/
def invalidAccelerator : ShortcutError := ⟨"unsupported shortcut accelerator"⟩

/-- The ranks and names of the modifiers, `shortcut.rs:1248`. -/
def portalModifier : List Char → Option (Nat × List Char) :=
  modifierEntry "LOGO".toList "CTRL".toList "ALT".toList "SHIFT".toList

/-- The loop of `portal_trigger`, `shortcut.rs:1233`, over the parts still
to be read. -/
def portalTriggerParts (triggerParts : List (List Char)) (previousRank : Option Nat) :
    List (List Char) → Except ShortcutError String
  | [] => .error invalidAccelerator
  | [key] =>
    match key with
    | [c] =>
      if !isAsciiAlphanumeric c || triggerParts.isEmpty then .error invalidAccelerator
      else .ok (String.ofList (['+'].intercalate (triggerParts ++ [[asciiLower c]])))
    | _ => .error invalidAccelerator
  | part :: rest =>
    match portalModifier part with
    | none => .error invalidAccelerator
    | some (rank, normalized) =>
      if previousRank.any (rank ≤ ·) then .error invalidAccelerator
      else portalTriggerParts (triggerParts ++ [normalized]) (some rank) rest

/-- `shortcut.rs:1228`. -/
def portalTrigger (accelerator : String) : Except ShortcutError String :=
  portalTriggerParts [] none (accelerator.toList.splitOn '+')

/-- `x11_shortcut.rs:536`. -/
structure ParsedAccelerator where
  logo : Bool := false
  control : Bool := false
  alt : Bool := false
  shift : Bool := false
  key : UInt8 := 0
  deriving DecidableEq

/-- The loop of `parse_accelerator`, `x11_shortcut.rs:554`. A text of one
byte is one ASCII character. -/
def parseAcceleratorParts (parsed : ParsedAccelerator) :
    List (List Char) → Except ShortcutError ParsedAccelerator
  | [] => .error invalidAccelerator
  | [part] =>
    match part with
    | [c] =>
      if c.utf8Size = 1 then .ok { parsed with key := UInt8.ofNat c.toNat }
      else .error invalidAccelerator
    | _ => .error invalidAccelerator
  | part :: rest =>
    if part = "LOGO".toList then parseAcceleratorParts { parsed with logo := true } rest
    else if part = "CTRL".toList then parseAcceleratorParts { parsed with control := true } rest
    else if part = "ALT".toList then parseAcceleratorParts { parsed with alt := true } rest
    else if part = "SHIFT".toList then parseAcceleratorParts { parsed with shift := true } rest
    else .error invalidAccelerator

/-- `x11_shortcut.rs:544`. -/
def parseAccelerator (accelerator : String) : Except ShortcutError ParsedAccelerator :=
  (portalTrigger accelerator).bind fun trigger =>
    parseAcceleratorParts {} (trigger.toList.splitOn '+')

/-! ### What the readers make of an accelerator -/

/-- The modifier in a trigger. -/
def triggerName : Modifier → List Char
  | .logo => "LOGO".toList
  | .ctrl => "CTRL".toList
  | .alt => "ALT".toList
  | .shift => "SHIFT".toList

def triggerParts (modifiers : List Modifier) (key : Char) : List (List Char) :=
  modifiers.map triggerName ++ [[asciiLower key]]

/-- The trigger of an accelerator. -/
def triggerText (modifiers : List Modifier) (key : Char) : String :=
  String.ofList (['+'].intercalate (triggerParts modifiers key))

/-- The key of an accelerator on X11. -/
def parsedAccelerator (modifiers : List Modifier) (key : Char) : ParsedAccelerator where
  logo := modifiers.contains .logo
  control := modifiers.contains .ctrl
  alt := modifiers.contains .alt
  shift := modifiers.contains .shift
  key := UInt8.ofNat (asciiLower key).toNat

theorem portalModifier_eq (part : List Char) :
    portalModifier part = (Modifier.ofName part).map fun m => (m.rank, triggerName m) :=
  modifierEntry_eq triggerName part

theorem portalTriggerParts_singleton (collected : List (List Char)) (previousRank : Option Nat)
    (last : List Char) :
    portalTriggerParts collected previousRank [last] =
      match readKey last with
      | some key =>
        if collected.isEmpty then .error invalidAccelerator
        else .ok (String.ofList (['+'].intercalate (collected ++ [[asciiLower key]])))
      | none => .error invalidAccelerator := by
  match last with
  | [] => rfl
  | [c] =>
    rw [portalTriggerParts, readKey]
    cases isAsciiAlphanumeric c with
    | true => rw [Bool.not_true, Bool.false_or, if_pos rfl]
    | false => rfl
  | _ :: _ :: _ => rfl

theorem portalTriggerParts_eq (collected : List (List Char)) (previousRank : Option Nat)
    (init : List (List Char)) (last : List Char) :
    portalTriggerParts collected previousRank (init ++ [last]) =
      match readModifiers previousRank init with
      | some modifiers =>
        portalTriggerParts (collected ++ modifiers.map triggerName) none [last]
      | none => .error invalidAccelerator := by
  induction init generalizing collected previousRank with
  | nil =>
    rw [nil_append, readModifiers, portalTriggerParts_singleton]
    dsimp only
    rw [map_nil, append_nil, portalTriggerParts_singleton]
  | cons part init ih =>
    obtain ⟨next, rest, hrest⟩ := exists_cons_of_ne_nil (concat_ne_nil last init)
    rw [cons_append, hrest, portalTriggerParts, ← hrest, portalModifier_eq, readModifiers]
    · cases Modifier.ofName part with
      | none => rfl
      | some m =>
        rw [Option.map_some, Option.bind_some]
        dsimp only
        split
        · rfl
        · rw [ih]
          cases readModifiers (some m.rank) init with
          | none => rfl
          | some modifiers =>
            rw [Option.map_some]
            dsimp only
            rw [map_cons, append_assoc, singleton_append]
    · exact fun h => by cases h

/-- `portal_trigger` gives the trigger of what the text denotes. -/
theorem portalTrigger_eq (s : String) :
    portalTrigger s =
      match reading s with
      | some (modifiers, key) => .ok (triggerText modifiers key)
      | none => .error invalidAccelerator := by
  obtain ⟨init, last, hparts⟩ := exists_parts s
  rw [portalTrigger, reading_eq hparts, hparts, portalTriggerParts_eq, readParts]
  cases readModifiers none init with
  | none => rfl
  | some modifiers =>
    dsimp only
    rw [portalTriggerParts_singleton, Option.bind_some]
    cases readKey last with
    | none => rfl
    | some key =>
      cases modifiers with
      | nil => rfl
      | cons m rest => rfl

theorem plus_ne_asciiLower {c : Char} (h : isAsciiAlphanumeric c = true) :
    '+' ≠ asciiLower c :=
  forall_ascii (P := fun c => isAsciiAlphanumeric c = true → '+' ≠ asciiLower c) (by decide)
    (toNat_of_isAsciiAlphanumeric h) h

theorem utf8Size_asciiLower {c : Char} (h : isAsciiAlphanumeric c = true) :
    (asciiLower c).utf8Size = 1 :=
  forall_ascii (P := fun c => isAsciiAlphanumeric c = true → (asciiLower c).utf8Size = 1)
    (by decide) (toNat_of_isAsciiAlphanumeric h) h

/-- The parts of a trigger are read back from its text. -/
theorem splitOn_triggerText (modifiers : List Modifier) {key : Char}
    (h : isAsciiAlphanumeric key = true) :
    (triggerText modifiers key).toList.splitOn '+' = triggerParts modifiers key := by
  rw [triggerText, String.toList_ofList]
  refine splitOn_intercalate '+' (fun part hpart => ?_) (by simp [triggerParts])
  rcases mem_append.mp hpart with hmem | hmem
  · obtain ⟨m, -, rfl⟩ := mem_map.mp hmem
    cases m <;> decide
  · rw [mem_singleton.mp hmem, mem_singleton]
    exact plus_ne_asciiLower h

theorem parseAcceleratorParts_eq (parsed : ParsedAccelerator) (modifiers : List Modifier)
    {c : Char} (hc : c.utf8Size = 1) :
    parseAcceleratorParts parsed (modifiers.map triggerName ++ [[c]]) =
      .ok ⟨parsed.logo || modifiers.contains .logo, parsed.control || modifiers.contains .ctrl,
        parsed.alt || modifiers.contains .alt, parsed.shift || modifiers.contains .shift,
        UInt8.ofNat c.toNat⟩ := by
  induction modifiers generalizing parsed with
  | nil =>
    rw [map_nil, nil_append, parseAcceleratorParts, if_pos hc]
    simp
  | cons m modifiers ih =>
    obtain ⟨next, rest, hrest⟩ := exists_cons_of_ne_nil
      (concat_ne_nil [c] (modifiers.map triggerName))
    rw [map_cons, cons_append, hrest, parseAcceleratorParts, ← hrest]
    · cases m with
      | logo =>
        rw [if_pos (by decide), ih]
        simp
      | ctrl =>
        rw [if_neg (by decide), if_pos (by decide), ih]
        simp
      | alt =>
        rw [if_neg (by decide), if_neg (by decide), if_pos (by decide), ih]
        simp
      | shift =>
        rw [if_neg (by decide), if_neg (by decide), if_neg (by decide), if_pos (by decide), ih]
        simp
    · nofun

/-- `parse_accelerator` gives the key of what the text denotes. -/
theorem parseAccelerator_eq (s : String) :
    parseAccelerator s =
      match reading s with
      | some (modifiers, key) => .ok (parsedAccelerator modifiers key)
      | none => .error invalidAccelerator := by
  rw [parseAccelerator, portalTrigger_eq]
  cases hreading : reading s with
  | none => rfl
  | some denoted =>
    obtain ⟨a, hmodifiers, hkey, -⟩ := Accelerator.reading_eq_some.mp hreading
    have halphanumeric : isAsciiAlphanumeric denoted.2 = true := hkey ▸ a.alphanumeric
    change parseAcceleratorParts {} _ = _
    rw [splitOn_triggerText _ halphanumeric, triggerParts,
      parseAcceleratorParts_eq _ _ (utf8Size_asciiLower halphanumeric)]
    simp [parsedAccelerator]

/-- Accelerators have the same trigger exactly when they have the same modifiers and the same key
up to the case of an ASCII letter. -/
theorem triggerText_inj {modifiers others : List Modifier} {key other : Char}
    (hkey : isAsciiAlphanumeric key = true) (hother : isAsciiAlphanumeric other = true) :
    triggerText modifiers key = triggerText others other ↔
      modifiers = others ∧ asciiLower key = asciiLower other := by
  constructor
  · intro h
    have hparts : triggerParts modifiers key = triggerParts others other := by
      rw [← splitOn_triggerText modifiers hkey, h, splitOn_triggerText others hother]
    obtain ⟨hmodifiers, hlast⟩ := append_inj' hparts rfl
    have hinjective (m n : Modifier) (hname : triggerName m = triggerName n) : m = n := by
      cases m <;> cases n <;> first | rfl | exact absurd hname (by decide)
    exact ⟨(map_inj_right hinjective).mp hmodifiers,
      (cons.inj (cons.inj hlast).1).1⟩
  · rintro ⟨rfl, hsame⟩
    rw [triggerText, triggerText, triggerParts, triggerParts, hsame]

end OverCrow.Core
