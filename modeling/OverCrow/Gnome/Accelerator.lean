import Mathlib.Algebra.Group.Action.Defs
import Mathlib.Algebra.Order.BigOperators.Group.List
import Mathlib.Algebra.Order.Ring.Nat
import OverCrow.Config.Accelerator

/-!
# Accelerators of the GNOME extension

`gtkAccelerator` of `integrations/gnome/extension.js`.
-/

namespace OverCrow.Gnome
open OverCrow.Base OverCrow.Config List Option

/-- `extension.js:20`. -/
def maxShortcutTextCodeUnits : Nat := 128

/-- The length of a string in UTF-16 code units. -/
def codeUnits (text : List Char) : Nat :=
  (text.map fun c => if c.toNat < 0x10000 then 1 else 2).sum

/-- The ranks and names of the modifiers, `extension.js:113`. -/
def gtkModifier : List Char → Option (Nat × List Char) :=
  modifierEntry "<Super>".toList "<Control>".toList "<Alt>".toList "<Shift>".toList

/-- `extension.js:98`. The rank before the first modifier is
smaller than all of them. -/
def gtkAccelerator (accelerator : String) : Option String :=
  if codeUnits accelerator.toList = 0 ∨ maxShortcutTextCodeUnits < codeUnits accelerator.toList then
    none
  else
    let parts := accelerator.toList.splitOn '+'
    if parts.length < 2 ∨ 5 < parts.length then none
    else
      match parts.getLast? with
      | some [key] =>
        if !isAsciiAlphanumeric key then none
        else
          (scanModifiers gtkModifier (· ++ ·) none [] parts.dropLast).map fun normalized =>
            String.ofList (normalized ++ [asciiUpper key])
      | _ => none

/-! ### What the extension makes of an accelerator -/

def gtkName : Modifier → List Char
  | .logo => "<Super>".toList
  | .ctrl => "<Control>".toList
  | .alt => "<Alt>".toList
  | .shift => "<Shift>".toList

/-- The accelerator in the notation of GTK. -/
def gtkText (modifiers : List Modifier) (key : Char) : String :=
  String.ofList (modifiers.flatMap gtkName ++ [asciiUpper key])

theorem gtkModifier_eq (part : List Char) :
    gtkModifier part = (Modifier.ofName part).map fun m => (m.rank, gtkName m) :=
  modifierEntry_eq gtkName part

theorem codeUnits_append (s t : List Char) : codeUnits (s ++ t) = codeUnits s + codeUnits t := by
  unfold codeUnits
  rw [map_append, sum_append]

theorem codeUnits_intercalate_le (parts : List (List Char)) :
    codeUnits (['+'].intercalate parts) ≤ (parts.map (codeUnits · + 1)).sum := by
  induction parts with
  | nil => exact Nat.le_refl 0
  | cons part parts ih =>
    cases parts with
    | nil => simp [intercalate]
    | cons next rest =>
      rw [intercalate_cons_cons, codeUnits_append, codeUnits_append, map_cons,
        sum_cons]
      have hplus : codeUnits ['+'] = 1 := rfl
      omega

/-- An accelerator is far shorter than the bound. -/
theorem codeUnits_text_le (a : Accelerator) : codeUnits a.text.toList ≤ 30 := by
  have hlength : a.modifiers.length ≤ 4 :=
    length_add_le_of_pairwise (by decide) a.ordered fun _ _ => Nat.zero_le _
  have hparts : ∀ size ∈ a.parts.map (codeUnits · + 1), size ≤ 6 := by
    intro size hsize
    obtain ⟨part, hpart, rfl⟩ := mem_map.mp hsize
    rcases mem_append.mp hpart with hmem | hmem
    · obtain ⟨m, -, rfl⟩ := mem_map.mp hmem
      cases m <;> decide
    · rw [mem_singleton.mp hmem]
      unfold codeUnits
      rw [map_singleton, sum_singleton]
      split <;> omega
  have hsum := sum_le_card_nsmul _ 6 hparts
  have hcount : (a.parts.map (codeUnits · + 1)).length ≤ 5 := by
    rw [length_map, Accelerator.parts, length_append, length_map,
      length_singleton]
    omega
  rw [Accelerator.text, String.toList_ofList]
  have hle := codeUnits_intercalate_le a.parts
  rw [smul_eq_mul] at hsum
  omega

theorem codeUnits_eq_zero {text : List Char} (h : codeUnits text = 0) : text = [] := by
  cases text with
  | nil => rfl
  | cons c text =>
    unfold codeUnits at h
    rw [map_cons, sum_cons] at h
    split at h <;> omega

theorem foldl_append_gtkName (modifiers : List Modifier) (collected : List Char) :
    modifiers.foldl (fun collected m => collected ++ gtkName m) collected =
      collected ++ modifiers.flatMap gtkName := by
  induction modifiers generalizing collected with
  | nil => rw [foldl_nil, flatMap_nil, append_nil]
  | cons m modifiers ih => rw [foldl_cons, ih, flatMap_cons, append_assoc]

theorem gtkAccelerator_text (a : Accelerator) :
    gtkAccelerator a.text = some (gtkText a.modifiers a.key) := by
  have hunits : ¬ (codeUnits a.text.toList = 0 ∨
      maxShortcutTextCodeUnits < codeUnits a.text.toList) := by
    have hle := codeUnits_text_le a
    have hbound : maxShortcutTextCodeUnits = 128 := rfl
    rintro (hzero | hlong)
    · have hparts := a.splitOn_text
      rw [codeUnits_eq_zero hzero] at hparts
      have hlast := congrArg getLast? hparts
      rw [Accelerator.parts, getLast?_concat] at hlast
      cases hlast
    · omega
  have hlength : ¬ (a.parts.length < 2 ∨ 5 < a.parts.length) := by
    have hle := length_add_le_of_pairwise (by decide) a.ordered fun _ _ => Nat.zero_le _
    have hpos := length_pos_iff.mpr a.nonempty
    rw [Accelerator.parts, length_append, length_map, length_singleton]
    omega
  have hmodifiers : readModifiers none (a.modifiers.map Modifier.name) = some a.modifiers :=
    readModifiers_eq_some.mpr ⟨rfl, a.ordered, fun _ _ _ h => by cases h⟩
  unfold gtkAccelerator
  rw [if_neg hunits, a.splitOn_text, if_neg hlength, Accelerator.parts, getLast?_concat,
    dropLast_concat]
  dsimp only
  rw [a.alphanumeric, Bool.not_true, if_neg Bool.false_ne_true, scanModifiers_eq gtkModifier_eq,
    hmodifiers, map_some, map_some, foldl_append_gtkName, nil_append]
  rfl

/-- The extension gives the GTK text of what the accelerator denotes. -/
theorem gtkAccelerator_eq (s : String) :
    gtkAccelerator s = (reading s).map fun denoted => gtkText denoted.1 denoted.2 := by
  rcases exists_accelerator s with ⟨a, rfl⟩ | hnone
  · rw [gtkAccelerator_text, a.reading_text, map_some]
  · rw [hnone, map_none]
    obtain ⟨init, last, hparts⟩ := exists_parts s
    rw [reading_eq hparts, readParts] at hnone
    unfold gtkAccelerator
    dsimp only
    rw [hparts, getLast?_concat, dropLast_concat, scanModifiers_eq gtkModifier_eq]
    split
    · rfl
    split
    · rfl
    next hlength =>
    split
    · next key hlast =>
      cases hlast
      split
      · rfl
      · next hkey =>
        rw [Bool.not_eq_true, Bool.not_eq_false'] at hkey
        cases hmodifiers : readModifiers none init with
        | none => rfl
        | some modifiers =>
          rw [hmodifiers, bind_some, readKey_eq_some.mpr ⟨rfl, hkey⟩, bind_some] at hnone
          have hempty : modifiers = [] := by
            by_contra hne
            rw [if_neg hne] at hnone
            cases hnone
          rw [(readModifiers_eq_some.mp hmodifiers).1, hempty] at hlength
          exact absurd (.inl (by simp)) hlength
    · rfl

end OverCrow.Gnome
