import Mathlib.Data.List.Sort
import OverCrow.Core.PortalTrigger
import OverCrow.Gnome.Accelerator
import OverCrow.Hyprland.ShortcutSpec

/-!
# One language of accelerators

The validation of the settings, the portal, X11, Hyprland and the GNOME extension read accelerators
on their own. All of them read the same language, and what each makes of an accelerator tells its
modifiers and its key.
-/

namespace OverCrow.Integration
open OverCrow.Base OverCrow.Config List Hyprland.ShortcutSpec

/-- The same modifiers and the same key up to the case of an ASCII letter. -/
def SameChord (a b : Accelerator) : Prop :=
  a.modifiers = b.modifiers ∧ asciiLower a.key = asciiLower b.key

/-- Every reader accepts the text as the accelerator. -/
structure Denotes (s : String) (a : Accelerator) : Prop where
  settings : acceleratorIsValid s = true
  portal : Core.portalTrigger s = .ok (Core.triggerText a.modifiers a.key)
  x11 : Core.parseAccelerator s = .ok (Core.parsedAccelerator a.modifiers a.key)
  hyprland : ∀ action description, parse s action description =
    .ok (Hyprland.specOf action description a.modifiers a.key)
  gnome : Gnome.gtkAccelerator s = some (Gnome.gtkText a.modifiers a.key)

/-- Every reader rejects the text. -/
structure Rejected (s : String) : Prop where
  settings : acceleratorIsValid s = false
  portal : Core.portalTrigger s = .error Core.invalidAccelerator
  x11 : Core.parseAccelerator s = .error Core.invalidAccelerator
  hyprland : ∀ action description, parse s action description =
    .error Hyprland.invalidAccelerator
  gnome : Gnome.gtkAccelerator s = none

theorem denotes_text (a : Accelerator) : Denotes a.text a where
  settings := by rw [acceleratorIsValid_eq, a.reading_text]; rfl
  portal := by rw [Core.portalTrigger_eq, a.reading_text]
  x11 := by rw [Core.parseAccelerator_eq, a.reading_text]
  hyprland _ _ := by rw [parse_eq, a.reading_text]
  gnome := by rw [Gnome.gtkAccelerator_eq, a.reading_text]; rfl

theorem rejected_of_reading {s : String} (h : reading s = none) : Rejected s where
  settings := by rw [acceleratorIsValid_eq, h]; rfl
  portal := by rw [Core.portalTrigger_eq, h]
  x11 := by rw [Core.parseAccelerator_eq, h]
  hyprland _ _ := by rw [parse_eq, h]
  gnome := by rw [Gnome.gtkAccelerator_eq, h]; rfl

/-! ### Equal results -/

/-- Modifiers in order are determined by which of them there are. -/
theorem modifiers_eq_of_mem_iff {a b : Accelerator}
    (h : ∀ m, m ∈ a.modifiers ↔ m ∈ b.modifiers) : a.modifiers = b.modifiers := by
  have hnodup (c : Accelerator) : c.modifiers.Nodup := c.ordered.imp fun {m n} hlt heq => by
    rw [heq] at hlt
    exact Nat.lt_irrefl _ hlt
  have hperm := (perm_ext_iff_of_nodup (hnodup a) (hnodup b)).mpr h
  exact hperm.eq_of_pairwise (fun _ _ _ _ hmn hnm => absurd hmn (Nat.lt_asymm hnm))
    a.ordered b.ordered

theorem asciiLower_asciiUpper {c : Char} (h : isAsciiAlphanumeric c = true) :
    asciiLower (asciiUpper c) = asciiLower c ∧ asciiUpper (asciiLower c) = asciiUpper c :=
  forall_ascii (P := fun c => asciiLower (asciiUpper c) = asciiLower c ∧
    asciiUpper (asciiLower c) = asciiUpper c) (by decide) (toNat_of_isAsciiAlphanumeric h)

/-- Keys agree in upper case exactly when they do in lower case. -/
theorem asciiUpper_eq_iff (a b : Accelerator) :
    asciiUpper a.key = asciiUpper b.key ↔ asciiLower a.key = asciiLower b.key := by
  have ha := asciiLower_asciiUpper a.alphanumeric
  have hb := asciiLower_asciiUpper b.alphanumeric
  constructor
  · intro h
    rw [← ha.1, h, hb.1]
  · intro h
    rw [← ha.2, h, hb.2]

theorem portal_inj (a b : Accelerator) :
    Core.portalTrigger a.text = Core.portalTrigger b.text ↔ SameChord a b := by
  rw [(denotes_text a).portal, (denotes_text b).portal, Except.ok.injEq]
  exact Core.triggerText_inj a.alphanumeric b.alphanumeric

theorem x11_inj (a b : Accelerator) :
    Core.parseAccelerator a.text = Core.parseAccelerator b.text ↔ SameChord a b := by
  rw [(denotes_text a).x11, (denotes_text b).x11, Except.ok.injEq]
  constructor
  · intro h
    obtain ⟨hlogo, hcontrol, halt, hshift, hkey⟩ := Core.ParsedAccelerator.mk.inj h
    refine ⟨modifiers_eq_of_mem_iff fun m => ?_, ?_⟩
    · rw [← contains_iff_mem, ← contains_iff_mem]
      cases m with
      | logo => rw [hlogo]
      | ctrl => rw [hcontrol]
      | alt => rw [halt]
      | shift => rw [hshift]
    · have hlower (c : Accelerator) : (asciiLower c.key).toNat < 128 :=
        forall_ascii (P := fun c => (asciiLower c).toNat < 128) (by decide)
          (toNat_of_isAsciiAlphanumeric c.alphanumeric)
      have hbytes := congrArg UInt8.toNat hkey
      rw [UInt8.toNat_ofNat', UInt8.toNat_ofNat'] at hbytes
      have ha := hlower a
      have hb := hlower b
      rw [← Char.ofNat_toNat (asciiLower a.key), ← Char.ofNat_toNat (asciiLower b.key)]
      congr 1
      omega
  · rintro ⟨hmodifiers, hkey⟩
    rw [Core.parsedAccelerator, Core.parsedAccelerator, hmodifiers, hkey]

theorem hyprland_inj (action description : String) (a b : Accelerator) :
    parse a.text action description =
      parse b.text action description ↔ SameChord a b := by
  rw [(denotes_text a).hyprland, (denotes_text b).hyprland, Except.ok.injEq]
  constructor
  · intro h
    have hmask : Hyprland.modmaskOf a.modifiers = Hyprland.modmaskOf b.modifiers :=
      congrArg modmask h
    have hkey : String.singleton (asciiUpper a.key) = String.singleton (asciiUpper b.key) :=
      congrArg key h
    refine ⟨modifiers_eq_of_mem_iff fun m => ?_, (asciiUpper_eq_iff a b).mp ?_⟩
    · have hbit (c : Accelerator) : Hyprland.modmaskOf c.modifiers &&& Hyprland.modifierMask m = 0 ↔
          m ∉ c.modifiers := by
        rw [Hyprland.modmaskOf, Hyprland.foldl_mask_bit]
        exact and_iff_right (by cases m <;> decide)
      rw [← not_iff_not, ← hbit a, hmask, hbit b]
    · have hlist := congrArg String.toList hkey
      rw [String.toList_singleton, String.toList_singleton] at hlist
      exact (cons.inj hlist).1
  · rintro ⟨hmodifiers, hkey⟩
    rw [Hyprland.specOf, Hyprland.specOf, rendered,
      rendered, hmodifiers, (asciiUpper_eq_iff a b).mpr hkey]

theorem flatMap_gtkName_inj {modifiers others : List Modifier}
    (h : modifiers.flatMap Gnome.gtkName = others.flatMap Gnome.gtkName) : modifiers = others := by
  have hne (m : Modifier) : Gnome.gtkName m ≠ [] := by
    cases m <;> decide
  induction modifiers generalizing others with
  | nil =>
    cases others with
    | nil => rfl
    | cons n others =>
      rw [flatMap_cons, flatMap_nil] at h
      exact absurd (append_eq_nil_iff.mp h.symm).1 (hne n)
  | cons m modifiers ih =>
    cases others with
    | nil =>
      rw [flatMap_cons, flatMap_nil] at h
      exact absurd (append_eq_nil_iff.mp h).1 (hne m)
    | cons n others =>
      rw [flatMap_cons, flatMap_cons] at h
      -- The third character tells the modifiers apart.
      have hstart (m : Modifier) (rest : List Char) :
          (Gnome.gtkName m ++ rest).take 3 = (Gnome.gtkName m).take 3 := by
        rw [take_append_of_le_length (by cases m <;> decide)]
      have htake := congrArg (take 3) h
      rw [hstart, hstart] at htake
      have hname : m = n := by
        revert htake
        cases m <;> cases n <;> decide
      subst hname
      rw [ih (append_cancel_left h)]

theorem gnome_inj (a b : Accelerator) :
    Gnome.gtkAccelerator a.text = Gnome.gtkAccelerator b.text ↔ SameChord a b := by
  rw [(denotes_text a).gnome, (denotes_text b).gnome, Option.some_inj, Gnome.gtkText,
    Gnome.gtkText]
  constructor
  · intro h
    have hlist := congrArg String.toList h
    rw [String.toList_ofList, String.toList_ofList] at hlist
    obtain ⟨hnames, hlast⟩ := append_inj' hlist rfl
    exact ⟨flatMap_gtkName_inj hnames, (asciiUpper_eq_iff a b).mp (cons.inj hlast).1⟩
  · rintro ⟨hmodifiers, hkey⟩
    rw [hmodifiers, (asciiUpper_eq_iff a b).mpr hkey]

/-- Every text is an accelerator to all readers or to none, and each reader tells two accelerators
apart exactly when their modifiers or their keys differ. -/
theorem one_accelerator_language :
    (∀ s, (∃ a : Accelerator, s = a.text ∧ Denotes s a) ∨ Rejected s) ∧
      ∀ a b : Accelerator,
        (Core.portalTrigger a.text = Core.portalTrigger b.text ↔ SameChord a b) ∧
        (Core.parseAccelerator a.text = Core.parseAccelerator b.text ↔ SameChord a b) ∧
        (∀ action description, parse a.text action description =
          parse b.text action description ↔ SameChord a b) ∧
        (Gnome.gtkAccelerator a.text = Gnome.gtkAccelerator b.text ↔ SameChord a b) := by
  refine ⟨fun s => ?_, fun a b => ⟨portal_inj a b, x11_inj a b,
    fun action description => hyprland_inj action description a b, gnome_inj a b⟩⟩
  rcases exists_accelerator s with ⟨a, rfl⟩ | hnone
  · exact .inl ⟨a, rfl, denotes_text a⟩
  · exact .inr (rejected_of_reading hnone)

end OverCrow.Integration
