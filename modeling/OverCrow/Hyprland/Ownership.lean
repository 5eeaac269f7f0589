import OverCrow.Hyprland.Requests

/-!
# Ownership of bindings

Hyprland compares the keys of chords without regard to the case of ASCII letters. The reconcilers
compare them as they are, and `from_owned_binding` makes them upper case first, so that a binding
that is spelled in lower case is not seen to be on its chord.
-/

namespace OverCrow.Hyprland
open OverCrow.Base OverCrow.Config List ShortcutSpec ShortcutReconciler

/-! ### Ownership -/

/-- The binding is on the chord as Hyprland compares chords. -/
def ShortcutSpec.onChord (spec : ShortcutSpec) (binding : HyprBinding) : Bool :=
  binding.modmask == spec.modmask && toAsciiLowercase binding.key == toAsciiLowercase spec.key

/-- OverCrow's own bindings. -/
def HyprBinding.own (binding : HyprBinding) : Bool :=
  binding.dispatcher == "global" && (knownBindingIdentity binding).isSome

/-- What a request requires of the lists that were read. -/
def ShortcutRequest.Allowed (globals : List GlobalShortcut) (bindings : List HyprBinding) :
    ShortcutRequest → Prop
  | bind spec _ action =>
    bindings.filter spec.onChord = [] ∧ ∃ shortcut ∈ globals, shortcut.name = action
  | unbind spec _ => ∃ binding, bindings.filter spec.onChord = [binding] ∧ binding.own = true

/-- Ownership is respected whenever these bindings are read. -/
structure Respected (bindings : List HyprBinding) : Prop where
  /-- By a sync at any point of a run of the bridge. -/
  sync : ∀ settings overlay backend start reconcilers,
    fromSettings settings = .ok overlay →
    prepareShortcutReconcilers overlay backend = .ok start →
    Reaches ShortcutEvent.step start reconcilers →
    ∀ desired globals, ∀ request ∈ syncRequests desired globals bindings
        (reconcilers.map fun r => r.needsProbe desired),
      request.Allowed globals bindings
  /-- By the cleanup. -/
  cleanup : ∀ backend, ∀ request ∈ cleanupRequests backend bindings,
    request.Allowed [] bindings
  /-- The cleanup unbinds what is OverCrow's and alone on its chord. -/
  complete : ∀ backend, ∀ binding ∈ bindings, ∀ spec,
    fromOwnedBinding binding = some spec →
    bindings.filter spec.onChord = [binding] →
    .unbind spec backend ∈ cleanupRequests backend bindings
  /-- What is recognised is owned. -/
  owned : ∀ binding ∈ bindings, ∀ spec,
    fromOwnedBinding binding = some spec → spec.owns binding = true

/-- `char::is_ascii_lowercase`. -/
def isAsciiLowercase (c : Char) : Bool := 'a' ≤ c && c ≤ 'z'

/-- A binding on a chord of an accelerator, with its letter in lower case. -/
def HyprBinding.LowerCase (binding : HyprBinding) : Prop :=
  SupportedMask binding.modmask ∧ ∃ c, binding.key.toList = [c] ∧ isAsciiLowercase c = true

/-- The bindings on the same chord with the letter in upper case. -/
def HyprBinding.twins (bindings : List HyprBinding) (binding : HyprBinding) : List HyprBinding :=
  bindings.filter fun other =>
    other.modmask == binding.modmask && other.key.toList == binding.key.toList.map asciiUpper

/-- A binding in lower case is not OverCrow's, and those in upper case on its chord are neither
missing nor a single one of OverCrow's. -/
def Unambiguous (bindings : List HyprBinding) : Prop :=
  ∀ binding ∈ bindings, binding.LowerCase →
    binding.own = false ∧ binding.twins bindings ≠ [] ∧
      ∀ other, binding.twins bindings = [other] → other.own = false

/-! ### Letters -/

variable {c : Char}

theorem isAsciiAlphanumeric_of_isAsciiLowercase (h : isAsciiLowercase c = true) :
    isAsciiAlphanumeric c = true := by
  rw [isAsciiAlphanumeric, Bool.or_eq_true, Bool.or_eq_true]
  exact .inl (.inr h)

theorem isAsciiAlphanumeric_asciiUpper (h : isAsciiLowercase c = true) :
    isAsciiAlphanumeric (asciiUpper c) = true := by
  have hascii := toNat_of_isAsciiAlphanumeric (isAsciiAlphanumeric_of_isAsciiLowercase h)
  revert h
  exact forall_ascii (P := fun c => isAsciiLowercase c = true →
    isAsciiAlphanumeric (asciiUpper c) = true) (by decide) hascii

/-- The letters that agree with an upper-case one are that one and its lower case. -/
theorem asciiLower_eq_iff {d : Char} (hc : isAsciiAlphanumeric c = true) :
    asciiLower d = asciiLower (asciiUpper c) ↔
      d = asciiUpper c ∨ isAsciiLowercase d = true ∧ asciiUpper d = asciiUpper c := by
  have hcascii := toNat_of_isAsciiAlphanumeric hc
  have hback : asciiUpper (asciiLower (asciiUpper c)) = asciiUpper c :=
    forall_ascii (P := fun c => asciiUpper (asciiLower (asciiUpper c)) = asciiUpper c)
      (by decide +kernel) hcascii
  constructor
  · intro h
    by_cases hupper : 'A' ≤ d ∧ d ≤ 'Z'
    · have halphanumeric : isAsciiAlphanumeric d = true := by simp [isAsciiAlphanumeric, hupper]
      have hround : asciiUpper (asciiLower d) = d := by
        revert hupper
        exact forall_ascii (P := fun d => 'A' ≤ d ∧ d ≤ 'Z' → asciiUpper (asciiLower d) = d)
          (by decide) (toNat_of_isAsciiAlphanumeric halphanumeric)
      exact .inl (by rw [← hround, h, hback])
    · rw [asciiLower, if_neg hupper] at h
      subst h
      exact forall_ascii (P := fun c => asciiLower (asciiUpper c) = asciiUpper c ∨
        isAsciiLowercase (asciiLower (asciiUpper c)) = true ∧
          asciiUpper (asciiLower (asciiUpper c)) = asciiUpper c) (by decide +kernel) hcascii
  · rintro (rfl | ⟨hlower, hsame⟩)
    · rfl
    · have hdascii := toNat_of_isAsciiAlphanumeric (isAsciiAlphanumeric_of_isAsciiLowercase hlower)
      rw [← hsame]
      revert hlower
      exact forall_ascii (P := fun d => isAsciiLowercase d = true →
        asciiLower d = asciiLower (asciiUpper d)) (by decide) hdascii

variable {binding : HyprBinding} {spec : ShortcutSpec}

theorem own_of_fromOwnedBinding
    (h : fromOwnedBinding binding = some spec) : binding.own = true := by
  obtain ⟨hdispatcher, -, action, description, c, hidentity, -⟩ := fromOwnedBinding_eq_some.mp h
  rw [HyprBinding.own, hdispatcher, hidentity]
  rfl

namespace ShortcutSpec

variable {spec : ShortcutSpec} {binding : HyprBinding}

theorem Known.own_of_owns (h : spec.Known) (howns : spec.owns binding = true) :
    binding.own = true := by
  obtain ⟨-, hdispatcher, hidentity⟩ := h.owns_iff.mp howns
  rw [HyprBinding.own, hdispatcher, hidentity]
  rfl

/-- On the chord are the bindings that are spelled as it is, and those in lower case. -/
theorem Known.onChord_iff (h : spec.Known) :
    spec.onChord binding = true ↔
      spec.matchesAccelerator binding = true ∨
        binding.modmask = spec.modmask ∧ binding.LowerCase ∧
          binding.key.toList.map asciiUpper = spec.key.toList := by
  obtain ⟨c, hc, hkey⟩ := h.key
  have hsame : binding.key = spec.key ↔ binding.key.toList = [asciiUpper c] := by
    rw [← String.toList_inj, hkey, String.toList_singleton]
  rw [onChord, matchesAccelerator_iff, Bool.and_eq_true, beq_iff_eq, beq_iff_eq, ← and_or_left,
    hsame, toAsciiLowercase, toAsciiLowercase, hkey, String.toList_singleton, map_singleton,
    map_eq_singleton_iff, map_eq_singleton_iff]
  refine and_congr_right fun hmask => ?_
  constructor
  · rintro ⟨d, hd, hlower⟩
    rcases (asciiLower_eq_iff hc).mp hlower with rfl | ⟨hlower, hupper⟩
    · exact .inl hd
    · exact .inr ⟨⟨hmask ▸ h.modmask, d, hd, hlower⟩, d, hd, hupper⟩
  · rintro (hd | ⟨⟨-, d, hd, hlower⟩, d', hd', hupper⟩)
    · exact ⟨_, hd, rfl⟩
    · cases hd.symm.trans hd'
      exact ⟨d, hd, (asciiLower_eq_iff hc).mpr (.inr ⟨hlower, hupper⟩)⟩

theorem Known.onChord_of_matchesAccelerator (h : spec.Known)
    (hmatches : spec.matchesAccelerator binding = true) : spec.onChord binding = true :=
  h.onChord_iff.mpr (.inl hmatches)

/-- No binding in lower case is spelled as the chord. -/
theorem Known.not_lowerCase (h : spec.Known) (hmatches : spec.matchesAccelerator binding = true) :
    ¬binding.LowerCase := by
  rintro ⟨-, d, hd, hlower⟩
  obtain ⟨c, hc, hkey⟩ := h.key
  rw [(matchesAccelerator_iff.mp hmatches).2, hkey, String.toList_singleton] at hd
  cases hd
  have hascii := toNat_of_isAsciiAlphanumeric hc
  exact forall_ascii (P := fun c => isAsciiLowercase (asciiUpper c) ≠ true) (by decide) hascii hlower

/-- For a binding in lower case on the chord, the twins are those that are spelled as the
chord. -/
theorem twins_eq {bindings : List HyprBinding} (hmask : binding.modmask = spec.modmask)
    (hkey : binding.key.toList.map asciiUpper = spec.key.toList) :
    binding.twins bindings = bindings.filter spec.matchesAccelerator := by
  refine filter_congr fun other _ => ?_
  rw [hmask, hkey, matchesAccelerator, Bool.eq_iff_iff]
  simp only [Bool.and_eq_true, beq_iff_eq, String.toList_inj]

end ShortcutSpec

variable {bindings : List HyprBinding}

/-- Where the bindings are unambiguous, none or one of OverCrow's that is spelled as the chord is
all that is on it. -/
theorem filter_onChord_of_unambiguous (hbindings : Unambiguous bindings) (hspec : spec.Known)
    (h : bindings.filter spec.matchesAccelerator = [] ∨
      ∃ other, bindings.filter spec.matchesAccelerator = [other] ∧ other.own = true) :
    bindings.filter spec.onChord = bindings.filter spec.matchesAccelerator := by
  refine filter_congr fun binding hmem => ?_
  rw [Bool.eq_iff_iff, hspec.onChord_iff]
  refine or_iff_left ?_
  rintro ⟨hmask, hlower, hkey⟩
  obtain ⟨-, hne, hother⟩ := hbindings binding hmem hlower
  rw [twins_eq hmask hkey] at hne hother
  rcases h with hnil | ⟨other, hone, hown⟩
  · exact hne hnil
  · exact absurd hown (by rw [hother other hone]; decide)

/-! ### Requests and bindings -/

variable {globals : List GlobalShortcut}

theorem exists_of_advertisedPortalAction
    {action : String} (h : spec.advertisedPortalAction globals = some action) :
    ∃ shortcut ∈ globals, shortcut.name = action := by
  unfold advertisedPortalAction at h
  split at h
  · next hany =>
    cases h
    simpa using hany
  · obtain ⟨-, hany⟩ := Option.filter_eq_some_iff.mp h
    simpa using hany

section Unambiguous

variable {bindings : List HyprBinding} (hbindings : Unambiguous bindings)

include hbindings

theorem ShortcutRequest.allowed_unbind {spec : ShortcutSpec} {binding : HyprBinding}
    (hspec : spec.Known) (backend : ShortcutBackend) (globals : List GlobalShortcut)
    (hone : bindings.filter spec.matchesAccelerator = [binding])
    (howns : spec.owns binding = true) : (unbind spec backend).Allowed globals bindings := by
  have hown := hspec.own_of_owns howns
  refine ⟨binding, ?_, hown⟩
  rw [filter_onChord_of_unambiguous hbindings hspec (.inr ⟨binding, hone, hown⟩), hone]

/-- The requests of a known specification are allowed. -/
theorem ShortcutReconciler.request_allowed {r : ShortcutReconciler} {desired : Bool}
    {globals : List GlobalShortcut} {request : ShortcutRequest} (hspec : r.spec.Known)
    (h : r.request desired globals bindings = some request) : request.Allowed globals bindings := by
  have hjustified := r.plan_justified desired globals bindings
  unfold ShortcutReconciler.request at h
  split at h
  · next text action hdecision hadvertised =>
    cases h
    rw [hdecision] at hjustified
    obtain ⟨-, -, -, hnil⟩ := hjustified
    refine ⟨?_, exists_of_advertisedPortalAction hadvertised⟩
    rw [filter_onChord_of_unambiguous hbindings hspec (.inl hnil), hnil]
  · next text hdecision =>
    cases h
    rw [hdecision] at hjustified
    obtain ⟨-, binding, hone, howns⟩ := hjustified
    exact ShortcutRequest.allowed_unbind hbindings hspec r.backend globals hone howns
  · cases h

/-- What is recognised is not in lower case, hence owned. -/
theorem owns_of_unambiguous {binding : HyprBinding} {spec : ShortcutSpec} (hmem : binding ∈ bindings)
    (h : fromOwnedBinding binding = some spec) : spec.owns binding = true := by
  have hknown := known_of_fromOwnedBinding h
  have hown := own_of_fromOwnedBinding h
  obtain ⟨hdispatcher, hmask, action, description, c, hidentity, hkey, halphanumeric, rfl⟩ :=
    fromOwnedBinding_eq_some.mp h
  have hlower : isAsciiLowercase c ≠ true := by
    intro hlower
    have hforeign := (hbindings binding hmem ⟨hmask, c, hkey, hlower⟩).1
    exact absurd hown (by rw [hforeign]; decide)
  have hupper : asciiUpper c = c := if_neg (by simpa [isAsciiLowercase] using hlower)
  refine hknown.owns_iff.mpr ⟨matchesAccelerator_iff.mpr ⟨rfl, ?_⟩, hdispatcher, hidentity⟩
  rw [← String.toList_inj, hkey, rendered, String.toList_singleton, hupper]

end Unambiguous

/-! ### The cleanup -/

variable {processed : List (UInt32 × String)}

/-- Every request of the cleanup unbinds the only binding that is spelled as its chord. -/
theorem cleanupLoop_justified {backend : ShortcutBackend} {rest : List HyprBinding}
    {request : ShortcutRequest} (h : request ∈ cleanupLoop backend bindings processed rest) :
    ∃ spec binding, request = .unbind spec backend ∧ spec.Known ∧
      bindings.filter spec.matchesAccelerator = [binding] ∧ spec.owns binding = true := by
  induction rest generalizing processed with
  | nil => cases h
  | cons first rest ih =>
    rw [cleanupLoop] at h
    split at h
    · exact ih h
    · next spec hspec =>
      dsimp only at h
      split at h
      · exact ih h
      split at h
      · next binding hone =>
        split at h
        · next howns =>
          rcases mem_cons.mp h with rfl | h
          · exact ⟨spec, binding, rfl, known_of_fromOwnedBinding hspec, hone, howns⟩
          · exact ih h
        · exact ih h
      · exact ih h

/-- The cleanup comes to a binding that is the only one recognised on its chord. -/
theorem mem_cleanupLoop {backend : ShortcutBackend} {rest : List HyprBinding}
    (hmem : binding ∈ rest) (hspec : fromOwnedBinding binding = some spec)
    (hone : bindings.filter spec.matchesAccelerator = [binding]) (howns : spec.owns binding = true)
    (hunique : ∀ other ∈ rest, ∀ spec', fromOwnedBinding other = some spec' →
      (spec'.modmask, spec'.key) = (spec.modmask, spec.key) → other = binding)
    (hnew : (spec.modmask, spec.key) ∉ processed) :
    .unbind spec backend ∈ cleanupLoop backend bindings processed rest := by
  induction rest generalizing processed with
  | nil => cases hmem
  | cons first rest ih =>
    have hunique' := fun other (hother : other ∈ rest) =>
      hunique other (mem_cons_of_mem _ hother)
    rw [cleanupLoop]
    by_cases hfirst : first = binding
    · subst hfirst
      rw [hspec]
      dsimp only
      rw [if_neg hnew, hone]
      dsimp only
      rw [if_pos howns]
      exact mem_cons_self
    · have hmem : binding ∈ rest := (mem_cons.mp hmem).resolve_left (Ne.symm hfirst)
      split
      · exact ih hmem hunique' hnew
      · next spec' hspec' =>
        have hdiffers : (spec.modmask, spec.key) ≠ (spec'.modmask, spec'.key) := fun hsame =>
          hfirst (hunique first mem_cons_self spec' hspec' hsame.symm)
        have hnew' : (spec.modmask, spec.key) ∉ (spec'.modmask, spec'.key) :: processed :=
          not_mem_cons_of_ne_of_not_mem hdiffers hnew
        dsimp only
        split
        · exact ih hmem hunique' hnew
        split
        · split
          · exact mem_cons_of_mem _ (ih hmem hunique' hnew')
          · exact ih hmem hunique' hnew'
        · exact ih hmem hunique' hnew'

/-- Where what is recognised is owned, the cleanup unbinds what is alone in its spelling. -/
theorem mem_cleanupRequests (howned : ∀ binding ∈ bindings, ∀ spec,
      fromOwnedBinding binding = some spec → spec.owns binding = true)
    (backend : ShortcutBackend) (hspec : fromOwnedBinding binding = some spec)
    (hone : bindings.filter spec.matchesAccelerator = [binding]) :
    .unbind spec backend ∈ cleanupRequests backend bindings := by
  have hfilter : binding ∈ bindings.filter spec.matchesAccelerator :=
    hone ▸ mem_singleton_self binding
  have hmem : binding ∈ bindings := (mem_filter.mp hfilter).1
  refine mem_cleanupLoop hmem hspec hone (howned binding hmem spec hspec) ?_ not_mem_nil
  intro other hother spec' hspec' hsame
  have howns := howned other hother spec' hspec'
  have hmatches := ((known_of_fromOwnedBinding hspec').owns_iff.mp howns).1
  obtain ⟨hmask, hkey⟩ := Prod.mk.inj hsame
  rw [matchesAccelerator_iff, hmask, hkey, ← matchesAccelerator_iff]
    at hmatches
  exact mem_singleton.mp (hone ▸ mem_filter.mpr ⟨hother, hmatches⟩)

/-! ### When ownership is respected -/

theorem respected_of_unambiguous (h : Unambiguous bindings) :
    Respected bindings where
  sync := by
    intro settings overlay backend start reconcilers hsettings hstart hreaches desired globals
      request hmem
    have hspecs : reconcilers.map spec = start.map spec :=
      reaches_invariant (P := fun rs => rs.map spec = start.map _)
        (fun _ _ _ hs hstep => (ShortcutEvent.specs_step hstep).trans hs) rfl hreaches
    obtain ⟨⟨probe, r⟩, hr, hrequest⟩ := mem_filterMap.mp hmem
    obtain ⟨r₀, hr₀, hsame⟩ := mem_map.mp hr
    have hspec : r.spec = r₀.spec := by
      rw [← r₀.needsProbe_spec desired, hsame]
    have hknown : r.spec.Known := by
      refine known_of_prepare hsettings hstart _ ?_
      rw [hspec, ← hspecs]
      exact mem_map_of_mem hr₀
    obtain ⟨-, hrequest⟩ := Option.ite_none_right_eq_some.mp hrequest
    exact request_allowed h hknown hrequest
  cleanup := by
    intro backend request hmem
    obtain ⟨spec, binding, rfl, hknown, hone, howns⟩ := cleanupLoop_justified hmem
    exact ShortcutRequest.allowed_unbind h hknown backend [] hone howns
  complete := by
    intro backend binding hmem spec hspec hone
    have hknown := known_of_fromOwnedBinding hspec
    have hmatches := (hknown.owns_iff.mp (owns_of_unambiguous h hmem hspec)).1
    refine mem_cleanupRequests (fun _ hmem _ => owns_of_unambiguous h hmem) backend hspec ?_
    have hfilter : bindings.filter spec.matchesAccelerator =
        (bindings.filter spec.onChord).filter spec.matchesAccelerator := by
      rw [filter_filter]
      refine filter_congr fun other _ => ?_
      rw [Bool.eq_iff_iff, Bool.and_eq_true]
      exact ⟨fun hother => ⟨hother, hknown.onChord_of_matchesAccelerator hother⟩, And.left⟩
    rw [hfilter, hone, filter_cons_of_pos hmatches, filter_nil]
  owned := fun binding hmem spec => owns_of_unambiguous h hmem

/-- The settings of an accelerator on the chord of a binding in lower case. -/
theorem exists_settings (h : binding.LowerCase) :
    ∃ settings spec, fromSettings settings = .ok (some spec) ∧
      binding.modmask = spec.modmask ∧ binding.key.toList.map asciiUpper = spec.key.toList := by
  obtain ⟨hmask, c, hkey, hlower⟩ := h
  obtain ⟨modifiers, hne, hordered, hmodifiers⟩ := exists_modifiers hmask
  let a : Accelerator :=
    ⟨modifiers, c, hne, hordered, isAsciiAlphanumeric_of_isAsciiLowercase hlower⟩
  refine ⟨{ enabled := true, accelerator := a.text },
    specOf portalShortcutName bindDescription modifiers c, ?_, hmodifiers.symm, ?_⟩
  · rw [fromSettings, parse_eq, a.reading_text]
    rfl
  · rw [hkey, specOf, rendered, String.toList_singleton, map_singleton]

/-- A fresh reconciler whose action is advertised binds a chord on which it sees nothing. -/
theorem request_of_unmatched (backend : ShortcutBackend) {action : String}
    (hadvertised : spec.advertisedPortalAction globals = some action)
    (hnil : bindings.filter spec.matchesAccelerator = []) :
    (needsProbe { spec, backend } true).2.request true globals bindings =
      some (.bind spec backend action) := by
  have hplan : ((needsProbe { spec, backend } true).2.plan true globals
      bindings).1 = .bind (spec.bindRequestForAction backend action) := by
    simp [plan, needsProbe, observeDesired,
      planBound, hadvertised, hnil]
  have hspec : (needsProbe { spec, backend } true).2.spec = spec := rfl
  rw [request, hplan, hspec, hadvertised]
  rfl

/-- What the settings bind on a chord on which nothing is seen. -/
theorem bind_of_unmatched (h : Respected bindings) {settings : ShortcutSettings}
    (hsettings : fromSettings settings = .ok (some spec))
    (hnil : bindings.filter spec.matchesAccelerator = []) :
    bindings.filter spec.onChord = [] := by
  obtain ⟨stopwatch, hstopwatch⟩ : ∃ specs, manualStopwatch = .ok specs := ⟨_, rfl⟩
  have hstart : prepareShortcutReconcilers (some spec) (some .lua) =
      .ok ((spec :: stopwatch).map fun spec => { spec, backend := .lua }) := by
    rw [prepareShortcutReconcilers, hstopwatch]
    rfl
  have hadvertised : spec.advertisedPortalAction [⟨spec.portalAction⟩] = some spec.portalAction := by
    simp [advertisedPortalAction]
  have hrequest := request_of_unmatched .lua hadvertised hnil
  refine (h.sync settings _ _ _ _ hsettings hstart ⟨[], rfl⟩ true [⟨spec.portalAction⟩]
    (.bind spec .lua spec.portalAction) ?_).1
  rw [map_cons, map_cons, syncRequests, filterMap_cons_some]
  · exact mem_cons_self
  · exact hrequest

/-- OverCrow's bindings on the chords of accelerators are recognised. -/
theorem exists_fromOwnedBinding (hown : binding.own = true)
    (hmask : SupportedMask binding.modmask) (hkey : binding.key.toList = [c])
    (halphanumeric : isAsciiAlphanumeric c = true) :
    ∃ spec, fromOwnedBinding binding = some spec := by
  rw [HyprBinding.own, Bool.and_eq_true, beq_iff_eq, Option.isSome_iff_exists] at hown
  obtain ⟨hdispatcher, ⟨action, description⟩, hidentity⟩ := hown
  exact ⟨_, fromOwnedBinding_eq_some.mpr
    ⟨hdispatcher, hmask, action, description, c, hidentity, hkey, halphanumeric, rfl⟩⟩

theorem unambiguous_of_respected (h : Respected bindings) :
    Unambiguous bindings := by
  intro binding hmem hlower
  obtain ⟨hmask, c, hkey, hc⟩ := id hlower
  have halphanumeric := isAsciiAlphanumeric_of_isAsciiLowercase hc
  refine ⟨?_, ?_, ?_⟩
  · -- it would be recognised and not owned
    rw [← Bool.not_eq_true]
    intro hown
    obtain ⟨spec, hspec⟩ := exists_fromOwnedBinding hown hmask hkey halphanumeric
    have hknown := known_of_fromOwnedBinding hspec
    exact hknown.not_lowerCase (hknown.owns_iff.mp (h.owned binding hmem spec hspec)).1 hlower
  · -- settings with its chord would bind it a second time
    intro hnil
    obtain ⟨settings, spec, hsettings, hspecmask, hspeckey⟩ := exists_settings hlower
    have hknown := known_of_fromSettings hsettings
    rw [twins_eq hspecmask hspeckey] at hnil
    have hchord := bind_of_unmatched h hsettings hnil
    have hon := hknown.onChord_iff.mpr (.inr ⟨hspecmask, hlower, hspeckey⟩)
    exact filter_eq_nil_iff.mp hchord binding hmem hon
  · -- the cleanup would unbind both
    intro other hone
    rw [← Bool.not_eq_true]
    intro hown
    have hother : other ∈ binding.twins bindings := hone ▸ mem_singleton_self other
    obtain ⟨hothermem, hsame⟩ := mem_filter.mp hother
    rw [Bool.and_eq_true, beq_iff_eq, beq_iff_eq, hkey, map_singleton] at hsame
    obtain ⟨hothermask, hotherkey⟩ := hsame
    obtain ⟨spec, hspec⟩ := exists_fromOwnedBinding hown (hothermask ▸ hmask) hotherkey
      (isAsciiAlphanumeric_asciiUpper hc)
    have hknown := known_of_fromOwnedBinding hspec
    have hmatches := (hknown.owns_iff.mp (h.owned other hothermem spec hspec)).1
    obtain ⟨hspecmask, hspeckey⟩ := matchesAccelerator_iff.mp hmatches
    have hbindingmask : binding.modmask = spec.modmask := hothermask.symm.trans hspecmask
    have hbindingkey : binding.key.toList.map asciiUpper = spec.key.toList := by
      rw [hkey, map_singleton, ← hotherkey, hspeckey]
    rw [twins_eq hbindingmask hbindingkey] at hone
    obtain ⟨only, honly, -⟩ := h.cleanup .lua _ (mem_cleanupRequests h.owned .lua hspec hone)
    have hfirst : binding ∈ bindings.filter spec.onChord := mem_filter.mpr
      ⟨hmem, hknown.onChord_iff.mpr (.inr ⟨hbindingmask, hlower, hbindingkey⟩)⟩
    have hsecond : other ∈ bindings.filter spec.onChord := mem_filter.mpr
      ⟨hothermem, hknown.onChord_of_matchesAccelerator hmatches⟩
    rw [honly, mem_singleton] at hfirst hsecond
    exact hknown.not_lowerCase hmatches (hsecond ▸ hfirst ▸ hlower)

/-- Ownership is respected exactly when the bindings are unambiguous. -/
theorem ownership_respected_iff (bindings : List HyprBinding) :
    Respected bindings ↔ Unambiguous bindings :=
  ⟨unambiguous_of_respected, respected_of_unambiguous⟩

/-- The overlay's binding, with its letter in lower case. -/
def lowerCaseBinding : HyprBinding where
  modmask := 72
  key := "o"
  description := bindDescription
  dispatcher := "global"
  arg := portalShortcutName

/-- It is recognised and alone on its chord, but not owned, and the cleanup leaves it. -/
theorem lower_case_binding_left :
    (∃ spec, fromOwnedBinding lowerCaseBinding = some spec ∧
      [lowerCaseBinding].filter spec.onChord = [lowerCaseBinding] ∧
      spec.owns lowerCaseBinding = false) ∧
      cleanupRequests .lua [lowerCaseBinding] = [] ∧ ¬Respected [lowerCaseBinding] := by
  have hspec : fromOwnedBinding lowerCaseBinding =
      some (.rendered portalShortcutName bindDescription 'o' (72, ["SUPER", "ALT"])) := by
    decide
  have howns : (rendered portalShortcutName bindDescription 'o'
      (72, ["SUPER", "ALT"])).owns lowerCaseBinding = false := by
    decide
  refine ⟨⟨_, hspec, by decide, howns⟩, by decide, fun h => ?_⟩
  have howned := h.owned _ mem_cons_self _ hspec
  rw [howns] at howned
  cases howned

end OverCrow.Hyprland
