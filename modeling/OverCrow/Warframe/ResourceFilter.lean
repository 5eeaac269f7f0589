import OverCrow.Warframe.Actions

/-!
# The resource filter of invasions

A toggle keeps what is shown of the other resources, `crates/overcrow-config/src/warframe_prefs.rs:339-397`.
An empty filter shows every resource, and entries are compared by their tails, so that all is stated
for the list of tails.
-/

namespace OverCrow.Config.WarframePrefs
open OverCrow.Base List

variable {prefs : WarframePrefs} {key : String} {available : List String}

/-- `warframe_prefs.rs:340`. -/
def invasionResourceChecked (prefs : WarframePrefs) (itemKey : String) : Bool :=
  let key := pathTail itemKey
  prefs.invasionResourceFilter.isEmpty ||
    prefs.invasionResourceFilter.any fun entry => pathTail entry = key

/-- The tails that the filter selects. -/
def filterTails (prefs : WarframePrefs) : List String := prefs.invasionResourceFilter.map pathTail

theorem invasionResourceChecked_iff (hkey : IsTail key) :
    prefs.invasionResourceChecked key = true ↔ prefs.filterTails = [] ∨ key ∈ prefs.filterTails := by
  simp [invasionResourceChecked, filterTails, hkey.pathTail_eq]

/-- The keys of a catalog: distinct tails that an entry of the filter can hold. -/
structure Offered (available : List String) : Prop where
  tail : ∀ key ∈ available, IsTail key
  nonempty : ∀ key ∈ available, key.isEmpty = false
  short : ∀ key ∈ available, key.length ≤ warframeInvasionWatchlistEntryMaxChars
  nodup : available.Nodup

/-- The tails after a toggle of the key, before they are collapsed. -/
def toggledTails (tails : List String) (key : String) : List String :=
  if key ∈ tails then tails.erase key
  else if tails.length < warframeInvasionWatchlistMax then tails ++ [key]
  else tails

theorem map_toggleTail (htail : IsTail key)
    (hshort : key.length ≤ warframeInvasionWatchlistEntryMaxChars) (entries : List String) :
    (toggleTail entries key).map pathTail = toggledTails (entries.map pathTail) key := by
  have herase : (entries.map pathTail).erase key =
      (entries.eraseP fun entry => pathTail entry = key).map pathTail := by
    have hsame : ((· == key) ∘ pathTail) = fun entry => decide (pathTail entry = key) := by
      funext entry
      exact Bool.eq_iff_iff.mpr (beq_iff_eq.trans decide_eq_true_iff.symm)
    rw [erase_eq_eraseP', eraseP_map, hsame]
  rw [eraseP_eq_eraseIdx] at herase
  unfold toggleTail toggledTails
  cases hfind : entries.findIdx? fun entry => pathTail entry = key with
  | some index =>
    rw [hfind] at herase
    obtain ⟨hlt, hat, -⟩ := findIdx?_eq_some_iff_getElem.mp hfind
    have hmem : key ∈ entries.map pathTail :=
      mem_map.mpr ⟨_, getElem_mem hlt, of_decide_eq_true hat⟩
    rw [if_pos hmem, herase]
  | none =>
    have hmem : key ∉ entries.map pathTail := by
      simpa [findIdx?_eq_none_iff] using hfind
    rw [if_neg hmem, length_map]
    by_cases hroom : entries.length < warframeInvasionWatchlistMax
    · simp [hroom, hshort, htail.pathTail_eq]
    · simp [hroom]

theorem filterTails_toggleInvasionResourceFilter (h : Offered available) (hkey : key ∈ available) :
    (prefs.toggleInvasionResourceFilter key available).filterTails =
      if prefs.filterTails = [] then (available.filter (· ≠ key)).take warframeInvasionWatchlistMax
      else if ∀ other ∈ available, other ∈ toggledTails prefs.filterTails key then []
      else toggledTails prefs.filterTails key := by
  have hmaps {kept : List String} (hsub : kept ⊆ available) : kept.map pathTail = kept := by
    rw [map_congr_left fun other hother => (h.tail other (hsub hother)).pathTail_eq, map_id']
  have htails : (available.map pathTail).filter (!·.isEmpty) = available := by
    rw [hmaps (List.Subset.refl _), filter_eq_self]
    exact fun other hother => by rw [h.nonempty other hother]; rfl
  have htoggled := map_toggleTail (h.tail key hkey) (h.short key hkey) prefs.invasionResourceFilter
  unfold toggleInvasionResourceFilter filterTails
  dsimp only
  rw [(h.tail key hkey).pathTail_eq, h.nonempty key hkey, if_neg Bool.false_ne_true, htails]
  simp only [map_eq_nil_iff, ← htoggled]
  split
  · next hempty =>
    rw [if_pos (isEmpty_iff.mp hempty)]
    exact hmaps fun other hother => mem_of_mem_filter (mem_of_mem_take hother)
  next hfilled =>
  rw [if_neg (mt List.isEmpty_iff.mpr hfilled)]
  split
  · next hempty =>
    rw [isEmpty_iff.mp hempty]
    simp
  · have havailable : available.isEmpty = false := by
      rw [isEmpty_eq_false_iff]
      exact ne_nil_of_mem hkey
    simp only [collapseFilter, havailable, Bool.not_false, Bool.true_and, all_eq_true,
      any_eq_true, decide_eq_true_eq, mem_map]
    split <;> rfl

/-- The toggle negates the key and nothing else that is offered. -/
def TogglesOnly (prefs : WarframePrefs) (key : String) (available : List String) : Prop :=
  (prefs.toggleInvasionResourceFilter key available).invasionResourceChecked key =
      !prefs.invasionResourceChecked key ∧
    ∀ other ∈ available, other ≠ key →
      (prefs.toggleInvasionResourceFilter key available).invasionResourceChecked other =
        prefs.invasionResourceChecked other

/-- The other resources fit into a filter that was empty; in one that was not the key stands once, or
there is room for it. -/
structure Room (prefs : WarframePrefs) (key : String) (available : List String) : Prop where
  fill : prefs.filterTails = [] → (available.filter (· ≠ key)).length ≤ warframeInvasionWatchlistMax
  toggle : prefs.filterTails ≠ [] → prefs.filterTails.count key = 1 ∨
    key ∉ prefs.filterTails ∧ prefs.filterTails.length < warframeInvasionWatchlistMax

/-- What a toggle should do, for the tails. -/
theorem togglesOnly_iff (h : Offered available) (hkey : key ∈ available) {next : List String}
    (hnext : (prefs.toggleInvasionResourceFilter key available).filterTails = next) :
    TogglesOnly prefs key available ↔
      ((next = [] ∨ key ∈ next) ↔ ¬(prefs.filterTails = [] ∨ key ∈ prefs.filterTails)) ∧
        ∀ other ∈ available, other ≠ key →
          ((next = [] ∨ other ∈ next) ↔ (prefs.filterTails = [] ∨ other ∈ prefs.filterTails)) := by
  refine and_congr ?_ (forall₃_congr fun other hother _ => ?_)
  · rw [Bool.eq_iff_iff, Bool.not_eq_true', ← Bool.not_eq_true,
      invasionResourceChecked_iff (h.tail key hkey), invasionResourceChecked_iff (h.tail key hkey), hnext]
  · rw [Bool.eq_iff_iff, invasionResourceChecked_iff (h.tail other hother),
      invasionResourceChecked_iff (h.tail other hother), hnext]

/-- Of all that is offered the collapsed tails show what the tails do. -/
theorem shown_collapsed {next : List String} (hsome : next ≠ []) {other : String}
    (hother : other ∈ available) :
    ((if ∀ key ∈ available, key ∈ next then [] else next) = [] ∨
      other ∈ if ∀ key ∈ available, key ∈ next then [] else next) ↔ other ∈ next := by
  split
  · next hall => exact iff_of_true (.inl rfl) (hall other hother)
  · simp [hsome]

theorem mem_toggledTails_of_ne {tails : List String} {other : String} (hne : other ≠ key) :
    other ∈ toggledTails tails key ↔ other ∈ tails := by
  unfold toggledTails
  split
  · exact mem_erase_of_ne hne
  split
  · simp [hne]
  · rfl

theorem mem_toggledTails_self {tails : List String} :
    (key ∈ toggledTails tails key ↔ key ∉ tails) ↔ tails.count key = 1 ∨
      key ∉ tails ∧ tails.length < warframeInvasionWatchlistMax := by
  unfold toggledTails
  by_cases hmem : key ∈ tails
  · have hpos := count_pos_iff.mpr hmem
    have herase : key ∈ tails.erase key ↔ 0 < tails.count key - 1 := by
      rw [← count_pos_iff, count_erase_self]
    rw [if_pos hmem, herase]
    simp only [hmem, not_true_eq_false, false_and, or_false, iff_false]
    omega
  · have hzero := count_eq_zero.mpr hmem
    by_cases hroom : tails.length < warframeInvasionWatchlistMax
    · simp [hmem, hroom]
    · simp [hmem, hroom, hzero]

/-- The others of a nodup list fit into its beginning if they are few enough. -/
theorem subset_take_iff {others : List String} (hnodup : others.Nodup) (n : Nat) :
    others ⊆ others.take n ↔ others.length ≤ n := by
  constructor
  · intro hsub
    exact (subperm_of_subset hnodup hsub).length_le.trans (length_take_le n others)
  · intro hle
    rw [take_of_length_le hle]
    exact List.Subset.refl _

section

variable (h : Offered available) (hkey : key ∈ available)
  (hother : ∃ other ∈ available, other ≠ key ∧ prefs.invasionResourceChecked other = true)

include h hkey hother

theorem togglesOnly_iff_room :
    TogglesOnly prefs key available ↔ Room prefs key available := by
  obtain ⟨shown, hshown, hne, hchecked⟩ := hother
  rw [invasionResourceChecked_iff (h.tail shown hshown)] at hchecked
  rw [togglesOnly_iff h hkey (filterTails_toggleInvasionResourceFilter h hkey)]
  by_cases hempty : prefs.filterTails = []
  · -- All was shown: the others are listed up to the cap.
    have hrest : shown ∈ available.filter (· ≠ key) := by simp [hshown, hne]
    have hsome : (available.filter (· ≠ key)).take warframeInvasionWatchlistMax ≠ [] := by
      rw [Ne, take_eq_nil_iff, not_or]
      exact ⟨by decide, ne_nil_of_mem hrest⟩
    have hkeyNot : key ∉ (available.filter (· ≠ key)).take warframeInvasionWatchlistMax := by
      intro hmem
      simpa using mem_of_mem_take hmem
    have hroom : Room prefs key available ↔ _ :=
      ⟨fun h => h.fill hempty, fun h => ⟨fun _ => h, absurd hempty⟩⟩
    rw [hroom, if_pos hempty, ← subset_take_iff (h.nodup.filter _), subset_def]
    simp only [hempty, hsome, hkeyNot, mem_filter, decide_eq_true_eq, or_self, true_or, false_or,
      not_true_eq_false, iff_true, true_and, and_imp]
  · have hroom : Room prefs key available ↔ _ :=
      ⟨fun h => h.toggle hempty, fun h => ⟨fun hnil => absurd hnil hempty, fun _ => h⟩⟩
    have hsome := ne_nil_of_mem ((mem_toggledTails_of_ne hne).mpr (hchecked.resolve_left hempty))
    rw [hroom, if_neg hempty, shown_collapsed hsome hkey, ← mem_toggledTails_self]
    simp only [hempty, false_or, and_iff_left_iff_imp]
    intro _ other hother hne
    rw [shown_collapsed hsome hother, mem_toggledTails_of_ne hne]

/-- Toggling twice restores what is shown. -/
theorem checked_toggle_toggle (hroom : Room prefs key available)
    (hback : Room (prefs.toggleInvasionResourceFilter key available) key available) :
    ∀ other ∈ available,
      ((prefs.toggleInvasionResourceFilter key available).toggleInvasionResourceFilter key
        available).invasionResourceChecked other = prefs.invasionResourceChecked other := by
  obtain ⟨hself, hothers⟩ := (togglesOnly_iff_room h hkey hother).mpr hroom
  obtain ⟨shown, hshown, hne, hchecked⟩ := hother
  obtain ⟨hselfBack, hothersBack⟩ := (togglesOnly_iff_room h hkey
    ⟨shown, hshown, hne, (hothers shown hshown hne).trans hchecked⟩).mpr hback
  intro other hmem
  by_cases heq : other = key
  · rw [heq, hselfBack, hself, Bool.not_not]
  · rw [hothersBack other hmem heq, hothers other hmem heq]

end

end OverCrow.Config.WarframePrefs

namespace OverCrow.Warframe
open OverCrow.Base OverCrow.Config

/-- For the catalog of every parsed worldstate a toggle negates one resource exactly if the filter has
room; with room before both toggles, toggling twice restores what is shown. -/
theorem resource_toggle_exact_iff {labels : Labels} {document : Json} {fetchedAtSecs : Nat}
    {w : WorldstateSnapshot} (hw : parseWorldstate labels document fetchedAtSecs = some w)
    {available : List String} (havailable : available = (invasionRewardCatalog w.invasions).map Prod.fst)
    (hnonempty : "" ∉ available) {prefs : WarframePrefs} {key : String} (hkey : key ∈ available)
    (hother : ∃ other ∈ available, other ≠ key ∧ prefs.invasionResourceChecked other = true) :
    (prefs.TogglesOnly key available ↔ prefs.Room key available) ∧
      (prefs.Room key available → (prefs.toggleInvasionResourceFilter key available).Room key available →
        ∀ other ∈ available,
          ((prefs.toggleInvasionResourceFilter key available).toggleInvasionResourceFilter key
            available).invasionResourceChecked other = prefs.invasionResourceChecked other) := by
  have hreward : ∀ other ∈ available, IsTail other ∧ other.length ≤ displayMax := by
    rw [havailable]
    exact fun other hmem => rewardKeys_spec hw (mem_invasionRewardCatalog.mp hmem)
  have hoffered : WarframePrefs.Offered available :=
    { tail := fun other hmem => (hreward other hmem).1
      nonempty := fun other hmem => by
        rw [String.isEmpty_eq_false_iff]
        rintro rfl
        exact hnonempty hmem
      short := fun other hmem => (hreward other hmem).2.trans (by decide)
      nodup := havailable ▸ nodup_invasionRewardCatalog w.invasions }
  exact ⟨WarframePrefs.togglesOnly_iff_room hoffered hkey hother,
    WarframePrefs.checked_toggle_toggle hoffered hkey hother⟩

/-- An invasion that offers two resources. -/
def twoRewards : Json :=
  .object [("Invasions", .array [.object [
    ("_id", .object [("$oid", .string "i")]), ("Node", .string "n"),
    ("AttackerReward", .object [("countedItems", .array [.object [("ItemType", .string "x")]])]),
    ("DefenderReward", .object [("countedItems", .array [.object [("ItemType", .string "y")]])])]])]

/-- A filter with its 24 entries, most of which are not offered any more. -/
def fullFilter : WarframePrefs :=
  { invasionResourceFilter := "y" :: (List.range 23).map fun i => "old" ++ toString i }

theorem parse_twoRewards : (parseWorldstate plainLabels twoRewards 0).map
    (fun w => (invasionRewardCatalog w.invasions).map Prod.fst) = some ["x", "y"] := by
  decide +kernel

theorem resource_toggle_exact_empty : WarframePrefs.TogglesOnly {} "x" ["x", "y"] := by
  obtain ⟨w, hw, hkeys⟩ := Option.map_eq_some_iff.mp parse_twoRewards
  have hroom : WarframePrefs.Room {} "x" ["x", "y"] := ⟨fun _ => by decide, fun h => absurd rfl h⟩
  exact (resource_toggle_exact_iff hw hkeys.symm (by decide) (by decide)
    ⟨"y", by decide, by decide, by decide⟩).1.mpr hroom

/-- In a full filter a resource that is not shown stays so. -/
theorem resource_not_added :
    (parseWorldstate plainLabels twoRewards 0).map
        (fun w => (invasionRewardCatalog w.invasions).map Prod.fst) = some ["x", "y"] ∧
      fullFilter.validate = .ok fullFilter ∧ fullFilter.invasionResourceChecked "y" = true ∧
      fullFilter.invasionResourceChecked "x" = false ∧
      (fullFilter.toggleInvasionResourceFilter "x" ["x", "y"]).invasionResourceChecked "x" = false :=
  ⟨parse_twoRewards, by decide +kernel⟩

end OverCrow.Warframe
