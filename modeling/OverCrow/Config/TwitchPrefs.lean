import OverCrow.Base.Task
import OverCrow.Base.Trim

/-!
# Twitch preferences

`crates/overcrow-config/src/twitch_prefs.rs:16-116`. Validation normalises the channels;
`TwitchPrefs.Normal` says what it leaves behind, and what it leaves alone.
-/

namespace OverCrow.Config
open OverCrow.Base List

/-- `twitch_prefs.rs:16`. -/
def twitchPrefsSchemaVersion : Nat := 1

/-- `twitch_prefs.rs:18`. -/
def twitchChannelMaxChars : Nat := 25

/-- `twitch_prefs.rs:19`. -/
def twitchFavoritesMax : Nat := 20

/-- `twitch_prefs.rs:20`. -/
def twitchPassiveLifetimeMinSecs : Nat := 5

/-- `twitch_prefs.rs:21`. -/
def twitchPassiveLifetimeMaxSecs : Nat := 120

/-- `twitch_prefs.rs:22`. -/
def twitchPassiveLifetimeDefaultSecs : Nat := 30

/-- `TwitchPrefs` with its default, `twitch_prefs.rs:28-44`. -/
structure TwitchPrefs where
  schemaVersion : Nat := twitchPrefsSchemaVersion
  activeChannel : Option String := none
  favorites : List String := []
  passiveLifetimeSecs : Nat := twitchPassiveLifetimeDefaultSecs
  deriving DecidableEq, Inhabited

/-- `twitch_prefs.rs:95`. -/
inductive TwitchPrefsError where
  | unsupportedSchemaVersion
  | invalidChannel
  | tooManyFavorites
  | invalidPassiveLifetime
  deriving DecidableEq

/-- `Display` of `TwitchPrefsError`, `twitch_prefs.rs:102`. -/
def TwitchPrefsError.message : TwitchPrefsError → String
  | .unsupportedSchemaVersion => "unsupported Twitch preferences schema version"
  | .invalidChannel => "invalid Twitch channel"
  | .tooManyFavorites => "too many favorite Twitch channels"
  | .invalidPassiveLifetime => "invalid passive Twitch message lifetime"

/-- A character of a login. A character beyond ASCII has no byte that passes the source's check of
the bytes. -/
def isLoginChar (c : Char) : Bool := isAsciiAlphanumeric c || c = '_'

/-- `twitch_prefs.rs:80`. -/
def normalizeTwitchChannel (value : String) : Except TwitchPrefsError String :=
  let trimmed := trim value
  let login := (stripStem "#" trimmed).getD trimmed
  if login.isEmpty || twitchChannelMaxChars < login.utf8ByteSize ||
      !login.toList.all isLoginChar then
    .error .invalidChannel
  else .ok (String.ofList (toAsciiLowercase login))

/-- A pass of the loop over the favorites, `twitch_prefs.rs:63-71`. -/
def pushFavorite (favorites : List String) (favorite : String) :
    Except TwitchPrefsError (List String) := do
  let favorite ← normalizeTwitchChannel favorite
  if favorite ∈ favorites then return favorites
  else if favorites.length = twitchFavoritesMax then .error .tooManyFavorites
  else return favorites ++ [favorite]

/-- The active channel, if there is one, `twitch_prefs.rs:57-61`. -/
def normalizeActiveChannel : Option String → Except TwitchPrefsError (Option String)
  | none => .ok none
  | some channel => (normalizeTwitchChannel channel).map some

/-- `twitch_prefs.rs:47`. -/
def TwitchPrefs.validate (prefs : TwitchPrefs) : Except TwitchPrefsError TwitchPrefs :=
  if prefs.schemaVersion ≠ twitchPrefsSchemaVersion then .error .unsupportedSchemaVersion
  else if ¬(twitchPassiveLifetimeMinSecs ≤ prefs.passiveLifetimeSecs ∧
      prefs.passiveLifetimeSecs ≤ twitchPassiveLifetimeMaxSecs) then
    .error .invalidPassiveLifetime
  else do
    let activeChannel ← normalizeActiveChannel prefs.activeChannel
    let favorites ← prefs.favorites.foldlM pushFavorite []
    return { prefs with activeChannel := activeChannel, favorites := favorites }

/-! ### Normal channels -/

/-- A channel that normalisation leaves alone. -/
def NormalChannel (channel : String) : Prop := normalizeTwitchChannel channel = .ok channel

theorem isLoginChar_lt {c : Char} (h : isLoginChar c = true) : c.toNat < 128 := by
  unfold isLoginChar at h
  rw [Bool.or_eq_true, decide_eq_true_eq] at h
  rcases h with h | rfl
  · exact toNat_of_isAsciiAlphanumeric h
  · decide

/-- What lower case makes of the characters of a login. -/
def LoginLower (c : Char) : Prop :=
  isLoginChar c = true → isLoginChar (asciiLower c) = true ∧ isWhitespace (asciiLower c) = false ∧
    asciiLower c ≠ '#' ∧ asciiLower (asciiLower c) = asciiLower c ∧
    (asciiLower c).utf8Size = c.utf8Size

theorem loginLower (c : Char) : LoginLower c := by
  intro h
  have hascii : ∀ n : Fin 128, LoginLower (Char.ofNat n) := by
    unfold LoginLower
    decide +kernel
  exact forall_ascii hascii (isLoginChar_lt h) h

section Login

variable {login : String} (hlogin : ∀ c ∈ login.toList, isLoginChar c = true)

include hlogin

/-- A login in lower case is as long as the login. -/
theorem utf8ByteSize_lowercase :
    (String.ofList (toAsciiLowercase login)).utf8ByteSize = login.utf8ByteSize := by
  rw [utf8ByteSize_ofList, utf8ByteSize_eq_sum, toAsciiLowercase, map_map]
  congr 1
  exact map_congr_left fun c hc => (loginLower c (hlogin c hc)).2.2.2.2

theorem forall_mem_lowercase {P : Char → Prop} (h : ∀ c, isLoginChar c = true → P (asciiLower c)) :
    ∀ c ∈ toAsciiLowercase login, P c := by
  intro c hc
  obtain ⟨d, hd, rfl⟩ := mem_map.mp hc
  exact h d (hlogin d hd)

theorem lowercase_lowercase :
    toAsciiLowercase (String.ofList (toAsciiLowercase login)) = toAsciiLowercase login := by
  unfold toAsciiLowercase
  rw [String.toList_ofList, map_map]
  exact map_congr_left fun c hc => (loginLower c (hlogin c hc)).2.2.2.1

theorem trim_lowercase :
    trim (String.ofList (toAsciiLowercase login)) = String.ofList (toAsciiLowercase login) := by
  rw [trim, String.toList_ofList,
    trimList_eq_self (forall_mem_lowercase hlogin fun c hc => (loginLower c hc).2.1)]

theorem stripStem_lowercase : stripStem "#" (String.ofList (toAsciiLowercase login)) = none := by
  unfold stripStem
  rw [if_neg]
  rw [List.isPrefixOf_iff_prefix]
  intro hstem
  have hmem : '#' ∈ toAsciiLowercase login := by
    rw [← String.toList_ofList (l := toAsciiLowercase login)]
    exact hstem.subset mem_cons_self
  exact forall_mem_lowercase (P := (· ≠ '#')) hlogin (fun c hc => (loginLower c hc).2.2.1)
    '#' hmem rfl

end Login

theorem normalizeTwitchChannel_eq_ok {value channel : String}
    (h : normalizeTwitchChannel value = .ok channel) :
    ∃ login : String, login.isEmpty = false ∧ login.utf8ByteSize ≤ twitchChannelMaxChars ∧
      (∀ c ∈ login.toList, isLoginChar c = true) ∧
      channel = String.ofList (toAsciiLowercase login) := by
  unfold normalizeTwitchChannel at h
  dsimp only at h
  split at h
  · cases h
  · next hchecks =>
    rw [Bool.not_eq_true, Bool.or_eq_false_iff, Bool.or_eq_false_iff, decide_eq_false_iff_not,
      Nat.not_lt, Bool.not_eq_false', all_eq_true] at hchecks
    exact ⟨_, hchecks.1.1, hchecks.1.2, hchecks.2, (Except.ok.inj h).symm⟩

/-- What normalisation returns, it leaves alone. -/
theorem normalChannel_of_normalize {value channel : String}
    (h : normalizeTwitchChannel value = .ok channel) : NormalChannel channel := by
  obtain ⟨login, hne, hsize, hlogin, rfl⟩ := normalizeTwitchChannel_eq_ok h
  unfold NormalChannel normalizeTwitchChannel
  have hnonempty : (String.ofList (toAsciiLowercase login)).isEmpty = false := by
    rw [String.isEmpty_eq_utf8ByteSize_beq_zero] at hne ⊢
    rw [utf8ByteSize_lowercase hlogin]
    exact hne
  have hall : (toAsciiLowercase login).all isLoginChar = true :=
    all_eq_true.mpr (forall_mem_lowercase hlogin fun c hc => (loginLower c hc).1)
  dsimp only
  rw [trim_lowercase hlogin, stripStem_lowercase hlogin, Option.getD_none]
  rw [hnonempty, utf8ByteSize_lowercase hlogin, String.toList_ofList, hall,
    decide_eq_false (Nat.not_lt.mpr hsize), lowercase_lowercase hlogin]
  rfl

/-! ### Normal preferences -/

/-- Favorites as the loop leaves them. -/
structure NormalFavorites (favorites : List String) : Prop where
  normal : ∀ favorite ∈ favorites, NormalChannel favorite
  nodup : favorites.Nodup
  length_le : favorites.length ≤ twitchFavoritesMax

theorem NormalFavorites.push {favorites out : List String} {favorite : String}
    (h : NormalFavorites favorites) (hpush : pushFavorite favorites favorite = .ok out) :
    NormalFavorites out := by
  obtain ⟨channel, hchannel, hpush⟩ := bind_eq_ok.mp hpush
  split at hpush
  · cases hpush
    exact h
  · next hnew =>
    split at hpush
    · cases hpush
    · next hroom =>
      cases hpush
      refine ⟨?_, ?_, ?_⟩
      · rw [forall_mem_append, forall_mem_singleton]
        exact ⟨h.normal, normalChannel_of_normalize hchannel⟩
      · rw [← concat_eq_append]
        exact List.Nodup.concat hnew h.nodup
      · rw [length_append, length_singleton]
        exact Nat.lt_of_le_of_ne h.length_le hroom

/-- The loop pushes normal favorites one by one. -/
theorem foldlM_pushFavorite (out : List String) {rest : List String} (h : NormalFavorites (out ++ rest)) :
    rest.foldlM pushFavorite out = .ok (out ++ rest) := by
  induction rest generalizing out with
  | nil => rw [append_nil]; rfl
  | cons favorite rest ih =>
    have hnormal : normalizeTwitchChannel favorite = .ok favorite :=
      h.normal favorite (mem_append_right out mem_cons_self)
    have hnew : favorite ∉ out := fun hmem =>
      (nodup_append.mp h.nodup).2.2 favorite hmem favorite mem_cons_self rfl
    have hroom : out.length ≠ twitchFavoritesMax := by
      have hlength := h.length_le
      rw [length_append, length_cons] at hlength
      omega
    have hpush : pushFavorite out favorite = .ok (out ++ [favorite]) := by
      rw [pushFavorite, hnormal]
      change (if favorite ∈ out then _ else _) = _
      rw [if_neg hnew, if_neg hroom]
      rfl
    rw [append_cons] at h ⊢
    rw [foldlM_cons, hpush]
    exact ih _ h

/-- Preferences as validation leaves them. -/
structure TwitchPrefs.Normal (prefs : TwitchPrefs) : Prop where
  schemaVersion : prefs.schemaVersion = twitchPrefsSchemaVersion
  lifetime : twitchPassiveLifetimeMinSecs ≤ prefs.passiveLifetimeSecs ∧
    prefs.passiveLifetimeSecs ≤ twitchPassiveLifetimeMaxSecs
  activeChannel : normalizeActiveChannel prefs.activeChannel = .ok prefs.activeChannel
  favorites : NormalFavorites prefs.favorites

theorem normalizeActiveChannel_idem {channel out : Option String}
    (h : normalizeActiveChannel channel = .ok out) : normalizeActiveChannel out = .ok out := by
  cases channel with
  | none =>
    cases h
    rfl
  | some channel =>
    rw [normalizeActiveChannel, map_eq_ok] at h
    obtain ⟨normal, hnormal, rfl⟩ := h
    have hagain : normalizeTwitchChannel normal = .ok normal := normalChannel_of_normalize hnormal
    rw [normalizeActiveChannel, hagain]
    rfl

theorem TwitchPrefs.normal_of_validate {prefs validated : TwitchPrefs}
    (h : prefs.validate = .ok validated) : validated.Normal := by
  unfold TwitchPrefs.validate at h
  split at h
  · cases h
  · next hschema =>
    split at h
    · cases h
    · next hlifetime =>
      obtain ⟨activeChannel, hactive, h⟩ := bind_eq_ok.mp h
      obtain ⟨favorites, hfavorites, h⟩ := bind_eq_ok.mp h
      cases h
      exact
        { schemaVersion := not_not.mp hschema
          lifetime := not_not.mp hlifetime
          activeChannel := normalizeActiveChannel_idem hactive
          favorites := foldlM_invariant NormalFavorites.push ⟨by simp, nodup_nil, by simp⟩
            hfavorites }

theorem TwitchPrefs.Normal.validate {prefs : TwitchPrefs} (h : prefs.Normal) :
    prefs.validate = .ok prefs := by
  unfold TwitchPrefs.validate
  rw [if_neg (not_not.mpr h.schemaVersion), if_neg (not_not.mpr h.lifetime), h.activeChannel,
    foldlM_pushFavorite [] h.favorites]
  rfl

/-- The default preferences pass their own check. -/
theorem TwitchPrefs.normal_default : ({} : TwitchPrefs).Normal where
  schemaVersion := rfl
  lifetime := by decide
  activeChannel := rfl
  favorites := ⟨by simp, nodup_nil, by simp⟩

end OverCrow.Config
