import Mathlib.Data.List.Basic
import OverCrow.Warframe.Provider

/-!
# The open-world cycles

`crates/overcrow-overlay/src/warframe/worldstate/parse.rs:559-606,924-1058` reads the cycles, and
`crates/overcrow-overlay/src/warframe/worldstate/live.rs` keeps them running between two fetches.
The rows of the bounties are computed with checked signed arithmetic, where `none` is an overflow; the
pure clocks of the Vallis and the Zariman cannot overflow at times that are half the range away from its end.
-/

namespace OverCrow.Warframe
open OverCrow.Base Option

/-! ### Signed arithmetic -/

/-- The result of a signed operation. -/
def toI64 (value : Int) : Option Int := if -2 ^ 63 ≤ value ∧ value < 2 ^ 63 then some value else none

/-- `u64::try_from(value).unwrap_or(fallback)` of a signed value. -/
def tryU64 (value : Int) (fallback : Nat) : Nat := if 0 ≤ value then value.toNat else fallback

/-- `i64::try_from(secs.saturating_mul(1_000)).unwrap_or(i64::MAX)`. -/
def millisI64 (secs : Nat) : Int := min (saturatingMul u64Max secs 1000 : Nat) (2 ^ 63 - 1)

/-- `parse.rs:1049`. -/
def divRound (numerator denominator : Int) : Option Int :=
  if denominator = 0 then some 0
  else if 0 ≤ numerator then do
    toI64 ((← toI64 (numerator + denominator.tdiv 2)).tdiv denominator)
  else do
    toI64 ((← toI64 (numerator - denominator.tdiv 2)).tdiv denominator)

theorem toI64_eq {value : Int} (hlow : -2 ^ 63 ≤ value) (hhigh : value < 2 ^ 63) :
    toI64 value = some value := if_pos ⟨hlow, hhigh⟩

/-- The nearest integer, away from zero between two. -/
theorem divRound_eq {n d : Int} (hd : 0 < d) (hlow : -2 ^ 63 + d ≤ n) (hhigh : n + d < 2 ^ 63) :
    divRound n d = some (if 0 ≤ n then (n + d / 2) / d else -((-n + d / 2) / d)) := by
  have hquotient {m : Int} (hm : 0 ≤ m) : 0 ≤ m / d ∧ m / d ≤ m :=
    ⟨Int.ediv_nonneg hm (by omega), Int.ediv_le_self d hm⟩
  unfold divRound
  rw [if_neg (by omega), Int.tdiv_eq_ediv_of_nonneg (by omega)]
  split
  · next hn =>
    have hbounds := hquotient (m := n + d / 2) (by omega)
    rw [toI64_eq (by omega) (by omega), bind_eq_bind, bind_some,
      Int.tdiv_eq_ediv_of_nonneg (by omega), toI64_eq (by omega) (by omega)]
  · next hn =>
    have hbounds := hquotient (m := -n + d / 2) (by omega)
    have hneg : n - d / 2 = -(-n + d / 2) := by omega
    rw [toI64_eq (by omega) (by omega), bind_eq_bind, bind_some, hneg, Int.neg_tdiv,
      Int.tdiv_eq_ediv_of_nonneg (by omega), toI64_eq (by omega) (by omega)]

/-! ### Rows -/

/-- `crates/overcrow-overlay/src/warframe/model.rs:112`. -/
structure CycleStatus where
  id : String
  label : String
  state : Option String
  expiresAtSecs : Nat
  deriving DecidableEq

/-- `parse.rs:559`. -/
def cetusDaySecs : Nat := 6000

/-- `parse.rs:560`. -/
def cetusNightSecs : Nat := 3000

/-- The end of a phase, to the nearest minute, `parse.rs:952-958`. -/
def phaseExpiry (bountyEndSecs : Nat) (bountyEndMs nowMs secondsRemaining : Int) : Option Nat :=
  if 0 < secondsRemaining then do
    let rounded ← divRound (← toI64 (nowMs + (← toI64 (secondsRemaining * 1000)))) 60000
    return tryU64 ((← toI64 (rounded * 60000)).tdiv 1000) bountyEndSecs
  else some (tryU64 (bountyEndMs.tdiv 1000) bountyEndSecs)

/-- `parse.rs:932`. -/
def cetusLikeCycle (id label : String) (bountyEndSecs : Nat) (nowMs : Int) (dayLabel nightLabel : String) :
    Option CycleStatus := do
  let bountyEndMs := millisI64 bountyEndSecs
  let bountyEndMs ← toI64 (bountyEndMs - bountyEndMs % 60000)
  let secondsToNightEnd ← divRound (← toI64 (bountyEndMs - nowMs)) 1000
  if cetusNightSecs < secondsToNightEnd then do
    let secondsRemaining ← toI64 (secondsToNightEnd - cetusNightSecs)
    return ⟨id, label, some dayLabel, ← phaseExpiry bountyEndSecs bountyEndMs nowMs secondsRemaining⟩
  else
    return ⟨id, label, some nightLabel, ← phaseExpiry bountyEndSecs bountyEndMs nowMs secondsToNightEnd⟩

/-- `VALLIS_EPOCH_MS`, `VALLIS_LOOP_MS` and `VALLIS_COLD_MS` in `vallis_at`, `parse.rs:562-564,972`. -/
def vallisAt (nowMs : Int) : CycleStatus :=
  let sinceLast := (nowMs - 1770234408000) % 1600000
  let toNextFull := 1600000 - sinceLast
  let toNextMinor := if toNextFull < 1200000 then toNextFull else toNextFull - 1200000
  { id := "vallis", label := "Vallis"
    state := some (if 1200000 < toNextFull then "warm" else "cold")
    expiresAtSecs := tryU64 ((nowMs + toNextMinor).tdiv 1000) 0 }

/-- The faction at a time, `ZARIMAN_EPOCH_MS`, `ZARIMAN_FULL_MS` and `ZARIMAN_HALF_MS`,
`parse.rs:566-568`: whether it is the first half of the cycle, and what is left of the cycle. -/
def zarimanPhase (timeMs : Int) : Bool × Int :=
  let cycleTimeLeft := 18000000 - (timeMs - 1655182800000) % 18000000
  (9000000 < cycleTimeLeft, cycleTimeLeft)

def zarimanRow (isCorpus : Bool) (expiresAtSecs : Nat) : CycleStatus :=
  { id := "zariman", label := "Zariman", state := some (if isCorpus then "corpus" else "grineer")
    expiresAtSecs := expiresAtSecs }

/-- `parse.rs:997`. -/
def zarimanAt (nowMs : Int) : CycleStatus :=
  let (isCorpus, cycleTimeLeft) := zarimanPhase nowMs
  let toFlip := if isCorpus then cycleTimeLeft - 9000000 else cycleTimeLeft
  zarimanRow isCorpus (tryU64 ((nowMs + max toFlip 1000).tdiv 1000) 0)

/-- `parse.rs:1018`. -/
def zarimanFromBounty (bountyEndSecs : Nat) (nowMs : Int) : CycleStatus :=
  let bountyEndMs := millisI64 bountyEndSecs
  let bountyEndMs := bountyEndMs - bountyEndMs % 60000
  let millisLeft := bountyEndMs - nowMs
  if millisLeft ≤ 0 then zarimanAt nowMs
  else zarimanRow (zarimanPhase (bountyEndMs - 5000)).1 (tryU64 ((nowMs + millisLeft).tdiv 1000) bountyEndSecs)

/-- The cycles and the daily reset of `WorldstateSnapshot`, `model.rs:17-18`. -/
structure Timers where
  cycles : List CycleStatus
  dailyResetAtSecs : Option Nat
  deriving DecidableEq

/-- `parse.rs:924`. -/
def syndicateExpiry (missions : List RawSyndicateMission) (tag : String) : Option Nat :=
  (missions.find? fun mission => mission.tag = some tag).bind fun mission => parseEpochSecs mission.expiry

/-- `parse.rs:586`: Fass goes with the day of Cetus. -/
def cambionOf (cetus : CycleStatus) : CycleStatus :=
  { id := "cambion", label := "Cambion"
    state := some (if cetus.state = some "day" then "fass" else "vome")
    expiresAtSecs := cetus.expiresAtSecs }

/-- The rows of the Cetus bounty, `parse.rs:583-599`. -/
def bountyCycles (nowMs : Int) : Option Nat → Option (List CycleStatus)
  | some bountyEnd => do
    let cetus ← cetusLikeCycle "cetus" "Cetus" bountyEnd nowMs "day" "night"
    return [cetus, cambionOf cetus]
  | none => some []

/-- The timers of `parse_worldstate`, `parse.rs:570-608`, with `next_utc_midnight`, `parse.rs:1131`. -/
def parseTimers (document : Json) (fetchedAtSecs : Nat) : Option Timers := do
  let raw ← RawWorldstate.read document
  let nowMs := millisI64 fetchedAtSecs
  let bounties ← bountyCycles nowMs (syndicateExpiry raw.syndicateMissions "CetusSyndicate")
  let zariman := (syndicateExpiry raw.syndicateMissions "ZarimanSyndicate").map (zarimanFromBounty · nowMs)
  return {
    cycles := (bounties ++ vallisAt nowMs :: zariman.toList).take cycleListMax
    dailyResetAtSecs := some ((fetchedAtSecs / 86400 + 1) * 86400) }

/-! ### The rows of a bounty -/

/-- The end of the bounty in seconds, rounded down to a minute. -/
def bountyMinute (bountyEndSecs : Nat) : Nat := min (bountyEndSecs * 1000) (2 ^ 63 - 1) / 60000 * 60

theorem millisI64_floor (secs : Nat) :
    millisI64 secs - millisI64 secs % 60000 = bountyMinute secs * 1000 := by
  simp only [millisI64, saturatingMul, u64Max, bountyMinute]
  omega

theorem tryU64_millis (secs fallback : Nat) : tryU64 ((secs * 1000 : Int).tdiv 1000) fallback = secs := by
  rw [Int.mul_tdiv_cancel _ (by decide), tryU64, if_pos (by omega), Int.toNat_natCast]

/-- Half a second is lost in the remaining time and found again by the rounding to minutes. -/
theorem phaseExpiry_eq {nowMs remaining : Int} {t : Nat} (bountyEndSecs : Nat) (bountyEndMs : Int)
    (hlow : 0 ≤ nowMs) (hhigh : nowMs + remaining * 1000 < 2 ^ 63 - 60000) (hpos : 0 < remaining)
    (hminute : t % 60 = 0) (hnear : t * 1000 ≤ nowMs + remaining * 1000 + 500)
    (hnear' : nowMs + remaining * 1000 ≤ t * 1000 + 500) :
    phaseExpiry bountyEndSecs bountyEndMs nowMs remaining = some t := by
  have hrounded : (nowMs + remaining * 1000 + 60000 / 2) / 60000 * 60000 = t * 1000 := by omega
  rw [phaseExpiry, if_pos hpos, toI64_eq (by omega) (by omega), bind_eq_bind, bind_some,
    toI64_eq (by omega) (by omega), bind_some, divRound_eq (by decide) (by omega) (by omega),
    if_pos (by omega), bind_some, hrounded, toI64_eq (by omega) (by omega), bind_some,
    tryU64_millis, pure_def]

/-- The row is exact whatever the provider sends: its end depends on the phase and the bounty only. -/
theorem cetusLikeCycle_exact (id label dayLabel nightLabel : String) (bountyEndSecs : Nat) {nowMs : Int}
    (hlow : 0 ≤ nowMs) (hhigh : nowMs ≤ (2 ^ 63 - 1) / 2) :
    cetusLikeCycle id label bountyEndSecs nowMs dayLabel nightLabel =
      some (if 3000 < (bountyMinute bountyEndSecs * 1000 - nowMs + 500) / 1000 then
          ⟨id, label, some dayLabel, bountyMinute bountyEndSecs - 3000⟩
        else ⟨id, label, some nightLabel, bountyMinute bountyEndSecs⟩) := by
  have hle : bountyMinute bountyEndSecs * 1000 < 2 ^ 63 - 55000 := by
    unfold bountyMinute
    omega
  have hminute : bountyMinute bountyEndSecs % 60 = 0 := by
    unfold bountyMinute
    omega
  have hnight : cetusNightSecs = 3000 := rfl
  simp only [cetusLikeCycle, millisI64_floor]
  generalize bountyMinute bountyEndSecs = b at hle hminute
  rw [toI64_eq (by omega) (by omega), bind_eq_bind, bind_some,
    toI64_eq (by omega) (by omega), bind_some,
    divRound_eq (by decide) (by omega) (by omega), bind_some]
  by_cases hday : 3000 < (b * 1000 - nowMs + 500) / 1000
  · rw [if_pos hday, if_pos (c := 0 ≤ _) (by omega), if_pos (by omega), toI64_eq (by omega) (by omega),
      bind_some,
      phaseExpiry_eq (t := b - 3000) _ _ hlow (by omega) (by omega) (by omega) (by omega) (by omega)]
    rfl
  · rw [if_neg hday, if_neg (c := (cetusNightSecs : Int) < _) (by split <;> omega)]
    by_cases hpos : 500 ≤ b * 1000 - nowMs
    · rw [if_pos (by omega),
        phaseExpiry_eq (t := b) _ _ hlow (by omega) (by omega) hminute (by omega) (by omega)]
      rfl
    · rw [phaseExpiry, if_neg (by split <;> omega), tryU64_millis]
      rfl

/-- Two and a half hours before the bounty ends it is day, and the night starts after 6000 s. -/
theorem cetusLikeCycle_exact_day :
    cetusLikeCycle "cetus" "Cetus" 9030 0 "Day" "Night" =
      some ⟨"cetus", "Cetus", some "Day", 6000⟩ := by
  rw [cetusLikeCycle_exact "cetus" "Cetus" "Day" "Night" 9030 (Int.le_refl 0) (by decide)]
  decide +kernel

/-! ### The walk through the phases -/

/-- The loop of `advance_cetus_like`, `live.rs:57-69`: a phase with its end. -/
def advancePhase (nowSecs : Nat) : Nat → Bool × Nat → Bool × Nat
  | 0, phase => phase
  | rounds + 1, (isDay, expires) =>
    if nowSecs < expires then (isDay, expires)
    else advancePhase nowSecs rounds
      (!isDay, saturatingAdd u64Max expires (if isDay then cetusNightSecs else cetusDaySecs))

/-- A row that shows a phase. -/
def CycleStatus.show (cycle : CycleStatus) (day night : String) (phase : Bool × Nat) : CycleStatus :=
  { cycle with state := some (if phase.1 then day else night), expiresAtSecs := phase.2 }

/-- `live.rs:47`. -/
def advanceCetusLike (day night : String) (nowSecs : Nat) (cycle : CycleStatus) : CycleStatus × Bool :=
  if nowSecs < cycle.expiresAtSecs then (cycle, false)
  else
    let isDay : Bool := cycle.state = some day ∨ cycle.state = none
    let (isDay, expires) := advancePhase nowSecs 64 (isDay, cycle.expiresAtSecs)
    (cycle.show day night (isDay, max expires (saturatingAdd u64Max nowSecs 1)), true)

def phaseSecs (isDay : Bool) : Nat := if isDay then cetusDaySecs else cetusNightSecs

/-- The phases of the alternation through `phase`, from its end on: after every 9000 seconds `phase`
again, and in between the other one. -/
def Alternates (phase next : Bool × Nat) : Prop :=
  ∃ rounds, next = (phase.1, phase.2 + 9000 * rounds) ∨
    next = (!phase.1, phase.2 + 9000 * rounds + phaseSecs (!phase.1))

/-- A time within a phase. -/
def Contains (phase : Bool × Nat) (nowSecs : Nat) : Prop :=
  phase.2 ≤ nowSecs + phaseSecs phase.1 ∧ nowSecs < phase.2

/-- The phase of the alternation that contains a time. -/
def phaseAt (phase : Bool × Nat) (nowSecs : Nat) : Bool × Nat :=
  let since := (nowSecs - phase.2) % 9000
  if since < phaseSecs (!phase.1) then (!phase.1, nowSecs - since + phaseSecs (!phase.1))
  else (phase.1, nowSecs - since + 9000)

theorem phaseSecs_not (isDay : Bool) :
    0 < phaseSecs isDay ∧ 0 < phaseSecs (!isDay) ∧ phaseSecs (!isDay) + phaseSecs isDay = 9000 := by
  cases isDay <;> decide

/-- Exactly one phase contains a time. -/
theorem alternates_and_contains_iff (isDay : Bool) {expires nowSecs : Nat} (h : expires ≤ nowSecs)
    {next : Bool × Nat} :
    Alternates (isDay, expires) next ∧ Contains next nowSecs ↔ next = phaseAt (isDay, expires) nowSecs := by
  have hsecs := phaseSecs_not isDay
  simp only [Alternates, Contains, phaseAt]
  constructor
  · rintro ⟨⟨rounds, rfl | rfl⟩, hcontains⟩
    · dsimp only at hcontains
      rw [if_neg (by omega)]
      exact congrArg _ (by omega)
    · dsimp only at hcontains
      rw [if_pos (by omega)]
      exact congrArg _ (by omega)
  · rintro rfl
    split
    · exact ⟨⟨(nowSecs - expires) / 9000, .inr (congrArg _ (by omega))⟩, by dsimp only; omega⟩
    · exact ⟨⟨(nowSecs - expires) / 9000 + 1, .inl (congrArg _ (by omega))⟩, by dsimp only; omega⟩

section Walk

variable {isDay : Bool} {expires nowSecs : Nat}

theorem phaseAt_of_lt_other (hle : expires ≤ nowSecs) (h : nowSecs < expires + phaseSecs (!isDay)) :
    phaseAt (isDay, expires) nowSecs = (!isDay, expires + phaseSecs (!isDay)) := by
  exact ((alternates_and_contains_iff isDay hle).mp ⟨⟨0, .inr (by rw [Nat.mul_zero, Nat.add_zero])⟩,
    by dsimp only; omega, h⟩).symm

theorem phaseAt_of_lt_round (hle : expires + phaseSecs (!isDay) ≤ nowSecs) (h : nowSecs < expires + 9000) :
    phaseAt (isDay, expires) nowSecs = (isDay, expires + 9000) := by
  have hsecs := phaseSecs_not isDay
  exact ((alternates_and_contains_iff isDay (by omega)).mp
    ⟨⟨1, .inl (by rw [Nat.mul_one])⟩, by dsimp only; omega, h⟩).symm

theorem phaseAt_add_round (hle : expires + 9000 ≤ nowSecs) :
    phaseAt (isDay, expires + 9000) nowSecs = phaseAt (isDay, expires) nowSecs := by
  have hsince : (nowSecs - (expires + 9000)) % 9000 = (nowSecs - expires) % 9000 := by omega
  simp only [phaseAt, hsince]

theorem lt_phaseAt (isDay : Bool) (hle : expires ≤ nowSecs) : nowSecs < (phaseAt (isDay, expires) nowSecs).2 :=
  ((alternates_and_contains_iff isDay hle).mpr rfl).2.2

theorem advancePhase_of_lt (h : nowSecs < expires) (rounds : Nat) :
    advancePhase nowSecs rounds (isDay, expires) = (isDay, expires) := by
  cases rounds with
  | zero => rfl
  | succ rounds => exact if_pos h

theorem advancePhase_succ (h : expires ≤ nowSecs) (hmax : expires + phaseSecs (!isDay) ≤ u64Max) (rounds : Nat) :
    advancePhase nowSecs (rounds + 1) (isDay, expires) =
      advancePhase nowSecs rounds (!isDay, expires + phaseSecs (!isDay)) := by
  have hstep : saturatingAdd u64Max expires (if isDay then cetusNightSecs else cetusDaySecs) =
      expires + phaseSecs (!isDay) := by
    rw [← Nat.min_eq_left hmax]
    cases isDay <;> rfl
  rw [advancePhase, if_neg (Nat.not_lt.mpr h), hstep]

theorem advancePhase_succ_succ (h : expires + phaseSecs (!isDay) ≤ nowSecs) (hmax : expires + 9000 ≤ u64Max)
    (rounds : Nat) :
    advancePhase nowSecs (rounds + 2) (isDay, expires) = advancePhase nowSecs rounds (isDay, expires + 9000) := by
  have hsecs := phaseSecs_not isDay
  rw [advancePhase_succ (by omega) (by omega), advancePhase_succ h (by rw [Bool.not_not]; omega), Bool.not_not,
    Nat.add_assoc, hsecs.2.2]

/-- An even number of rounds finds the phase if it covers the time, and else ends in the phase it began with. -/
theorem advancePhase_eq (hle : expires ≤ nowSecs) (hmax : (phaseAt (isDay, expires) nowSecs).2 ≤ u64Max)
    (rounds : Nat) :
    advancePhase nowSecs (2 * rounds) (isDay, expires) =
      if nowSecs < expires + 9000 * rounds then phaseAt (isDay, expires) nowSecs
      else (isDay, expires + 9000 * rounds) := by
  have hsecs := phaseSecs_not isDay
  induction rounds generalizing expires with
  | zero => exact (if_neg (Nat.not_lt.mpr hle)).symm
  | succ rounds ih =>
    have hlt := lt_phaseAt isDay hle
    rw [Nat.mul_succ, Nat.mul_succ]
    by_cases hother : nowSecs < expires + phaseSecs (!isDay)
    · rw [phaseAt_of_lt_other hle hother] at hmax ⊢
      rw [advancePhase_succ hle hmax, advancePhase_of_lt hother, if_pos (by omega)]
    by_cases hround : nowSecs < expires + 9000
    · rw [phaseAt_of_lt_round (by omega) hround] at hmax ⊢
      rw [advancePhase_succ_succ (by omega) hmax, advancePhase_of_lt hround,
        if_pos (Nat.lt_of_lt_of_le hround (by omega))]
    · rw [advancePhase_succ_succ (by omega) (by omega), ← phaseAt_add_round (by omega)]
      rw [← phaseAt_add_round (by omega)] at hmax
      rw [ih (by omega) hmax, Nat.add_assoc, Nat.add_comm 9000]

theorem advancePhase_le (isDay : Bool) (nowSecs rounds : Nat) (h : expires ≤ u64Max) :
    (advancePhase nowSecs rounds (isDay, expires)).2 ≤ u64Max := by
  induction rounds generalizing isDay expires with
  | zero => exact h
  | succ rounds ih =>
    rw [advancePhase]
    split
    · exact h
    · exact ih _ (Nat.min_le_right _ _)

end Walk

theorem Alternates.trans {first second third : Bool × Nat} (h : Alternates first second)
    (h' : Alternates second third) : Alternates first third := by
  have hsecs := phaseSecs_not first.1
  obtain ⟨rounds, rfl | rfl⟩ := h <;> obtain ⟨rounds', rfl | rfl⟩ := h'
  · exact ⟨rounds + rounds', .inl (congrArg _ (by dsimp only; omega))⟩
  · exact ⟨rounds + rounds', .inr (congrArg _ (by dsimp only; omega))⟩
  · exact ⟨rounds + rounds', .inr (congrArg _ (by dsimp only; omega))⟩
  · exact ⟨rounds + rounds' + 1, .inl (by rw [Bool.not_not]; exact congrArg _ (by dsimp only; omega))⟩

/-! ### Rows of the bounties over time -/

section Rows

variable {day night : String} {cycle : CycleStatus} {isDay : Bool} {nowSecs : Nat}

/-- The times that the walk from a phase reaches: it takes 64 steps, which are 288,000 seconds, and a
longer one is right only in the last second of a phase of the kind it began with. -/
def Reached (isDay : Bool) (expires nowSecs : Nat) : Prop :=
  (phaseAt (isDay, expires) nowSecs).2 ≤ u64Max ∧
    (nowSecs < expires + 288000 ∨ (nowSecs + 1 - expires) % 9000 = 0)

theorem advanceCetusLike_of_le (hne : day ≠ night) (hstate : cycle.state = some (if isDay then day else night))
    (hle : cycle.expiresAtSecs ≤ nowSecs) :
    (advanceCetusLike day night nowSecs cycle).1 =
      cycle.show day night ((advancePhase nowSecs 64 (isDay, cycle.expiresAtSecs)).1,
        max (advancePhase nowSecs 64 (isDay, cycle.expiresAtSecs)).2 (saturatingAdd u64Max nowSecs 1)) := by
  have hday : decide (cycle.state = some day ∨ cycle.state = none) = isDay := by
    cases isDay <;> simp [hstate, hne.symm]
  rw [advanceCetusLike, if_neg (Nat.not_lt.mpr hle), hday]

theorem show_inj (hne : day ≠ night) {phase phase' : Bool × Nat} :
    cycle.show day night phase = cycle.show day night phase' ↔ phase = phase' := by
  obtain ⟨isDay, expires⟩ := phase
  obtain ⟨isDay', expires'⟩ := phase'
  cases isDay <;> cases isDay' <;> simp [CycleStatus.show, hne, hne.symm]

section

variable (hne : day ≠ night) (hstate : cycle.state = some (if isDay then day else night))
  (hmax : cycle.expiresAtSecs ≤ u64Max)

include hne hstate hmax

theorem advanceCetusLike_eq_iff (hle : cycle.expiresAtSecs ≤ nowSecs) :
    (advanceCetusLike day night nowSecs cycle).1 =
        cycle.show day night (phaseAt (isDay, cycle.expiresAtSecs) nowSecs) ↔
      Reached isDay cycle.expiresAtSecs nowSecs := by
  rw [advanceCetusLike_of_le hne hstate hle, show_inj hne, Reached]
  generalize cycle.expiresAtSecs = expires at hmax hle
  have hlt := lt_phaseAt isDay hle
  have hsecs := phaseSecs_not isDay
  unfold saturatingAdd
  by_cases hend : (phaseAt (isDay, expires) nowSecs).2 ≤ u64Max
  · rw [advancePhase_eq hle hend 32]
    split
    · next hreach =>
      exact iff_of_true (Prod.ext rfl (by dsimp only; omega)) ⟨hend, .inl hreach⟩
    · next hreach =>
      have hnext : max (expires + 9000 * 32) (min (nowSecs + 1) u64Max) = nowSecs + 1 := by omega
      rw [and_iff_right hend, or_iff_right hreach]
      simp only [hnext, phaseAt]
      split
      · exact iff_of_false (fun h => by cases isDay <;> cases h) (by omega)
      · rw [Prod.mk.injEq, and_iff_right rfl]
        omega
  · have hwalk := advancePhase_le isDay nowSecs 64 hmax
    refine iff_of_false (fun h => hend ?_) fun h => hend h.1
    rw [← h]
    omega

/-- Within the reach of the walk it does not matter where it was interrupted. -/
theorem advanceCetusLike_advanceCetusLike (hend : (phaseAt (isDay, cycle.expiresAtSecs) nowSecs).2 ≤ u64Max)
    (hreach : nowSecs < cycle.expiresAtSecs + 288000) {earlier : Nat} (hle : earlier ≤ nowSecs) :
    (advanceCetusLike day night nowSecs (advanceCetusLike day night earlier cycle).1).1 =
      (advanceCetusLike day night nowSecs cycle).1 := by
  by_cases hbefore : earlier < cycle.expiresAtSecs
  · have hfirst : advanceCetusLike day night earlier cycle = (cycle, false) := if_pos hbefore
    rw [hfirst]
  have hearlier := Nat.le_of_not_lt hbefore
  have hnow := hearlier.trans hle
  have hlt := lt_phaseAt isDay hnow
  have hfinal := (advanceCetusLike_eq_iff hne hstate hmax hnow).mpr ⟨hend, .inl hreach⟩
  obtain ⟨halternates, hlow, hhigh⟩ := (alternates_and_contains_iff isDay hearlier).mpr rfl
  by_cases hsame : nowSecs < (phaseAt (isDay, cycle.expiresAtSecs) earlier).2
  · have hphase := (alternates_and_contains_iff isDay hnow).mp ⟨halternates, by omega, hsame⟩
    rw [(advanceCetusLike_eq_iff hne hstate hmax hearlier).mpr ⟨hphase ▸ hend, .inl (by omega)⟩, hfinal, ← hphase]
    exact congrArg Prod.fst (if_pos hsame)
  · have hlater := Nat.le_of_not_lt hsame
    have hnext := (alternates_and_contains_iff (phaseAt (isDay, cycle.expiresAtSecs) earlier).1 hlater).mpr rfl
    have hphase := (alternates_and_contains_iff isDay hnow).mp ⟨halternates.trans hnext.1, hnext.2⟩
    rw [(advanceCetusLike_eq_iff hne hstate hmax hearlier).mpr ⟨by omega, .inl (by omega)⟩, hfinal, ← hphase]
    exact (advanceCetusLike_eq_iff hne rfl (by dsimp only [CycleStatus.show]; omega) hlater).mpr
      ⟨hphase ▸ hend, .inl (by dsimp only [CycleStatus.show]; omega)⟩

end

/-- Cetus and Cambion show the same phase. -/
def InPhase (cetus cambion : CycleStatus) : Prop :=
  cambion.expiresAtSecs = cetus.expiresAtSecs ∧ ∃ isDay : Bool,
    cetus.state = some (if isDay then "day" else "night") ∧
      cambion.state = some (if isDay then "fass" else "vome")

theorem InPhase.advance {cetus cambion : CycleStatus} (h : InPhase cetus cambion) (nowSecs : Nat) :
    InPhase (advanceCetusLike "day" "night" nowSecs cetus).1 (advanceCetusLike "fass" "vome" nowSecs cambion).1 := by
  obtain ⟨hexpires, isDay, hcetus, hcambion⟩ := h
  by_cases hbefore : nowSecs < cetus.expiresAtSecs
  · rw [advanceCetusLike, advanceCetusLike, hexpires, if_pos hbefore, if_pos hbefore]
    exact ⟨hexpires, isDay, hcetus, hcambion⟩
  · rw [advanceCetusLike_of_le (by decide) hcetus (Nat.le_of_not_lt hbefore),
      advanceCetusLike_of_le (by decide) hcambion (hexpires ▸ Nat.le_of_not_lt hbefore), hexpires]
    exact ⟨rfl, _, rfl, rfl⟩

theorem inPhase_cambionOf {bountyEndSecs : Nat} {nowMs : Int} {cetus : CycleStatus}
    (h : cetusLikeCycle "cetus" "Cetus" bountyEndSecs nowMs "day" "night" = some cetus) :
    InPhase cetus (cambionOf cetus) := by
  have hstate : cetus.state = some "day" ∨ cetus.state = some "night" := by
    simp only [cetusLikeCycle, bind_eq_bind, bind_eq_some_iff] at h
    obtain ⟨_, _, _, _, _, _, h⟩ := h
    split at h
    · simp only [bind_eq_some_iff] at h
      obtain ⟨_, _, _, _, ⟨⟩⟩ := h
      exact .inl rfl
    · simp only [bind_eq_some_iff] at h
      obtain ⟨_, _, ⟨⟩⟩ := h
      exact .inr rfl
  obtain hday | hnight := hstate
  · exact ⟨rfl, true, hday, by rw [cambionOf, if_pos hday, if_pos rfl]⟩
  · exact ⟨rfl, false, hnight, by rw [cambionOf, if_neg (by rw [hnight]; decide), if_neg Bool.false_ne_true]⟩

end Rows

/-! ### All timers -/

/-- `advance_live_timers` on one cycle, `live.rs:25-36`. -/
def advanceCycle (nowSecs : Nat) (cycle : CycleStatus) : CycleStatus × Bool :=
  if cycle.id = "cetus" then advanceCetusLike "day" "night" nowSecs cycle
  else if cycle.id = "cambion" then advanceCetusLike "fass" "vome" nowSecs cycle
  else if cycle.id = "vallis" then (vallisAt (millisI64 nowSecs), false)
  else if cycle.id = "zariman" ∧ cycle.expiresAtSecs ≤ nowSecs then (zarimanAt (millisI64 nowSecs), true)
  else (cycle, false)

def dailySecs : Nat := 86400

/-- The loop of the daily reset, `live.rs:39-43`: `none` when it does not end because the time stays the
largest one. -/
def advanceReset (nowSecs reset : Nat) : Option Nat :=
  if reset ≤ nowSecs then
    if reset < saturatingAdd u64Max reset dailySecs then
      advanceReset nowSecs (saturatingAdd u64Max reset dailySecs)
    else none
  else some reset
termination_by nowSecs + 1 - reset
decreasing_by omega

/-- `live.rs:16`. -/
def advanceLiveTimers (timers : Timers) (nowSecs : Nat) : Option (Timers × Bool) := do
  if timers.cycles = [] ∧ timers.dailyResetAtSecs = none then return (timers, false)
  let reset ← timers.dailyResetAtSecs.mapM (advanceReset nowSecs)
  return (⟨timers.cycles.map fun cycle => (advanceCycle nowSecs cycle).1, reset⟩,
    timers.cycles.any fun cycle => (advanceCycle nowSecs cycle).2)

theorem exists_advanceReset {nowSecs : Nat} (hnow : nowSecs < u64Max) (reset : Nat) :
    ∃ next, advanceReset nowSecs reset = some next ∧ nowSecs < next := by
  fun_induction advanceReset nowSecs reset with
  | case1 reset hle hlt ih => exact ih
  | case2 reset hle hstuck =>
    unfold saturatingAdd dailySecs at hstuck
    omega
  | case3 reset hle => exact ⟨reset, rfl, by omega⟩

/-- Seconds since the Vallis last became warm. -/
def vallisSince (nowSecs : Nat) : Int := (nowSecs - 1770234408) % 1600

section Live

variable {nowSecs : Nat}

theorem millisI64_of_le (hnow : (nowSecs * 1000 : Int) ≤ (2 ^ 63 - 1) / 2) : millisI64 nowSecs = nowSecs * 1000 := by
  simp only [millisI64, saturatingMul, u64Max]
  omega

theorem tryU64_tdiv {millis : Int} (h : 0 ≤ millis) (fallback : Nat) :
    tryU64 (millis.tdiv 1000) fallback = (millis / 1000).toNat := by
  rw [Int.tdiv_eq_ediv_of_nonneg h, tryU64, if_pos (by omega)]

/-- The row is right except at the end of the warm phase, where it has expired. -/
theorem vallisAt_eq (nowSecs : Nat) :
    vallisAt (nowSecs * 1000) = ⟨"vallis", "Vallis", some (if vallisSince nowSecs < 400 then "warm" else "cold"),
      (nowSecs + if vallisSince nowSecs ≤ 400 then 400 - vallisSince nowSecs
        else 1600 - vallisSince nowSecs).toNat⟩ := by
  have hsince : (nowSecs * 1000 - 1770234408000 : Int) % 1600000 = vallisSince nowSecs * 1000 := by
    unfold vallisSince
    omega
  have hrange : 0 ≤ vallisSince nowSecs ∧ vallisSince nowSecs < 1600 := by
    omega
  simp only [vallisAt, hsince, CycleStatus.mk.injEq, true_and]
  constructor
  · congr 2
    rw [eq_iff_iff]
    omega
  · rw [tryU64_tdiv (by omega)]
    omega

theorem lt_zarimanAt (nowSecs : Nat) : nowSecs < (zarimanAt (nowSecs * 1000)).expiresAtSecs := by
  simp only [zarimanAt, zarimanRow]
  rw [tryU64_tdiv (by omega)]
  omega

theorem lt_advanceCetusLike {day night : String} (hnow : nowSecs < u64Max) (cycle : CycleStatus) :
    nowSecs < (advanceCetusLike day night nowSecs cycle).1.expiresAtSecs := by
  unfold advanceCetusLike
  split
  · assumption
  · dsimp only [CycleStatus.show, saturatingAdd]
    omega

/-- What the timers should show at a time. -/
def Live (timers : Timers) (nowSecs : Nat) : Prop :=
  (∀ row ∈ timers.cycles, row.id ∈ ["cetus", "cambion", "vallis", "zariman"] → nowSecs < row.expiresAtSecs) ∧
  (∀ reset ∈ timers.dailyResetAtSecs, nowSecs < reset) ∧
  ∀ row ∈ timers.cycles, row.id = "vallis" →
    row.state = some (if vallisSince nowSecs < 400 then "warm" else "cold") ∧
      (row.expiresAtSecs : Int) = nowSecs + ((if vallisSince nowSecs < 400 then 400 else 1600) - vallisSince nowSecs)

theorem advanceCetusLike_id {day night : String} (cycle : CycleStatus) :
    (advanceCetusLike day night nowSecs cycle).1.id = cycle.id := by
  unfold advanceCetusLike
  split <;> rfl

/-- A row keeps its place; the one of the Vallis is computed afresh and the others are ahead of the time. -/
theorem advanceCycle_spec (hnow : (nowSecs * 1000 : Int) ≤ (2 ^ 63 - 1) / 2) (cycle : CycleStatus) :
    (advanceCycle nowSecs cycle).1.id = cycle.id ∧
      (cycle.id = "vallis" → (advanceCycle nowSecs cycle).1 = vallisAt (nowSecs * 1000)) ∧
      (cycle.id ∈ ["cetus", "cambion", "zariman"] → nowSecs < (advanceCycle nowSecs cycle).1.expiresAtSecs) := by
  have hmax : nowSecs < u64Max := by
    unfold u64Max
    omega
  unfold advanceCycle
  rw [millisI64_of_le hnow]
  split
  · next hid => exact ⟨advanceCetusLike_id cycle, by simp [hid], fun _ => lt_advanceCetusLike hmax cycle⟩
  split
  · next hid => exact ⟨advanceCetusLike_id cycle, by simp [hid], fun _ => lt_advanceCetusLike hmax cycle⟩
  split
  · next hid => exact ⟨hid.symm, fun _ => rfl, by simp [hid]⟩
  split
  · next hid => exact ⟨hid.1.symm, by simp [hid.1], fun _ => lt_zarimanAt nowSecs⟩
  · next hcetus hcambion hvallis hzariman =>
    refine ⟨rfl, fun h => absurd h hvallis, fun h => Nat.lt_of_not_le fun hle => hzariman ⟨?_, hle⟩⟩
    simpa [hcetus, hcambion] using h

/-- A parsed snapshot has a row of the Vallis and a daily reset. -/
theorem of_parseTimers {document : Json} {fetchedAtSecs : Nat} {timers : Timers}
    (h : parseTimers document fetchedAtSecs = some timers) :
    vallisAt (millisI64 fetchedAtSecs) ∈ timers.cycles ∧ ∃ reset, timers.dailyResetAtSecs = some reset := by
  simp only [parseTimers, bind_eq_bind, bind_eq_some_iff] at h
  obtain ⟨raw, -, bounties, hbounties, ⟨⟩⟩ := h
  refine ⟨?_, _, rfl⟩
  revert hbounties
  cases syndicateExpiry raw.syndicateMissions "CetusSyndicate" with
  | none =>
    rintro ⟨⟩
    exact List.mem_cons_self
  | some bountyEnd =>
    simp only [bountyCycles, bind_eq_bind, bind_eq_some_iff]
    rintro ⟨cetus, -, ⟨⟩⟩
    exact List.mem_cons_of_mem _ (List.mem_cons_of_mem _ List.mem_cons_self)

/-- The timers of a parsed snapshot are live except in the second in which the Vallis turns cold. -/
theorem advanceLiveTimers_live_iff {document : Json} {fetchedAtSecs : Nat} {timers : Timers}
    (hparse : parseTimers document fetchedAtSecs = some timers)
    (hnow : (nowSecs * 1000 : Int) ≤ (2 ^ 63 - 1) / 2) :
    ∃ next refresh, advanceLiveTimers timers nowSecs = some (next, refresh) ∧
      (Live next nowSecs ↔ vallisSince nowSecs ≠ 400) := by
  obtain ⟨hvallis, reset, hreset⟩ := of_parseTimers hparse
  obtain ⟨next, hnext, hlt⟩ := exists_advanceReset (show nowSecs < u64Max by unfold u64Max; omega) reset
  have hrange : 0 ≤ vallisSince nowSecs ∧ vallisSince nowSecs < 1600 := by
    unfold vallisSince
    omega
  have hrun : advanceLiveTimers timers nowSecs =
      some (⟨timers.cycles.map fun cycle => (advanceCycle nowSecs cycle).1, some next⟩,
        timers.cycles.any fun cycle => (advanceCycle nowSecs cycle).2) := by
    simp [advanceLiveTimers, hreset, hnext]
  refine ⟨_, _, hrun, ?_, fun hne => ⟨?_, ?_, ?_⟩⟩
  · intro hlive heq
    have hrow := (advanceCycle_spec hnow (vallisAt (millisI64 fetchedAtSecs))).2.1 rfl
    have hexpires := hlive.1 (vallisAt (nowSecs * 1000)) (List.mem_map.mpr ⟨_, hvallis, hrow⟩)
      (by simp [vallisAt])
    rw [vallisAt_eq] at hexpires
    dsimp only at hexpires
    omega
  · intro row hrow hid
    obtain ⟨cycle, -, rfl⟩ := List.mem_map.mp hrow
    obtain ⟨hkeeps, hvallis, hother⟩ := advanceCycle_spec hnow cycle
    by_cases hcycle : cycle.id = "vallis"
    · rw [hvallis hcycle, vallisAt_eq]
      dsimp only
      omega
    · exact hother (by simpa [hkeeps, hcycle] using hid)
  · rintro _ ⟨⟩
    exact hlt
  · intro row hrow hid
    obtain ⟨cycle, -, rfl⟩ := List.mem_map.mp hrow
    obtain ⟨hkeeps, hvallis, -⟩ := advanceCycle_spec hnow cycle
    rw [hvallis (hkeeps ▸ hid), vallisAt_eq]
    refine ⟨rfl, ?_⟩
    dsimp only
    omega

/-- In the second in which the Vallis turns cold its row has no time left. -/
theorem vallis_expired_at_boundary :
    (parseTimers (.object []) 1770234000).bind (advanceLiveTimers · 1770234808) =
      some (⟨[⟨"vallis", "Vallis", some "cold", 1770234808⟩], some 1770249600⟩, false) := by
  decide +kernel

theorem advanceLiveTimers_live_warm : ∃ next refresh,
    advanceLiveTimers ⟨[vallisAt 1770234000000], some 1770249600⟩ 1770234409 = some (next, refresh) ∧
      (Live next 1770234409 ↔ vallisSince 1770234409 ≠ 400) :=
  @advanceLiveTimers_live_iff _ (.object []) 1770234000 _ (by decide +kernel) (by decide)

end Live

end OverCrow.Warframe
