import OverCrow.Base.Machine
import OverCrow.Base.Run

/-!
# The latest-value channel

`crates/overcrow-overlay/src/runtime/latest.rs` and the readiness flags of
`crates/overcrow-overlay/src/runtime/readiness.rs`. Publishers store a value, queue a token and then
mark their flag; the receiver takes the flags, then the token, then the value. Each of these is a
step of its own, so that every interleaving is a run. The receiver is alive.
-/

namespace OverCrow.Overlay
open OverCrow.Base List Option

universe u

variable {T : Type u}

/-- `latest.rs:6`. -/
structure VersionedValue (T : Type u) where
  revision : Nat
  value : T
  deriving DecidableEq

/-- `latest.rs:20`. -/
structure LatestState (T : Type u) where
  current : T
  revision : Nat := 0
  pending : Bool := false
  deriving DecidableEq

namespace LatestState

/-- Store the value that is computed from the present one; at the last revision the thread
panics. -/
def store (f : T → T) (state : LatestState T) : Option (LatestState T) :=
  (checkedAdd u64Max state.revision 1).map fun revision =>
    { current := f state.current, revision := revision, pending := true }

/-- The locked section of `publish`, `latest.rs:66-74`. -/
def publish (value : T) (state : LatestState T) : Option (LatestState T) :=
  state.store fun _ => value

/-- The locked section of `update`, `latest.rs:96-106`. -/
def update (f : T → T) (state : LatestState T) : Option (LatestState T) := state.store f

/-- The locked section of `take_latest`, `latest.rs:114-122`. -/
def take (state : LatestState T) : Option (VersionedValue T) × LatestState T :=
  if state.pending then (some ⟨state.revision, state.current⟩, { state with pending := false })
  else (none, state)

theorem store_eq_some {f : T → T} {state after : LatestState T} (h : state.store f = some after) :
    after = ⟨f state.current, state.revision + 1, true⟩ := by
  obtain ⟨revision, hrevision, rfl⟩ := map_eq_some_iff.mp h
  rw [(checkedAdd_eq_some.mp hrevision).2]

end LatestState

/-! ### Readiness flags -/

/-- The providers that have a flag, `readiness.rs:6`. -/
inductive Provider where
  | media
  | worldstate
  | market
  deriving DecidableEq

/-- `MEDIA`, `WORLDSTATE` and `MARKET`. -/
def Provider.mask : Provider → UInt8
  | .media => 1
  | .worldstate => 2
  | .market => 4

/-- `readiness.rs:11`. -/
structure ProviderReadiness where
  bits : UInt8 := 0
  deriving DecidableEq

namespace ProviderReadiness

/-- `mark_media`, `mark_worldstate` and `mark_market`,
`readiness.rs:16-26`. -/
def mark (provider : Provider) (readiness : ProviderReadiness) : ProviderReadiness :=
  ⟨readiness.bits ||| provider.mask⟩

/-- A flag of `ReadyProviders`, `readiness.rs:36-46`. -/
def ready (provider : Provider) (readiness : ProviderReadiness) : Bool :=
  readiness.bits &&& provider.mask ≠ 0

theorem ready_mark_self (provider : Provider) (readiness : ProviderReadiness) :
    (readiness.mark provider).ready provider = true := by
  have hself : (readiness.bits ||| provider.mask) &&& provider.mask = provider.mask := by
    rw [← UInt8.toBitVec_inj, UInt8.toBitVec_and, UInt8.toBitVec_or]
    ext i hi
    rw [BitVec.getElem_and, BitVec.getElem_or]
    cases readiness.bits.toBitVec[i] <;> cases provider.mask.toBitVec[i] <;> rfl
  unfold ready mark
  rw [hself]
  cases provider <;> decide

theorem ready_mark {provider : Provider} {readiness : ProviderReadiness} (other : Provider)
    (h : readiness.ready provider = true) : (readiness.mark other).ready provider = true := by
  refine decide_eq_true fun hzero => of_decide_eq_true h ?_
  have hless : readiness.bits &&& provider.mask =
      (readiness.mark other).bits &&& provider.mask &&& readiness.bits := by
    rw [← UInt8.toBitVec_inj, mark, UInt8.toBitVec_and, UInt8.toBitVec_and, UInt8.toBitVec_and,
      UInt8.toBitVec_or]
    ext i hi
    simp only [BitVec.getElem_and, BitVec.getElem_or]
    grind
  rw [hless, hzero, UInt8.zero_and]

end ProviderReadiness

/-! ### Publishers and the receiver -/

/-- Where a publisher stands in a call of `publish` or `update` and the callback after it. -/
inductive PublisherPlace where
  | idle
  /-- The value is stored. -/
  | notifying
  /-- The call has returned. -/
  | marking
  | panicked
  deriving DecidableEq

/-- Where the receiver stands in a call of `take_latest`. -/
inductive ReceiverPlace where
  | idle
  | called
  /-- A token was received. -/
  | received
  deriving DecidableEq

/-- The channel of a provider with its publishers and its receiver. What was done to the value, and
what was taken, is recorded in order. -/
structure LatestSystem (T : Type u) where
  state : LatestState T
  /-- The queue of capacity one. -/
  ready : Bool := false
  readiness : ProviderReadiness := {}
  publishers : Nat → PublisherPlace := fun _ => .idle
  receiver : ReceiverPlace := .idle
  stored : List (T → T) := []
  taken : List (VersionedValue T) := []

namespace LatestSystem

/-- A step of a publisher, of the receiver, or of the publishers of another provider. -/
inductive Event (T : Type u) where
  | publish (i : Nat) (value : T)
  | update (i : Nat) (f : T → T)
  /-- `notify_receiver`, `latest.rs:86`. -/
  | notify (i : Nat)
  | mark (i : Nat)
  | markOther (other : Provider)
  | takeLatest
  /-- `drain_ready_warframe_providers`, `crates/overcrow-overlay/src/warframe/controller.rs:104`. -/
  | sync
  | tryRecv
  | lock

/-- A publisher goes on. -/
def place (i : Nat) (at_ : PublisherPlace) (s : LatestSystem T) : LatestSystem T :=
  { s with publishers := fun j => if j = i then at_ else s.publishers j }

/-- The locked section of a publisher, with what it does to the value. -/
def begin (i : Nat) (f : T → T) (after : Option (LatestState T)) (s : LatestSystem T) :
    Option (LatestSystem T) :=
  if s.publishers i = .idle then
    some (match after with
      | none => s.place i .panicked
      | some state => { s with state := state, stored := s.stored ++ [f] }.place i .notifying)
  else none

def step (provider : Provider) (s : LatestSystem T) : Event T → Option (LatestSystem T)
  | .publish i value => s.begin i (fun _ => value) (s.state.publish value)
  | .update i f => s.begin i f (s.state.update f)
  | .notify i =>
    if s.publishers i = .notifying then some ({ s with ready := true }.place i .marking) else none
  | .mark i =>
    if s.publishers i = .marking then
      some ({ s with readiness := s.readiness.mark provider }.place i .idle)
    else none
  | .markOther other => some { s with readiness := s.readiness.mark other }
  | .takeLatest => if s.receiver = .idle then some { s with receiver := .called } else none
  | .sync =>
    if s.receiver = .idle then
      some { s with
        readiness := {}
        receiver := if s.readiness.ready provider then .called else .idle }
    else none
  | .tryRecv =>
    if s.receiver = .called then
      some { s with ready := false, receiver := if s.ready then .received else .idle }
    else none
  | .lock =>
    if s.receiver = .received then
      some { s with
        state := s.state.take.2
        receiver := .idle
        taken := s.taken ++ s.state.take.1.toList }
    else none

/-- A new channel, `latest_channel`, `latest.rs:45`. -/
def start (initial : T) : LatestSystem T := { state := { current := initial } }

/-- The value of a revision: what the publications up to it have made of the first one. -/
def valueAt (initial : T) (s : LatestSystem T) (revision : Nat) : T :=
  (s.stored.take revision).foldl (fun value f => f value) initial

/-- The newest revision was published and not taken. -/
def Untaken (s : LatestSystem T) : Prop :=
  0 < s.state.revision ∧ ∀ v ∈ s.taken, v.revision ≠ s.state.revision

instance (s : LatestSystem T) : Decidable s.Untaken := inferInstanceAs (Decidable (_ ∧ _))

/-! ### What is taken -/

/-- What was taken is what was stored under its revision. -/
structure Recorded (initial : T) (s : LatestSystem T) : Prop where
  revision : s.state.revision = s.stored.length
  current : s.state.current = s.valueAt initial s.state.revision
  increasing : s.taken.Pairwise (·.revision < ·.revision)
  values : ∀ v ∈ s.taken, 0 < v.revision ∧ v.revision ≤ s.state.revision ∧
    v.value = s.valueAt initial v.revision
  pending : s.state.pending = true → 0 < s.state.revision ∧
    ∀ v ∈ s.taken, v.revision < s.state.revision
  settled : s.state.pending = false → 0 < s.state.revision →
    ∃ v ∈ s.taken, v.revision = s.state.revision

variable {initial : T} {s t : LatestSystem T}
  {f : T → T} {i : Nat}

theorem Recorded.pending_iff (h : Recorded initial s) : s.state.pending = true ↔ s.Untaken := by
  constructor
  · intro hpending
    exact ⟨(h.pending hpending).1, fun v hv => Nat.ne_of_lt ((h.pending hpending).2 v hv)⟩
  · rintro ⟨hpositive, huntaken⟩
    by_contra hpending
    obtain ⟨v, hv, hrevision⟩ := h.settled (Bool.not_eq_true _ ▸ hpending) hpositive
    exact huntaken v hv hrevision

/-- Publications do not change the values of earlier revisions. -/
theorem valueAt_append {n : Nat} (hn : n ≤ s.stored.length)
    (ht : t.stored = s.stored ++ [f]) : t.valueAt initial n = s.valueAt initial n := by
  unfold valueAt
  rw [ht, take_append_of_le_length hn]

/-- What a publisher has done after its locked section. -/
theorem begin_cases (h : s.begin i f (s.state.store f) = some t) :
    t = s.place i .panicked ∨
      t = { s with state := ⟨f s.state.current, s.state.revision + 1, true⟩
                   stored := s.stored ++ [f] }.place i .notifying := by
  obtain ⟨-, ht⟩ := ite_none_right_eq_some.mp h
  cases hstore : s.state.store f with
  | none =>
    rw [hstore] at ht
    exact .inl (some.inj ht).symm
  | some state =>
    obtain rfl := LatestState.store_eq_some hstore
    rw [hstore] at ht
    exact .inr (some.inj ht).symm

theorem Recorded.begin (h : Recorded initial s)
    (ht : s.begin i f (s.state.store f) = some t) : Recorded initial t := by
  rcases begin_cases ht with rfl | rfl
  · exact { h with }
  refine ⟨?_, ?_, h.increasing, fun v hv => ?_, fun _ => ⟨Nat.succ_pos _, fun v hv => ?_⟩, nofun⟩
  · simp [place, h.revision]
  · have hcurrent := h.current
    unfold valueAt at hcurrent ⊢
    dsimp only [place]
    rw [h.revision, take_length] at hcurrent
    rw [h.revision, take_of_length_le (by simp), foldl_append, ← hcurrent]
    rfl
  · obtain ⟨hpositive, hle, hvalue⟩ := h.values v hv
    refine ⟨hpositive, Nat.le_succ_of_le hle, hvalue.trans ?_⟩
    exact (valueAt_append (h.revision ▸ hle) rfl).symm
  · exact Nat.lt_succ_of_le (h.values v hv).2.1

/-- Taking the value that is pending. -/
theorem Recorded.take (h : Recorded initial s) (hpending : s.state.pending = true) :
    Recorded initial { s with
      state := { s.state with pending := false }, receiver := .idle
      taken := s.taken ++ [⟨s.state.revision, s.state.current⟩] } := by
  obtain ⟨hpositive, hfresh⟩ := h.pending hpending
  refine { h with increasing := ?_, values := fun v hv => ?_, pending := nofun, settled := fun _ _ => ?_ }
  · rw [pairwise_append]
    exact ⟨h.increasing, pairwise_singleton _ _, fun v hv w hw =>
      mem_singleton.mp hw ▸ hfresh v hv⟩
  · rcases mem_append.mp hv with hv | hv
    · exact h.values v hv
    · cases mem_singleton.mp hv
      exact ⟨hpositive, Nat.le_refl _, h.current⟩
  · exact ⟨_, mem_append_right _ (mem_singleton.mpr rfl), rfl⟩

theorem Recorded.step {provider : Provider} {event : Event T} (h : Recorded initial s)
    (ht : s.step provider event = some t) : Recorded initial t := by
  -- Only the locked sections touch what is recorded.
  cases event with
  | publish i value => exact h.begin ht
  | update i f => exact h.begin ht
  | markOther other =>
    cases ht
    exact { h with }
  | lock =>
    obtain ⟨-, ht⟩ := ite_none_right_eq_some.mp ht
    cases hpending : s.state.pending with
    | true =>
      rw [LatestState.take, if_pos hpending] at ht
      cases ht
      exact h.take hpending
    | false =>
      rw [LatestState.take, if_neg (Bool.eq_false_iff.mp hpending), toList_none,
        append_nil] at ht
      cases ht
      exact { h with }
  | _ =>
    obtain ⟨-, ht⟩ := ite_none_right_eq_some.mp ht
    cases ht
    exact { h with }

theorem recorded_start (initial : T) : Recorded initial (start initial) :=
  ⟨rfl, rfl, .nil, fun _ hv => absurd hv not_mem_nil, nofun, fun _ h => absurd h (Nat.lt_irrefl 0)⟩

/-! ### What wakes the receiver -/

/-- A value that was not taken is announced by a token or by someone on the way. -/
structure Announced (provider : Provider) (s : LatestSystem T) : Prop where
  token : s.state.pending = true →
    s.ready = true ∨ (∃ i, s.publishers i = .notifying) ∨ s.receiver = .received
  flag : s.state.pending = true → s.readiness.ready provider = true ∨
    (∃ i, s.publishers i = .notifying ∨ s.publishers i = .marking) ∨ s.receiver ≠ .idle

variable {provider : Provider}

theorem place_self {at_ : PublisherPlace} : (s.place i at_).publishers i = at_ :=
  if_pos rfl

/-- The publishers that stand elsewhere than the one that goes on still do. -/
theorem exists_place {at_ : PublisherPlace} {P : PublisherPlace → Prop}
    (hi : ¬P (s.publishers i)) (h : ∃ j, P (s.publishers j)) :
    ∃ j, P ((s.place i at_).publishers j) := by
  obtain ⟨j, hj⟩ := h
  refine ⟨j, ?_⟩
  have hne : j ≠ i := fun heq => hi (heq ▸ hj)
  have hsame : (s.place i at_).publishers j = s.publishers j := if_neg hne
  rwa [hsame]

theorem Announced.begin (h : Announced provider s)
    (ht : s.begin i f (s.state.store f) = some t) : Announced provider t := by
  have hidle := (ite_none_right_eq_some.mp ht).1
  rcases begin_cases ht with rfl | rfl
  · refine ⟨fun hpending => ?_, fun hpending => ?_⟩
    · refine (h.token hpending).imp_right (Or.imp_left fun hsome => ?_)
      exact exists_place (P := (· = .notifying)) (by rw [hidle]; nofun) hsome
    · refine (h.flag hpending).imp_right (Or.imp_left fun hsome => ?_)
      exact exists_place (P := fun at_ => at_ = .notifying ∨ at_ = .marking)
        (by rw [hidle]; rintro (h | h) <;> cases h) hsome
  · exact ⟨fun _ => .inr (.inl ⟨i, place_self⟩), fun _ => .inr (.inl ⟨i, .inl place_self⟩)⟩

theorem Announced.step {event : Event T} (h : Announced provider s)
    (ht : s.step provider event = some t) : Announced provider t := by
  cases event with
  | publish i value => exact h.begin ht
  | update i f => exact h.begin ht
  | notify i =>
    obtain ⟨hi, ht⟩ := ite_none_right_eq_some.mp ht
    cases ht
    exact ⟨fun _ => .inl rfl, fun _ => .inr (.inl ⟨i, .inr place_self⟩)⟩
  | mark i =>
    obtain ⟨hi, ht⟩ := ite_none_right_eq_some.mp ht
    cases ht
    refine ⟨fun hpending => ?_, fun _ => .inl (ProviderReadiness.ready_mark_self _ _)⟩
    refine (h.token hpending).imp_right (Or.imp_left fun hsome => ?_)
    exact exists_place (P := (· = .notifying)) (by rw [hi]; nofun) hsome
  | markOther other =>
    cases ht
    exact ⟨h.token, fun hpending =>
      (h.flag hpending).imp_left (ProviderReadiness.ready_mark other)⟩
  | takeLatest =>
    obtain ⟨hidle, ht⟩ := ite_none_right_eq_some.mp ht
    cases ht
    refine ⟨fun hpending => (h.token hpending).imp_right (Or.imp_right fun hreceived => ?_),
      fun _ => .inr (.inr nofun)⟩
    exact absurd (hidle.symm.trans hreceived) nofun
  | sync =>
    obtain ⟨hidle, ht⟩ := ite_none_right_eq_some.mp ht
    cases ht
    refine ⟨fun hpending => ?_, fun hpending => ?_⟩
    · refine (h.token hpending).imp_right (Or.imp_right fun hreceived => ?_)
      exact absurd (hidle.symm.trans hreceived) nofun
    · rcases h.flag hpending with hready | hsome | hbusy
      · exact .inr (.inr (by rw [if_pos hready]; nofun))
      · exact .inr (.inl hsome)
      · exact absurd hidle hbusy
  | tryRecv =>
    obtain ⟨hcalled, ht⟩ := ite_none_right_eq_some.mp ht
    cases ht
    -- Without a token a publisher is about to queue one, and to mark its flag.
    have hsome (hpending : s.state.pending = true) (hready : s.ready ≠ true) :
        ∃ i, s.publishers i = .notifying := by
      rcases h.token hpending with htoken | hsome | hreceived
      · exact absurd htoken hready
      · exact hsome
      · exact absurd (hcalled.symm.trans hreceived) nofun
    refine ⟨fun hpending => ?_, fun hpending => ?_⟩
    · by_cases hready : s.ready = true
      · exact .inr (.inr (if_pos hready))
      · exact .inr (.inl (hsome hpending hready))
    · by_cases hready : s.ready = true
      · exact .inr (.inr (by rw [if_pos hready]; nofun))
      · obtain ⟨i, hi⟩ := hsome hpending hready
        exact .inr (.inl ⟨i, .inl hi⟩)
  | lock =>
    obtain ⟨-, ht⟩ := ite_none_right_eq_some.mp ht
    cases ht
    have hnone : s.state.take.2.pending = false := by
      unfold LatestState.take
      split
      · rfl
      · next hpending => exact Bool.eq_false_iff.mpr hpending
    exact ⟨fun hpending => absurd (hnone.symm.trans hpending) nofun,
      fun hpending => absurd (hnone.symm.trans hpending) nofun⟩

theorem announced_start (initial : T) : Announced provider (start initial) := ⟨nofun, nofun⟩

theorem invariants_of_reaches (h : Reaches (step provider) (start initial) s) :
    Recorded initial s ∧ Announced provider s :=
  reaches_invariant (P := fun s => Recorded initial s ∧ Announced provider s)
    (fun _ _ _ hs ht => ⟨hs.1.step ht, hs.2.step ht⟩) ⟨recorded_start initial, announced_start initial⟩
    h

/-! ### Calls that are not interrupted -/

/-- `latest.rs:112`. -/
def takeLatest (s : LatestSystem T) : Option (VersionedValue T) × LatestSystem T :=
  if s.ready then
    (s.state.take.1,
      { s with ready := false, state := s.state.take.2, taken := s.taken ++ s.state.take.1.toList })
  else (none, s)

/-- `drain_ready_warframe_providers`, `controller.rs:104`, as far
as one provider is concerned. -/
def drain (provider : Provider) (s : LatestSystem T) :
    Option (VersionedValue T) × LatestSystem T :=
  let taken := { s with readiness := {} }
  if s.readiness.ready provider then taken.takeLatest else (none, taken)

theorem reaches_takeLatest (hidle : s.receiver = .idle) :
    Reaches (step provider) s s.takeLatest.2 := by
  obtain ⟨state, ready, readiness, publishers, receiver, stored, taken⟩ := s
  obtain rfl : receiver = .idle := hidle
  cases ready with
  | false => exact ⟨[], rfl⟩
  | true => exact ⟨[.takeLatest, .tryRecv, .lock], rfl⟩

theorem reaches_drain (hidle : s.receiver = .idle) :
    Reaches (step provider) s (s.drain provider).2 := by
  obtain ⟨state, ready, readiness, publishers, receiver, stored, taken⟩ := s
  obtain rfl : receiver = .idle := hidle
  unfold drain
  cases hready : readiness.ready provider with
  | false =>
    refine ⟨[.sync], ?_⟩
    simp [run, step, hready]
  | true =>
    cases ready with
    | false =>
      refine ⟨[.sync, .tryRecv], ?_⟩
      simp [run, step, hready, takeLatest]
    | true =>
      refine ⟨[.sync, .tryRecv, .lock], ?_⟩
      simp [run, step, hready, takeLatest]

/-- What a call returns if a token is there for every value that was not taken. -/
theorem Recorded.takeLatest_eq (h : Recorded initial s) (htoken : s.Untaken → s.ready = true) :
    s.takeLatest.1 =
      if s.Untaken then some ⟨s.state.revision, s.state.current⟩ else none := by
  unfold takeLatest LatestState.take
  by_cases huntaken : s.Untaken
  · rw [if_pos (htoken huntaken), if_pos (h.pending_iff.mpr huntaken), if_pos huntaken]
  · rw [if_neg (mt h.pending_iff.mp huntaken), if_neg huntaken]
    split <;> rfl

theorem Announced.ready_of_untaken (h : Announced provider s) (hrecorded : Recorded initial s)
    (hidle : s.receiver = .idle) (hnone : ∀ i, s.publishers i ≠ .notifying)
    (huntaken : s.Untaken) : s.ready = true := by
  rcases h.token (hrecorded.pending_iff.mpr huntaken) with htoken | ⟨i, hi⟩ | hreceived
  · exact htoken
  · exact absurd hi (hnone i)
  · exact absurd (hidle.symm.trans hreceived) nofun

theorem Announced.drain_eq (h : Announced provider s) (hrecorded : Recorded initial s)
    (hidle : s.receiver = .idle) (hnone : ∀ i, s.publishers i = .idle ∨ s.publishers i = .panicked) :
    (s.drain provider).1 =
      if s.Untaken then some ⟨s.state.revision, s.state.current⟩ else none := by
  have hnotifying (i : Nat) : s.publishers i ≠ .notifying := by
    rcases hnone i with hi | hi <;> rw [hi] <;> nofun
  have hmarking (i : Nat) : s.publishers i ≠ .marking := by
    rcases hnone i with hi | hi <;> rw [hi] <;> nofun
  have htake := hrecorded.takeLatest_eq (h.ready_of_untaken hrecorded hidle hnotifying)
  unfold drain
  by_cases hready : s.readiness.ready provider = true
  · rw [if_pos hready, ← htake]
    unfold takeLatest
    split <;> rfl
  · rw [if_neg hready, if_neg]
    intro huntaken
    rcases h.flag (hrecorded.pending_iff.mpr huntaken) with hflag | ⟨i, hi | hi⟩ | hbusy
    · exact hready hflag
    · exact hnotifying i hi
    · exact hmarking i hi
    · exact hbusy hidle

/-- The revisions taken increase, and each value taken is the one of its revision. The present value
is what all publications have made of the first one. Between calls a value that was not taken has a
token, so that `take_latest` returns it exactly then; and once the callbacks have ended, so does a
call that asks the flags first. -/
theorem latest_value_never_lost (provider : Provider) (initial : T) {s : LatestSystem T}
    (h : Reaches (step provider) (start initial) s) :
    s.taken.Pairwise (·.revision < ·.revision) ∧
    (s.taken.map VersionedValue.revision).Nodup ∧
    (∀ v ∈ s.taken, 0 < v.revision ∧ v.revision ≤ s.stored.length ∧
      v.value = s.valueAt initial v.revision) ∧
    s.state.revision = s.stored.length ∧
    s.state.current = s.stored.foldl (fun value f => f value) initial ∧
    (s.receiver = .idle → (∀ i, s.publishers i ≠ .notifying) →
      (s.Untaken → s.ready = true) ∧
      Reaches (step provider) s s.takeLatest.2 ∧
      s.takeLatest.1 =
        if s.Untaken then some ⟨s.state.revision, s.state.current⟩ else none) ∧
    (s.receiver = .idle → (∀ i, s.publishers i = .idle ∨ s.publishers i = .panicked) →
      Reaches (step provider) s (s.drain provider).2 ∧
      (s.drain provider).1 =
        if s.Untaken then some ⟨s.state.revision, s.state.current⟩ else none) := by
  obtain ⟨hrecorded, hannounced⟩ := invariants_of_reaches h
  refine ⟨hrecorded.increasing, ?_, fun v hv => ?_, hrecorded.revision, ?_, fun hidle hnone => ?_,
    fun hidle hnone => ?_⟩
  · exact pairwise_map.mpr (hrecorded.increasing.imp Nat.ne_of_lt)
  · exact hrecorded.revision ▸ hrecorded.values v hv
  · rw [hrecorded.current, valueAt, hrecorded.revision, take_length]
  · have htoken := hannounced.ready_of_untaken hrecorded hidle hnone
    exact ⟨htoken, reaches_takeLatest hidle, hrecorded.takeLatest_eq htoken⟩
  · exact ⟨reaches_drain hidle, hannounced.drain_eq hrecorded hidle hnone⟩

/-- Two publishers, the second one between the steps of the first; then a call that asks the
flags. -/
theorem latest_value_never_lost_twice :
    ∃ s : LatestSystem Nat, Reaches (step .market) (start 0) s ∧ s.Untaken ∧
      (s.drain .market).1 = some ⟨2, 6⟩ := by
  have hreaches : Reaches (step .market) (start 0) _ :=
    ⟨[.publish 0 5, .update 1 (· + 1), .notify 1, .notify 0, .mark 0, .mark 1], rfl⟩
  refine ⟨_, hreaches, by decide, ?_⟩
  obtain ⟨-, -, -, -, -, -, hdrain⟩ := latest_value_never_lost .market 0 hreaches
  refine (hdrain rfl fun i => .inl ?_).2.trans (if_pos (by decide))
  rcases i with _ | _ | i <;> rfl

end LatestSystem

end OverCrow.Overlay
