import OverCrow.Protocol.State

/-!
# Core client of the overlay

`crates/overcrow-overlay/src/runtime/core_client.rs`. The revision gate, the slot through
which snapshots reach the interface thread, and the handling of one versioned envelope.
Messages are JSON text; the serializer is a parameter with the properties used of it.
-/

namespace OverCrow.Overlay
open OverCrow.Protocol

/-- `serde_json::to_string` and `serde_json::from_str` at the versioned envelope. Integers are
transmitted exactly, and JSON has no NaN, so a decoded snapshot equals itself. A decimal
fraction is transmitted to the parser's precision only: a round trip is not assumed. -/
structure SnapshotCodec where
  encode : VersionedCoreSnapshot → Option String
  decode : String → Option VersionedCoreSnapshot
  revision_decode : ∀ value json event, encode value = some json → decode json = some event →
    event.revision = value.revision
  snapshot_beq : ∀ json event, decode json = some event → (event.snapshot == event.snapshot) = true

namespace SnapshotCodec

/-- `event` is what a receiver decodes from the sent `value`. -/
def Transmits (codec : SnapshotCodec) (value event : VersionedCoreSnapshot) : Prop :=
  ∃ json, codec.encode value = some json ∧ codec.decode json = some event

/-- The value survives its own transmission. -/
def Lossless (codec : SnapshotCodec) (value : VersionedCoreSnapshot) : Prop :=
  ∀ json, codec.encode value = some json → codec.decode json = some value

variable {codec : SnapshotCodec} {value : VersionedCoreSnapshot}

/-- One value is decoded in one way. -/
theorem Transmits.unique {e₁ e₂ : VersionedCoreSnapshot}
    (h₁ : codec.Transmits value e₁) (h₂ : codec.Transmits value e₂) : e₁ = e₂ := by
  obtain ⟨json, hj, hd⟩ := h₁
  obtain ⟨json', hj', hd'⟩ := h₂
  rw [hj, Option.some.injEq] at hj'
  subst hj'
  exact Option.some.inj (hd.symm.trans hd')

variable {event : VersionedCoreSnapshot}

/-- A value that survives transmission is received as it was sent. -/
theorem Transmits.eq_of_lossless
    (h : codec.Transmits value event) (hl : codec.Lossless value) : event = value := by
  obtain ⟨json, hj, hd⟩ := h
  exact Option.some.inj (hd.symm.trans (hl json hj))

/-- The revision survives transmission. -/
theorem Transmits.revision (h : codec.Transmits value event) : event.revision = value.revision := by
  obtain ⟨json, hj, hd⟩ := h
  exact codec.revision_decode value json event hj hd

/-- A received snapshot equals itself. -/
theorem Transmits.beq_self
    (h : codec.Transmits value event) : (event.snapshot == event.snapshot) = true := by
  obtain ⟨json, -, hd⟩ := h
  exact codec.snapshot_beq json event hd

end SnapshotCodec

/-! ### Revision gate -/

/-- `core_client.rs:29`. -/
inductive RevisionDecision where
  | apply (event : VersionedCoreSnapshot)
  | ignore
  | reconcile
  deriving DecidableEq

/-- `core_client.rs:36`. -/
structure RevisionGate where
  applied : Option VersionedCoreSnapshot := none
  deriving DecidableEq

/-- `core_client.rs:41`. -/
def RevisionGate.apply (gate : RevisionGate) (event : VersionedCoreSnapshot) :
    RevisionGate × RevisionDecision :=
  match gate.applied with
  | none => ({ applied := some event }, .apply event)
  | some applied =>
    if event.revision < applied.revision then (gate, .ignore)
    else if event.revision = applied.revision then
      if event.snapshot == applied.snapshot then (gate, .ignore) else (gate, .reconcile)
    else ({ applied := some event }, .apply event)

/-- What the gate can do: pass an event that is newer than the applied one, ignore one that is
older or agrees with it, or find two contents under one revision. -/
theorem RevisionGate.apply_cases (gate : RevisionGate) (event : VersionedCoreSnapshot) :
    (gate.apply event = ({ applied := some event }, .apply event) ∧
      ∀ applied, gate.applied = some applied → applied.revision < event.revision) ∨
    (gate.apply event = (gate, .ignore) ∧
      ∃ applied, gate.applied = some applied ∧ event.revision ≤ applied.revision) ∨
    (gate.apply event = (gate, .reconcile) ∧ ∃ applied, gate.applied = some applied ∧
      event.revision = applied.revision ∧ (event.snapshot == applied.snapshot) = false) := by
  unfold apply
  cases ha : gate.applied with
  | none => exact .inl ⟨rfl, fun _ h => by cases h⟩
  | some applied =>
    dsimp only
    split
    · next h => exact .inr (.inl ⟨rfl, applied, rfl, by omega⟩)
    · split
      · next h =>
        split
        · exact .inr (.inl ⟨rfl, applied, rfl, by omega⟩)
        · next hs => exact .inr (.inr ⟨rfl, applied, rfl, h, by simpa using hs⟩)
      · refine .inl ⟨rfl, ?_⟩
        intro other hother
        cases hother
        omega

/-! ### Publication to the interface thread -/

/-- `core_client.rs:359`. -/
structure SnapshotUpdate where
  snapshot : CoreSnapshot
  passiveConfirmed : Bool
  confirmed : Bool
  deriving DecidableEq

/-- The slot and the capacity-one token queue of `snapshot_channel`,
`core_client.rs:398`, with its receiver alive. -/
structure SnapshotChannel where
  slot : Option SnapshotUpdate := none
  ready : Bool := false
  deriving DecidableEq

/-- `core_client.rs:414`. A
passive confirmation that was not taken yet is kept. -/
def SnapshotChannel.publish (channel : SnapshotChannel) (update : SnapshotUpdate) :
    SnapshotChannel where
  slot := some { update with
    passiveConfirmed :=
      update.passiveConfirmed || (channel.slot.map SnapshotUpdate.passiveConfirmed).getD false }
  ready := true

/-- `core_client.rs:430`. -/
def SnapshotChannel.takeLatest (channel : SnapshotChannel) :
    SnapshotChannel × Option SnapshotUpdate :=
  if channel.ready then ({ slot := none, ready := false }, channel.slot) else (channel, none)

/-- `core_client.rs:242`. -/
structure PendingWidgetActions where
  reload : Bool := false
  reset : Bool := false
  toggle : Bool := false
  deriving DecidableEq

/-- `core_client.rs:440`. -/
structure PassiveIntent where
  pending : Bool := false
  widgetActions : PendingWidgetActions := {}
  deriving DecidableEq

/-- `core_client.rs:479`. -/
def PassiveIntent.recordSnapshot (intent : PassiveIntent) (snapshot : CoreSnapshot) :
    PassiveIntent :=
  if snapshot.overlayMode = .passive then { intent with pending := false } else intent

/-! ### Handling one envelope -/

/-- `core_client.rs:63`. -/
inductive VersionedHandling where
  | applied
  | ignored
  | reconcile
  deriving DecidableEq

/-- What a connection of the client hands to `apply_versioned`. -/
structure ClientState where
  gate : RevisionGate := {}
  channel : SnapshotChannel := {}
  passiveIntent : PassiveIntent := {}
  deriving DecidableEq

namespace ClientState

/-- `core_client.rs:986`, with the
decision the gate made. -/
def applyVersioned (client : ClientState) (event : VersionedCoreSnapshot) :
    ClientState × RevisionDecision × VersionedHandling :=
  match client.gate.apply event with
  | (gate, .apply event) =>
    ({ gate
       passiveIntent := client.passiveIntent.recordSnapshot event.snapshot
       channel := client.channel.publish
         ⟨event.snapshot, decide (event.snapshot.overlayMode = .passive), true⟩ },
     .apply event, .applied)
  | (gate, .ignore) => ({ client with gate }, .ignore, .ignored)
  | (gate, .reconcile) => ({ client with gate }, .reconcile, .reconcile)

end ClientState

end OverCrow.Overlay
