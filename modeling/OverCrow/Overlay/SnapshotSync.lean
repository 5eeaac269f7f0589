import OverCrow.Base.Run
import OverCrow.Core.Runtime
import OverCrow.Overlay.CoreClient

/-!
# Snapshot agreement between Core and the overlay

Core, its signal publisher and one overlay client of the same Core owner, composed. Core
takes any of its operations at any time; the publisher emits the newest value it has not
seen, in order, and an emission may be lost; the client subscribes, reads a baseline, and then
handles signals and reconciliation reads in any order. A read takes three steps, so Core
may publish between the request, the answer and its arrival. The client may drop its
connection and connect again. Commands that the client sends are Core operations as any
other caller's; their replies are ignored in this mode.
-/

namespace OverCrow.Overlay
open OverCrow.Base OverCrow.Core OverCrow.Protocol List Option

/-- Where the connection stands, `crates/overcrow-overlay/src/runtime/core_client.rs:665`. -/
inductive ConnectionPhase where
  | disconnected
  | baseline
  | connected
  deriving DecidableEq

/-- One `SnapshotVersioned` call. An answer is the encoded watch value, or a D-Bus error when
it cannot be encoded; the answered value itself is kept for the statements. -/
inductive VersionedRead where
  | idle
  | requested
  | answered (value : VersionedCoreSnapshot) (reply : Option String)
  deriving DecidableEq

/-- A completed read: the value Core answered with and the envelope applied afterwards. -/
structure CompletedRead where
  answered : VersionedCoreSnapshot
  applied : Option VersionedCoreSnapshot
  deriving DecidableEq

/-- Core, the signal publisher and the client. The lists record what happened: every value of
the watch channel, every published envelope, and for the present connection the applied
envelopes, the gate's decisions and the completed reads. -/
structure SnapshotSystem where
  core : CoreRuntime
  history : List VersionedCoreSnapshot
  unseen : Bool := false
  emitting : Option String := none
  phase : ConnectionPhase := .disconnected
  read : VersionedRead := .idle
  signals : List String := []
  client : ClientState := {}
  published : List VersionedCoreSnapshot := []
  applied : List VersionedCoreSnapshot := []
  decisions : List RevisionDecision := []
  reads : List CompletedRead := []

namespace SnapshotSystem

/-- Core started, nothing connected. -/
def start (core : CoreRuntime) : SnapshotSystem := { core, history := [core.snapshotTx] }

/-- A step of one of the parties. -/
inductive Action where
  | operate (op : CoreRuntime.Operation)
  | borrow
  | emit (delivered : Bool)
  | connect
  | request
  | answer
  | receive
  | deliver
  | takeLatest
  | disconnect

/-- Hand one decoded envelope to the client and record what it did. -/
def handle (s : SnapshotSystem) (event : VersionedCoreSnapshot) :
    SnapshotSystem × VersionedHandling :=
  let handled := s.client.applyVersioned event
  let passed := match handled.2.1 with
    | .apply event => [event]
    | _ => []
  ({ s with
     client := handled.1
     published := s.published ++ passed
     applied := s.applied ++ passed
     decisions := s.decisions ++ [handled.2.1] },
   handled.2.2)

/-- Drop the connection with everything in flight to it. -/
def dropConnection (s : SnapshotSystem) : SnapshotSystem :=
  { s with phase := .disconnected, read := .idle, signals := [] }

/-- The client receives the answer of a read, `core_client.rs:680-712` for the baseline and
`:773-795` for reconciliation. An error or an undecodable answer ends the connection, and so
does a reconciliation that finds other content under the applied revision. -/
def receive (codec : SnapshotCodec) (s : SnapshotSystem) (value : VersionedCoreSnapshot)
    (reply : Option String) : SnapshotSystem :=
  match reply.bind codec.decode with
  | none => s.dropConnection
  | some event =>
    let handled := ({ s with read := .idle, phase := .connected } : SnapshotSystem).handle event
    if s.phase = .connected ∧ handled.2 = .reconcile then handled.1.dropConnection
    else { handled.1 with reads := s.reads ++ [⟨value, handled.1.client.gate.applied⟩] }

/-- `core_client.rs:972`. A malformed
signal only makes the next read due, and a read may come at any time here. -/
def handleSignalJson (codec : SnapshotCodec) (s : SnapshotSystem) (json : String) :
    SnapshotSystem :=
  match codec.decode json with
  | none => s
  | some event => (s.handle event).1

/-- One step. The publisher of `crates/overcrow-core/src/snapshot_signal.rs:32` borrows and
encodes the value, then emits it; a value that cannot be encoded is skipped. Signals are only handled between reads: a read is awaited inside its branch of
the client's loop. -/
def step (codec : SnapshotCodec) (s : SnapshotSystem) : Action → Option SnapshotSystem
  | .operate op =>
    let core := s.core.apply op
    if core.snapshotTx = s.core.snapshotTx then some { s with core }
    else some { s with core, history := s.history ++ [core.snapshotTx], unseen := true }
  | .borrow =>
    if s.unseen ∧ s.emitting = none then
      some { s with unseen := false, emitting := codec.encode s.core.snapshotTx }
    else none
  | .emit delivered =>
    match s.emitting with
    | some json =>
      if delivered ∧ s.phase ≠ .disconnected then
        some { s with emitting := none, signals := s.signals ++ [json] }
      else some { s with emitting := none }
    | none => none
  | .connect =>
    if s.phase = .disconnected then
      some { s with
        phase := .baseline, read := .idle, signals := [], client := { s.client with gate := {} }
        applied := [], decisions := [], reads := [] }
    else none
  | .request =>
    if s.phase ≠ .disconnected ∧ s.read = .idle then some { s with read := .requested } else none
  | .answer =>
    if s.read = .requested then
      some { s with read := .answered s.core.snapshotTx (codec.encode s.core.snapshotTx) }
    else none
  | .receive =>
    match s.read with
    | .answered value reply => some (s.receive codec value reply)
    | _ => none
  | .deliver =>
    match s.signals with
    | json :: signals =>
      if s.phase = .connected ∧ s.read = .idle then
        some (({ s with signals } : SnapshotSystem).handleSignalJson codec json)
      else none
    | [] => none
  | .takeLatest => some { s with client :=
      { s.client with channel := s.client.channel.takeLatest.1 } }
  | .disconnect => if s.phase = .disconnected then none else some s.dropConnection

@[simp] theorem core_handleSignalJson (codec : SnapshotCodec) (s : SnapshotSystem)
    (json : String) : (s.handleSignalJson codec json).core = s.core := by
  unfold handleSignalJson
  split <;> rfl

@[simp] theorem core_receive (codec : SnapshotCodec) (s : SnapshotSystem)
    (value : VersionedCoreSnapshot) (reply : Option String) :
    (s.receive codec value reply).core = s.core := by
  unfold receive
  split
  · rfl
  · dsimp only
    split <;> rfl

/-! ### Invariant -/

/-- The text is the encoding of a value Core held. -/
def FromCore (codec : SnapshotCodec) (s : SnapshotSystem) (json : String) : Prop :=
  ∃ value ∈ s.history, codec.encode value = some json

/-- What every step preserves while the revision does not saturate. -/
structure Consistent (codec : SnapshotCodec) (s : SnapshotSystem) : Prop where
  current : s.core.snapshotTx ∈ s.history
  newest : ∀ value ∈ s.history, value.revision ≤ s.core.snapshotTx.revision
  unique : ∀ v ∈ s.history, ∀ w ∈ s.history, v.revision = w.revision → v = w
  emitting : ∀ json, s.emitting = some json → s.FromCore codec json
  signals : ∀ json ∈ s.signals, s.FromCore codec json
  read : ∀ value reply, s.read = .answered value reply →
    value ∈ s.history ∧ reply = codec.encode value
  published : ∀ event ∈ s.published, ∃ value ∈ s.history, codec.Transmits value event
  applied : ∀ event ∈ s.applied, event ∈ s.published
  gate : ∀ event, s.client.gate.applied = some event → event ∈ s.applied
  gate_newest : ∀ event ∈ s.applied, ∃ last, s.client.gate.applied = some last ∧
    event.revision ≤ last.revision
  increasing : s.applied.Pairwise (·.revision < ·.revision)
  decisions : .reconcile ∉ s.decisions
  reads : ∀ completed ∈ s.reads, ∃ last, completed.applied = some last ∧
    completed.answered.revision ≤ last.revision
  slot : ∀ update, s.client.channel.slot = some update →
    ∃ event ∈ s.published, update.snapshot = event.snapshot

theorem consistent_start (codec : SnapshotCodec) (core : CoreRuntime) : (start core).Consistent codec where
  current := by simp [start]
  newest := by simp [start]
  unique := by simp [start]
  emitting := by simp [start]
  signals := by simp [start]
  read := by simp [start]
  published := by simp [start]
  applied := by simp [start]
  gate := by simp [start]
  gate_newest := by simp [start]
  increasing := by simp [start]
  decisions := by simp [start]
  reads := by simp [start]
  slot := by simp [start]

variable {codec : SnapshotCodec} {s : SnapshotSystem} {value : VersionedCoreSnapshot}

section

variable (h : s.Consistent codec)

include h

/-- The client's own record after an envelope that Core sent: the gate passes or ignores it,
and the applied envelope is then at least as new. -/
theorem Consistent.handle
    {event : VersionedCoreSnapshot} (hv : value ∈ s.history) (ht : codec.Transmits value event) :
    (s.handle event).1.Consistent codec ∧ (s.handle event).2 ≠ .reconcile ∧
      ∃ last, (s.handle event).1.client.gate.applied = some last ∧
        event.revision ≤ last.revision := by
  obtain ⟨hg, hnewer⟩ | ⟨hg, last, hlast, hle⟩ | ⟨hg, last, hlast, hrev, hne⟩ :=
    s.client.gate.apply_cases event
  · have hpublished : ∀ e ∈ s.published ++ [event], ∃ v ∈ s.history, codec.Transmits v e := by
      intro e he
      rw [mem_append, mem_singleton] at he
      rcases he with he | rfl
      · exact h.published e he
      · exact ⟨value, hv, ht⟩
    have hbelow : ∀ e ∈ s.applied, e.revision < event.revision := by
      intro e he
      obtain ⟨last, hlast, hle⟩ := h.gate_newest e he
      exact Nat.lt_of_le_of_lt hle (hnewer last hlast)
    simp only [SnapshotSystem.handle, ClientState.applyVersioned, hg]
    refine ⟨{ h with
      published := hpublished
      applied := ?_
      gate := ?_
      gate_newest := ?_
      increasing := ?_
      decisions := ?_
      slot := ?_ }, by simp, event, rfl, Nat.le_refl _⟩
    · intro e he
      rw [mem_append] at he ⊢
      exact he.imp_left (h.applied e)
    · intro e he
      cases he
      simp
    · intro e he
      rw [mem_append, mem_singleton] at he
      refine ⟨event, rfl, ?_⟩
      rcases he with he | rfl
      · exact Nat.le_of_lt (hbelow e he)
      · exact Nat.le_refl _
    · rw [pairwise_append]
      refine ⟨h.increasing, pairwise_singleton _ _, ?_⟩
      intro a ha b hb
      rw [mem_singleton] at hb
      subst hb
      exact hbelow a ha
    · simp [h.decisions]
    · intro update hu
      cases hu
      exact ⟨event, by simp, rfl⟩
  · simp only [SnapshotSystem.handle, ClientState.applyVersioned, hg, append_nil]
    exact ⟨{ h with decisions := by simp [h.decisions] }, by simp, last, hlast, hle⟩
  · -- The applied envelope and this one decode the same value, so they cannot differ.
    exfalso
    obtain ⟨w, hw, htw⟩ := h.published last (h.applied last (h.gate last hlast))
    have hvw : value = w := by
      apply h.unique value hv w hw
      rw [← ht.revision, ← htw.revision, hrev]
    subst hvw
    rw [ht.unique htw, htw.beq_self] at hne
    cases hne

theorem Consistent.dropConnection : s.dropConnection.Consistent codec :=
  { h with
    signals := fun _ hj => by cases hj
    read := fun _ _ hr => by cases hr }

theorem Consistent.receive {reply : Option String}
    (hread : s.read = .answered value reply) : (s.receive codec value reply).Consistent codec := by
  obtain ⟨hv, rfl⟩ := h.read value reply hread
  unfold SnapshotSystem.receive
  split
  · exact h.dropConnection
  · next event hd =>
    obtain ⟨json, hj, hd⟩ := bind_eq_some_iff.mp hd
    have ht : codec.Transmits value event := ⟨json, hj, hd⟩
    have hs : Consistent codec { s with read := .idle, phase := .connected } :=
      { h with read := fun _ _ hr => by cases hr }
    obtain ⟨hc, hnot, last, hlast, hle⟩ := hs.handle hv ht
    have hreads : ∀ completed ∈
        s.reads ++ [⟨value, some last⟩], ∃ last, completed.applied = some last ∧
          completed.answered.revision ≤ last.revision := by
      intro completed hcompleted
      rw [mem_append, mem_singleton] at hcompleted
      rcases hcompleted with hcompleted | rfl
      · exact h.reads completed hcompleted
      · refine ⟨last, rfl, ?_⟩
        rw [← ht.revision]
        exact hle
    rw [if_neg (fun hboth => hnot hboth.2), hlast]
    exact { hc with reads := hreads }

theorem Consistent.handleSignalJson {json : String} (hj : s.FromCore codec json) :
    (s.handleSignalJson codec json).Consistent codec := by
  unfold SnapshotSystem.handleSignalJson
  split
  · exact h
  · next event hd =>
    obtain ⟨value, hv, he⟩ := hj
    exact (h.handle hv ⟨json, he, hd⟩).1

/-- A value that Core publishes next takes a revision that no earlier value has. -/
theorem Consistent.publish
    (core : CoreRuntime) (hrev : core.snapshotTx.revision = s.core.snapshotTx.revision + 1) :
    Consistent codec
      { s with core, history := s.history ++ [core.snapshotTx], unseen := true } := by
  have hfrom : ∀ json, s.FromCore codec json →
      ∃ value ∈ s.history ++ [core.snapshotTx], codec.encode value = some json :=
    fun json ⟨value, hv, he⟩ => ⟨value, mem_append_left _ hv, he⟩
  have hnew : ∀ v ∈ s.history, v.revision < core.snapshotTx.revision := by
    intro v hv
    have := h.newest v hv
    omega
  refine { h with
    current := by simp
    newest := ?_
    unique := ?_
    emitting := fun json hj => hfrom json (h.emitting json hj)
    signals := fun json hj => hfrom json (h.signals json hj)
    read := fun value reply hr =>
      ⟨mem_append_left _ (h.read value reply hr).1, (h.read value reply hr).2⟩
    published := ?_ }
  · intro v hv
    rw [mem_append, mem_singleton] at hv
    rcases hv with hv | rfl
    · exact Nat.le_of_lt (hnew v hv)
    · exact Nat.le_refl _
  · intro v hv w hw heq
    rw [mem_append, mem_singleton] at hv hw
    rcases hv with hv | rfl <;> rcases hw with hw | rfl
    · exact h.unique v hv w hw heq
    · exact absurd heq (Nat.ne_of_lt (hnew v hv))
    · exact absurd heq.symm (Nat.ne_of_lt (hnew w hw))
    · rfl
  · intro event he
    obtain ⟨value, hv, ht⟩ := h.published event he
    exact ⟨value, mem_append_left _ hv, ht⟩

end

/-- An operation keeps the watch value or publishes under the next revision, and cannot lower
the revision. -/
theorem operate_revision (core : CoreRuntime) (op : CoreRuntime.Operation)
    (hlt : (core.apply op).snapshotTx.revision < u64Max) :
    (core.apply op).snapshotTx = core.snapshotTx ∨
      (core.apply op).snapshotTx.revision = core.snapshotTx.revision + 1 := by
  obtain hsame | ⟨snapshot, hpub⟩ := core.snapshotTx_apply op
  · exact .inl hsame
  · obtain hsame | hnext := publishVersioned_cases core.snapshotTx snapshot
    · exact .inl (hpub.trans hsame)
    · right
      rw [hpub, hnext, saturatingAdd] at hlt
      rw [hpub, hnext, saturatingAdd]
      dsimp only at hlt ⊢
      omega

/-- One step keeps the invariant as long as the revision has not saturated after it. -/
theorem consistent_step {t : SnapshotSystem} {a : Action}
    (h : s.core.snapshotTx.revision < u64Max → s.Consistent codec)
    (hstep : s.step codec a = some t) (hlt : t.core.snapshotTx.revision < u64Max) : t.Consistent codec := by
  cases a with
  | operate op =>
    simp only [step] at hstep
    split at hstep
    · next hsame =>
      cases hstep
      rw [hsame] at hlt
      exact { h hlt with
        current := by dsimp only; rw [hsame]; exact (h hlt).current
        newest := by dsimp only; rw [hsame]; exact (h hlt).newest }
    · next hchanged =>
      cases hstep
      have hrev := (operate_revision s.core op hlt).resolve_left hchanged
      dsimp only at hlt
      exact (h (by omega)).publish _ hrev
  | borrow =>
    simp only [step, ite_none_right_eq_some, some.injEq] at hstep
    obtain ⟨-, rfl⟩ := hstep
    exact { h hlt with emitting := fun json hj => ⟨_, (h hlt).current, hj⟩ }
  | emit delivered =>
    simp only [step] at hstep
    split at hstep
    · next json hjson =>
      split at hstep <;> cases hstep
      · refine { h hlt with emitting := fun _ hj => (by cases hj), signals := ?_ }
        intro other hother
        rw [mem_append, mem_singleton] at hother
        rcases hother with hother | rfl
        · exact (h hlt).signals other hother
        · exact (h hlt).emitting other hjson
      · exact { h hlt with emitting := fun _ hj => by cases hj }
    · cases hstep
  | connect =>
    simp only [step, ite_none_right_eq_some, some.injEq] at hstep
    obtain ⟨-, rfl⟩ := hstep
    exact { h hlt with
      signals := by simp
      read := by simp
      applied := by simp
      gate := by simp
      gate_newest := by simp
      increasing := by simp
      decisions := by simp
      reads := by simp }
  | request =>
    simp only [step, ite_none_right_eq_some, some.injEq] at hstep
    obtain ⟨-, rfl⟩ := hstep
    exact { h hlt with read := by simp }
  | answer =>
    simp only [step, ite_none_right_eq_some, some.injEq] at hstep
    obtain ⟨-, rfl⟩ := hstep
    refine { h hlt with read := ?_ }
    intro value reply hr
    cases hr
    exact ⟨(h hlt).current, rfl⟩
  | receive =>
    simp only [step] at hstep
    split at hstep
    · next value reply hread =>
      cases hstep
      rw [core_receive] at hlt
      exact (h hlt).receive hread
    · cases hstep
  | deliver =>
    simp only [step] at hstep
    split at hstep
    · next json signals hsignals =>
      split at hstep <;> cases hstep
      rw [core_handleSignalJson] at hlt
      have hs : Consistent codec { s with signals } :=
        { h hlt with
          signals := fun other hother =>
            (h hlt).signals other (by rw [hsignals]; exact mem_cons_of_mem _ hother) }
      exact hs.handleSignalJson ((h hlt).signals json (by rw [hsignals]; exact mem_cons_self))
    · cases hstep
  | takeLatest =>
    cases hstep
    refine { h hlt with slot := ?_ }
    intro update hu
    simp only [SnapshotChannel.takeLatest] at hu
    split at hu
    · cases hu
    · exact (h hlt).slot update hu
  | disconnect =>
    simp only [step, ite_none_left_eq_some, some.injEq] at hstep
    obtain ⟨-, rfl⟩ := hstep
    exact (h hlt).dropConnection

/-! ### Agreement -/

/-- Core and the client agree. Each revision of Core has one content; what the client publishes
is what it decodes from Core's content under that revision, and that content itself where
the encoding loses nothing; the interface only takes such content; a connection applies
strictly increasing revisions and never sees two contents for one; and after a read the
applied envelope is at least as new as the value Core answered with. -/
structure Agreement (codec : SnapshotCodec) (s : SnapshotSystem) : Prop where
  one_content : ∀ v ∈ s.history, ∀ w ∈ s.history, v.revision = w.revision → v = w
  published : ∀ event ∈ s.published, ∃ value ∈ s.history, value.revision = event.revision ∧
    codec.Transmits value event ∧ (codec.Lossless value → event = value)
  slot : ∀ update, s.client.channel.slot = some update →
    ∃ event ∈ s.published, update.snapshot = event.snapshot
  applied : ∀ event ∈ s.applied, event ∈ s.published
  increasing : s.applied.Pairwise (·.revision < ·.revision)
  no_conflict : .reconcile ∉ s.decisions
  reads : ∀ completed ∈ s.reads, ∃ last, completed.applied = some last ∧
    completed.answered.revision ≤ last.revision

/-- In every state that the composed system reaches before the revision saturates, Core and the
client agree. -/
theorem agreement_of_reaches (codec : SnapshotCodec) (core : CoreRuntime) {s : SnapshotSystem}
    (hreach : Reaches (step codec) (start core) s)
    (hrevision : s.core.snapshotTx.revision < u64Max) : s.Agreement codec := by
  have hinv : s.core.snapshotTx.revision < u64Max → s.Consistent codec :=
    reaches_invariant (fun _ _ _ h hstep hlt => consistent_step h hstep hlt)
      (fun _ => consistent_start codec core) hreach
  have h := hinv hrevision
  refine { h with one_content := h.unique, no_conflict := h.decisions, published := ?_ }
  intro event he
  obtain ⟨value, hv, ht⟩ := h.published event he
  exact ⟨value, hv, ht.revision.symm, ht, ht.eq_of_lossless⟩

/-- A codec for a list of values, each written as its revision. -/
def listedCodec (values : List VersionedCoreSnapshot) : SnapshotCodec where
  encode value := if values.any (decide <| · = value) then some (toString value.revision) else none
  decode json := values.find? fun value =>
    decide (toString value.revision = json) && value.snapshot == value.snapshot
  revision_decode value json event he hd := by
    have hfound := find?_some hd
    rw [Bool.and_eq_true, decide_eq_true_eq] at hfound
    rw [ite_none_right_eq_some] at he
    exact eq_of_toString_eq (hfound.1.trans (some.inj he.2).symm)
  snapshot_beq json event hd := by
    have hfound := find?_some hd
    rw [Bool.and_eq_true] at hfound
    exact hfound.2

/-- Core with one manually selected game that is running. -/
def sampleCore : CoreRuntime :=
  .withSettingsAndWidgetProfile {}
    (.ofList [((7 : UInt32), ({ pid := 7, executable := some ⟨"/game"⟩ } : ProcessInfo))])
    { enabled := true, manualGames := [⟨"game", "Game", ⟨"/game"⟩⟩] } {} 0

/-- The focused window of that game. -/
def sampleObservation : WindowObservation where
  pid := some 7
  appId := none
  title := "Game"
  rect := ⟨0, 0, 640, 480⟩
  scale := .ofBits 0x3ff0000000000000
  backend := "kwin"

/-- The value that focusing the game publishes. -/
def sampleFocused : VersionedCoreSnapshot :=
  (sampleCore.apply (.applyBridgeObservationAt sampleObservation 0)).snapshotTx

/-- The game is focused between the answer of the baseline and its arrival; the signal then
brings the client up to date. -/
def sampleActions : List Action :=
  [.connect, .request, .answer, .operate (.applyBridgeObservationAt sampleObservation 0),
    .receive, .borrow, .emit true, .deliver]

theorem agreement_of_sampleActions :
    ∃ s, Reaches (step (listedCodec [sampleCore.snapshotTx, sampleFocused])) (start sampleCore) s ∧
      s.published = [sampleCore.snapshotTx, sampleFocused] ∧
      s.published.map VersionedCoreSnapshot.revision = [0, 1] ∧
      s.Agreement (listedCodec [sampleCore.snapshotTx, sampleFocused]) := by
  let codec := listedCodec [sampleCore.snapshotTx, sampleFocused]
  have hrun : ((run (step codec) (start sampleCore) sampleActions).map
      SnapshotSystem.published) = some [sampleCore.snapshotTx, sampleFocused] := by decide +kernel
  have hrev : ((run (step codec) (start sampleCore) sampleActions).all
      fun s => decide (s.core.snapshotTx.revision < u64Max)) = true := by decide +kernel
  obtain ⟨s, hs, hpublished⟩ := map_eq_some_iff.mp hrun
  rw [hs, all_some, decide_eq_true_eq] at hrev
  refine ⟨s, ⟨sampleActions, hs⟩, hpublished, ?_, agreement_of_reaches codec sampleCore
    ⟨sampleActions, hs⟩ hrev⟩
  rw [hpublished]
  decide +kernel

end SnapshotSystem

end OverCrow.Overlay
