import OverCrow.Discord.Ipc
import OverCrow.Discord.Session

/-!
# The socket loop and the bytes it reads

`run_socket`, `crates/overcrow-overlay/src/discord/client.rs:868`, over the byte stream of the
peer. Every iteration makes a new `next` future and drops it with the bytes it holds when
another branch is taken. What the branches do to the session is `OverCrow.Discord.Session`;
`parse_rpc_message` is a parameter.
-/

namespace OverCrow.Discord
open OverCrow.Base List
open DiscordSystem (Surroundings sampleAround)

/-- The loop and its stream. `unsent` has not arrived yet; `packets` are those that
`read_ipc_packet` returned. -/
structure SocketLoop where
  session : Session
  reading : Reading := .fresh
  incoming : List UInt8 := []
  eof : Bool := false
  unsent : List UInt8
  packets : List Packet := []
  outcome : Option SocketOutcome := none

/-- The payloads of the `FRAME` packets. -/
def framePayloads (packets : List Packet) : List (List UInt8) :=
  (packets.filter (·.opcode = ipcOpcodeFrame)).map Packet.payload

namespace SocketLoop

/-- The peer is about to send the packets. -/
def start (session : Session) (packets : List Packet) : SocketLoop where
  session
  unsent := packets.flatMap Packet.bytes

/-- The session with the sends that can still succeed. -/
def sending (s : SocketLoop) (around : Surroundings) : Session :=
  { s.session with socket :=
    { s.session.socket with budget := around.budget, failure := around.failure } }

/-- A branch was taken: the other futures are dropped. -/
def branch (s : SocketLoop) (session : Session) (outcome : Option SocketOutcome) : SocketLoop :=
  { s with session, outcome, reading := .fresh }

/-- `DiscordIpcSocket::next` and the message branch on a packet,
`client.rs:123-141,874-911`. After a `PONG` the future goes
on reading. -/
def onPacket (parse : List UInt8 → Option DiscordRpcEvent) (s : SocketLoop)
    (around : Surroundings) (packet : Packet) : SocketLoop :=
  let s := { s with packets := s.packets ++ [packet] }
  if packet.opcode = ipcOpcodeFrame then
    if ByteArray.validateUTF8 ⟨packet.payload.toArray⟩ then
      let handled := (s.sending around).onMessage around.ctx around.gate (parse packet.payload)
      s.branch handled.1 handled.2
    else s.branch s.session (some (.reconnect (backendFailureCategory .protocol)))
  else if packet.opcode = ipcOpcodePing then { s with reading := .pong packet.payload }
  else if packet.opcode = ipcOpcodePong then { s with reading := .fresh }
  else if packet.opcode = ipcOpcodeClose then s.branch s.session (some (.reconnect .connection))
  else s.branch s.session (some (.reconnect (backendFailureCategory .protocol)))

/-- A poll of a `next` future that is reading. -/
def pollRead (parse : List UInt8 → Option DiscordRpcEvent) (s : SocketLoop)
    (around : Surroundings) : SocketLoop :=
  match readIpcPacket s.reading s.incoming s.eof with
  | (.pending reading, incoming) => { s with reading, incoming }
  | (.ready (.ok (some packet)), incoming) => { s with incoming }.onPacket parse around packet
  | (.ready (.ok none), incoming) =>
    { s with incoming }.branch s.session (some (.reconnect .connection))
  | (.ready (.error error), incoming) =>
    { s with incoming }.branch s.session (some (.reconnect (backendFailureCategory error)))

/-- A poll of the `next` future, up to the next packet. Writing a `PONG` may take its time. -/
def poll (parse : List UInt8 → Option DiscordRpcEvent) (s : SocketLoop) (around : Surroundings)
    (written : Option (Except BackendError Unit)) : SocketLoop :=
  match s.reading, written with
  | .pong _, none => s
  | .pong _, some (.ok ()) => { s with reading := .fresh }
  | .pong _, some (.error error) =>
    s.branch s.session (some (.reconnect (backendFailureCategory error)))
  | _, _ => s.pollRead parse around

/-- What can happen: bytes arrive, the peer hangs up, or a branch of the loop makes progress. -/
inductive Action where
  | arrive (count : Nat)
  | hangUp
  | poll (around : Surroundings) (written : Option (Except BackendError Unit))
  | connect (around : Surroundings)
  | signOut (ctx : EventContext)
  | commandsClosed
  | gateChanged (closed : Bool) (gate : DiscordGate)
  | shutdownChanged (final : Bool)
  | deadline

/-- `DiscordCommand::Connect`. -/
def onConnect (s : SocketLoop) (around : Surroundings) : SocketLoop :=
  match (Session.connect around.ctx around.clientId).exec (s.sending around) with
  | (.ok (), session) => s.branch session none
  | (.error error, session) => s.branch session (some (.reconnect (backendFailureCategory error)))

/-- `gate.changed()`, `client.rs:949`. -/
def onGateChanged (s : SocketLoop) (closed : Bool) (gate : DiscordGate) : SocketLoop :=
  if closed ∨ ¬gate.keepsSocketOpen s.session.worker.snapshot.connection then
    s.branch { s.session with worker := (s.session.worker.suspendForGate gate).publish }
      (some .restart)
  else s.branch s.session none

/-- One step of a loop that has not returned. -/
def step (parse : List UInt8 → Option DiscordRpcEvent) (s : SocketLoop) (a : Action) :
    Option SocketLoop :=
  if s.outcome.isSome then none
  else
    match a with
    | .arrive count =>
      if s.eof then none
      else some { s with
        incoming := s.incoming ++ s.unsent.take count, unsent := s.unsent.drop count }
    | .hangUp => some { s with eof := true }
    | .poll around written => some (s.poll parse around written)
    | .connect around => some (s.onConnect around)
    | .signOut ctx =>
      let signedOut := s.session.processSignOut ctx
      some (s.branch signedOut.1 (if signedOut.2 then some .restart else none))
    | .commandsClosed => some (s.branch s.session (some .shutdown))
    | .gateChanged closed gate => some (s.onGateChanged closed gate)
    | .shutdownChanged final =>
      some (s.branch s.session (if final then some .shutdown else none))
    | .deadline =>
      if s.session.worker.setupDeadline.isSome then
        some (s.branch s.session (some (.reconnect .timeout)))
      else none

/-- A branch after which the loop may go on is taken when the future it drops holds no bytes of
an unfinished packet. -/
def AtBoundary (s : SocketLoop) : Action → Prop
  | .connect _ | .signOut _ | .gateChanged _ _ | .shutdownChanged _ => s.reading.consumed = []
  | .arrive _ | .hangUp | .poll _ _ | .commandsClosed | .deadline => True

instance : ∀ s a, Decidable (AtBoundary s a)
  | s, .connect _ | s, .signOut _ | s, .gateChanged _ _ | s, .shutdownChanged _ =>
    inferInstanceAs (Decidable (s.reading.consumed = []))
  | _, .arrive _ | _, .hangUp | _, .poll _ _ | _, .commandsClosed | _, .deadline => isTrue trivial

/-! ### What is read -/

/-- The stream as its reader sees it. -/
def reader (s : SocketLoop) : Reader UInt8 IpcItem where
  pending := s.reading.consumed
  incoming := s.incoming
  unsent := s.unsent
  items := s.packets.map .packet

/-- The packets read are those sent so far, and a loop that goes on will read the others. -/
structure Intact (packets : List Packet) (s : SocketLoop) : Prop where
  read : s.packets <+: packets
  delivers : s.outcome = none → s.reader.Delivers ipcFraming (packets.map .packet)

variable {parse : List UInt8 → Option DiscordRpcEvent} {packets : List Packet} {s t : SocketLoop}

theorem intact_start (session : Session)
    (h : ∀ packet ∈ packets, packet.payload.length ≤ discordRpcMessageMaxBytes) :
    (start session packets).Intact packets where
  read := nil_prefix
  delivers _ := Reader.delivers_start fun packet hpacket => encodes_packet (h packet hpacket)

/-- Whatever a branch does to the session, it loses no byte when the dropped future holds none. -/
theorem Intact.branch (h : s.Intact packets) (hrunning : s.outcome = none)
    (hboundary : s.reading.consumed = []) (session : Session) (outcome : Option SocketOutcome) :
    (s.branch session outcome).Intact packets where
  read := h.read
  delivers _ := (h.delivers hrunning).drop hboundary

/-- A loop that returns has read what it has read. -/
theorem Intact.ended (h : s.Intact packets) (session : Session) (outcome : SocketOutcome) :
    (s.branch session (some outcome)).Intact packets where
  read := h.read
  delivers hnone := nomatch hnone

variable (parse) in
/-- Every packet makes the future start over, with or without a `PONG` to write. -/
theorem onPacket_eq (s : SocketLoop) (around : Surroundings) (packet : Packet) :
    ∃ (session : Session) (outcome : Option SocketOutcome) (reading : Reading),
      reading.consumed = [] ∧ s.onPacket parse around packet =
        { s with session, outcome, reading, packets := s.packets ++ [packet] } := by
  unfold onPacket
  split_ifs
  all_goals exact ⟨_, _, _, rfl, rfl⟩

/-- A packet was read to its end. -/
theorem Intact.onPacket {packet : Packet} (around : Surroundings)
    (h : Reader.Delivers ipcFraming
      ⟨[], s.incoming, s.unsent, s.packets.map .packet ++ [.packet packet]⟩
      (packets.map .packet)) :
    (s.onPacket parse around packet).Intact packets := by
  have hitems : (s.packets ++ [packet]).map IpcItem.packet =
      s.packets.map .packet ++ [.packet packet] := map_append
  rw [← hitems] at h
  have hread : s.packets ++ [packet] <+: packets :=
    (prefix_map_iff_of_injective fun _ _ => IpcItem.packet.inj).mp h.isPrefix
  obtain ⟨session, outcome, reading, hreading, hpacket⟩ := s.onPacket_eq parse around packet
  rw [hpacket]
  refine ⟨hread, fun _ => ?_⟩
  unfold reader
  rw [hreading]
  exact h

/-- A poll of a future that reads loses no byte and decodes what it takes. -/
theorem Intact.pollRead (h : s.Intact packets) (hrunning : s.outcome = none)
    (hreading : ∀ payload, s.reading ≠ .pong payload) (around : Surroundings) :
    (s.pollRead parse around).Intact packets := by
  have hdelivers := h.delivers hrunning
  have hreads := reads_readIpcPacket hreading s.incoming s.eof
  unfold SocketLoop.pollRead
  split
  · next reading incoming hpoll =>
    rw [hpoll] at hreads
    obtain ⟨rfl, hdecode⟩ := hreads
    have hnext := hdelivers.read (append_nil _).symm hdecode
    rw [append_nil] at hnext
    exact ⟨h.read, fun _ => hnext⟩
  · next packet incoming hpoll =>
    rw [hpoll] at hreads
    obtain ⟨used, hused, -, hdecode⟩ := hreads
    exact Intact.onPacket (s := { s with incoming }) around (hdelivers.read hused hdecode)
  · exact ⟨h.read, nofun⟩
  · exact ⟨h.read, nofun⟩

theorem Intact.poll (h : s.Intact packets) (hrunning : s.outcome = none) (around : Surroundings)
    (written : Option (Except BackendError Unit)) :
    (s.poll parse around written).Intact packets := by
  have hread (hpong : ∀ payload, s.reading ≠ .pong payload) :
      (s.pollRead parse around).Intact packets := h.pollRead hrunning hpong around
  unfold SocketLoop.poll
  cases hreading : s.reading with
  | header | payload => exact hread (by rw [hreading]; nofun)
  | pong payload =>
    have hconsumed : s.reading.consumed = [] := by
      rw [hreading]
      rfl
    cases written with
    | none => exact h
    | some result =>
      cases result with
      | ok => exact ⟨h.read, fun _ => (h.delivers hrunning).drop hconsumed⟩
      | error error => exact h.ended _ _

/-- One step of a loop that meets the condition. -/
theorem Intact.step {a : Action} (h : s.Intact packets) (hboundary : s.AtBoundary a)
    (hstep : step parse s a = some t) : t.Intact packets := by
  unfold SocketLoop.step at hstep
  rw [Option.ite_none_left_eq_some] at hstep
  obtain ⟨hsome, hstep⟩ := hstep
  have hrunning : s.outcome = none := by
    rw [Option.not_isSome_iff_eq_none] at hsome
    exact hsome
  cases a with
  | arrive count =>
    rw [Option.ite_none_left_eq_some] at hstep
    obtain ⟨-, hstep⟩ := hstep
    cases hstep
    exact ⟨h.read, fun _ => (h.delivers hrunning).arrive count⟩
  | hangUp =>
    cases hstep
    exact ⟨h.read, fun _ => h.delivers hrunning⟩
  | poll around written =>
    cases hstep
    exact h.poll hrunning around written
  | connect around =>
    cases hstep
    unfold onConnect
    split <;> exact h.branch hrunning hboundary _ _
  | signOut | shutdownChanged =>
    cases hstep
    exact h.branch hrunning hboundary _ _
  | commandsClosed =>
    cases hstep
    exact h.ended _ _
  | gateChanged closed gate =>
    cases hstep
    unfold onGateChanged
    split <;> exact h.branch hrunning hboundary _ _
  | deadline =>
    rw [Option.ite_none_right_eq_some] at hstep
    obtain ⟨-, hstep⟩ := hstep
    cases hstep
    exact h.ended _ _

/-! ### Progress -/

/-- What is left to do for a loop that is only polled: bytes to take and a `PONG` to write. -/
def weight (s : SocketLoop) : Nat :=
  2 * s.incoming.length + match s.reading with
    | .pong _ => 1
    | _ => 0

theorem weight_le (s : SocketLoop) : s.weight ≤ 2 * s.incoming.length + 1 := by
  unfold weight
  split
  · exact Nat.le_refl _
  · exact Nat.le_succ _

variable (parse) in
/-- A poll of a future that reads ends the loop, takes everything or takes a packet. -/
theorem pollRead_progress (hreading : ∀ payload, s.reading ≠ .pong payload)
    (around : Surroundings) :
    (s.pollRead parse around).unsent = s.unsent ∧
      ((s.pollRead parse around).outcome ≠ none ∨ (s.pollRead parse around).incoming = [] ∨
        (s.pollRead parse around).weight < s.weight) := by
  have hreads := reads_readIpcPacket hreading s.incoming s.eof
  unfold pollRead
  split
  · next reading incoming hpoll =>
    rw [hpoll] at hreads
    exact ⟨rfl, .inr (.inl hreads.1)⟩
  · next packet incoming hpoll =>
    rw [hpoll] at hreads
    obtain ⟨used, hused, hne, -⟩ := hreads
    obtain ⟨session, outcome, reading, -, hpacket⟩ :=
      { s with incoming }.onPacket_eq parse around packet
    rw [hpacket]
    refine ⟨rfl, .inr (.inr (Nat.lt_of_le_of_lt (weight_le _) ?_))⟩
    dsimp only
    have hlength := congrArg length hused
    rw [length_append] at hlength
    have hused_pos := length_pos_iff.mpr hne
    have hweight : 2 * s.incoming.length ≤ s.weight := Nat.le_add_right _ _
    omega
  · exact ⟨rfl, .inl nofun⟩
  · exact ⟨rfl, .inl nofun⟩

variable (parse) in
theorem poll_progress (s : SocketLoop) (around : Surroundings) :
    (s.poll parse around (some (.ok ()))).unsent = s.unsent ∧
      ((s.poll parse around (some (.ok ()))).outcome ≠ none ∨
        (s.poll parse around (some (.ok ()))).incoming = [] ∨
        (s.poll parse around (some (.ok ()))).weight < s.weight) := by
  have hread (hpong : ∀ payload, s.reading ≠ .pong payload) :=
    pollRead_progress parse hpong around
  unfold poll
  cases hreading : s.reading with
  | header | payload => exact hread (by rw [hreading]; nofun)
  | pong payload =>
    refine ⟨rfl, .inr (.inr ?_)⟩
    rw [weight, weight, hreading]
    exact Nat.lt_succ_self _

variable (parse) in
/-- Polled often enough, a loop returns or takes everything that has arrived. -/
theorem Intact.drains (h : s.Intact packets) (around : Surroundings) :
    ∃ count t,
      run (SocketLoop.step parse) s (replicate count (.poll around (some (.ok ())))) = some t ∧
      t.Intact packets ∧ t.unsent = s.unsent ∧ (t.outcome = none → t.incoming = []) := by
  induction hweight : s.weight using Nat.strongRecOn generalizing s with
  | ind weight ih =>
    by_cases hrunning : s.outcome = none
    · have hstep : SocketLoop.step parse s (.poll around (some (.ok ()))) =
          some (s.poll parse around (some (.ok ()))) := by
        rw [SocketLoop.step, if_neg (by rw [hrunning]; nofun)]
      have hnext : (s.poll parse around (some (.ok ()))).Intact packets :=
        h.poll hrunning around _
      obtain ⟨hunsent, hprogress⟩ := poll_progress parse s around
      rcases hprogress with hended | hempty | hless
      · exact ⟨1, _, run_cons_eq_some.mpr ⟨_, hstep, run_nil _ _⟩, hnext, hunsent,
          fun hnone => absurd hnone hended⟩
      · exact ⟨1, _, run_cons_eq_some.mpr ⟨_, hstep, run_nil _ _⟩, hnext, hunsent,
          fun _ => hempty⟩
      · rw [hweight] at hless
        obtain ⟨count, t, hrun, ht, hsame, hleft⟩ := ih _ hless hnext rfl
        exact ⟨count + 1, t, run_cons_eq_some.mpr ⟨_, hstep, hrun⟩, ht, hsame.trans hunsent, hleft⟩
    · exact ⟨0, s, run_nil _ _, h, rfl, fun hnone => absurd hnone hrunning⟩

/-! ### Runs -/

/-- No byte is taken for a header that announces more than was sent. -/
theorem Intact.not_oversized (h : s.Intact packets) (hrunning : s.outcome = none) :
    (readIpcPacket s.reading s.incoming s.eof).1 ≠ .ready (.error .protocol) := by
  intro hpoll
  by_cases hreading : ∀ payload, s.reading ≠ .pong payload
  · have hreads := reads_readIpcPacket hreading s.incoming s.eof
    rw [← Prod.mk.eta (p := readIpcPacket s.reading s.incoming s.eof), hpoll] at hreads
    obtain ⟨used, hused, hdecode⟩ := hreads
    have hpart := ((h.delivers hrunning).read hused hdecode).isPrefix
    have hmem : IpcItem.oversized ∈ packets.map IpcItem.packet :=
      hpart.subset (mem_append_right _ (mem_singleton_self _))
    obtain ⟨packet, -, heq⟩ := mem_map.mp hmem
    cases heq
  · obtain ⟨payload, hpong⟩ := not_forall_not.mp hreading
    rw [hpong] at hpoll
    cases hpoll

theorem framePayloads_isPrefix {read sent : List Packet} (h : read <+: sent) :
    framePayloads read <+: framePayloads sent :=
  (h.filter _).map _

theorem Intact.packets_eq (h : s.Intact packets) (hrunning : s.outcome = none)
    (hincoming : s.incoming = []) (hunsent : s.unsent = []) : s.packets = packets :=
  (map_inj_right fun _ _ => IpcItem.packet.inj).mp
    ((h.delivers hrunning).items_eq hincoming hunsent)

/-- In a run whose branches drop no bytes of an unfinished packet, the payloads read are those
sent, in order, no byte is misread as a header, and a loop that is left to read reads all that
was sent unless it returns. -/
theorem frames_survive_cancellation {session : Session}
    (hsent : ∀ packet ∈ packets, writeIpcPacket packet.opcode packet.payload = .ok packet.bytes)
    {actions : List Action}
    (hboundary : Along (step parse) AtBoundary (start session packets) actions)
    (hrun : run (step parse) (start session packets) actions = some s) :
    framePayloads s.packets <+: framePayloads packets ∧
      (s.outcome = none →
        (readIpcPacket s.reading s.incoming s.eof).1 ≠ .ready (.error .protocol) ∧
        (s.unsent = [] →
          (s.incoming = [] → framePayloads s.packets = framePayloads packets) ∧
          ∀ around, ∃ count t,
            run (step parse) s (replicate count (.poll around (some (.ok ())))) = some t ∧
            (t.outcome = none → framePayloads t.packets = framePayloads packets))) := by
  have hstart : (start session packets).Intact packets :=
    intact_start session fun packet hpacket => writeIpcPacket_eq_ok.mp (hsent packet hpacket)
  have hintact : s.Intact packets :=
    run_invariant_along (fun _ _ _ h hb hstep => h.step hb hstep) hstart hboundary hrun
  refine ⟨framePayloads_isPrefix hintact.read, fun hrunning =>
    ⟨hintact.not_oversized hrunning, fun hunsent => ⟨fun hincoming => ?_, fun around => ?_⟩⟩⟩
  · rw [hintact.packets_eq hrunning hincoming hunsent]
  · obtain ⟨count, t, hpolls, ht, hsame, hleft⟩ := hintact.drains parse around
    refine ⟨count, t, hpolls, fun hnone => ?_⟩
    rw [ht.packets_eq hnone (hleft hnone) (hsame.trans hunsent)]

def sampleSession : Session := ⟨{}, {}, {}⟩

/-- The gate changes and stays open between two packets. -/
def boundaryActions : List Action :=
  [.arrive 4, .poll sampleAround none, .arrive 7, .poll sampleAround none,
    .gateChanged false ⟨true, true, true⟩, .arrive 20]

theorem frames_survive_cancellation_between_packets :
    ∃ s, run (step fun _ => none)
        (start sampleSession [⟨ipcOpcodeFrame, [0x7b, 0x7d, 0x20]⟩, ⟨ipcOpcodeFrame, [0x7b]⟩])
        boundaryActions = some s ∧ s.outcome = none ∧
      ∃ count t, run (step fun _ => none) s
          (replicate count (.poll sampleAround (some (.ok ())))) = some t ∧
        (t.outcome = none → framePayloads t.packets = [[0x7b, 0x7d, 0x20], [0x7b]]) := by
  have hrun : ((run (step fun _ => none)
      (start sampleSession [⟨ipcOpcodeFrame, [0x7b, 0x7d, 0x20]⟩, ⟨ipcOpcodeFrame, [0x7b]⟩])
      boundaryActions).map fun s => (s.outcome, s.unsent)) = some (none, []) := by
    decide +kernel
  obtain ⟨s, hs, heq⟩ := Option.map_eq_some_iff.mp hrun
  obtain ⟨hrunning, hunsent⟩ := Prod.mk.inj heq
  refine ⟨s, hs, hrunning, ?_⟩
  have h := frames_survive_cancellation (by decide +kernel) (by decide +kernel) hs
  exact ((h.2 hrunning).2 hunsent).2 sampleAround

/-- A `Connect` that does nothing arrives between a header and its payload: the payload is read
as a header. -/
theorem cancelled_read_misreads_payload :
    ∃ s, run (step fun _ => none)
        (start sampleSession [⟨ipcOpcodeFrame, [1, 0, 0, 0, 0, 0, 0, 0]⟩])
        [.arrive 8, .poll sampleAround none, .connect sampleAround, .arrive 8,
          .poll sampleAround none] = some s ∧
      s.outcome = none ∧ s.incoming = [] ∧ s.unsent = [] ∧ s.reading = .fresh ∧
      framePayloads s.packets = [[]] ∧
      framePayloads [⟨ipcOpcodeFrame, [1, 0, 0, 0, 0, 0, 0, 0]⟩] = [[1, 0, 0, 0, 0, 0, 0, 0]] := by
  have hrun : ((run (step fun _ => none)
      (start sampleSession [⟨ipcOpcodeFrame, [1, 0, 0, 0, 0, 0, 0, 0]⟩])
      [.arrive 8, .poll sampleAround none, .connect sampleAround, .arrive 8,
        .poll sampleAround none]).map
      fun s => (s.outcome, s.incoming, s.unsent, s.reading, framePayloads s.packets)) =
        some (none, [], [], .fresh, [[]]) := by
    decide +kernel
  obtain ⟨s, hs, heq⟩ := Option.map_eq_some_iff.mp hrun
  simp only [Prod.mk.injEq] at heq
  obtain ⟨hrunning, hincoming, hunsent, hreading, hframes⟩ := heq
  exact ⟨s, hs, hrunning, hincoming, hunsent, hreading, hframes, rfl⟩

end SocketLoop

end OverCrow.Discord
