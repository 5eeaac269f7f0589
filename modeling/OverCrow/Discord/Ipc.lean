import OverCrow.Base.Framing
import OverCrow.Base.Machine
import OverCrow.Discord.Worker

/-!
# Discord IPC packets

`read_ipc_packet` and `write_ipc_packet` of `crates/overcrow-overlay/src/discord/client.rs`. A
packet is an eight-byte header, the opcode and the length of the payload as little-endian
`u32`s, and the payload. Reading is resumable: `Reading` is what the future holds between two
polls, and a poll takes what has arrived. Dropping the future drops it.
-/

namespace OverCrow.Discord
open OverCrow.Base List

/-- `client.rs:41`. -/
def ipcOpcodeFrame : UInt32 := 1

/-- `client.rs:42`. -/
def ipcOpcodeClose : UInt32 := 2

/-- `client.rs:43`. -/
def ipcOpcodePing : UInt32 := 3

/-- `client.rs:44`. -/
def ipcOpcodePong : UInt32 := 4

/-- `client.rs:45`. -/
def ipcHeaderBytes : Nat := 8

/-- `crates/overcrow-overlay/src/discord/rpc.rs:8`. -/
def discordRpcMessageMaxBytes : Nat := 256 * 1024

/-- A packet. -/
structure Packet where
  opcode : UInt32
  payload : List UInt8
  deriving DecidableEq

namespace Packet

/-- The eight bytes in front of the payload. -/
def header (opcode : UInt32) (length : Nat) : List UInt8 :=
  toLeBytes opcode.toNat ++ toLeBytes length

/-- The packet on the wire. -/
def bytes (packet : Packet) : List UInt8 :=
  header packet.opcode packet.payload.length ++ packet.payload

@[simp] theorem length_header (opcode : UInt32) (length : Nat) :
    (header opcode length).length = ipcHeaderBytes := rfl

end Packet

/-- `client.rs:182`: the bytes written to
a stream that takes them. -/
def writeIpcPacket (opcode : UInt32) (payload : List UInt8) : Except BackendError (List UInt8) :=
  if payload.length > u32Max then .error .protocol
  else if payload.length > discordRpcMessageMaxBytes then .error .protocol
  else .ok (Packet.bytes ⟨opcode, payload⟩)

/-- What can be sent is what fits. -/
theorem writeIpcPacket_eq_ok {packet : Packet} :
    writeIpcPacket packet.opcode packet.payload = .ok packet.bytes ↔
      packet.payload.length ≤ discordRpcMessageMaxBytes := by
  unfold writeIpcPacket u32Max
  constructor
  · intro h
    split at h
    · cases h
    · split at h
      · cases h
      · omega
  · intro h
    have hmax : discordRpcMessageMaxBytes = 262144 := rfl
    rw [if_neg (by omega), if_neg (by omega)]

/-! ### Reading -/

/-- What the future of `next` holds while it waits: bytes of a header, bytes of a payload, or the
`PONG` it is about to write. -/
inductive Reading where
  | header (buffer : List UInt8) (short : buffer.length < ipcHeaderBytes)
  | payload (opcode : UInt32) (length : Nat) (buffer : List UInt8)
      (bounded : length ≤ discordRpcMessageMaxBytes) (short : buffer.length < length)
  | pong (payload : List UInt8)
  deriving DecidableEq

namespace Reading

/-- A future that was not polled. -/
def fresh : Reading := .header [] (by decide)

/-- The bytes of an unfinished packet that the future has taken from the stream. -/
def consumed : Reading → List UInt8
  | .header buffer _ => buffer
  | .payload opcode length buffer _ _ => Packet.header opcode length ++ buffer
  | .pong _ => []

end Reading

/-- What a poll of `read_ipc_packet` comes to. -/
inductive PacketPoll where
  | pending (reading : Reading)
  | ready (result : Except BackendError (Option Packet))

/-- `read_exact` on a buffer that is partly filled: the buffer and what stays in the stream. -/
def readExact (size : Nat) (buffer incoming : List UInt8) : List UInt8 × List UInt8 :=
  (buffer ++ incoming.take (size - buffer.length), incoming.drop (size - buffer.length))

/-- The second half of `read_ipc_packet`,
`client.rs:174-179`. -/
def pollPayload (opcode : UInt32) (length : Nat) (bounded : length ≤ discordRpcMessageMaxBytes)
    (buffer incoming : List UInt8) (eof : Bool) : PacketPoll × List UInt8 :=
  let filled := readExact length buffer incoming
  if short : filled.1.length < length then
    if eof then (.ready (.error .connection), filled.2)
    else (.pending (.payload opcode length filled.1 bounded short), filled.2)
  else (.ready (.ok (some ⟨opcode, filled.1⟩)), filled.2)

/-- The first half of `read_ipc_packet`,
`client.rs:161-173`. -/
def pollHeader (buffer incoming : List UInt8) (eof : Bool) : PacketPoll × List UInt8 :=
  let filled := readExact ipcHeaderBytes buffer incoming
  if short : filled.1.length < ipcHeaderBytes then
    if eof then (.ready (.ok none), filled.2)
    else (.pending (.header filled.1 short), filled.2)
  else
    let opcode := UInt32.ofNat (fromLeBytes (filled.1.take 4))
    let length := fromLeBytes (filled.1.drop 4)
    if bounded : length ≤ discordRpcMessageMaxBytes then
      pollPayload opcode length bounded [] filled.2 eof
    else (.ready (.error .protocol), filled.2)

/-- `client.rs:158`, polled once more. A
future that writes a `PONG` reads nothing. -/
def readIpcPacket (reading : Reading) (incoming : List UInt8) (eof : Bool) :
    PacketPoll × List UInt8 :=
  match reading with
  | .header buffer _ => pollHeader buffer incoming eof
  | .payload opcode length buffer bounded _ => pollPayload opcode length bounded buffer incoming eof
  | .pong payload => (.pending (.pong payload), incoming)

/-! ### The format -/

/-- What the bytes on the wire say: a packet, or a header that announces too much. -/
inductive IpcItem where
  | packet (packet : Packet)
  | oversized
  deriving DecidableEq

/-- Packets as a stream format. -/
def ipcFraming : Framing UInt8 IpcItem where
  complete bytes :=
    if bytes.length < ipcHeaderBytes then none
    else
      let length := fromLeBytes ((bytes.drop 4).take 4)
      if length > discordRpcMessageMaxBytes then some .oversized
      else if bytes.length = ipcHeaderBytes + length then
        some (.packet ⟨.ofNat (fromLeBytes (bytes.take 4)), bytes.drop ipcHeaderBytes⟩)
      else none

section Format

variable {opcode : UInt32} {length : Nat} {buffer c xs : List UInt8}

theorem complete_of_short (h : buffer.length < ipcHeaderBytes) :
    ipcFraming.complete buffer = none := if_pos h

/-- Behind a header, a packet ends where the header says. -/
theorem complete_header_append (hbounded : length ≤ discordRpcMessageMaxBytes) :
    ipcFraming.complete (Packet.header opcode length ++ buffer) =
      if buffer.length = length then some (.packet ⟨opcode, buffer⟩) else none := by
  have hmax : discordRpcMessageMaxBytes = 262144 := rfl
  have hlength : fromLeBytes (((Packet.header opcode length ++ buffer).drop 4).take 4) = length :=
    fromLeBytes_toLeBytes (by omega)
  have hopcode : UInt32.ofNat (fromLeBytes ((Packet.header opcode length ++ buffer).take 4)) =
      opcode := by
    change UInt32.ofNat (fromLeBytes (toLeBytes opcode.toNat)) = opcode
    rw [fromLeBytes_toLeBytes opcode.toNat_lt, UInt32.ofNat_toNat]
  have hpayload : (Packet.header opcode length ++ buffer).drop ipcHeaderBytes = buffer := rfl
  unfold ipcFraming
  dsimp only
  rw [length_append, Packet.length_header, if_neg (by omega), hlength, if_neg (by omega),
    hopcode, hpayload]
  by_cases h : buffer.length = length
  · rw [if_pos (by omega), if_pos h]
  · rw [if_neg (by omega), if_neg h]

/-- No packet ends before its header says. -/
theorem complete_of_isPrefix (hbounded : length ≤ discordRpcMessageMaxBytes)
    (h : xs <+: Packet.header opcode length ++ buffer)
    (hlength : xs.length < ipcHeaderBytes + length) : ipcFraming.complete xs = none := by
  by_cases hshort : xs.length < ipcHeaderBytes
  · exact complete_of_short hshort
  · have hxs : xs = Packet.header opcode length ++ buffer.take (xs.length - ipcHeaderBytes) := by
      have htake := prefix_iff_eq_take.mp h
      rw [take_append, Packet.length_header,
        take_of_length_le (by rw [Packet.length_header]; omega)] at htake
      exact htake
    have hsum := congrArg List.length hxs
    rw [length_append, Packet.length_header] at hsum
    rw [hxs, complete_header_append hbounded, if_neg (by omega)]

/-- Part of a header. -/
theorem decode_short (h : (c ++ xs).length < ipcHeaderBytes) :
    ipcFraming.decode c xs = ([], c ++ xs) := by
  refine ipcFraming.decode_eq_pending fun ys hys _ => complete_of_short ?_
  have hle := hys.length_le
  rw [length_append] at h ⊢
  omega

/-- A header and part of the payload. -/
theorem decode_unfinished (hbounded : length ≤ discordRpcMessageMaxBytes)
    (h : c ++ xs = Packet.header opcode length ++ buffer) (hshort : buffer.length < length) :
    ipcFraming.decode c xs = ([], c ++ xs) := by
  refine ipcFraming.decode_eq_pending fun ys hys _ => ?_
  have hpart : c ++ ys <+: c ++ xs := (prefix_append_right_inj c).mpr hys
  have hle := hpart.length_le
  rw [h] at hpart hle
  rw [length_append, length_append, Packet.length_header] at hle
  refine complete_of_isPrefix hbounded hpart ?_
  rw [length_append]
  omega

/-- The rest of a packet. -/
theorem decode_finished (hbounded : buffer.length ≤ discordRpcMessageMaxBytes)
    (h : c ++ xs = Packet.bytes ⟨opcode, buffer⟩) (hxs : xs ≠ []) :
    ipcFraming.decode c xs = ([.packet ⟨opcode, buffer⟩], []) := by
  refine ipcFraming.decode_eq_item hxs ?_ fun ys hys _ hne => ?_
  · rw [h, Packet.bytes, complete_header_append hbounded, if_pos rfl]
  · have hpart : c ++ ys <+: c ++ xs := (prefix_append_right_inj c).mpr hys
    have hproper : ys.length < xs.length :=
      Nat.lt_of_le_of_ne hys.length_le fun heq => hne (hys.eq_of_length heq)
    have hsum := congrArg length h
    rw [Packet.bytes, length_append, length_append, Packet.length_header] at hsum
    rw [h, Packet.bytes] at hpart
    dsimp only at hsum
    refine complete_of_isPrefix hbounded hpart ?_
    rw [length_append]
    omega

/-- A header that announces too much. -/
theorem decode_oversized (hlength : (c ++ xs).length = ipcHeaderBytes) (hxs : xs ≠ [])
    (hmax : ¬fromLeBytes ((c ++ xs).drop 4) ≤ discordRpcMessageMaxBytes) :
    ipcFraming.decode c xs = ([.oversized], []) := by
  have hsize : (c ++ xs).length = 8 := hlength
  refine ipcFraming.decode_eq_item hxs ?_ fun ys hys _ hne => complete_of_short ?_
  · have htake : ((c ++ xs).drop 4).take 4 = (c ++ xs).drop 4 := by
      rw [take_of_length_le]
      rw [length_drop]
      omega
    unfold ipcFraming
    dsimp only
    rw [hlength, if_neg (Nat.lt_irrefl _), htake, if_pos (by omega)]
  · have hproper : ys.length < xs.length :=
      Nat.lt_of_le_of_ne hys.length_le fun heq => hne (hys.eq_of_length heq)
    rw [length_append] at hlength ⊢
    omega

end Format

theorem encodes_packet {packet : Packet} (h : packet.payload.length ≤ discordRpcMessageMaxBytes) :
    ipcFraming.Encodes packet.bytes (.packet packet) where
  nonempty := cons_ne_nil _ _
  complete := by
    change ipcFraming.complete (Packet.header _ _ ++ _) = _
    rw [complete_header_append h, if_pos rfl]
  incomplete := by
    intro ys hys _ hne
    refine complete_of_isPrefix h hys ?_
    have hproper := Nat.lt_of_le_of_ne hys.length_le fun heq => hne (hys.eq_of_length heq)
    change _ < (Packet.header _ _ ++ packet.payload).length at hproper
    rw [length_append, Packet.length_header] at hproper
    exact hproper

/-! ### Polls -/

/-- What a poll of a reading future does to the stream. -/
def PacketPoll.Reads (consumed incoming : List UInt8) : PacketPoll × List UInt8 → Prop
  | (.pending reading, left) =>
    left = [] ∧ ipcFraming.decode consumed incoming = ([], reading.consumed)
  | (.ready (.ok (some packet)), left) => ∃ used, incoming = used ++ left ∧ used ≠ [] ∧
    ipcFraming.decode consumed used = ([.packet packet], [])
  | (.ready (.error .protocol), left) => ∃ used, incoming = used ++ left ∧
    ipcFraming.decode consumed used = ([.oversized], [])
  | (.ready _, _) => True

theorem readExact_split (size : Nat) (buffer incoming : List UInt8) :
    ∃ used, incoming = used ++ (readExact size buffer incoming).2 ∧
      (readExact size buffer incoming).1 = buffer ++ used :=
  ⟨incoming.take (size - buffer.length), (take_append_drop _ _).symm, rfl⟩

variable {buffer : List UInt8}

/-- A buffer that is not full after a read has taken everything. -/
theorem readExact_of_short {size : Nat} {incoming : List UInt8}
    (h : (readExact size buffer incoming).1.length < size) :
    readExact size buffer incoming = (buffer ++ incoming, []) := by
  have hlength : incoming.length ≤ size - buffer.length := by
    unfold readExact at h
    rw [length_append, length_take] at h
    omega
  unfold readExact
  rw [take_of_length_le hlength, drop_of_length_le hlength]

/-- A buffer never takes more than it has room for. -/
theorem readExact_length {size : Nat} {incoming : List UInt8} (hbuffer : buffer.length ≤ size)
    (h : ¬(readExact size buffer incoming).1.length < size) :
    (readExact size buffer incoming).1.length = size := by
  unfold readExact at h ⊢
  rw [length_append, length_take] at h ⊢
  omega

/-- The payload is read behind `front`, the bytes of the header that the same poll has taken. -/
theorem reads_pollPayload {opcode : UInt32} {length : Nat}
    (bounded : length ≤ discordRpcMessageMaxBytes) {consumed front : List UInt8}
    (hbuffer : buffer.length ≤ length) (hfront : buffer.length < length ∨ front ≠ [])
    (hconsumed : consumed ++ front = Packet.header opcode length ++ buffer)
    (incoming : List UInt8) (eof : Bool) :
    PacketPoll.Reads consumed (front ++ incoming)
      (pollPayload opcode length bounded buffer incoming eof) := by
  obtain ⟨used, hused, hfilled⟩ := readExact_split length buffer incoming
  have hall : consumed ++ (front ++ used) =
      Packet.header opcode length ++ (readExact length buffer incoming).1 := by
    rw [hfilled, ← append_assoc, hconsumed, append_assoc]
  unfold pollPayload
  dsimp only
  split
  · next hshort =>
    split
    · trivial
    · have hleft : (readExact length buffer incoming).2 = [] := by
        rw [readExact_of_short hshort]
      rw [hleft, append_nil] at hused
      have hdecode := decode_unfinished bounded hall hshort
      rw [hall, ← hused] at hdecode
      exact ⟨hleft, hdecode⟩
  · next hfull =>
    have hlength := readExact_length hbuffer hfull
    have hne : front ++ used ≠ [] := by
      intro hnil
      rw [append_eq_nil_iff] at hnil
      rcases hfront with hlt | hne
      · rw [hfilled, hnil.2, append_nil] at hlength
        omega
      · exact hne hnil.1
    refine ⟨front ++ used, ?_, hne, decode_finished ?_ ?_ hne⟩
    · rw [append_assoc, ← hused]
    · rw [hlength]
      exact bounded
    · rw [hall, Packet.bytes]
      rw [hlength]

/-- Eight bytes are the header that they are read as. -/
theorem header_of_length (h : buffer.length = ipcHeaderBytes) :
    Packet.header (.ofNat (fromLeBytes (buffer.take 4))) (fromLeBytes (buffer.drop 4)) =
      buffer := by
  have hsize : buffer.length = 8 := h
  have hfirst : (buffer.take 4).length = 4 := by
    rw [length_take]
    omega
  have hsecond : (buffer.drop 4).length = 4 := by
    rw [length_drop]
    omega
  rw [Packet.header, UInt32.toNat_ofNat_of_lt' (fromLeBytes_lt hfirst),
    toLeBytes_fromLeBytes hfirst, toLeBytes_fromLeBytes hsecond, take_append_drop]

theorem reads_pollHeader (hbuffer : buffer.length < ipcHeaderBytes)
    (incoming : List UInt8) (eof : Bool) :
    PacketPoll.Reads buffer incoming (pollHeader buffer incoming eof) := by
  obtain ⟨used, hused, hfilled⟩ := readExact_split ipcHeaderBytes buffer incoming
  unfold pollHeader
  dsimp only
  split
  · next hshort =>
    split
    · trivial
    · have hleft : (readExact ipcHeaderBytes buffer incoming).2 = [] := by
        rw [readExact_of_short hshort]
      rw [hleft, append_nil] at hused
      have hdecode : ipcFraming.decode buffer incoming = ([], buffer ++ incoming) := by
        refine decode_short ?_
        rw [hfilled, ← hused] at hshort
        exact hshort
      rw [hused, ← hfilled, ← hused] at hdecode
      exact ⟨hleft, hdecode⟩
  · next hfull =>
    have hlength := readExact_length (Nat.le_of_lt hbuffer) hfull
    have hne : used ≠ [] := by
      rintro rfl
      rw [hfilled, append_nil] at hlength
      omega
    split
    · next bounded =>
      nth_rewrite 1 [hused]
      refine reads_pollPayload bounded (Nat.zero_le _) (.inr hne) ?_ _ eof
      rw [append_nil, ← hfilled]
      exact (header_of_length hlength).symm
    · next hmax =>
      rw [hfilled] at hlength hmax
      exact ⟨used, hused, decode_oversized hlength hne hmax⟩

/-- A future that reads decodes the bytes it takes. -/
theorem reads_readIpcPacket {reading : Reading} (h : ∀ payload, reading ≠ .pong payload)
    (incoming : List UInt8) (eof : Bool) :
    PacketPoll.Reads reading.consumed incoming (readIpcPacket reading incoming eof) := by
  cases reading with
  | header buffer short => exact reads_pollHeader short incoming eof
  | payload opcode length buffer bounded short =>
    have hconsumed : Packet.header opcode length ++ buffer ++ [] =
        Packet.header opcode length ++ buffer := append_nil _
    exact reads_pollPayload bounded (Nat.le_of_lt short) (.inl short) hconsumed incoming eof
  | pong payload => exact absurd rfl (h payload)

end OverCrow.Discord
