import OverCrow.Discord.Sending

/-!
# Numbering of commands and answers

Commands are numbered as they are sent and answered in that order, so the unanswered ones
carry consecutive numbers. There are fewer than `2 ^ 64` of them, and therefore no two share
a wire nonce although the counter wraps. Messages to the client are in the order in which
the server processed commands.
-/

namespace OverCrow.Discord
open OverCrow.Base List

/-- The wire nonce of the command with this number. -/
def wireNonce (seq : Nat) : String := toString (seq % 2 ^ 64)

/-- Numbers less than `2 ^ 64` apart have different wire nonces. -/
theorem eq_of_wireNonce_eq {a b low : Nat} (ha : low < a) (hb : low < b)
    (ha' : a ≤ low + 2 ^ 64) (hb' : b ≤ low + 2 ^ 64) (h : wireNonce a = wireNonce b) : a = b := by
  have hmod : a % 2 ^ 64 = b % 2 ^ 64 := eq_of_toString_eq h
  omega

namespace DiscordSystem

variable {link : Link} {s : DiscordSystem}
  {c d : SentCommand} {m : Message} {rest : List Message}

/-- Numbers, nonces and order of what is in flight. -/
structure Numbered (link : Link) (s : DiscordSystem) : Prop where
  nonce : s.session.worker.nonce % 2 ^ 64 = s.session.socket.sent % 2 ^ 64
  wire : ∀ c ∈ s.unanswered, c.nonce = wireNonce c.seq
  numbers : s.unanswered.map SentCommand.seq = range' (s.answered + 1) s.unanswered.length
  sent : s.session.socket.sent = s.answered + s.unanswered.length
  room : s.unanswered.length + s.session.socket.budget ≤ link.capacity
  times : ∀ m ∈ s.toClient, ∀ c, m.answers = some c → m.served = c.seq
  sorted : s.toClient.Pairwise (·.served ≤ ·.served)
  reached : ∀ m ∈ s.toClient, m.served ≤ s.served
  waiting : ∀ c ∈ s.session.socket.queue, s.served < c.seq
  served_le : s.served ≤ s.session.socket.sent

theorem mem_unanswered :
    c ∈ s.unanswered ↔
      (∃ m ∈ s.toClient, m.answers = some c) ∨ c ∈ s.session.socket.queue := by
  rw [unanswered, mem_append, mem_filterMap]

theorem mem_unanswered_of_queue (h : c ∈ s.session.socket.queue) :
    c ∈ s.unanswered := mem_unanswered.mpr (.inr h)

section

variable (h : Numbered link s)

include h

/-- An unanswered command has a number between the last answered and the last sent. -/
theorem Numbered.seq_mem (hc : c ∈ s.unanswered) : s.answered < c.seq ∧ c.seq ≤ s.session.socket.sent := by
  have hmem : c.seq ∈ s.unanswered.map SentCommand.seq := mem_map_of_mem hc
  rw [h.numbers, mem_range'_1] at hmem
  rw [h.sent]
  omega

theorem Numbered.nodup : (s.unanswered.map SentCommand.seq).Nodup := by
  rw [h.numbers]
  exact nodup_range' ..

/-- An unanswered command is known by its number. -/
theorem Numbered.eq_of_seq (hc : c ∈ s.unanswered) (hd : d ∈ s.unanswered) (hseq : c.seq = d.seq) : c = d :=
  inj_on_of_nodup_map h.nodup hc hd hseq

/-- An unanswered command is known by its wire nonce. -/
theorem Numbered.eq_of_nonce (hc : c ∈ s.unanswered)
    (hd : d ∈ s.unanswered) (hnonce : c.nonce = d.nonce) : c = d := by
  have hroom := h.room
  have hbound := link.bounded
  have hsent := h.sent
  have hcseq := h.seq_mem hc
  have hdseq := h.seq_mem hd
  apply h.eq_of_seq hc hd
  apply eq_of_wireNonce_eq hcseq.1 hdseq.1 (by omega) (by omega)
  rw [← h.wire c hc, ← h.wire d hd, hnonce]

/-- Commands are sent in the order of their numbers. -/
theorem Numbered.ordered : s.unanswered.Pairwise (·.seq < ·.seq) := by
  have hpairs : (s.unanswered.map SentCommand.seq).Pairwise (· < ·) := by
    rw [h.numbers]
    exact pairwise_lt_range' ..
  exact pairwise_map.mp hpairs

/-- Numbering only reads the socket and the nonce of the session. -/
theorem Numbered.withSession {t : Session}
    (hsocket : t.socket = s.session.socket) (hnonce : t.worker.nonce = s.session.worker.nonce) :
    Numbered link { s with session := t } := by
  obtain ⟨⟩ := t
  cases hsocket
  refine { h with nonce := ?_ }
  rw [hnonce]
  exact h.nonce

end

/-! ### Sending -/

theorem unanswered_afterSend (s : DiscordSystem) (command : RpcCommand) :
    unanswered { s with session := s.session.afterSend command } =
      s.unanswered ++ [s.session.nextCommand command] := by
  unfold unanswered
  rw [append_assoc]
  rfl

theorem Numbered.afterSend (h : Numbered link s) (hb : s.session.socket.budget ≠ 0) (command : RpcCommand) :
    Numbered link { s with session := s.session.afterSend command } := by
  have hun := unanswered_afterSend s command
  have hsent := h.sent
  have hroom := h.room
  have hlast : (s.session.nextCommand command).seq = s.session.socket.sent + 1 := rfl
  refine { h with
    nonce := ?_
    wire := ?_
    numbers := ?_
    sent := ?_
    room := ?_
    waiting := ?_
    served_le := Nat.le_succ_of_le h.served_le }
  · change (s.session.worker.nonce + 1) % 2 ^ 64 % 2 ^ 64 = (s.session.socket.sent + 1) % 2 ^ 64
    have hnonce := h.nonce
    omega
  · intro c hc
    rw [hun, mem_append, mem_singleton] at hc
    rcases hc with hc | rfl
    · exact h.wire c hc
    · change toString ((s.session.worker.nonce + 1) % 2 ^ 64) =
        toString ((s.session.socket.sent + 1) % 2 ^ 64)
      have hnonce := h.nonce
      congr 1
      omega
  · rw [hun, map_append, length_append, h.numbers, map_singleton,
      length_singleton, range'_concat, hlast, hsent]
    congr 2
    dsimp only
    omega
  · rw [hun, length_append, length_singleton]
    change s.session.socket.sent + 1 = s.answered + (s.unanswered.length + 1)
    omega
  · rw [hun, length_append, length_singleton]
    change s.unanswered.length + 1 + (s.session.socket.budget - 1) ≤ link.capacity
    omega
  · intro c hc
    change c ∈ s.session.socket.queue ++ [s.session.nextCommand command] at hc
    rw [mem_append, mem_singleton] at hc
    rcases hc with hc | rfl
    · exact h.waiting c hc
    · rw [hlast]
      exact Nat.lt_succ_of_le h.served_le

/-- The next command has a nonce that no unanswered command has. -/
theorem Numbered.nonce_fresh (h : Numbered link s) (hb : s.session.socket.budget ≠ 0)
    (command : RpcCommand) (hc : c ∈ s.unanswered) : c.nonce ≠ (s.session.nextCommand command).nonce := by
  intro heq
  have hun := unanswered_afterSend s command
  have hsame : c = s.session.nextCommand command := by
    apply (h.afterSend hb command).eq_of_nonce _ _ heq
    · rw [hun]
      exact mem_append_left _ hc
    · rw [hun]
      exact mem_append_right _ mem_cons_self
  have hle := (h.seq_mem hc).2
  rw [hsame] at hle
  exact Nat.not_succ_le_self _ hle

/-! ### The peer's steps -/

/-- A message is on its way, and what is left of the queue waits. -/
def pushed (s : DiscordSystem) (m : Message) (queue : List SentCommand) : DiscordSystem :=
  { s with
    session := { s.session with socket := { s.session.socket with queue } }
    toClient := s.toClient ++ [m]
    served := m.served }

theorem Numbered.pushed (h : Numbered link s) {queue : List SentCommand}
    (hun : (s.pushed m queue).unanswered = s.unanswered) (hle : s.served ≤ m.served)
    (htimes : ∀ c, m.answers = some c → m.served = c.seq) (hwaiting : ∀ c ∈ queue, m.served < c.seq)
    (hsent : m.served ≤ s.session.socket.sent) : Numbered link (s.pushed m queue) := by
  refine { h with
    wire := ?_
    numbers := ?_
    sent := ?_
    room := ?_
    times := forall_mem_append.mpr ⟨h.times, forall_mem_singleton.mpr htimes⟩
    sorted := pairwise_append.mpr ⟨h.sorted, pairwise_singleton _ _, fun m' hm' => ?_⟩
    reached := forall_mem_append.mpr
      ⟨fun m' hm' => Nat.le_trans (h.reached m' hm') hle, forall_mem_singleton.mpr (Nat.le_refl _)⟩
    waiting := hwaiting
    served_le := hsent }
  · rw [hun]
    exact h.wire
  · rw [hun]
    exact h.numbers
  · rw [hun]
    exact h.sent
  · rw [hun]
    exact h.room
  · exact forall_mem_singleton.mpr (Nat.le_trans (h.reached m' hm') hle)

theorem unanswered_send (s : DiscordSystem) {body : MessageBody}
    (hbody : (Message.mk s.served body).answers = none) : (s.send body).unanswered = s.unanswered := by
  unfold unanswered send
  rw [filterMap_append, filterMap_cons_none hbody, filterMap_nil, append_nil]

/-- Processing a command moves it from the queue to the answers. -/
theorem unanswered_serve {sent : SentCommand} {queue : List SentCommand}
    (hqueue : s.session.socket.queue = sent :: queue) (reply : SelectedChannelReply) :
    (s.serve sent queue reply).unanswered = s.unanswered := by
  unfold unanswered serve send
  rw [filterMap_append, hqueue, append_assoc]
  rfl

/-! ### Taking a message -/

theorem unanswered_taken (htake : s.toClient = m :: rest) :
    s.unanswered = m.answers.toList ++ (s.taken m rest).unanswered := by
  unfold unanswered taken
  rw [htake, filterMap_cons]
  cases m.answers <;> rfl

theorem mem_of_mem_taken (htake : s.toClient = m :: rest)
    (hc : c ∈ (s.taken m rest).unanswered) : c ∈ s.unanswered := by
  rw [unanswered_taken htake]
  exact mem_append_right _ hc

theorem Numbered.taken (h : Numbered link s)
    (htake : s.toClient = m :: rest) : Numbered link (s.taken m rest) := by
  have hun := unanswered_taken htake
  have hrest : ∀ m' ∈ rest, m' ∈ s.toClient := by
    intro m' hm'
    rw [htake]
    exact mem_cons_of_mem _ hm'
  have hsorted := h.sorted
  rw [htake, pairwise_cons] at hsorted
  have hnumbers := h.numbers
  have hsent := h.sent
  have hroom := h.room
  rw [hun, length_append] at hsent hroom
  have hboth : (s.taken m rest).unanswered.map SentCommand.seq =
        range' ((s.taken m rest).answered + 1) (s.taken m rest).unanswered.length ∧
      s.session.socket.sent =
        (s.taken m rest).answered + (s.taken m rest).unanswered.length := by
    cases ha : m.answers with
    | none =>
      rw [ha] at hun hsent
      have hanswered : (s.taken m rest).answered = s.answered := by
        unfold DiscordSystem.taken
        rw [ha]
        rfl
      rw [hun] at hnumbers
      rw [hanswered]
      exact ⟨hnumbers, by simpa using hsent⟩
    | some c =>
      rw [ha] at hun hsent
      have hanswered : (s.taken m rest).answered = c.seq := by
        unfold DiscordSystem.taken
        rw [ha]
        rfl
      rw [hun] at hnumbers
      simp only [Option.toList_some, singleton_append, map_cons, length_cons,
        range'_succ, cons.injEq] at hnumbers
      rw [hanswered, hnumbers.1]
      refine ⟨hnumbers.2, ?_⟩
      simp only [Option.toList_some, length_singleton] at hsent
      omega
  exact { h with
    wire := fun c hc => h.wire c (mem_of_mem_taken htake hc)
    numbers := hboth.1
    sent := hboth.2
    room := by
      change (s.taken m rest).unanswered.length + s.session.socket.budget ≤ link.capacity
      omega
    times := fun m' hm' => h.times m' (hrest m' hm')
    sorted := hsorted.2
    reached := fun m' hm' => h.reached m' (hrest m' hm') }

/-- The commands that stay unanswered come after the answered one. -/
theorem Numbered.taken_later (h : Numbered link s)
    (htake : s.toClient = m :: rest) (ha : m.answers = some c)
    (hd : d ∈ (s.taken m rest).unanswered) : c.seq < d.seq := by
  have hordered := h.ordered
  rw [unanswered_taken htake, ha, Option.toList_some, singleton_append,
    pairwise_cons] at hordered
  exact hordered.1 d hd

end DiscordSystem

end OverCrow.Discord
