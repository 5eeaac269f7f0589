import OverCrow.Discord.Ownership

/-!
# Taking a message

What a session keeps when its client takes a message from the socket, and when it changes
state that has nothing to do with channels.
-/

namespace OverCrow.Discord
open OverCrow.Base

/-- Nothing about channels changed, except that the held channel may be another version of
itself or have been given up. -/
structure WorkerState.SameChannels (w w' : WorkerState) : Prop where
  nonce : w'.nonce = w.nonce
  pending : w'.pendingSubscriptions = w.pendingSubscriptions
  subscribed : w'.subscribedChannelId = w.subscribedChannelId
  request : w'.pendingChannelSnapshotNonce = w.pendingChannelSnapshotNonce
  selected : w'.selectedChannelId = w.selectedChannelId
  connection : w'.snapshot.connection = w.snapshot.connection
  channel : ∀ channel', w'.snapshot.channel = some channel' →
    ∃ channel, w.snapshot.channel = some channel ∧ channel.id = channel'.id

theorem WorkerState.SameChannels.rfl {w : WorkerState} : w.SameChannels w :=
  ⟨Eq.refl _, Eq.refl _, Eq.refl _, Eq.refl _, Eq.refl _, Eq.refl _,
    fun channel h => ⟨channel, h, Eq.refl _⟩⟩

namespace DiscordSystem

variable {link : Link} {s : DiscordSystem}

theorem unanswered_withSession {t : Session} (hqueue : t.socket.queue = s.queue) :
    unanswered { s with session := t } = s.unanswered := by
  unfold unanswered
  rw [hqueue]

theorem ReadyOnce.withSession (h : s.ReadyOnce) {t : Session}
    (hconnection : t.worker.snapshot.connection = s.worker.snapshot.connection) :
    ReadyOnce { s with session := t } := by
  unfold ReadyOnce
  rw [hconnection]
  exact h

/-- The invariant only reads what concerns channels. -/
theorem Invariant.withSession (h : s.Invariant link) {t : Session}
    (hnumbered : Numbered link { s with session := t }) (hqueue : t.socket.queue = s.queue)
    (hw : s.worker.SameChannels t.worker) : Invariant link { s with session := t } := by
  obtain ⟨⟨⟩, ⟨⟩, auth⟩ := t
  obtain ⟨-, hpending, hsubscribed, hrequest, hselected, hconnection, hchannels⟩ := hw
  cases hqueue
  cases hpending
  cases hsubscribed
  cases hrequest
  cases hselected
  exact
    { numbered := hnumbered
      once := h.once.withSession hconnection
      fresh := fun hne => { h.fresh (hconnection ▸ hne) with }
      tracked := h.tracked.congr rfl rfl
      requested := h.requested.congr rfl rfl rfl
      owned := { h.owned with }
      governed :=
        { h.governed with
          channel := fun selected hselected channel' hchannel' => by
            obtain ⟨channel, hchannel, hid⟩ := hchannels channel' hchannel'
            rw [← hid]
            exact h.governed.channel selected hselected channel hchannel }
      clean := fun g hg => { h.clean g ⟨hg.unanswered, hg.command, hg.pending⟩ with }
      holds := fun channel' hchannel' => by
        obtain ⟨channel, hchannel, hid⟩ := hchannels channel' hchannel'
        rw [← hid]
        exact { h.holds channel hchannel with } }

/-- A change of the worker and the authorization alone. -/
theorem Invariant.withWorker (h : s.Invariant link) {w : WorkerState} (auth : DiscordAuth)
    (hw : s.worker.SameChannels w) :
    Invariant link { s with session := { s.session with worker := w, auth } } :=
  h.withSession (h.numbered.withSession rfl hw.nonce) rfl hw

/-- How many sends will succeed does not matter as long as the buffers are respected. -/
theorem Invariant.withBudget (h : s.Invariant link) (budget : Nat) (failure : BackendError) :
    Invariant link { s with session := s.withBudget link budget failure } := by
  have hun : unanswered { s with session := s.withBudget link budget failure } = s.unanswered :=
    unanswered_withSession rfl
  have hroom := h.numbered.room
  refine h.withSession { h.numbered with room := ?_ } rfl .rfl
  rw [hun]
  change s.unanswered.length + min budget (link.capacity - s.unanswered.length) ≤ link.capacity
  omega

/-! ### `READY` -/

variable {m : Message} {rest : List Message}

theorem readies_taken (htake : s.toClient = m :: rest) :
    s.readies.length = (if m.body = .ready then 1 else 0) + (s.taken m rest).readies.length := by
  unfold readies taken
  rw [htake, List.filter_cons]
  by_cases hm : m.body = .ready
  · simp [hm, Nat.add_comm]
  · simp [hm]

theorem ReadyOnce.taken (h : s.ReadyOnce)
    (htake : s.toClient = m :: rest) : (s.taken m rest).ReadyOnce := by
  have hcount := readies_taken htake
  unfold ReadyOnce at h ⊢
  change _ + (if s.readySent then 0 else 1) ≤ if s.worker.snapshot.connection = .connecting then 1
    else 0
  omega

/-- Another `READY` can neither be under way nor be sent. -/
def ReadyDone (s : DiscordSystem) : Prop := s.readies = [] ∧ s.readySent = true

theorem ReadyOnce.done (h : s.ReadyOnce) (hconnection : s.worker.snapshot.connection ≠ .connecting) :
    s.ReadyDone := by
  unfold ReadyOnce at h
  rw [if_neg hconnection] at h
  cases hsent : s.readySent with
  | true =>
    rw [hsent, if_pos rfl] at h
    exact ⟨List.eq_nil_of_length_eq_zero (by omega), hsent⟩
  | false =>
    rw [hsent] at h
    simp at h

/-- A `READY` that is taken is the only one, and the session was connecting. -/
theorem ReadyOnce.of_ready (h : s.ReadyOnce) (htake : s.toClient = m :: rest) (hm : m.body = .ready) :
    s.worker.snapshot.connection = .connecting ∧ (s.taken m rest).ReadyDone := by
  have hcount := readies_taken htake
  rw [if_pos hm] at hcount
  unfold ReadyOnce at h
  by_cases hconnection : s.worker.snapshot.connection = .connecting
  · rw [if_pos hconnection] at h
    refine ⟨hconnection, List.eq_nil_of_length_eq_zero (by omega), ?_⟩
    change s.readySent = true
    cases hsent : s.readySent with
    | true => rfl
    | false =>
      rw [hsent] at h
      simp only [Bool.false_eq_true, if_false] at h
      omega
  · rw [if_neg hconnection] at h
    omega

theorem ReadyDone.readyOnce (h : s.ReadyDone) : s.ReadyOnce := by
  unfold ReadyOnce
  rw [h.1, h.2]
  exact Nat.zero_le _

/-! ### Answers -/

/-- The books of pending commands after a message: the answered command is struck from the
table, and the answer to the awaited request may end the wait. -/
structure Settles (w : WorkerState) (m : Message)
    (pending : Std.ExtTreeMap String PendingSubscription) (request : Option String) : Prop where
  kept : ∀ nonce : String, (∀ c, m.answers = some c → c.nonce ≠ nonce) →
    pending[nonce]? = w.pendingSubscriptions[nonce]?
  struck : ∀ c, m.answers = some c → pending[c.nonce]? = none
  request : request = w.pendingChannelSnapshotNonce ∨
    request = none ∧ ∃ c, m.answers = some c ∧ w.pendingChannelSnapshotNonce = some c.nonce

/-- The system after a message was taken and the books were settled. -/
def settled (s : DiscordSystem) (m : Message) (rest : List Message)
    (pending : Std.ExtTreeMap String PendingSubscription) (request : Option String) :
    DiscordSystem :=
  { s.taken m rest with session := { s.session with worker := { s.worker with
    pendingSubscriptions := pending, pendingChannelSnapshotNonce := request } } }

section Settled

variable {m : Message} {rest : List Message}
  {pending : Std.ExtTreeMap String PendingSubscription} {request : Option String}
  {c : SentCommand}

theorem mem_unanswered_taken (htake : s.toClient = m :: rest) :
    c ∈ s.unanswered ↔ m.answers = some c ∨ c ∈ (s.taken m rest).unanswered := by
  rw [unanswered_taken htake, List.mem_append, Option.mem_toList]

/-- A command that stays unanswered is not the answered one. -/
theorem Numbered.ne_answered (h : s.Numbered link) (htake : s.toClient = m :: rest)
    {d : SentCommand} (hd : d ∈ (s.settled m rest pending request).unanswered)
    (hc : m.answers = some c) : c.nonce ≠ d.nonce := by
  intro heq
  have hlater := h.taken_later htake hc hd
  have hsame := h.eq_of_nonce ((mem_unanswered_taken htake).mpr (.inl hc))
    ((mem_unanswered_taken htake).mpr (.inr hd)) heq
  rw [hsame] at hlater
  exact Nat.lt_irrefl _ hlater

section

variable (h : Settles s.worker m pending request)

include h

theorem Settles.getElem? (hn : s.Numbered link)
    (htake : s.toClient = m :: rest) (hc : c ∈ (s.settled m rest pending request).unanswered) :
    pending[c.nonce]? = s.worker.pendingSubscriptions[c.nonce]? :=
  h.kept c.nonce fun _ hanswers => hn.ne_answered htake hc hanswers

theorem Settles.of_getElem? {nonce : String} {p : PendingSubscription} (hp : pending[nonce]? = some p) :
    s.worker.pendingSubscriptions[nonce]? = some p ∧
      ∀ c, m.answers = some c → c.nonce ≠ nonce := by
  have hne : ∀ c, m.answers = some c → c.nonce ≠ nonce := by
    rintro c hc rfl
    rw [h.struck c hc] at hp
    cases hp
  exact ⟨h.kept nonce hne ▸ hp, hne⟩

theorem Settles.tracked (hn : s.Numbered link) (htake : s.toClient = m :: rest) (ht : s.Tracked) :
    (s.settled m rest pending request).Tracked where
  pending := by
    intro nonce p hp
    obtain ⟨hold, hne⟩ := h.of_getElem? hp
    obtain ⟨c, hc, hnonce, hcommand⟩ := ht.pending nonce p hold
    rcases (mem_unanswered_taken htake).mp hc with hanswered | hc
    · exact absurd hnonce (hne c hanswered)
    · exact ⟨c, hc, hnonce, hcommand⟩
  unsubscribe := by
    intro c hc p hcommand hp
    exact (h.getElem? hn htake hc).trans
      (ht.unsubscribe c ((mem_unanswered_taken htake).mpr (.inr hc)) p hcommand hp)
  channel := fun c hc => ht.channel c ((mem_unanswered_taken htake).mpr (.inr hc))

/-- A request that is still waited for is unanswered. -/
theorem Settles.awaited (hn : s.Numbered link) (htake : s.toClient = m :: rest) {g : SentCommand} :
    (s.settled m rest pending request).Awaited g ↔
      s.Awaited g ∧ g ∈ (s.settled m rest pending request).unanswered := by
  constructor
  · intro hg
    refine ⟨⟨(mem_unanswered_taken htake).mpr (.inr hg.unanswered), hg.command, ?_⟩,
      hg.unanswered⟩
    have hpending : request = some g.nonce := hg.pending
    rcases h.request with hsame | ⟨hnone, -⟩
    · exact hsame ▸ hpending
    · rw [hnone] at hpending
      cases hpending
  · rintro ⟨hg, hun⟩
    refine ⟨hun, hg.command, ?_⟩
    rcases h.request with hsame | ⟨-, c, hc, hrequest⟩
    · exact hsame.trans hg.pending
    · rw [hg.pending, Option.some.injEq] at hrequest
      exact absurd hrequest.symm (hn.ne_answered htake hun hc)

theorem Settles.requested (hn : s.Numbered link) (htake : s.toClient = m :: rest) (hr : s.Requested) :
    (s.settled m rest pending request).Requested where
  request := by
    intro hwaiting
    have hsame : request = s.worker.pendingChannelSnapshotNonce :=
      h.request.resolve_right fun hnone => hwaiting hnone.1
    rcases hr.request (hsame ▸ hwaiting) with ⟨g, hg, hlast⟩ | hnone
    · rcases (mem_unanswered_taken htake).mp hg.unanswered with hanswered | hun
      · -- The answer was unreadable; no younger request is under way.
        right
        intro d hd hcommand
        have hle := hlast d ((mem_unanswered_taken htake).mpr (.inr hd)) hcommand
        have hlater := hn.taken_later htake hanswered hd
        omega
      · exact .inl ⟨g, (h.awaited hn htake).mpr ⟨hg, hun⟩, fun d hd =>
          hlast d ((mem_unanswered_taken htake).mpr (.inr hd))⟩
    · exact .inr fun d hd => hnone d ((mem_unanswered_taken htake).mpr (.inr hd))
  subscribe := by
    intro c hc p hcommand
    rcases hr.subscribe c ((mem_unanswered_taken htake).mpr (.inr hc)) p hcommand with
      hp | ⟨g, hg, hlt⟩
    · exact .inl ((h.getElem? hn htake hc).trans hp)
    · refine .inr ⟨g, (h.awaited hn htake).mpr ⟨hg, ?_⟩, hlt⟩
      rcases (mem_unanswered_taken htake).mp hg.unanswered with hanswered | hun
      · have hlater := hn.taken_later htake hanswered hc
        omega
      · exact hun

end

theorem Owned.afterAnswer (h : s.Owned) (htake : s.toClient = m :: rest) :
    (s.settled m rest pending request).Owned := by
  have hsub : ∀ c ∈ (s.settled m rest pending request).unanswered, c ∈ s.unanswered :=
    fun c hc => (mem_unanswered_taken htake).mpr (.inr hc)
  have horder := h.order
  rw [unanswered_taken htake, List.pairwise_append] at horder
  refine { h with owner := ?_, order := horder.2.1, leaving := ?_, joining := ?_ }
  · obtain ⟨owner, hcommands, hrest⟩ := h.owner
    exact ⟨owner, fun c hc => hcommands c (hsub c hc), hrest⟩
  · rintro ⟨c, hc, hscoped⟩
    exact h.leaving ⟨c, hsub c hc, hscoped⟩
  · rintro hnone ⟨c, hc, hscoped⟩
    obtain ⟨u, hu, hleaves⟩ := h.joining hnone ⟨c, hsub c hc, hscoped⟩
    rcases (mem_unanswered_taken htake).mp hu with hanswered | hu
    · -- The answered command cannot be an unsubscribe: a subscribe follows it.
      exact absurd hscoped (horder.2.2 u (Option.mem_toList.mpr hanswered) c hc hleaves)
    · exact ⟨u, hu, hleaves⟩

/-- Taking a message and settling the books keeps the invariant. -/
theorem Invariant.settled (h : s.Invariant link) (htake : s.toClient = m :: rest)
    (hsettles : Settles s.worker m pending request) :
    (s.settled m rest pending request).Invariant link := by
  have hrest : ∀ m' ∈ rest, m' ∈ s.toClient := by
    intro m' hm'
    rw [htake]
    exact List.mem_cons_of_mem _ hm'
  have hsub : ∀ c ∈ (s.settled m rest pending request).unanswered, c ∈ s.unanswered :=
    fun c hc => (mem_unanswered_taken htake).mpr (.inr hc)
  have hrequest : s.worker.pendingChannelSnapshotNonce = none → request = none := by
    intro hnone
    rcases hsettles.request with hsame | hended
    · exact hsame.trans hnone
    · exact hended.1
  refine
    { numbered := (h.numbered.taken htake).withSession rfl rfl
      once := h.once.taken htake
      fresh := ?_
      tracked := hsettles.tracked h.numbered htake h.tracked
      requested := hsettles.requested h.numbered htake h.requested
      owned := h.owned.afterAnswer htake
      governed := ?_
      clean := ?_
      holds := ?_ }
  · intro hconnection
    have hf := h.fresh hconnection
    refine { hf with
      commands := fun c hc => hf.commands c (hsub c hc)
      pending := ?_
      request := hrequest hf.request
      messages := fun m' hm' => hf.messages m' (hrest m' hm') }
    apply Std.ExtTreeMap.ext_getElem?
    intro nonce
    rw [Std.ExtTreeMap.getElem?_empty]
    change pending[nonce]? = none
    cases hp : pending[nonce]? with
    | none => rfl
    | some p =>
      have hold := (hsettles.of_getElem? hp).1
      rw [hf.pending, Std.ExtTreeMap.getElem?_empty] at hold
      cases hold
  · refine { h.governed with unselected := ?_, first := ?_ }
    · rintro hnone ⟨c, hc, hscoped⟩
      exact h.governed.unselected hnone ⟨c, hsub c hc, hscoped⟩
    · intro hnone hwaiting
      exact h.governed.first hnone fun hidle => hwaiting (hrequest hidle)
  · intro g hg
    have hclean := h.clean g ((hsettles.awaited h.numbered htake).mp hg).1
    exact { hclean with voice := fun m' hm' => hclean.voice m' (hrest m' hm') }
  · intro channel hchannel
    have hexclusive := h.holds channel hchannel
    exact { hexclusive with voice := fun m' hm' => hexclusive.voice m' (hrest m' hm') }

end Settled

/-- Taking a message that answers nothing keeps the invariant. -/
theorem Invariant.taken (h : s.Invariant link) (htake : s.toClient = m :: rest) (hm : m.answers = none) :
    (s.taken m rest).Invariant link := by
  refine h.settled htake
    { kept := fun _ _ => rfl
      struck := ?_
      request := .inl rfl }
  intro c hc
  rw [hm] at hc
  cases hc

end DiscordSystem

end OverCrow.Discord
