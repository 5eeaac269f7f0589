import OverCrow.Discord.Numbering

/-!
# One channel owner

The invariants of a session that make the five channel-scoped subscriptions belong to one
channel at a time. They are stated over the commands that are still unanswered, the
messages under way and the subscriptions the server holds, and preserved by every step of
the peer.
-/

namespace OverCrow.Discord
open OverCrow.Base List

/-- The command subscribes to, or unsubscribes from, an event of the channel. -/
def SentCommand.Scoped (c : SentCommand) (command : SubscriptionCommand) (channelId : String) :
    Prop :=
  ∃ event, c.command = .subscription ⟨command, event, some channelId⟩

variable {held : List Subscription} {x : Subscription}

/-- A subscription is only added by its own subscribe command. -/
theorem RpcCommand.mem_hold {command : RpcCommand} (h : x ∈ command.hold held) :
    x ∈ held ∨ command = .subscription ⟨.subscribe, x.2, some x.1⟩ := by
  unfold hold at h
  split at h
  · split at h
    · exact .inl h
    · rcases mem_cons.mp h with rfl | h
      · exact .inr rfl
      · exact .inl h
  · exact .inl (mem_of_mem_filter h)
  · exact .inl h

/-- Only an unsubscribe command takes a subscription away. -/
theorem RpcCommand.mem_hold_of_mem {c : SentCommand}
    (h : x ∈ held) (hc : ∀ channelId, ¬c.Scoped .unsubscribe channelId) :
    x ∈ c.command.hold held := by
  unfold hold
  split
  · split
    · exact h
    · exact mem_cons_of_mem _ h
  · next event channelId hcommand => exact absurd ⟨event, hcommand⟩ (hc channelId)
  · exact h

/-- The subscriptions held after a list of commands. -/
def holdAll (held : List Subscription) (commands : List SentCommand) : List Subscription :=
  commands.foldl (fun held c => c.command.hold held) held

theorem holdAll_append (held : List Subscription) (xs ys : List SentCommand) :
    holdAll held (xs ++ ys) = holdAll (holdAll held xs) ys := foldl_append

variable {commands : List SentCommand}

theorem mem_holdAll (h : x ∈ holdAll held commands) :
    x ∈ held ∨ ∃ c ∈ commands, c.Scoped .subscribe x.1 := by
  induction commands generalizing held with
  | nil => exact .inl h
  | cons c commands ih =>
    rcases ih h with hheld | ⟨d, hd, hscoped⟩
    · rcases RpcCommand.mem_hold hheld with hheld | hcommand
      · exact .inl hheld
      · exact .inr ⟨c, mem_cons_self, x.2, hcommand⟩
    · exact .inr ⟨d, mem_cons_of_mem _ hd, hscoped⟩

theorem mem_holdAll_of_mem (h : x ∈ held)
    (hc : ∀ c ∈ commands, ∀ channelId, ¬c.Scoped .unsubscribe channelId) :
    x ∈ holdAll held commands := by
  induction commands generalizing held with
  | nil => exact h
  | cons c commands ih =>
    apply ih
    · exact RpcCommand.mem_hold_of_mem h (hc c mem_cons_self)
    · exact fun d hd => hc d (mem_cons_of_mem _ hd)

namespace DiscordSystem

/-- The worker of the session. -/
abbrev worker (s : DiscordSystem) : WorkerState := s.session.worker

/-- Commands accepted for sending that the server has not processed. -/
abbrev queue (s : DiscordSystem) : List SentCommand := s.session.socket.queue

/-- Some unsubscribe is unanswered. -/
def Leaving (s : DiscordSystem) : Prop := ∃ c ∈ s.unanswered, ∃ x, c.Scoped .unsubscribe x

/-- Some channel-scoped subscribe is unanswered. -/
def Joining (s : DiscordSystem) : Prop := ∃ c ∈ s.unanswered, ∃ x, c.Scoped .subscribe x

/-- Every entry of the table is an unanswered command, and unanswered unsubscribes are there. They
are all of a channel. -/
structure Tracked (s : DiscordSystem) : Prop where
  pending : ∀ (nonce : String) p, s.worker.pendingSubscriptions[nonce]? = some p →
    ∃ c ∈ s.unanswered, c.nonce = nonce ∧ c.command = .subscription p
  unsubscribe : ∀ c ∈ s.unanswered, ∀ p, c.command = .subscription p →
    p.command = .unsubscribe → s.worker.pendingSubscriptions[c.nonce]? = some p
  channel : ∀ c ∈ s.unanswered, ∀ p, c.command = .subscription p → p.command = .unsubscribe →
    p.channelId ≠ none

/-- The command is the request that is waited for. -/
structure Awaited (s : DiscordSystem) (g : SentCommand) : Prop where
  unanswered : g ∈ s.unanswered
  command : g.command = .getSelectedVoiceChannel
  pending : s.worker.pendingChannelSnapshotNonce = some g.nonce

/-- The request that is waited for is the last one sent, unless its answer was unreadable and no
request is under way. A subscribe that is no longer in the table was sent before it. -/
structure Requested (s : DiscordSystem) : Prop where
  request : s.worker.pendingChannelSnapshotNonce ≠ none →
    (∃ g, s.Awaited g ∧
      ∀ d ∈ s.unanswered, d.command = .getSelectedVoiceChannel → d.seq ≤ g.seq) ∨
    ∀ d ∈ s.unanswered, d.command ≠ .getSelectedVoiceChannel
  subscribe : ∀ c ∈ s.unanswered, ∀ p, c.command = .subscription p →
    s.worker.pendingSubscriptions[c.nonce]? = some p ∨ ∃ g, s.Awaited g ∧ c.seq < g.seq

/-- No subscribe to a channel was sent while an unsubscribe was unanswered. -/
def Ordered (s : DiscordSystem) : Prop :=
  s.unanswered.Pairwise fun a b => (∃ x, a.Scoped .unsubscribe x) → ¬∃ x, b.Scoped .subscribe x

/-- Everything about subscriptions concerns one channel. No subscribe follows an unanswered
unsubscribe, and once the queue is processed the server holds the five subscriptions of the
subscribed channel and no other. -/
structure Owned (s : DiscordSystem) : Prop where
  owner : ∃ owner, (∀ c ∈ s.unanswered, ∀ command x, c.Scoped command x → x = owner) ∧
    (∀ x ∈ s.held, x.1 = owner) ∧ ∀ x, s.worker.subscribedChannelId = some x → x = owner
  order : s.unanswered.Pairwise fun a b =>
    (∃ x, a.Scoped .unsubscribe x) → ¬∃ x, b.Scoped .subscribe x
  leaving : s.Leaving → s.worker.subscribedChannelId = none
  joining : s.worker.subscribedChannelId = none → s.Joining → s.Leaving
  settled : ∀ x event, (x, event) ∈ holdAll s.held s.queue ↔
    s.worker.subscribedChannelId = some x ∧ event ∈ VoiceSubscriptionEvent.channelScoped

/-- The selection governs the held and the subscribed channel. -/
structure Governed (s : DiscordSystem) : Prop where
  channel : ∀ selected, s.worker.selectedChannelId = some selected →
    ∀ channel, s.worker.snapshot.channel = some channel → selected = some channel.id
  subscribed : ∀ selected, s.worker.selectedChannelId = some selected →
    ∀ x, s.worker.subscribedChannelId = some x → selected = some x
  unselected : s.worker.selectedChannelId = none → ¬s.Leaving
  first : s.worker.selectedChannelId = none → s.worker.pendingChannelSnapshotNonce ≠ none →
    s.worker.subscribedChannelId = none

/-- What comes after the request `g` concerns the selected channel only. -/
structure CleanAfter (s : DiscordSystem) (g : SentCommand) : Prop where
  voice : ∀ m ∈ s.toClient, g.seq ≤ m.served → ∀ x event, m.body = .voice x event →
    s.worker.selectedChannelId = some (some x)
  held : g.seq ≤ s.served → ∀ x ∈ s.held, s.worker.selectedChannelId = some (some x.1)
  queue : ∀ c ∈ s.queue, g.seq < c.seq → ∀ command x, c.Scoped command x →
    command = .subscribe ∧ s.worker.selectedChannelId = some (some x)

/-- What comes after the request that is waited for concerns the selected channel only. -/
def Clean (s : DiscordSystem) : Prop := ∀ g, s.Awaited g → s.CleanAfter g

/-- Everything under way concerns the channel. -/
structure Exclusive (s : DiscordSystem) (channelId : String) : Prop where
  voice : ∀ m ∈ s.toClient, ∀ x event, m.body = .voice x event → x = channelId
  held : ∀ x ∈ s.held, x.1 = channelId
  queue : ∀ c ∈ s.queue, ∀ command x, c.Scoped command x → x = channelId

/-- While a channel is held, nothing of another channel is under way. -/
def Holds (s : DiscordSystem) : Prop :=
  ∀ channel, s.worker.snapshot.channel = some channel → s.Exclusive channel.id

/-- Nothing about channels has happened yet. -/
structure Fresh (s : DiscordSystem) : Prop where
  commands : ∀ c ∈ s.unanswered,
    (∀ p, c.command ≠ .subscription p) ∧ c.command ≠ .getSelectedVoiceChannel
  pending : s.worker.pendingSubscriptions = ∅
  subscribed : s.worker.subscribedChannelId = none
  request : s.worker.pendingChannelSnapshotNonce = none
  selected : s.worker.selectedChannelId = none
  held : s.held = []
  selectSubscribed : s.selectSubscribed = false
  messages : ∀ m ∈ s.toClient,
    (∀ x event, m.body ≠ .voice x event) ∧ ∀ x, m.body ≠ .selected x

/-- The messages that say `READY`. -/
def readies (s : DiscordSystem) : List Message := s.toClient.filter fun m => m.body = .ready

/-- `READY` is still to come, or has just come, only while the session is connecting. -/
def ReadyOnce (s : DiscordSystem) : Prop :=
  s.readies.length + (if s.readySent then 0 else 1) ≤
    if s.worker.snapshot.connection = .connecting then 1 else 0

/-- The invariant of a running session. -/
structure Invariant (link : Link) (s : DiscordSystem) : Prop where
  numbered : s.Numbered link
  once : s.ReadyOnce
  fresh : s.worker.snapshot.connection ≠ .ready → s.Fresh
  tracked : s.Tracked
  requested : s.Requested
  owned : s.Owned
  governed : s.Governed
  clean : s.Clean
  holds : s.Holds

variable {link : Link} {s : DiscordSystem}
  {t : DiscordSystem} {queue : List SentCommand}

theorem awaited_congr (hun : t.unanswered = s.unanswered)
    (hpending : t.worker.pendingChannelSnapshotNonce = s.worker.pendingChannelSnapshotNonce)
    (g : SentCommand) : t.Awaited g ↔ s.Awaited g := by
  constructor <;> exact fun h => ⟨hun ▸ h.unanswered, h.command, hpending ▸ h.pending⟩

/-- The books of pending commands only concern what is unanswered. -/
theorem Requested.congr (h : s.Requested) (hun : t.unanswered = s.unanswered)
    (hpending : t.worker.pendingSubscriptions = s.worker.pendingSubscriptions)
    (hrequest : t.worker.pendingChannelSnapshotNonce = s.worker.pendingChannelSnapshotNonce) :
    t.Requested := by
  have hawaited := awaited_congr hun hrequest
  constructor
  · simp only [hawaited, hun]
    rw [hrequest]
    exact h.request
  · simp only [hawaited, hun]
    rw [hpending]
    exact h.subscribe

theorem Tracked.congr (h : s.Tracked) (hun : t.unanswered = s.unanswered)
    (hpending : t.worker.pendingSubscriptions = s.worker.pendingSubscriptions) : t.Tracked := by
  constructor
  · rw [hun, hpending]
    exact h.pending
  · rw [hun, hpending]
    exact h.unsubscribe
  · rw [hun]
    exact h.channel

/-! ### Before anything about channels -/

theorem Fresh.not_scoped (h : s.Fresh) {c : SentCommand} (hc : c ∈ s.unanswered)
    {command : SubscriptionCommand} {x : String} : ¬c.Scoped command x :=
  fun ⟨_, hcommand⟩ => (h.commands c hc).1 _ hcommand

theorem Fresh.not_leaving (h : s.Fresh) : ¬s.Leaving :=
  fun ⟨_, hc, _, hscoped⟩ => h.not_scoped hc hscoped

theorem Fresh.owned (h : s.Fresh) : s.Owned where
  owner := by
    refine ⟨"", fun c hc _ _ hscoped => absurd hscoped (h.not_scoped hc), ?_, ?_⟩
    · rw [h.held]
      simp
    · rw [h.subscribed]
      simp
  order := List.Pairwise.imp_of_mem
    (fun ha _ _ ⟨_, hscoped⟩ => absurd hscoped (h.not_scoped ha)) (pairwise_of_forall fun _ _ => trivial)
  leaving := fun _ => h.subscribed
  joining := fun _ ⟨_, hc, _, hscoped⟩ => absurd hscoped (h.not_scoped hc)
  settled := by
    intro x event
    rw [h.subscribed]
    constructor
    · intro hmem
      rcases mem_holdAll hmem with hheld | ⟨c, hc, hscoped⟩
      · rw [h.held] at hheld
        cases hheld
      · exact absurd hscoped (h.not_scoped (mem_unanswered_of_queue hc))
    · rintro ⟨hnone, -⟩
      cases hnone

/-- A session in which nothing about channels has happened satisfies the invariant. -/
theorem Invariant.of_fresh (hnumbered : s.Numbered link) (honce : s.ReadyOnce) (h : s.Fresh) :
    s.Invariant link where
  numbered := hnumbered
  once := honce
  fresh := fun _ => h
  tracked :=
    { pending := by
        intro nonce p hp
        rw [h.pending, Std.ExtTreeMap.getElem?_empty] at hp
        cases hp
      unsubscribe := fun c hc p hcommand => absurd hcommand ((h.commands c hc).1 p)
      channel := fun c hc p hcommand => absurd hcommand ((h.commands c hc).1 p) }
  requested :=
    { request := fun hn => absurd h.request hn
      subscribe := fun c hc p hcommand => absurd hcommand ((h.commands c hc).1 p) }
  owned := h.owned
  governed :=
    { channel := by
        intro selected hselected
        rw [h.selected] at hselected
        cases hselected
      subscribed := by
        intro selected hselected
        rw [h.selected] at hselected
        cases hselected
      unselected := fun _ => h.not_leaving
      first := fun _ _ => h.subscribed }
  clean := by
    intro g hg
    have hnone := hg.pending
    rw [h.request] at hnone
    cases hnone
  holds := by
    intro channel _
    exact
      { voice := fun m hm x event hbody => absurd hbody ((h.messages m hm).1 x event)
        held := by
          rw [h.held]
          simp
        queue := fun c hc _ _ hscoped => absurd hscoped (h.not_scoped (mem_unanswered_of_queue hc)) }

/-! ### Steps of the peer -/

/-- A message with which the commands that are unanswered stay the same leaves their books alone. -/
theorem Invariant.pushed (h : s.Invariant link) {m : Message}
    {readySent selectSubscribed : Bool} {held : List Subscription}
    (hnumbered : (s.pushed m queue).Numbered link)
    (honce : ReadyOnce { s.pushed m queue with readySent, selectSubscribed, held })
    (hun : unanswered { s.pushed m queue with readySent, selectSubscribed, held } = s.unanswered)
    (hqueue : ∀ c ∈ queue, c ∈ s.queue)
    (hheld : ∀ x ∈ held, x ∈ s.held ∨ ∃ c ∈ s.queue, c.Scoped .subscribe x.1)
    (hsettled : holdAll held queue = holdAll s.held s.queue)
    (hclean : ∀ g, s.Awaited g → g.seq ≤ m.served → ∀ x ∈ held,
      s.worker.selectedChannelId = some (some x.1))
    (hvoice : ∀ x event, m.body = .voice x event → m.served = s.served ∧ ∃ y ∈ s.held, y.1 = x)
    (hfresh : s.Fresh → held = [] ∧ selectSubscribed = false ∧
      (∀ x event, m.body ≠ .voice x event) ∧ ∀ x, m.body ≠ .selected x) :
    Invariant link { s.pushed m queue with readySent, selectSubscribed, held } := by
  have hleaving : Leaving { s.pushed m queue with readySent, selectSubscribed, held } ↔ s.Leaving := by
    unfold Leaving
    rw [hun]
  have hjoining : Joining { s.pushed m queue with readySent, selectSubscribed, held } ↔ s.Joining := by
    unfold Joining
    rw [hun]
  refine
    { numbered := { hnumbered with }
      once := honce
      fresh := fun hconnection => ?_
      tracked := h.tracked.congr hun rfl
      requested := h.requested.congr hun rfl rfl
      owned := { owner := ?_, order := ?_, leaving := ?_, joining := ?_, settled := ?_ }
      governed := { h.governed with unselected := ?_ }
      clean := fun g hg => ?_
      holds := fun channel hchannel => ?_ }
  · have hf := h.fresh hconnection
    obtain ⟨hnone, hselect, hmessage⟩ := hfresh hf
    refine { hf with
      commands := ?_
      held := hnone
      selectSubscribed := hselect
      messages := forall_mem_append.mpr ⟨hf.messages, forall_mem_singleton.mpr hmessage⟩ }
    rw [hun]
    exact hf.commands
  · obtain ⟨owner, hcommands, howner, hsubscribed⟩ := h.owned.owner
    rw [hun]
    refine ⟨owner, hcommands, fun x hx => ?_, hsubscribed⟩
    rcases hheld x hx with hx | ⟨c, hc, hscoped⟩
    · exact howner x hx
    · exact hcommands c (mem_unanswered_of_queue hc) _ _ hscoped
  · rw [hun]
    exact h.owned.order
  · rw [hleaving]
    exact h.owned.leaving
  · rw [hleaving, hjoining]
    exact h.owned.joining
  · intro x event
    change _ ∈ holdAll held queue ↔ _
    rw [hsettled]
    exact h.owned.settled x event
  · rw [hleaving]
    exact h.governed.unselected
  · rw [awaited_congr hun rfl] at hg
    have hbefore := h.clean g hg
    refine
      { voice := forall_mem_append.mpr ⟨hbefore.voice, forall_mem_singleton.mpr ?_⟩
        held := hclean g hg
        queue := fun c hc => hbefore.queue c (hqueue c hc) }
    intro hserved x event hbody
    obtain ⟨hsame, y, hy, rfl⟩ := hvoice x event hbody
    exact hbefore.held (hsame ▸ hserved) y hy
  · have hexclusive := h.holds channel hchannel
    refine
      { voice := forall_mem_append.mpr ⟨hexclusive.voice, forall_mem_singleton.mpr ?_⟩
        held := fun x hx => ?_
        queue := fun c hc => hexclusive.queue c (hqueue c hc) }
    · intro x event hbody
      obtain ⟨-, y, hy, rfl⟩ := hvoice x event hbody
      exact hexclusive.held y hy
    · rcases hheld x hx with hx | ⟨c, hc, hscoped⟩
      · exact hexclusive.held x hx
      · exact hexclusive.queue c hc _ _ hscoped

/-- A message that answers nothing. -/
theorem Invariant.send (h : s.Invariant link) (readySent : Bool) {body : MessageBody}
    (hbody : (Message.mk s.served body).answers = none)
    (honce : ({ s with readySent }.send body).ReadyOnce)
    (hfresh : s.Fresh → (∀ x event, body ≠ .voice x event) ∧ ∀ x, body ≠ .selected x)
    (hvoice : ∀ x event, body = .voice x event → ∃ y ∈ s.held, y.1 = x) :
    ({ s with readySent }.send body).Invariant link := by
  have hun : (s.pushed ⟨s.served, body⟩ s.queue).unanswered = s.unanswered := unanswered_send s hbody
  have hnumbered := h.numbered.pushed hun (Nat.le_refl _) (fun c hc => nomatch hbody.symm.trans hc)
    h.numbered.waiting h.numbered.served_le
  exact h.pushed hnumbered honce hun (fun _ => id) (fun _ => .inl) rfl
    (fun g hg => (h.clean g hg).held) (fun x event heq => ⟨rfl, hvoice x event heq⟩)
    fun hf => ⟨hf.held, hf.selectSubscribed, hfresh hf⟩

/-- A command waited for that the server has not reached is in its queue. -/
theorem Numbered.mem_queue (h : s.Numbered link) {c : SentCommand} (hc : c ∈ s.unanswered)
    (hserved : s.served < c.seq) : c ∈ s.queue := by
  rcases mem_unanswered.mp hc with ⟨m, hm, hanswers⟩ | hc
  · have htime := h.times m hm c hanswers
    have hreached := h.reached m hm
    omega
  · exact hc

/-- A settled subscription is of the selected channel while a request is waited for. -/
theorem Invariant.selected_of_settled (h : s.Invariant link) {g : SentCommand}
    (hg : s.Awaited g) {x : Subscription} (hx : x ∈ holdAll s.held s.queue) : s.worker.selectedChannelId = some (some x.1) := by
  have hsubscribed := ((h.owned.settled x.1 x.2).mp hx).1
  cases hselected : s.worker.selectedChannelId with
  | some selected => rw [h.governed.subscribed selected hselected x.1 hsubscribed]
  | none =>
    have hnone := h.governed.first hselected (by rw [hg.pending]; exact Option.some_ne_none _)
    rw [hsubscribed] at hnone
    cases hnone

/-- When the server reaches the request, it holds subscriptions of the selected channel only. -/
theorem Invariant.clean_serve (h : s.Invariant link) {sent : SentCommand}
    (hqueue : s.queue = sent :: queue) {g : SentCommand}
    (hg : s.Awaited g) (hreached : g.seq ≤ sent.seq) {x : Subscription}
    (hx : x ∈ sent.command.hold s.held) :
    s.worker.selectedChannelId = some (some x.1) := by
  have hclean := h.clean g hg
  have hsent : sent ∈ s.queue := by
    rw [hqueue]
    exact mem_cons_self
  by_cases hearlier : g.seq ≤ s.served
  · rcases RpcCommand.mem_hold hx with hx | hcommand
    · exact hclean.held hearlier x hx
    · have hlater := h.numbered.waiting sent hsent
      exact (hclean.queue sent hsent (by omega) _ _ ⟨x.2, hcommand⟩).2
  · -- The request itself is being processed; what follows it in the queue only subscribes.
    have hgqueue := h.numbered.mem_queue hg.unanswered (by omega)
    have hordered := h.numbered.ordered
    unfold unanswered at hordered
    rw [show s.session.socket.queue = _ from hqueue, pairwise_append,
      pairwise_cons] at hordered
    have hsame : g = sent := by
      rw [hqueue, mem_cons] at hgqueue
      rcases hgqueue with hsame | hafter
      · exact hsame
      · have := hordered.2.1.1 g hafter
        omega
    subst hsame
    rw [hg.command] at hx
    apply h.selected_of_settled hg
    apply mem_holdAll_of_mem hx
    intro c hc channelId hscoped
    rw [hqueue, mem_cons] at hc
    rcases hc with rfl | hc
    · obtain ⟨event, hcommand⟩ := hscoped
      rw [hg.command] at hcommand
      cases hcommand
    · have hcqueue : c ∈ s.queue := by
        rw [hqueue]
        exact mem_cons_of_mem _ hc
      have hkind := (hclean.queue c hcqueue (hordered.2.1.1 c hc) _ _ hscoped).1
      cases hkind

/-- Processing a command keeps the invariant. -/
theorem Invariant.serve (h : s.Invariant link) {sent : SentCommand}
    (hqueue : s.queue = sent :: queue) (reply : SelectedChannelReply)
    (honce : (s.serve sent queue reply).ReadyOnce) :
    (s.serve sent queue reply).Invariant link := by
  have hun : (s.pushed ⟨sent.seq, .reply sent reply⟩ queue).unanswered = s.unanswered :=
    unanswered_serve hqueue reply
  have hsent : sent ∈ s.queue := by
    rw [hqueue]
    exact mem_cons_self
  have hlater : ∀ c ∈ queue, sent.seq < c.seq := by
    have hordered := h.numbered.ordered
    unfold unanswered at hordered
    rw [show s.session.socket.queue = _ from hqueue, pairwise_append,
      pairwise_cons] at hordered
    exact hordered.2.1.1
  have hnumbered := h.numbered.pushed hun (Nat.le_of_lt (h.numbered.waiting sent hsent))
    (fun _ hc => Option.some.inj hc ▸ rfl) hlater
    (h.numbered.seq_mem (mem_unanswered_of_queue hsent)).2
  refine h.pushed hnumbered honce hun (fun c hc => ?_) (fun x hx => ?_) ?_
    (fun g hg hreached x hx => h.clean_serve hqueue hg hreached hx) nofun fun hf => ?_
  · rw [hqueue]
    exact mem_cons_of_mem _ hc
  · exact (RpcCommand.mem_hold hx).imp_right fun hcommand => ⟨sent, hsent, x.2, hcommand⟩
  · rw [hqueue]
    rfl
  · have hcommand := (hf.commands sent (mem_unanswered_of_queue hsent)).1
    refine ⟨?_, ?_, nofun, nofun⟩
    · rw [hf.held]
      unfold RpcCommand.hold
      split
      · next heq => exact absurd heq (hcommand _)
      · rfl
      · rfl
    · rw [hf.selectSubscribed, Bool.false_or, decide_eq_false_iff_not]
      exact hcommand _

end DiscordSystem

end OverCrow.Discord
