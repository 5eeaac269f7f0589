import OverCrow.Discord.Receiving

/-!
# Batches of subscriptions

`reconcile_channel_subscriptions` sends the five channel-scoped subscriptions of a channel as
one batch. This file says what a batch does to the books of pending commands and to the
ownership of the server's subscriptions.
-/

namespace OverCrow.Discord
open OverCrow.Base List

/-! ### Batches -/

/-- One command for each event of the channel. -/
def IsBatch (command : SubscriptionCommand) (channelId : String)
    (events : List VoiceSubscriptionEvent) (batch : List SentCommand) : Prop :=
  batch.map SentCommand.command =
    events.map fun event => .subscription ⟨command, event, some channelId⟩

section Batch

variable {command : SubscriptionCommand} {channelId : String}
  {events : List VoiceSubscriptionEvent} {batch : List SentCommand}
  {c : SentCommand}

section

variable (h : IsBatch command channelId events batch)

include h

theorem IsBatch.command_mem
    (hc : c ∈ batch) : ∃ event ∈ events, c.command = .subscription ⟨command, event, some channelId⟩ := by
  have hmem : c.command ∈ batch.map SentCommand.command := mem_map_of_mem hc
  rw [h, mem_map] at hmem
  obtain ⟨event, hevent, heq⟩ := hmem
  exact ⟨event, hevent, heq.symm⟩

theorem IsBatch.scoped (hc : c ∈ batch) : c.Scoped command channelId := by
  obtain ⟨event, -, heq⟩ := h.command_mem hc
  exact ⟨event, heq⟩

/-- A command of a batch is about the batch's channel and of its kind. -/
theorem IsBatch.of_scoped
    (hc : c ∈ batch) {command' : SubscriptionCommand} {x : String} (hscoped : c.Scoped command' x) :
    command' = command ∧ x = channelId := by
  obtain ⟨event, heq⟩ := h.scoped hc
  obtain ⟨event', heq'⟩ := hscoped
  rw [heq] at heq'
  cases heq'
  exact ⟨rfl, rfl⟩

theorem IsBatch.cons
    {event : VoiceSubscriptionEvent} (hc : c.command = .subscription ⟨command, event, some channelId⟩) :
    IsBatch command channelId (event :: events) (c :: batch) := by
  unfold IsBatch at h ⊢
  rw [map_cons, map_cons, h, hc]

/-- A batch decides about its own subscriptions and leaves the others alone. -/
theorem IsBatch.mem_holdAll (held : List Subscription) (x : String) (event : VoiceSubscriptionEvent) :
    (x, event) ∈ holdAll held batch ↔
      if channelId = x ∧ event ∈ events then command = .subscribe else (x, event) ∈ held := by
  induction events generalizing batch held with
  | nil =>
    rw [IsBatch, map_nil, map_eq_nil_iff] at h
    subst h
    simp [holdAll]
  | cons first events ih =>
    unfold IsBatch at h
    rw [map_cons, map_eq_cons_iff] at h
    obtain ⟨c, batch, rfl, hc, hrest⟩ := h
    have hhold : (x, event) ∈ c.command.hold held ↔
        if channelId = x ∧ event = first then command = .subscribe else (x, event) ∈ held := by
      cases command <;> unfold RpcCommand.hold <;> grind
    change (x, event) ∈ holdAll (c.command.hold held) batch ↔ _
    rw [ih hrest, hhold]
    grind

end

/-- The batch was sent, and only the books of pending commands were written to. -/
structure Session.Sends (s t : Session) (batch : List SentCommand) : Prop where
  queue : t.socket.queue = s.socket.queue ++ batch
  snapshot : t.worker.snapshot = s.worker.snapshot
  subscribed : t.worker.subscribedChannelId = s.worker.subscribedChannelId
  request : t.worker.pendingChannelSnapshotNonce = s.worker.pendingChannelSnapshotNonce
  selected : t.worker.selectedChannelId = s.worker.selectedChannelId

theorem Session.sends_afterSubscriptions (ctx : EventContext) (command : SubscriptionCommand)
    (channelId : String) (events : List VoiceSubscriptionEvent) (s : Session) :
    ∃ batch, IsBatch command channelId events batch ∧
      s.Sends (afterSubscriptions ctx command channelId events s) batch := by
  induction events generalizing s with
  | nil => exact ⟨[], rfl, (append_nil _).symm, rfl, rfl, rfl, rfl⟩
  | cons event events ih =>
    obtain ⟨batch, hbatch, hsends⟩ :=
      ih (s.afterSubscription ctx ⟨command, event, some channelId⟩)
    refine ⟨s.nextCommand (.subscription ⟨command, event, some channelId⟩) :: batch, ?_, ?_,
      hsends.snapshot, hsends.subscribed, hsends.request, hsends.selected⟩
    · exact hbatch.cons rfl
    · rw [append_cons]
      exact hsends.queue

/-- A batch that fails was sent in part. -/
theorem Session.exec_sendSubscriptions_error {ctx : EventContext} {s t : Session} {e : BackendError}
    (h : (sendSubscriptions ctx command channelId events).exec s = (.error e, t)) :
    ∃ sent batch, IsBatch command channelId sent batch ∧
      t.socket.queue = s.socket.queue ++ batch := by
  induction events generalizing s with
  | nil => cases h
  | cons event events ih =>
    rw [sendSubscriptions, Task.exec_bind_eq_error] at h
    rcases h with hfirst | ⟨_, m, hfirst, h⟩
    · exact ⟨[], [], rfl, by rw [exec_sendSubscription_error hfirst, append_nil]⟩
    · obtain ⟨-, rfl⟩ := exec_sendSubscription_eq_ok.mp hfirst
      obtain ⟨sent, batch, hbatch, hqueue⟩ := ih h
      refine ⟨event :: sent,
        s.nextCommand (.subscription ⟨command, event, some channelId⟩) :: batch, ?_, ?_⟩
      · exact hbatch.cons rfl
      · rw [append_cons]
        exact hqueue

end Batch

/-- What `reconcile_channel_subscriptions` sends, even when it fails: unsubscribes, or subscribes
when no unsubscribe is pending. -/
theorem Session.exec_reconcile_sent {ctx : EventContext} {s t : Session}
    {result : Except BackendError Unit} (h : (reconcileChannelSubscriptions ctx).exec s = (result, t)) :
    ∃ batch, t.socket.queue = s.socket.queue ++ batch ∧
      ((∀ c ∈ batch, ∀ x, ¬c.Scoped .subscribe x) ∨
        s.worker.unsubscribePending = false ∧ ∀ c ∈ batch, ∀ x, ¬c.Scoped .unsubscribe x) := by
  have hunsubscribes {previous events batch} (hbatch : IsBatch .unsubscribe previous events batch) :
      ∀ c ∈ batch, ∀ x, ¬c.Scoped .subscribe x :=
    fun c hc x hscoped => nomatch (hbatch.of_scoped hc hscoped).1
  have hsubscribes {next events batch} (hbatch : IsBatch .subscribe next events batch) :
      ∀ c ∈ batch, ∀ x, ¬c.Scoped .unsubscribe x :=
    fun c hc x hscoped => nomatch (hbatch.of_scoped hc hscoped).1
  cases result with
  | ok _ =>
    rcases exec_reconcile_cases h with
      ⟨rfl, -⟩ | ⟨previous, -, -, -, -, rfl⟩ | ⟨next, hpending, -, -, -, rfl⟩
    · exact ⟨[], (append_nil _).symm, .inl nofun⟩
    · obtain ⟨batch, hbatch, hsends⟩ := (s.setSubscribed none).sends_afterSubscriptions ctx
        .unsubscribe previous VoiceSubscriptionEvent.channelScoped
      exact ⟨batch, hsends.queue, .inl (hunsubscribes hbatch)⟩
    · obtain ⟨batch, hbatch, hsends⟩ := s.sends_afterSubscriptions ctx .subscribe next
        VoiceSubscriptionEvent.channelScoped
      exact ⟨batch, hsends.queue, .inr ⟨hpending, hsubscribes hbatch⟩⟩
  | error e =>
    unfold reconcileChannelSubscriptions at h
    simp only [Task.exec_bind, Task.exec_get] at h
    split at h
    · cases h
    · next hpending =>
      split at h
      · cases h
      · split at h
        · obtain ⟨sent, batch, hbatch, hqueue⟩ := exec_sendSubscriptions_error h
          exact ⟨batch, hqueue, .inl (hunsubscribes hbatch)⟩
        · cases h
        · rcases Task.exec_bind_eq_error.mp h with hsend | ⟨_, m, -, hmodify⟩
          · obtain ⟨sent, batch, hbatch, hqueue⟩ := exec_sendSubscriptions_error hsend
            exact ⟨batch, hqueue, .inr ⟨by simpa using hpending, hsubscribes hbatch⟩⟩
          · cases hmodify

theorem WorkerState.unsubscribePending_iff {w : WorkerState} :
    w.unsubscribePending = true ↔ ∃ (nonce : String) (p : PendingSubscription),
      w.pendingSubscriptions[nonce]? = some p ∧ p.command = .unsubscribe := by
  unfold WorkerState.unsubscribePending
  rw [any_eq_true]
  constructor
  · rintro ⟨⟨nonce, p⟩, hmem, hp⟩
    exact ⟨nonce, p, Std.ExtTreeMap.mem_toList_iff_getElem?_eq_some.mp hmem, eq_of_beq hp⟩
  · rintro ⟨nonce, p, hmem, hp⟩
    exact ⟨(nonce, p), Std.ExtTreeMap.mem_toList_iff_getElem?_eq_some.mpr hmem, beq_iff_eq.mpr hp⟩

namespace DiscordSystem

variable {link : Link} {s : DiscordSystem}
  {batch : List SentCommand} {t : Session} {c : SentCommand}

theorem unanswered_append (hqueue : t.socket.queue = s.queue ++ batch) :
    unanswered { s with session := t } = s.unanswered ++ batch := by
  unfold unanswered
  rw [hqueue, append_assoc]

theorem mem_unanswered_append {d : SentCommand} (hqueue : t.socket.queue = s.queue ++ [c]) :
    d ∈ unanswered { s with session := t } ↔ d ∈ s.unanswered ∨ d = c := by
  rw [unanswered_append hqueue, mem_append, mem_singleton]

/-! ### The books of pending commands -/

section

variable (h : s.Numbered link) (hb : s.session.socket.budget ≠ 0) (ctx : EventContext)
  (p : PendingSubscription)

include h hb ctx p

theorem Numbered.afterSubscription :
    Numbered link { s with session := s.session.afterSubscription ctx p } :=
  (h.afterSend hb (.subscription p)).withSession rfl rfl

/-- The table after a subscription was sent. -/
theorem getElem?_afterSubscription (hc : c ∈ s.unanswered) :
    (s.session.afterSubscription ctx p).worker.pendingSubscriptions[c.nonce]? =
      s.worker.pendingSubscriptions[c.nonce]? := by
  have hne := h.nonce_fresh hb (.subscription p) hc
  change (s.worker.pendingSubscriptions.insert _ p)[c.nonce]? = _
  rw [Std.ExtTreeMap.getElem?_insert, if_neg]
  rw [Std.LawfulEqCmp.compare_eq_iff_eq]
  exact fun heq => hne heq.symm

end

theorem getElem?_afterSubscription_self (s : Session) (ctx : EventContext) (p : PendingSubscription) :
    (s.afterSubscription ctx p).worker.pendingSubscriptions[
      (s.nextCommand (.subscription p)).nonce]? = some p :=
  Std.ExtTreeMap.getElem?_insert_self

/-- One more command, for which the table has its own entry. -/
theorem Tracked.append (h : s.Tracked) (hqueue : t.socket.queue = s.queue ++ [c])
    (hpending : ∀ (nonce : String) p, t.worker.pendingSubscriptions[nonce]? = some p →
      s.worker.pendingSubscriptions[nonce]? = some p ∨ c.nonce = nonce ∧ c.command = .subscription p)
    (hkept : ∀ d ∈ s.unanswered, t.worker.pendingSubscriptions[d.nonce]? =
      s.worker.pendingSubscriptions[d.nonce]?)
    (hnew : ∀ p, c.command = .subscription p → p.command = .unsubscribe →
      t.worker.pendingSubscriptions[c.nonce]? = some p ∧ p.channelId ≠ none) :
    Tracked { s with session := t } := by
  constructor
  · intro nonce p hp
    rcases hpending nonce p hp with hp | hc
    · obtain ⟨d, hd, hcommand⟩ := h.pending nonce p hp
      exact ⟨d, (mem_unanswered_append hqueue).mpr (.inl hd), hcommand⟩
    · exact ⟨c, (mem_unanswered_append hqueue).mpr (.inr rfl), hc⟩
  · intro d hd p hcommand hp
    rcases (mem_unanswered_append hqueue).mp hd with hd | rfl
    · exact (hkept d hd).trans (h.unsubscribe d hd p hcommand hp)
    · exact (hnew p hcommand hp).1
  · intro d hd p hcommand hp
    rcases (mem_unanswered_append hqueue).mp hd with hd | rfl
    · exact h.channel d hd p hcommand hp
    · exact (hnew p hcommand hp).2

theorem Tracked.afterSubscription (h : s.Tracked) (hn : s.Numbered link)
    (hb : s.session.socket.budget ≠ 0) (ctx : EventContext) (p : PendingSubscription)
    (hp : p.command = .unsubscribe → p.channelId ≠ none) :
    Tracked { s with session := s.session.afterSubscription ctx p } := by
  refine h.append rfl (fun nonce p' hp' => ?_) (fun d => getElem?_afterSubscription hn hb ctx p) ?_
  · change (s.worker.pendingSubscriptions.insert _ p)[nonce]? = some p' at hp'
    rw [Std.ExtTreeMap.getElem?_insert] at hp'
    split at hp'
    · next heq =>
      cases hp'
      exact .inr ⟨Std.LawfulEqCmp.compare_eq_iff_eq.mp heq, rfl⟩
    · exact .inl hp'
  · intro p' hcommand hp'
    cases hcommand
    exact ⟨getElem?_afterSubscription_self _ _ _, hp hp'⟩

theorem Awaited.append {g : SentCommand} (h : s.Awaited g) (hqueue : t.socket.queue = s.queue ++ batch)
    (hrequest : t.worker.pendingChannelSnapshotNonce = s.worker.pendingChannelSnapshotNonce) :
    Awaited { s with session := t } g := by
  refine ⟨?_, h.command, hrequest.trans h.pending⟩
  rw [unanswered_append hqueue]
  exact mem_append_left _ h.unanswered

theorem Requested.afterSubscription (h : s.Requested) (hn : s.Numbered link)
    (hb : s.session.socket.budget ≠ 0) (ctx : EventContext) (p : PendingSubscription) :
    Requested { s with session := s.session.afterSubscription ctx p } := by
  constructor
  · intro hwaiting
    refine (h.request hwaiting).imp ?_ ?_
    · rintro ⟨g, hg, hlast⟩
      refine ⟨g, hg.append rfl rfl, fun d hd hcommand => ?_⟩
      rcases (mem_unanswered_append rfl).mp hd with hd | rfl
      · exact hlast d hd hcommand
      · cases hcommand
    · intro hnone d hd
      rcases (mem_unanswered_append rfl).mp hd with hd | rfl
      · exact hnone d hd
      · exact nofun
  · intro c hc p' hcommand
    rcases (mem_unanswered_append rfl).mp hc with hc | rfl
    · exact (h.subscribe c hc p' hcommand).imp (getElem?_afterSubscription hn hb ctx p hc).trans
        fun ⟨g, hg, hlt⟩ => ⟨g, hg.append rfl rfl, hlt⟩
    · cases hcommand
      exact .inl (getElem?_afterSubscription_self _ _ _)

/-- What every subscription of a batch preserves, the batch preserves. -/
theorem Numbered.afterSubscriptions {P : DiscordSystem → Prop} {ctx : EventContext}
    {command : SubscriptionCommand} {channelId : String} {events : List VoiceSubscriptionEvent}
    (h : s.Numbered link) (hb : events.length ≤ s.session.socket.budget)
    (hstep : ∀ s event, s.Numbered link → s.session.socket.budget ≠ 0 → P s →
      P { s with session := s.session.afterSubscription ctx ⟨command, event, some channelId⟩ })
    (hP : P s) :
    Numbered link
        { s with session := s.session.afterSubscriptions ctx command channelId events } ∧
      P { s with session := s.session.afterSubscriptions ctx command channelId events } := by
  induction events generalizing s with
  | nil => exact ⟨h, hP⟩
  | cons event events ih =>
    rw [length_cons] at hb
    have hb' : s.session.socket.budget ≠ 0 := by omega
    refine ih (h.afterSubscription hb' ctx _) ?_ (hstep s event h hb' hP)
    change events.length ≤ s.session.socket.budget - 1
    omega

/-- An unsubscribe is in the table exactly while one is unanswered. -/
theorem Tracked.leaving_iff (h : s.Tracked) : s.Leaving ↔ s.worker.unsubscribePending = true := by
  rw [WorkerState.unsubscribePending_iff]
  constructor
  · rintro ⟨c, hc, x, event, hcommand⟩
    exact ⟨c.nonce, _, h.unsubscribe c hc _ hcommand rfl, rfl⟩
  · rintro ⟨nonce, ⟨command, event, channelId⟩, hp, rfl⟩
    obtain ⟨c, hc, -, hcommand⟩ := h.pending nonce _ hp
    cases channelId with
    | none => exact absurd rfl (h.channel c hc _ hcommand rfl)
    | some x => exact ⟨c, hc, x, event, hcommand⟩

/-! ### Order -/

/-- Appending commands that subscribe to nothing, or that leave nothing when nothing is left. -/
theorem Ordered.append (h : s.Ordered) (hqueue : t.socket.queue = s.queue ++ batch)
    (hbatch : (∀ c ∈ batch, ∀ x, ¬c.Scoped .subscribe x) ∨
      ¬s.Leaving ∧ ∀ c ∈ batch, ∀ x, ¬c.Scoped .unsubscribe x) : Ordered { s with session := t } := by
  unfold Ordered
  rw [unanswered_append hqueue]
  rcases hbatch with hnone | ⟨hleaving, hnone⟩
  · refine pairwise_append.mpr ⟨h, ?_, fun a _ b hb _ ⟨x, hscoped⟩ => hnone b hb x hscoped⟩
    exact pairwise_iff_forall_sublist.mpr fun hsub _ ⟨x, hscoped⟩ =>
      hnone _ (hsub.subset (mem_cons_of_mem _ mem_cons_self)) x hscoped
  · refine pairwise_append.mpr ⟨h, ?_, fun a ha b _ ⟨x, hscoped⟩ =>
      absurd ⟨a, ha, x, hscoped⟩ hleaving⟩
    exact pairwise_iff_forall_sublist.mpr fun hsub ⟨x, hscoped⟩ =>
      absurd hscoped (hnone _ (hsub.subset mem_cons_self) x)

theorem Ordered.withSession (h : s.Ordered) (hqueue : t.socket.queue = s.queue) :
    Ordered { s with session := t } := by
  unfold Ordered
  rw [unanswered_withSession hqueue]
  exact h

theorem Tracked.ordered_reconcile (h : s.Tracked) (ho : s.Ordered) {ctx : EventContext}
    {result : Except BackendError Unit}
    (hexec : (Session.reconcileChannelSubscriptions ctx).exec s.session = (result, t)) :
    Ordered { s with session := t } := by
  obtain ⟨batch, hqueue, hbatch⟩ := Session.exec_reconcile_sent hexec
  refine ho.append hqueue (hbatch.imp_right fun ⟨hpending, hnone⟩ => ⟨?_, hnone⟩)
  rw [h.leaving_iff, hpending]
  exact Bool.false_ne_true

/-! ### Ownership -/

section Owned

variable {t : Session} {batch : List SentCommand} {x : String}

/-- With no subscribed channel and nothing to leave, the server is about to hold nothing and
nothing about channels is under way. -/
theorem Owned.idle (h : s.Owned) (hnone : s.worker.subscribedChannelId = none) (hleaving : ¬s.Leaving) :
    (∀ c ∈ s.unanswered, ∀ command x, ¬c.Scoped command x) ∧ s.held = [] ∧
      holdAll s.held s.queue = [] := by
  have hunscoped : ∀ c ∈ s.unanswered, ∀ command x, ¬c.Scoped command x := by
    intro c hc command x hscoped
    cases command with
    | subscribe => exact hleaving (h.joining hnone ⟨c, hc, x, hscoped⟩)
    | unsubscribe => exact hleaving ⟨c, hc, x, hscoped⟩
  have hholdAll : holdAll s.held s.queue = [] := by
    apply eq_nil_iff_forall_not_mem.mpr
    intro y hy
    have hsome := ((h.settled y.1 y.2).mp hy).1
    rw [hnone] at hsome
    cases hsome
  refine ⟨hunscoped, ?_, hholdAll⟩
  apply eq_nil_iff_forall_not_mem.mpr
  intro y hy
  have hlater : y ∈ holdAll s.held s.queue :=
    mem_holdAll_of_mem hy fun c hc => hunscoped c (mem_unanswered_of_queue hc) .unsubscribe
  rw [hholdAll] at hlater
  cases hlater

/-- Subscribing to a channel when there is none to leave. -/
theorem Owned.subscribe (h : s.Owned) (hnone : s.worker.subscribedChannelId = none)
    (hleaving : ¬s.Leaving) (hqueue : t.socket.queue = s.queue ++ batch)
    (hbatch : IsBatch .subscribe x VoiceSubscriptionEvent.channelScoped batch)
    (hsubscribed : t.worker.subscribedChannelId = some x) : Owned { s with session := t } := by
  have hun := unanswered_append hqueue
  obtain ⟨hunscoped, hheld, hholdAll⟩ := h.idle hnone hleaving
  have hscoped : ∀ c ∈ s.unanswered ++ batch, ∀ command y, c.Scoped command y →
      command = .subscribe ∧ y = x := by
    intro c hc command y hscoped
    rcases mem_append.mp hc with hc | hc
    · exact absurd hscoped (hunscoped c hc command y)
    · exact hbatch.of_scoped hc hscoped
  have hstays : ¬Leaving { s with session := t } := by
    rintro ⟨c, hc, y, hleaves⟩
    rw [hun] at hc
    cases (hscoped c hc _ y hleaves).1
  constructor
  · rw [hun]
    refine ⟨x, fun c hc command y hc' => (hscoped c hc command y hc').2, ?_, ?_⟩
    · rw [hheld]
      exact nofun
    · intro y hy
      rw [hsubscribed] at hy
      cases hy
      rfl
  · refine Ordered.append h.order hqueue (.inr ⟨hleaving, fun c hc y hleaves => ?_⟩)
    cases (hbatch.of_scoped hc hleaves).1
  · exact fun hleaves => absurd hleaves hstays
  · intro hsome
    rw [hsubscribed] at hsome
    cases hsome
  · intro y event
    change (y, event) ∈ holdAll s.held t.socket.queue ↔ t.worker.subscribedChannelId = some y ∧ _
    rw [hqueue, holdAll_append, hholdAll, hbatch.mem_holdAll, hsubscribed, Option.some.injEq]
    simp

/-- Giving up the subscribed channel. -/
theorem Owned.unsubscribe (h : s.Owned) (hsome : s.worker.subscribedChannelId = some x)
    (hqueue : t.socket.queue = s.queue ++ batch)
    (hbatch : IsBatch .unsubscribe x VoiceSubscriptionEvent.channelScoped batch)
    (hsubscribed : t.worker.subscribedChannelId = none) : Owned { s with session := t } := by
  have hun := unanswered_append hqueue
  obtain ⟨owner, hcommands, hheld, howner⟩ := h.owner
  have hleaving : Leaving { s with session := t } := by
    cases batch with
    | nil => cases hbatch
    | cons c batch =>
      refine ⟨c, ?_, x, hbatch.scoped mem_cons_self⟩
      rw [hun]
      exact mem_append_right _ mem_cons_self
  constructor
  · rw [hun]
    refine ⟨owner, ?_, hheld, ?_⟩
    · intro c hc command y hscoped
      rcases mem_append.mp hc with hc | hc
      · exact hcommands c hc command y hscoped
      · rw [(hbatch.of_scoped hc hscoped).2]
        exact howner x hsome
    · intro y hy
      rw [hsubscribed] at hy
      cases hy
  · refine Ordered.append h.order hqueue (.inl fun c hc y hjoins => ?_)
    cases (hbatch.of_scoped hc hjoins).1
  · exact fun _ => hsubscribed
  · exact fun _ _ => hleaving
  · intro y event
    change (y, event) ∈ holdAll s.held t.socket.queue ↔ t.worker.subscribedChannelId = some y ∧ _
    rw [hqueue, holdAll_append, hbatch.mem_holdAll, h.settled, hsome, hsubscribed]
    simp

/-- A command that has nothing to do with a channel leaves none. -/
theorem leaving_unscoped {c : SentCommand} (hqueue : t.socket.queue = s.queue ++ [c])
    (hscoped : ∀ command x, ¬c.Scoped command x) : Leaving { s with session := t } ↔ s.Leaving := by
  constructor
  · rintro ⟨d, hd, y, hleaves⟩
    rcases (mem_unanswered_append hqueue).mp hd with hd | rfl
    · exact ⟨d, hd, y, hleaves⟩
    · exact absurd hleaves (hscoped _ y)
  · rintro ⟨d, hd, hleaves⟩
    exact ⟨d, (mem_unanswered_append hqueue).mpr (.inl hd), hleaves⟩

theorem Owned.unscoped (h : s.Owned) {c : SentCommand} (hqueue : t.socket.queue = s.queue ++ [c])
    (hscoped : ∀ command x, ¬c.Scoped command x) (hhold : ∀ held, c.command.hold held = held)
    (hsubscribed : t.worker.subscribedChannelId = s.worker.subscribedChannelId) :
    Owned { s with session := t } := by
  have hleaving := leaving_unscoped hqueue hscoped
  have hmem {d command y} (hd : d ∈ unanswered { s with session := t }) (hd' : d.Scoped command y) :
      d ∈ s.unanswered := by
    rcases (mem_unanswered_append hqueue).mp hd with hd | rfl
    · exact hd
    · exact absurd hd' (hscoped command y)
  obtain ⟨owner, hcommands, howner⟩ := h.owner
  constructor
  · rw [hsubscribed]
    exact ⟨owner, fun d hd command y hd' => hcommands d (hmem hd hd') command y hd', howner⟩
  · refine Ordered.append h.order hqueue (.inl fun d hd y => ?_)
    rw [mem_singleton.mp hd]
    exact hscoped _ y
  · rw [hleaving, hsubscribed]
    exact h.leaving
  · rw [hleaving, hsubscribed]
    rintro hnone ⟨d, hd, y, hjoins⟩
    exact h.joining hnone ⟨d, hmem hd hjoins, y, hjoins⟩
  · intro y event
    change (y, event) ∈ holdAll s.held t.socket.queue ↔ t.worker.subscribedChannelId = some y ∧ _
    rw [hqueue, holdAll_append, hsubscribed, ← h.settled]
    change _ ∈ c.command.hold _ ↔ _
    rw [hhold]

end Owned

/-- The subscribed channel is the held one. -/
theorem Owned.subscribed_eq (h : s.Owned) (hholds : s.Holds) {x : String} {channel : VoiceChannel}
    (hsubscribed : s.worker.subscribedChannelId = some x)
    (hchannel : s.worker.snapshot.channel = some channel) : x = channel.id := by
  have hsettled : (x, .voiceStateCreate) ∈ holdAll s.held s.queue :=
    (h.settled x _).mpr ⟨hsubscribed, by decide⟩
  have hexclusive := hholds channel hchannel
  rcases mem_holdAll hsettled with hheld | ⟨c, hc, hscoped⟩
  · exact hexclusive.held _ hheld
  · exact hexclusive.queue c hc _ _ hscoped

end DiscordSystem

end OverCrow.Discord
