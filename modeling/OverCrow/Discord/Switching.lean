import OverCrow.Discord.Batches

/-!
# Selecting a channel

`ChannelSelected` keeps the invariant. The selection ends in
`reconcile_channel_subscriptions`, which sends at most one batch, and then asks for the
selected channel.
-/

namespace OverCrow.Discord
open OverCrow.Base Option Session

namespace DiscordSystem

variable {link : Link} {s : DiscordSystem}

/-- What is sent about the channel itself leaves it exclusive. -/
theorem Exclusive.append {x : String} (h : s.Exclusive x) {t : Session} {batch : List SentCommand}
    (hqueue : t.socket.queue = s.queue ++ batch)
    (hbatch : ∀ c ∈ batch, ∀ command y, c.Scoped command y → y = x) :
    Exclusive { s with session := t } x := by
  refine { h with queue := fun c hc => ?_ }
  change c ∈ t.socket.queue at hc
  rw [hqueue] at hc
  rcases List.mem_append.mp hc with hc | hc
  · exact h.queue c hc
  · exact hbatch c hc

/-! ### Asking for the selected channel -/

/-- A request makes everything sent before it older than what it will be answered with, so the
books need not have been in order before. -/
theorem Invariant.request (hn : s.Numbered link) (hb : s.session.socket.budget ≠ 0)
    (hready : s.worker.snapshot.connection = .ready) (honce : s.ReadyOnce) (ht : s.Tracked)
    (ho : s.Owned) (hg : s.Governed)
    (hfirst : s.worker.selectedChannelId = none → s.worker.subscribedChannelId = none)
    (hh : s.Holds) (ctx : EventContext) :
    Invariant link { s with session := s.session.afterRequest ctx } := by
  have hqueue : (s.session.afterRequest ctx).socket.queue =
    s.queue ++ [s.session.nextCommand .getSelectedVoiceChannel] := rfl
  have hscoped : ∀ command x,
      ¬(s.session.nextCommand .getSelectedVoiceChannel).Scoped command x := nofun
  have hearlier : ∀ c ∈ s.unanswered,
      c.seq < (s.session.nextCommand .getSelectedVoiceChannel).seq :=
    fun c hc => Nat.lt_succ_of_le (hn.seq_mem hc).2
  have hn' : Numbered link { s with session := s.session.afterRequest ctx } :=
    (hn.afterSend hb .getSelectedVoiceChannel).withSession rfl rfl
  have hawaited : Awaited { s with session := s.session.afterRequest ctx }
      (s.session.nextCommand .getSelectedVoiceChannel) :=
    ⟨(mem_unanswered_append hqueue).mpr (.inr rfl), rfl, rfl⟩
  refine
    { numbered := hn'
      once := honce
      fresh := fun hconnection => absurd hready hconnection
      tracked := ht.append hqueue (fun _ _ => .inl) (fun _ _ => rfl) nofun
      requested := ?_
      owned := ho.unscoped hqueue hscoped (fun _ => rfl) rfl
      governed := ?_
      clean := ?_
      holds := ?_ }
  · constructor
    · refine fun _ => .inl ⟨_, hawaited, ?_⟩
      intro d hd _
      rcases (mem_unanswered_append hqueue).mp hd with hd | rfl
      · exact Nat.le_of_lt (hearlier d hd)
      · exact Nat.le_refl _
    · intro c hc p hcommand
      rcases (mem_unanswered_append hqueue).mp hc with hc | rfl
      · exact .inr ⟨_, hawaited, hearlier c hc⟩
      · cases hcommand
  · refine { hg with unselected := ?_, first := fun hnone _ => hfirst hnone }
    rw [leaving_unscoped hqueue hscoped]
    exact hg.unselected
  · -- Nothing the client has sent or received yet comes after the request.
    intro g hg'
    have hsame : g = s.session.nextCommand .getSelectedVoiceChannel :=
      hn'.eq_of_nonce hg'.unanswered hawaited.unanswered
        (some.inj (hg'.pending.symm.trans hawaited.pending))
    subst hsame
    have hserved : s.served < (s.session.nextCommand .getSelectedVoiceChannel).seq :=
      Nat.lt_succ_of_le hn.served_le
    constructor
    · intro m hm hlate
      exact absurd (Nat.lt_of_le_of_lt (hn.reached m hm) hserved) (Nat.not_lt.mpr hlate)
    · exact fun hlate => absurd hserved (Nat.not_lt.mpr hlate)
    · intro c hc hlate
      have hle := (hn'.seq_mem (mem_unanswered_of_queue hc)).2
      exact absurd hlate (Nat.not_lt.mpr hle)
  · intro channel hchannel
    refine (hh channel hchannel).append hqueue fun c hc command x hc' => ?_
    rw [List.mem_singleton.mp hc] at hc'
    exact absurd hc' (hscoped command x)

/-! ### Subscribing to the held channel -/

section

variable (h : s.Invariant link) (hready : s.worker.snapshot.connection = .ready)

include h hready

/-- The subscriptions of the held channel were sent, and it is noted as subscribed. -/
theorem Invariant.joined (hleaving : ¬s.Leaving) (hnone : s.worker.subscribedChannelId = none) {x : String}
    (hchannel : s.worker.snapshot.channel.map VoiceChannel.id = some x)
    (hfirst : s.worker.selectedChannelId = none → s.worker.pendingChannelSnapshotNonce = none)
    {t : Session} {batch : List SentCommand} (hsends : s.session.Sends t batch)
    (hbatch : IsBatch .subscribe x VoiceSubscriptionEvent.channelScoped batch)
    (hnumbered : Numbered link { s with session := t })
    (htracked : Tracked { s with session := t }) (hrequested : Requested { s with session := t }) :
    Invariant link { s with session := t.setSubscribed (some x) } := by
  have howned : Owned { s with session := t.setSubscribed (some x) } :=
    h.owned.subscribe hnone hleaving hsends.queue hbatch rfl
  obtain ⟨channel, hsome, hid⟩ := map_eq_some_iff.mp hchannel
  have hgoverned : ∀ selected, s.worker.selectedChannelId = some selected → selected = some x := by
    intro selected hsel
    rw [h.governed.channel selected hsel channel hsome, hid]
  obtain ⟨⟨_, _, _, _, _, _, _, _, _, _, _, _, _, _⟩, ⟨_, _, _, _⟩, _⟩ := t
  obtain ⟨hqueue, hsnapshot, -, hrequest, hselected⟩ := hsends
  cases hqueue
  cases hsnapshot
  cases hrequest
  cases hselected
  refine
    { numbered := hnumbered.withSession rfl rfl
      once := h.once
      fresh := fun hconnection => absurd hready hconnection
      tracked := { htracked with }
      requested := hrequested.congr rfl rfl rfl
      owned := howned
      governed := { h.governed with subscribed := ?_, unselected := ?_, first := ?_ }
      clean := ?_
      holds := ?_ }
  · intro selected hsel y hy
    cases hy
    exact hgoverned selected hsel
  · intro _ hleaves
    cases howned.leaving hleaves
  · exact fun hsel hwaiting => absurd (hfirst hsel) hwaiting
  · intro g hg
    have hgs : s.Awaited g := by
      refine ⟨?_, hg.command, hg.pending⟩
      have hmem := hg.unanswered
      rw [unanswered_append rfl] at hmem
      rcases List.mem_append.mp hmem with hmem | hmem
      · exact hmem
      · obtain ⟨event, -, hcommand⟩ := hbatch.command_mem hmem
        cases hg.command.symm.trans hcommand
    have hclean := h.clean g hgs
    have hsel : s.worker.selectedChannelId = some (some x) := by
      cases hsel : s.worker.selectedChannelId with
      | some selected => rw [hgoverned selected hsel]
      | none => cases hgs.pending.symm.trans (hfirst hsel)
    refine { hclean with queue := fun c hc hlate command y hscoped => ?_ }
    rcases List.mem_append.mp hc with hc | hc
    · exact hclean.queue c hc hlate command y hscoped
    · obtain ⟨rfl, rfl⟩ := hbatch.of_scoped hc hscoped
      exact ⟨rfl, hsel⟩
  · intro channel' hchannel'
    cases hsome.symm.trans hchannel'
    refine (h.holds channel hsome).append rfl fun c hc command y hscoped => ?_
    rw [(hbatch.of_scoped hc hscoped).2, ← hid]

theorem Invariant.join (hleaving : ¬s.Leaving) (hnone : s.worker.subscribedChannelId = none) {x : String}
    (hchannel : s.worker.snapshot.channel.map VoiceChannel.id = some x)
    (hfirst : s.worker.selectedChannelId = none → s.worker.pendingChannelSnapshotNonce = none)
    (hb : VoiceSubscriptionEvent.channelScoped.length ≤ s.session.socket.budget) (ctx : EventContext) :
    Invariant link { s with session := (s.session.afterSubscriptions ctx .subscribe x
      VoiceSubscriptionEvent.channelScoped).setSubscribed (some x) } := by
  obtain ⟨batch, hbatch, hsends⟩ :=
    s.session.sends_afterSubscriptions ctx .subscribe x VoiceSubscriptionEvent.channelScoped
  obtain ⟨hnumbered, htracked, hrequested⟩ :=
    h.numbered.afterSubscriptions (P := fun s => s.Tracked ∧ s.Requested) hb
      (fun _ _ hn hb h => ⟨h.1.afterSubscription hn hb ctx ⟨.subscribe, _, some x⟩ nofun,
        h.2.afterSubscription hn hb ctx ⟨.subscribe, _, some x⟩⟩)
      ⟨h.tracked, h.requested⟩
  exact h.joined hready hleaving hnone hchannel hfirst hsends hbatch hnumbered htracked hrequested

/-- Reconciling when the subscribed channel, if any, is the held one. -/
theorem Invariant.reconcile
    (hfirst : s.worker.selectedChannelId = none → s.worker.pendingChannelSnapshotNonce = none)
    (hkept : ∀ x, s.worker.subscribedChannelId = some x →
      s.worker.snapshot.channel.map VoiceChannel.id = some x) {ctx : EventContext} {t : Session}
    (hexec : (reconcileChannelSubscriptions ctx).exec s.session = (.ok (), t)) :
    Invariant link { s with session := t } := by
  rcases exec_reconcile_cases hexec with
    ⟨rfl, -⟩ | ⟨previous, -, hprevious, hnext, -⟩ | ⟨next, hpending, hnone, hnext, hb, rfl⟩
  · exact h
  · exact absurd (hkept previous hprevious) hnext
  · refine h.join hready ?_ hnone hnext hfirst hb ctx
    rw [h.tracked.leaving_iff]
    exact fun hleaves => Bool.false_ne_true (hpending.symm.trans hleaves)

end

/-! ### `ChannelSelected` -/

theorem exec_handleChannelSelected_eq_ok {ctx : EventContext} {channelId : Option String}
    {s t : Session} (h : (handleChannelSelected ctx channelId).exec s = (.ok (), t)) :
    ∃ r, (reconcileChannelSubscriptions ctx).exec
        { s with worker := selectChannel channelId s.worker } = (.ok (), r) ∧
      r.socket.budget ≠ 0 ∧ t = r.afterRequest ctx := by
  unfold handleChannelSelected at h
  rw [exec_modifyWorker_bind, Task.exec_bind_eq_ok] at h
  obtain ⟨_, r, hreconcile, hrequest⟩ := h
  rw [Task.exec_mapError_eq_ok] at hreconcile hrequest
  obtain ⟨hb, rfl⟩ := exec_requestSelectedChannel_eq_ok.mp hrequest
  exact ⟨r, hreconcile, hb, rfl⟩

section Select

variable {w : WorkerState} {channelId : Option String}

theorem selectChannel_channel {channel : VoiceChannel}
    (h : (selectChannel channelId w).snapshot.channel = some channel) :
    w.snapshot.channel = some channel ∧ channelId = some channel.id := by
  unfold selectChannel at h
  split at h
  · cases h
  · next hsame =>
    rw [ne_eq, not_not] at hsame
    rw [hsame]
    exact ⟨h, congrArg (Option.map VoiceChannel.id) h⟩

/-- A selection strikes nothing but subscribes from the table. -/
theorem selectChannel_pending {nonce : String} {p : PendingSubscription} :
    ((selectChannel channelId w).pendingSubscriptions[nonce]? = some p →
      w.pendingSubscriptions[nonce]? = some p) ∧
    (p.command = .unsubscribe → w.pendingSubscriptions[nonce]? = some p →
      (selectChannel channelId w).pendingSubscriptions[nonce]? = some p) := by
  unfold selectChannel
  dsimp only
  split
  · rw [Std.ExtTreeMap.getElem?_filter', filter_eq_some_iff]
    refine ⟨fun h => h.1, fun hp h => ⟨h, ?_⟩⟩
    rw [hp]
    rfl
  · exact ⟨id, fun _ => id⟩

end Select

/-- The system after the selection was noted. -/
def selecting (s : DiscordSystem) (channelId : Option String) : DiscordSystem :=
  { s with session :=
    { s.session with worker := selectChannel channelId s.worker } }

section Selecting

variable {channelId : Option String}

theorem Tracked.selecting (h : s.Tracked) : (s.selecting channelId).Tracked where
  pending := fun nonce p hp => h.pending nonce p (selectChannel_pending.1 hp)
  unsubscribe := fun c hc p hcommand hp =>
    selectChannel_pending.2 hp (h.unsubscribe c hc p hcommand hp)
  channel := h.channel

theorem Holds.selecting (h : s.Holds) : (s.selecting channelId).Holds := fun channel hchannel =>
  { h channel (selectChannel_channel hchannel).1 with }

/-- A selection is governed by itself once the subscribed channel is no other. -/
theorem governed_selecting {t : Session}
    (hsnapshot : t.worker.snapshot = (s.selecting channelId).worker.snapshot)
    (hselected : t.worker.selectedChannelId = some channelId)
    (hsubscribed : ∀ x, t.worker.subscribedChannelId = some x → channelId = some x) :
    Governed { s with session := t } := by
  obtain ⟨⟨_, _, _, _, _, _, _, _, _, _, _, _, _, _⟩, _, _⟩ := t
  cases hsnapshot
  cases hselected
  constructor
  · rintro _ ⟨⟩ channel hchannel
    exact (selectChannel_channel hchannel).2
  · rintro _ ⟨⟩ x hx
    exact hsubscribed x hx
  · exact nofun
  · exact nofun

section Reconciled

variable {t : Session} {batch : List SentCommand} {ctx : EventContext}

section

variable (h : s.Invariant link) (hready : s.worker.snapshot.connection = .ready)

include h hready

/-- A selection that has nothing to reconcile. -/
theorem Invariant.selected_unchanged (hkept : (s.selecting channelId).worker.unsubscribePending = true ∨
      s.worker.subscribedChannelId =
        (s.selecting channelId).worker.snapshot.channel.map VoiceChannel.id)
    (hb : s.session.socket.budget ≠ 0) :
    Invariant link { s with session := (s.selecting channelId).session.afterRequest ctx } := by
  have htracked : (s.selecting channelId).Tracked := h.tracked.selecting
  refine Invariant.request (s := s.selecting channelId) (h.numbered.withSession rfl rfl) hb hready
    (h.once.withSession rfl) htracked
    { h.owned with }
    (governed_selecting rfl rfl fun x hx => ?_) nofun h.holds.selecting ctx
  change s.worker.subscribedChannelId = some x at hx
  rcases hkept with hpending | hsame
  · have hnone := h.owned.leaving (htracked.leaving_iff.mpr hpending)
    rw [hx] at hnone
    cases hnone
  · obtain ⟨channel, hchannel, rfl⟩ := map_eq_some_iff.mp (hsame.symm.trans hx)
    exact (selectChannel_channel hchannel).2

/-- A selection that gives up the subscribed channel. The request sent after the batch makes
the events of that channel older than the answer. -/
theorem Invariant.selected_unsubscribed {previous : String}
    (hprevious : s.worker.subscribedChannelId = some previous)
    (hnext : (s.selecting channelId).worker.snapshot.channel.map VoiceChannel.id ≠ some previous)
    (hsends : ((s.selecting channelId).session.setSubscribed none).Sends t batch)
    (hbatch : IsBatch .unsubscribe previous VoiceSubscriptionEvent.channelScoped batch)
    (hnumbered : Numbered link { s with session := t })
    (htracked : Tracked { s with session := t }) (hb : t.socket.budget ≠ 0) :
    Invariant link { s with session := t.afterRequest ctx } := by
  have hconnection := congrArg DiscordSnapshot.connection hsends.snapshot
  refine Invariant.request hnumbered hb (hconnection.trans hready) (h.once.withSession hconnection)
    htracked (h.owned.unsubscribe hprevious hsends.queue hbatch hsends.subscribed)
    (governed_selecting hsends.snapshot hsends.selected fun x hx => ?_)
    (fun hnone => nomatch hsends.selected.symm.trans hnone) ?_ ctx
  · cases hsends.subscribed.symm.trans hx
  · -- The subscribed channel is given up, so it is not the one held.
    intro channel hchannel
    have hchannel' : (s.selecting channelId).worker.snapshot.channel = some channel :=
      (congrArg DiscordSnapshot.channel hsends.snapshot).symm.trans hchannel
    refine absurd ?_ hnext
    rw [hchannel', map_some,
      h.owned.subscribed_eq h.holds hprevious (selectChannel_channel hchannel').1]

/-- A selection that subscribes to the held channel. -/
theorem Invariant.selected_subscribed {next : String} (hleaving : ¬s.Leaving)
    (hnone : s.worker.subscribedChannelId = none)
    (hnext : (s.selecting channelId).worker.snapshot.channel.map VoiceChannel.id = some next)
    (hsends : (s.selecting channelId).session.Sends t batch)
    (hbatch : IsBatch .subscribe next VoiceSubscriptionEvent.channelScoped batch)
    (hnumbered : Numbered link { s with session := t })
    (htracked : Tracked { s with session := t }) (hb : t.socket.budget ≠ 0) :
    Invariant link { s with session := (t.setSubscribed (some next)).afterRequest ctx } := by
  have hconnection := congrArg DiscordSnapshot.connection hsends.snapshot
  obtain ⟨channel, hchannel, rfl⟩ := map_eq_some_iff.mp hnext
  refine Invariant.request (s := { s with session := t.setSubscribed (some channel.id) })
    (hnumbered.withSession rfl rfl) hb (hconnection.trans hready) (h.once.withSession hconnection)
    { htracked with }
    (h.owned.subscribe hnone hleaving hsends.queue hbatch rfl)
    (governed_selecting hsends.snapshot hsends.selected fun x hx => ?_)
    (fun hnone => nomatch hsends.selected.symm.trans hnone) ?_ ctx
  · cases hx
    exact (selectChannel_channel hchannel).2
  · intro channel' hchannel'
    have hsame : (s.selecting channelId).worker.snapshot.channel = some channel' :=
      (congrArg DiscordSnapshot.channel hsends.snapshot).symm.trans hchannel'
    cases hchannel.symm.trans hsame
    exact Exclusive.append (h.holds.selecting channel hsame) hsends.queue fun c hc command x hscoped =>
      (hbatch.of_scoped hc hscoped).2

end

end Reconciled

theorem Invariant.channelSelected (h : s.Invariant link)
    (hready : s.worker.snapshot.connection = .ready) {ctx : EventContext} {t : Session}
    (hexec : (handleChannelSelected ctx channelId).exec s.session = (.ok (), t)) :
    Invariant link { s with session := t } := by
  obtain ⟨r, hreconcile, hb, rfl⟩ := exec_handleChannelSelected_eq_ok hexec
  have htracked : (s.selecting channelId).Tracked := h.tracked.selecting
  have hnumbered : (s.selecting channelId).Numbered link := h.numbered.withSession rfl rfl
  rcases exec_reconcile_cases hreconcile with
    ⟨rfl, hkept⟩ | ⟨previous, -, hprevious, hnext, hlength, rfl⟩ |
      ⟨next, hpending, hnone, hnext, hlength, rfl⟩
  · exact h.selected_unchanged hready hkept hb
  · obtain ⟨batch, hbatch, hsends⟩ :=
      ((s.selecting channelId).session.setSubscribed none).sends_afterSubscriptions ctx .unsubscribe
        previous VoiceSubscriptionEvent.channelScoped
    have hn : Numbered link
        { s with session := (s.selecting channelId).session.setSubscribed none } :=
      h.numbered.withSession rfl rfl
    obtain ⟨hnumbered', htracked'⟩ := hn.afterSubscriptions (P := Tracked) hlength
      (fun _ _ hn hb h => h.afterSubscription hn hb ctx ⟨.unsubscribe, _, some previous⟩
        fun _ => some_ne_none _)
      { htracked with }
    exact h.selected_unsubscribed hready hprevious hnext hsends hbatch hnumbered' htracked' hb
  · obtain ⟨batch, hbatch, hsends⟩ :=
      (s.selecting channelId).session.sends_afterSubscriptions ctx .subscribe next
        VoiceSubscriptionEvent.channelScoped
    obtain ⟨hnumbered', htracked'⟩ := hnumbered.afterSubscriptions (P := Tracked) hlength
      (fun _ _ hn hb h => h.afterSubscription hn hb ctx ⟨.subscribe, _, some next⟩ nofun) htracked
    refine h.selected_subscribed hready (fun hleaves => ?_) hnone hnext hsends hbatch hnumbered'
      htracked' hb
    have htrue := htracked.leaving_iff.mp hleaves
    exact Bool.false_ne_true (hpending.symm.trans htrue)

/-- A selection that cannot be followed leaves what was sent in order. -/
theorem Invariant.channelSelected_error (h : s.Invariant link) {ctx : EventContext} {t : Session}
    {e : FailureCategory}
    (hexec : (handleChannelSelected ctx channelId).exec s.session = (.error e, t)) :
    Ordered { s with session := t } := by
  have htracked : (s.selecting channelId).Tracked := h.tracked.selecting
  have hordered : (s.selecting channelId).Ordered := h.owned.order
  unfold handleChannelSelected at hexec
  rw [exec_modifyWorker_bind] at hexec
  rcases Task.exec_bind_eq_error.mp hexec with hreconcile | ⟨_, r, hreconcile, hrequest⟩
  · obtain ⟨_, hreconcile, -⟩ := Task.exec_mapError_eq_error.mp hreconcile
    exact htracked.ordered_reconcile hordered hreconcile
  · rw [Task.exec_mapError_eq_ok] at hreconcile
    obtain ⟨_, hrequest, -⟩ := Task.exec_mapError_eq_error.mp hrequest
    refine (htracked.ordered_reconcile hordered hreconcile).withSession ?_
    rw [exec_requestSelectedChannel_error hrequest]

end Selecting

end DiscordSystem

end OverCrow.Discord
