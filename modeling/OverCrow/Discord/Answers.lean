import OverCrow.Discord.Switching

/-!
# Answers

`SubscriptionChanged` and `ChannelSnapshot` keep the invariant. When the answer to the last
request arrives, everything still under way is of the selected channel; that is why the
snapshot it carries can be installed.
-/

namespace OverCrow.Discord
open OverCrow.Base Task Session

namespace DiscordSystem

variable {link : Link} {s : DiscordSystem}

section Answers

variable {m : Message} {rest : List Message} {c : SentCommand} {budget : Nat}
  {failure : BackendError}
  {ctx : EventContext} {event : VoiceSubscriptionEvent} {subscribed : Bool} {t : Session}
  {channel : Option VoiceChannel}

/-- The answer to anything but a subscription leaves the table alone. -/
theorem Invariant.settles_of_not_subscription (h : s.Invariant link)
    (htake : s.toClient = m :: rest) (hc : m.answers = some c)
    (hcommand : ∀ p, c.command ≠ .subscription p) {request : Option String}
    (hrequest : request = s.worker.pendingChannelSnapshotNonce ∨
      request = none ∧ s.worker.pendingChannelSnapshotNonce = some c.nonce) :
    Settles s.worker m s.worker.pendingSubscriptions request where
  kept := fun _ _ => rfl
  struck := by
    intro c' hc'
    rw [hc] at hc'
    cases hc'
    cases hp : s.worker.pendingSubscriptions[c.nonce]? with
    | none => rfl
    | some p =>
      obtain ⟨d, hd, hnonce, hsubscription⟩ := h.tracked.pending c.nonce p hp
      have hsame := h.numbered.eq_of_nonce hd ((mem_unanswered_taken htake).mpr (.inl hc)) hnonce
      rw [hsame] at hsubscription
      exact absurd hsubscription (hcommand p)
  request := hrequest.imp_right fun hended => ⟨hended.1, c, hc, hended.2⟩

/-- The table without the answered command. -/
theorem settles_erase (w : WorkerState) (hc : m.answers = some c) :
    Settles w m (w.pendingSubscriptions.erase c.nonce) w.pendingChannelSnapshotNonce where
  kept := by
    intro nonce hne
    rw [Std.ExtTreeMap.getElem?_erase, if_neg]
    rw [Std.LawfulEqCmp.compare_eq_iff_eq]
    exact hne c hc
  struck := by
    intro c' hc'
    rw [hc] at hc'
    cases hc'
    exact Std.ExtTreeMap.getElem?_erase_self
  request := .inl rfl

theorem markSessionHealthyIfReady_sameChannels (w : WorkerState) :
    w.SameChannels w.markSessionHealthyIfReady := by
  unfold WorkerState.markSessionHealthyIfReady
  split
  · exact ⟨rfl, rfl, rfl, rfl, rfl, rfl, fun channel h => ⟨channel, h, rfl⟩⟩
  · exact .rfl

/-! ### `SubscriptionChanged` -/

theorem exec_handleSubscriptionChanged_eq_ok {nonce : String} {s : Session}
    (h : (handleSubscriptionChanged ctx subscribed event nonce).exec s = (.ok (), t)) :
    (s.worker.pendingSubscriptions[nonce]? = none ∧ t = s) ∨
    ∃ p r, s.worker.pendingSubscriptions[nonce]? = some p ∧
      t = { r with worker := r.worker.markSessionHealthyIfReady } ∧
      let erased := { s with worker := { s.worker with
        pendingSubscriptions := s.worker.pendingSubscriptions.erase nonce } }
      (r = erased ∨ p.command = .unsubscribe ∧
        (reconcileChannelSubscriptions ctx).exec erased = (.ok (), r)) := by
  unfold handleSubscriptionChanged at h
  simp only [exec_bind, exec_get] at h
  split at h
  · next hnone =>
    cases h
    exact .inl ⟨hnone, rfl⟩
  · next p hp =>
    rw [exec_modifyWorker_bind] at h
    split at h
    · cases h
    · split at h
      · next hcommand =>
        rw [exec_bind_eq_ok] at h
        obtain ⟨_, r, hreconcile, hhealthy⟩ := h
        cases hhealthy
        rw [exec_mapError_eq_ok] at hreconcile
        exact .inr ⟨p, r, hp, rfl, .inr ⟨hcommand, hreconcile⟩⟩
      · cases h
        exact .inr ⟨p, _, hp, rfl, .inl rfl⟩

/-- An acknowledged unsubscribe lets the session subscribe to the held channel. -/
theorem Invariant.subscriptionChanged (h : s.Invariant link) (htake : s.toClient = m :: rest)
    (hc : m.answers = some c) (hexec : (handleSubscriptionChanged ctx subscribed event c.nonce).exec
      ((s.taken m rest).withBudget link budget failure) = (.ok (), t)) :
    Invariant link { s.taken m rest with session := t } := by
  rcases exec_handleSubscriptionChanged_eq_ok hexec with
    ⟨hnone, rfl⟩ | ⟨p, r, hp, rfl, hreconcile⟩
  · refine (h.settled htake ⟨fun _ _ => rfl, ?_, .inl rfl⟩).withBudget budget failure
    intro c' hc'
    rw [hc] at hc'
    cases hc'
    exact hnone
  · have herased := (h.settled htake (settles_erase s.worker hc)).withBudget budget failure
    obtain ⟨d, hd, hnonce, hcommand⟩ := h.tracked.pending c.nonce p hp
    have hready : s.worker.snapshot.connection = .ready := by
      by_contra hconnection
      exact ((h.fresh hconnection).commands d hd).1 p hcommand
    have hr : Invariant link { s.taken m rest with session := r } := by
      rcases hreconcile with rfl | ⟨hunsubscribe, hreconcile⟩
      · exact herased
      · have hleaving : s.Leaving := by
          obtain ⟨command, event, channelId⟩ := p
          cases hunsubscribe
          cases channelId with
          | none => exact absurd rfl (h.tracked.channel d hd _ hcommand rfl)
          | some x => exact ⟨d, hd, x, event, hcommand⟩
        refine herased.reconcile hready ?_ ?_ hreconcile
        · exact fun hnone => absurd hleaving (h.governed.unselected hnone)
        · intro x hx
          cases (h.owned.leaving hleaving).symm.trans hx
    exact hr.withWorker r.auth (markSessionHealthyIfReady_sameChannels r.worker)

theorem Invariant.subscriptionChanged_error (h : s.Invariant link)
    (htake : s.toClient = m :: rest) (hc : m.answers = some c) {e : FailureCategory}
    (hexec : (handleSubscriptionChanged ctx subscribed event c.nonce).exec
      ((s.taken m rest).withBudget link budget failure) = (.error e, t)) :
    Ordered { s.taken m rest with session := t } := by
  have herased := (h.settled htake (settles_erase s.worker hc)).withBudget budget failure
  unfold handleSubscriptionChanged at hexec
  simp only [exec_bind, exec_get] at hexec
  split at hexec
  · cases hexec
  · rw [exec_modifyWorker_bind] at hexec
    split at hexec
    · cases hexec
      exact herased.owned.order
    · split at hexec
      · rcases exec_bind_eq_error.mp hexec with hreconcile | ⟨_, r, -, hhealthy⟩
        · obtain ⟨_, hreconcile, -⟩ := exec_mapError_eq_error.mp hreconcile
          exact herased.tracked.ordered_reconcile herased.owned.order hreconcile
        · cases hhealthy
      · cases hexec

/-! ### `ChannelSnapshot` -/

/-- The worker after it accepted the answer to its request. -/
def acceptChannel (ctx : EventContext) (channel : Option VoiceChannel) (w : WorkerState) :
    WorkerState :=
  installChannel ctx channel { w with pendingChannelSnapshotNonce := none }

theorem exec_handleChannelSnapshot_eq_ok {nonce : String} {s : Session}
    (h : (handleChannelSnapshot ctx nonce channel).exec s = (.ok (), t)) :
    (s.worker.pendingChannelSnapshotNonce ≠ some nonce ∧ t = s) ∨
    (s.worker.pendingChannelSnapshotNonce = some nonce ∧
      (∀ selected, s.worker.selectedChannelId = some selected →
        selected = channel.map VoiceChannel.id) ∧
      ∃ r, (reconcileChannelSubscriptions ctx).exec
          { s with worker := acceptChannel ctx channel s.worker } = (.ok (), r) ∧
        t = { r with worker := r.worker.markSessionHealthyIfReady }) := by
  unfold handleChannelSnapshot at h
  simp only [exec_bind, exec_get] at h
  split at h
  · next hne =>
    cases h
    exact .inl ⟨hne, rfl⟩
  · next hwaiting =>
    rw [ne_eq, not_not] at hwaiting
    rw [exec_modifyWorker_bind] at h
    split at h
    · cases h
    · next hselected =>
      rw [exec_modifyWorker_bind] at h
      rw [exec_bind_eq_ok] at h
      obtain ⟨_, r, hreconcile, hhealthy⟩ := h
      cases hhealthy
      rw [exec_mapError_eq_ok] at hreconcile
      refine .inr ⟨hwaiting, ?_, r, hreconcile, rfl⟩
      intro selected hsome
      rw [hsome, Option.any_some, decide_eq_true_eq, not_not] at hselected
      exact hselected

theorem acceptChannel_channel (ctx : EventContext) (channel : Option VoiceChannel) (w : WorkerState) :
    (acceptChannel ctx channel w).snapshot.channel.map VoiceChannel.id =
      channel.map VoiceChannel.id := by
  cases channel with
  | none => rfl
  | some channel =>
    change some (VoiceChannel.withParticipants channel _ _ _).id = _
    simp

section

variable (h : s.Invariant link) (htake : s.toClient = m :: rest) (hc : m.answers = some c)

include h htake hc

/-- When the answer to the awaited request arrives, whatever is still under way concerns the
selected channel. -/
theorem Invariant.exclusive_of_answered (hawaited : s.Awaited c) {x : String}
    (hselected : ∀ selected, s.worker.selectedChannelId = some selected → selected = some x) :
    (s.taken m rest).Exclusive x := by
  have hclean := h.clean c hawaited
  have hm : m ∈ s.toClient := by
    rw [htake]
    exact List.mem_cons_self
  have htime := h.numbered.times m hm c hc
  have hsorted := h.numbered.sorted
  rw [htake, List.pairwise_cons] at hsorted
  have hsame : ∀ {y : String}, s.worker.selectedChannelId = some (some y) → y = x :=
    fun hy => Option.some.inj (hselected _ hy)
  constructor
  · intro m' hm' y event hbody
    have hmem : m' ∈ s.toClient := by
      rw [htake]
      exact List.mem_cons_of_mem _ hm'
    have hlate := hsorted.1 m' hm'
    exact hsame (hclean.voice m' hmem (by omega) y event hbody)
  · intro y hy
    have hreached := h.numbered.reached m hm
    exact hsame (hclean.held (by omega) y hy)
  · intro d hd command y hscoped
    have hlater := h.numbered.taken_later htake hc (mem_unanswered_of_queue hd)
    exact hsame (hclean.queue d hd hlater command y hscoped).2

/-- The accepted channel replaces the one held. -/
theorem Invariant.accepted (hawaited : s.Awaited c) (ctx : EventContext) (hselected : ∀ selected,
      s.worker.selectedChannelId = some selected → selected = channel.map VoiceChannel.id) :
    Invariant link { s.taken m rest with session :=
      { (s.taken m rest).withBudget link budget failure with
        worker := acceptChannel ctx channel s.worker } } := by
  have hsettles := h.settles_of_not_subscription htake hc
    (fun p hp => nomatch hawaited.command.symm.trans hp) (.inr ⟨rfl, hawaited.pending⟩)
  have hsettled := (h.settled htake hsettles).withBudget budget failure
  have hid : ∀ channel', (acceptChannel ctx channel s.worker).snapshot.channel = some channel' →
      channel.map VoiceChannel.id = some channel'.id := by
    intro channel' hchannel'
    rw [← acceptChannel_channel ctx channel s.worker, hchannel']
    rfl
  refine
    { numbered := hsettled.numbered.withSession rfl rfl
      once := hsettled.once.withSession rfl
      fresh := fun hconnection => ?_
      tracked := { hsettled.tracked with }
      requested := hsettled.requested.congr rfl rfl rfl
      owned := { hsettled.owned with }
      governed := { hsettled.governed with channel := ?_ }
      clean := ?_
      holds := ?_ }
  · have hf := h.fresh hconnection
    cases hf.request.symm.trans hawaited.pending
  · intro selected hsel channel' hchannel'
    exact (hselected selected hsel).trans (hid channel' hchannel')
  · intro g hg
    cases hg.pending
  · intro channel' hchannel'
    have hexclusive := h.exclusive_of_answered htake hc hawaited
      fun selected hsel => (hselected selected hsel).trans (hid channel' hchannel')
    exact { hexclusive with }

theorem Invariant.channelSnapshot (hcommand : c.command = .getSelectedVoiceChannel)
    (hexec : (handleChannelSnapshot ctx c.nonce channel).exec
      ((s.taken m rest).withBudget link budget failure) = (.ok (), t)) :
    Invariant link { s.taken m rest with session := t } := by
  rcases exec_handleChannelSnapshot_eq_ok hexec with
    ⟨-, rfl⟩ | ⟨hwaiting, hselected, r, hreconcile, rfl⟩
  · exact (h.settled htake (h.settles_of_not_subscription htake hc
      (fun p hp => nomatch hcommand.symm.trans hp) (.inl rfl))).withBudget budget failure
  · have hawaited : s.Awaited c :=
      ⟨(mem_unanswered_taken htake).mpr (.inl hc), hcommand, hwaiting⟩
    have haccepted : Invariant link { s.taken m rest with session :=
        { (s.taken m rest).withBudget link budget failure with
          worker := acceptChannel ctx channel s.worker } } :=
      h.accepted htake hc hawaited ctx hselected
    have hready : s.worker.snapshot.connection = .ready := by
      by_contra hconnection
      cases (h.fresh hconnection).request.symm.trans hwaiting
    have hr : Invariant link { s.taken m rest with session := r } := by
      refine haccepted.reconcile hready (fun _ => rfl) ?_ hreconcile
      intro x hx
      rw [acceptChannel_channel]
      cases hsel : s.worker.selectedChannelId with
      | some selected =>
        rw [← hselected selected hsel]
        exact h.governed.subscribed selected hsel x hx
      | none =>
        have hnone := h.governed.first hsel (by rw [hawaited.pending]; exact Option.some_ne_none _)
        cases hnone.symm.trans hx
    exact hr.withWorker r.auth (markSessionHealthyIfReady_sameChannels r.worker)

theorem Invariant.channelSnapshot_error
    (hcommand : c.command = .getSelectedVoiceChannel) {e : FailureCategory}
    (hexec : (handleChannelSnapshot ctx c.nonce channel).exec
      ((s.taken m rest).withBudget link budget failure) = (.error e, t)) :
    Ordered { s.taken m rest with session := t } := by
  have hsettled := h.settled htake (h.settles_of_not_subscription htake hc
    (fun p hp => nomatch hcommand.symm.trans hp) (.inl rfl))
  unfold handleChannelSnapshot at hexec
  simp only [exec_bind, exec_get] at hexec
  split at hexec
  · cases hexec
  · rw [exec_modifyWorker_bind] at hexec
    split at hexec
    · cases hexec
      exact hsettled.owned.order
    · rw [exec_modifyWorker_bind] at hexec
      rcases exec_bind_eq_error.mp hexec with hreconcile | ⟨_, r, -, hhealthy⟩
      · obtain ⟨_, hreconcile, -⟩ := exec_mapError_eq_error.mp hreconcile
        have haccepted : Tracked { s.taken m rest with session :=
            { (s.taken m rest).withBudget link budget failure with
              worker := acceptChannel ctx channel s.worker } } := { hsettled.tracked with }
        exact haccepted.ordered_reconcile hsettled.owned.order hreconcile
      · cases hhealthy

end

end Answers

end DiscordSystem

end OverCrow.Discord
