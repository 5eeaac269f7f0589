import OverCrow.Discord.Answers

/-!
# Authorization

Until the session is authenticated nothing about channels happens: the authorization events
and the user's `Connect` only write to fields that concern the authorization and send
`AUTHORIZE` and `AUTHENTICATE`. `Authenticated` then sends the first subscription and the
first request.
-/

namespace OverCrow.Discord
open OverCrow.Base Task Session

/-- The change concerns no channel, or forgets them all. -/
structure WorkerState.Quiet (w w' : WorkerState) : Prop where
  nonce : w'.nonce = w.nonce
  pending : w.pendingSubscriptions = ∅ → w'.pendingSubscriptions = ∅
  subscribed : w.subscribedChannelId = none → w'.subscribedChannelId = none
  request : w.pendingChannelSnapshotNonce = none → w'.pendingChannelSnapshotNonce = none
  selected : w.selectedChannelId = none → w'.selectedChannelId = none

/-- The command concerns the authorization. -/
def RpcCommand.Authorizes (command : RpcCommand) : Prop :=
  (∀ p, command ≠ .subscription p) ∧ command ≠ .getSelectedVoiceChannel

theorem RpcCommand.authorizes_authorize (clientId : String) : (authorize clientId).Authorizes :=
  ⟨nofun, nofun⟩

theorem RpcCommand.authorizes_authenticate (accessToken : String) : (authenticate accessToken).Authorizes :=
  ⟨nofun, nofun⟩

namespace DiscordSystem

variable {link : Link} {s : DiscordSystem}
  {ctx : EventContext} {nonce userId : String}

/-- The session waits for its authorization: `READY` has come, and nothing about channels has
happened. -/
structure Waiting (link : Link) (s : DiscordSystem) : Prop where
  numbered : s.Numbered link
  fresh : s.Fresh
  ready : s.ReadyDone

theorem Waiting.invariant (h : s.Waiting link) : s.Invariant link :=
  .of_fresh h.numbered h.ready.readyOnce h.fresh

theorem Waiting.quiet (h : s.Waiting link) {w : WorkerState} (auth : DiscordAuth) (hw : s.worker.Quiet w) :
    Waiting link { s with session := { s.session with worker := w, auth } } where
  numbered := h.numbered.withSession rfl hw.nonce
  fresh :=
    { h.fresh with
      pending := hw.pending h.fresh.pending
      subscribed := hw.subscribed h.fresh.subscribed
      request := hw.request h.fresh.request
      selected := hw.selected h.fresh.selected }
  ready := h.ready

theorem Waiting.afterSend (h : s.Waiting link) (hb : s.session.socket.budget ≠ 0)
    {command : RpcCommand} (hcommand : command.Authorizes) :
    Waiting link { s with session := s.session.afterSend command } where
  numbered := h.numbered.afterSend hb command
  fresh := by
    refine { h.fresh with commands := ?_ }
    intro c hc
    rw [unanswered_afterSend, List.mem_append, List.mem_singleton] at hc
    rcases hc with hc | rfl
    · exact h.fresh.commands c hc
    · exact hcommand
  ready := h.ready

/-! ### The handlers keep waiting -/

theorem Waiting.ordered (h : s.Waiting link) : s.Ordered := h.fresh.owned.order

/-- The computation lets the session wait, and what it sent is in order if it fails. -/
def Waits (link : Link) (s : DiscordSystem) {ε α : Type} (x : Task Session ε α) : Prop :=
  x.Keeps (fun session => Waiting link { s with session }) (fun session => Ordered { s with session })

section Keeps

variable {ε : Type}

theorem keeps_modifyWorker {f : WorkerState → WorkerState} (hf : ∀ w : WorkerState, w.Quiet (f w)) :
    Waits link s (modifyWorker f : Task Session ε Unit) := by
  intro session hs
  exact Waiting.quiet hs session.auth (hf session.worker)

theorem keeps_authStep (f : DiscordAuth → Except AuthError Unit × DiscordAuth) :
    Waits link s (authStep f) := by
  intro session hs
  exact Waiting.quiet hs (f session.auth).2 ⟨rfl, id, id, id, id⟩

theorem keeps_sendPayload {command : RpcCommand} (hcommand : command.Authorizes) :
    Waits link s (sendPayload command) := by
  intro session hs
  rcases h : (sendPayload command).exec session with ⟨result, t⟩
  cases result with
  | ok nonce =>
    obtain ⟨hb, -, rfl⟩ := exec_sendPayload_eq_ok.mp h
    exact Waiting.afterSend hs hb hcommand
  | error e =>
    refine hs.ordered.withSession ?_
    rw [exec_sendPayload_error h]

theorem keeps_sendAuthenticate (ctx : EventContext) : Waits link s (sendAuthenticate ctx) := by
  refine .bind_get fun _ => ?_
  split
  · exact .throw (fun _ hs => hs.ordered) _
  · refine .bind (keeps_modifyWorker fun _ => ⟨rfl, id, id, id, id⟩) fun _ => ?_
    refine (keeps_sendPayload (RpcCommand.authorizes_authenticate _)).bind fun _ => ?_
    exact keeps_modifyWorker fun _ => ⟨rfl, id, id, id, id⟩

theorem keeps_requireAuthorization : Waits link s Session.requireAuthorization :=
  keeps_modifyWorker fun _ => ⟨rfl, id, id, id, id⟩

theorem keeps_refreshAuthSnapshot : Waits link s Session.refreshAuthSnapshot :=
  .bind_get fun _ => keeps_modifyWorker fun _ => ⟨rfl, id, id, id, id⟩

theorem keeps_setConnection (connection : DiscordConnectionState) :
    Waits link s
      (modifyWorker (·.setConnection connection) : Task Session ε Unit) :=
  keeps_modifyWorker fun _ => ⟨rfl, id, id, id, id⟩

theorem keeps_clearPrivateState :
    Waits link s
      (modifyWorker (·.clearPrivateState) : Task Session ε Unit) :=
  keeps_modifyWorker fun _ => ⟨rfl, fun _ => rfl, fun _ => rfl, fun _ => rfl, fun _ => rfl⟩

theorem keeps_handleReady (ctx : EventContext) : Waits link s (handleReady ctx) := by
  have hrefresh : ∀ _ : Unit, Waits link s refreshAuthSnapshot :=
    fun _ => keeps_refreshAuthSnapshot
  refine .bind_get fun _ => .ite ?_ (keeps_requireAuthorization.bind hrefresh)
  refine (keeps_authStep _).bind fun _ => ?_
  split
  · exact ((keeps_sendAuthenticate ctx).mapError _).bind hrefresh
  · exact keeps_requireAuthorization.bind hrefresh
  · refine (keeps_authStep _).bind fun _ => ?_
    split
    · exact keeps_requireAuthorization.bind hrefresh
    · exact (keeps_setConnection _).bind hrefresh
  · exact (keeps_setConnection _).bind fun _ => (Task.Keeps.throw (fun _ hs => hs.ordered) _).bind hrefresh

theorem keeps_handleAuthorizationGranted (ctx : EventContext) (nonce code : String) :
    Waits link s (handleAuthorizationGranted ctx nonce code) := by
  have hrefresh : ∀ _ : Unit, Waits link s refreshAuthSnapshot :=
    fun _ => keeps_refreshAuthSnapshot
  refine .bind_get fun _ => .ite (.pure ()) ?_
  refine .bind (keeps_modifyWorker fun _ => ⟨rfl, id, id, id, id⟩) fun _ => ?_
  refine (keeps_authStep _).bind fun _ => ?_
  split
  · exact ((keeps_sendAuthenticate ctx).mapError _).bind hrefresh
  · exact .bind (keeps_modifyWorker fun _ => ⟨rfl, id, id, id, id⟩) hrefresh

theorem keeps_handleAuthenticateError (ctx : EventContext) (code : Int) (nonce : Option String) :
    Waits link s (handleAuthenticateError ctx code nonce) := by
  have hrefresh : ∀ _ : Unit, Waits link s refreshAuthSnapshot :=
    fun _ => keeps_refreshAuthSnapshot
  refine .bind_get fun _ => .ite (.pure ()) (.ite (.throw (fun _ hs => hs.ordered) _) (.ite (.pure ()) ?_))
  refine .bind (keeps_modifyWorker fun _ => ⟨rfl, id, id, id, id⟩) fun _ => ?_
  refine .ite ?_ (.ite ?_ ?_)
  · exact (keeps_setConnection _).bind fun _ => (Task.Keeps.throw (fun _ hs => hs.ordered) _).bind hrefresh
  · refine (keeps_authStep _).bind fun _ => ?_
    split
    · exact keeps_clearPrivateState.bind fun _ => keeps_requireAuthorization.bind hrefresh
    · exact (keeps_setConnection _).bind hrefresh
  · refine .bind (keeps_modifyWorker fun _ => ⟨rfl, id, id, id, id⟩) fun _ => ?_
    refine (keeps_authStep _).bind fun _ => ?_
    split
    · exact ((keeps_sendAuthenticate ctx).mapError _).bind hrefresh
    · exact keeps_clearPrivateState.bind fun _ => keeps_requireAuthorization.bind hrefresh
    · exact (keeps_setConnection _).bind fun _ => (Task.Keeps.throw (fun _ hs => hs.ordered) _).bind hrefresh

theorem keeps_handleAuthorizeError (nonce : Option String) :
    Waits link s (handleAuthorizeError nonce) :=
  .bind_get fun _ => .ite (.pure ()) <| .ite (.throw (fun _ hs => hs.ordered) _) <| .ite (.pure ()) <|
    keeps_modifyWorker fun _ => ⟨rfl, id, id, id, id⟩

theorem keeps_connect (ctx : EventContext) (clientId : String) :
    Waits link s (connect ctx clientId) := by
  refine .bind_get fun _ => .ite ?_ (.pure ())
  refine (keeps_setConnection _).bind fun _ => ?_
  refine (keeps_sendPayload (RpcCommand.authorizes_authorize clientId)).bind fun _ => ?_
  exact keeps_modifyWorker fun _ => ⟨rfl, id, id, id, id⟩

end Keeps

/-! ### Outcomes -/

/-- What is true after an event was handled: the invariant, or at least the order of what was
sent if the session ends with a failure. -/
def Outcome (link : Link) (s : DiscordSystem) {ε : Type} : Except ε Unit × Session → Prop
  | (.ok _, t) => Invariant link { s with session := t }
  | (.error _, t) => Ordered { s with session := t }

section

variable (h : s.Invariant link)

include h

/-- A handler that keeps waiting keeps the invariant of a session that waits. -/
theorem Invariant.outcome_of_waits (hready : s.worker.snapshot.connection ≠ .ready)
    (hconnecting : s.worker.snapshot.connection ≠ .connecting) {ε : Type}
    {x : Task Session ε Unit} (hx : Waits link s x) : Outcome link s (x.exec s.session) := by
  have hwaiting : Waiting link s := ⟨h.numbered, h.fresh hready, h.once.done hconnecting⟩
  rcases hexec : x.exec s.session with ⟨result, t⟩
  cases result with
  | ok _ => exact (hx.of_ok hwaiting hexec).invariant
  | error e => exact hx.of_error hwaiting hexec

/-- A handler that does nothing except in a state in which the session waits. -/
theorem Invariant.outcome_of_guard (connection : DiscordConnectionState)
    (hready : connection ≠ .ready) (hconnecting : connection ≠ .connecting) {ε : Type}
    {x : Task Session ε Unit} (hx : Waits link s x)
    (hskip : s.worker.snapshot.connection ≠ connection → x.exec s.session = (.ok (), s.session)) :
    Outcome link s (x.exec s.session) := by
  by_cases hconnection : s.worker.snapshot.connection = connection
  · exact h.outcome_of_waits (hconnection ▸ hready) (hconnection ▸ hconnecting) hx
  · rw [hskip hconnection]
    exact h

theorem Invariant.authorizationGranted (ctx : EventContext) (nonce code : String) :
    Outcome link s ((handleAuthorizationGranted ctx nonce code).exec s.session) := by
  refine h.outcome_of_guard .authorizing nofun nofun (keeps_handleAuthorizationGranted ctx nonce code)
    fun hne => ?_
  unfold handleAuthorizationGranted
  simp only [exec_bind, exec_get, if_pos (Or.inl hne), exec_pure]

theorem Invariant.authenticateError (ctx : EventContext) (code : Int) (nonce : Option String) :
    Outcome link s ((handleAuthenticateError ctx code nonce).exec s.session) := by
  refine h.outcome_of_guard .authenticating nofun nofun (keeps_handleAuthenticateError ctx code nonce)
    fun hne => ?_
  unfold handleAuthenticateError
  simp only [exec_bind, exec_get, if_pos hne, exec_pure]

theorem Invariant.authorizeError (nonce : Option String) :
    Outcome link s ((handleAuthorizeError nonce).exec s.session) := by
  refine h.outcome_of_guard .authorizing nofun nofun (keeps_handleAuthorizeError nonce) fun hne => ?_
  unfold handleAuthorizeError
  simp only [exec_bind, exec_get, if_pos hne, exec_pure]

theorem Invariant.connect (ctx : EventContext) (clientId : String) :
    Outcome link s ((connect ctx clientId).exec s.session) := by
  refine h.outcome_of_guard .authorizationRequired nofun nofun (keeps_connect ctx clientId) fun hne => ?_
  unfold Session.connect
  simp only [exec_bind, exec_get, if_neg hne, exec_pure]

end

/-! ### `Authenticated` -/

/-- The worker once it is authenticated. -/
def authenticate (userId : String) (w : WorkerState) : WorkerState :=
  { w.setConnection .ready with
    pendingAuthenticationNonce := none
    localUserId := some userId
    authenticationRefreshAttempted := false }

/-- The first subscription, to selections of a channel. -/
def selections : PendingSubscription := ⟨.subscribe, .voiceChannelSelect, none⟩

theorem exec_handleAuthenticated_eq_ok
    {s t : Session} (h : (handleAuthenticated ctx nonce userId).exec s = (.ok (), t)) :
    t = s ∨ s.worker.snapshot.connection = .authenticating ∧
      let authenticated := { s with worker := authenticate userId s.worker }
      authenticated.socket.budget ≠ 0 ∧
      (authenticated.afterSubscription ctx selections).socket.budget ≠ 0 ∧
      t = (authenticated.afterSubscription ctx selections).afterRequest ctx := by
  unfold handleAuthenticated at h
  simp only [exec_bind, exec_get] at h
  split at h
  · cases h
    exact .inl rfl
  · next hguard =>
    rw [not_or, ne_eq, not_not] at hguard
    rw [exec_modifyWorker_bind, exec_bind_eq_ok] at h
    obtain ⟨subscribed, m, hsend, h⟩ := h
    rw [exec_mapError_eq_ok] at hsend
    obtain ⟨hb, rfl, rfl⟩ := exec_sendPayload_eq_ok.mp hsend
    rw [exec_modifyWorker_bind, exec_mapError_eq_ok] at h
    obtain ⟨hb', rfl⟩ := exec_requestSelectedChannel_eq_ok.mp h
    exact .inr ⟨hguard.1, hb, hb', rfl⟩

theorem Invariant.authenticated (h : s.Invariant link) {t : Session}
    (hexec : (handleAuthenticated ctx nonce userId).exec s.session = (.ok (), t)) :
    Invariant link { s with session := t } := by
  rcases exec_handleAuthenticated_eq_ok hexec with rfl | ⟨hconnection, hb, hb', rfl⟩
  · exact h
  · have hwaiting : Waiting link s :=
      ⟨h.numbered, h.fresh (by simp [hconnection]), h.once.done (by simp [hconnection])⟩
    let authenticated : Session := { s.session with worker := authenticate userId s.worker }
    have hv : Waiting link { s with session := authenticated } :=
      hwaiting.quiet s.session.auth ⟨rfl, id, id, id, id⟩
    have hqueue : (authenticated.afterSubscription ctx selections).socket.queue =
      s.queue ++ [authenticated.nextCommand (.subscription selections)] := rfl
    have hscoped : ∀ command x,
        ¬(authenticated.nextCommand (.subscription selections)).Scoped command x := by
      rintro command x ⟨event, hcommand⟩
      cases hcommand
    have hinvariant := hv.invariant
    refine Invariant.request
      (s := { s with session := authenticated.afterSubscription ctx selections })
      (hv.numbered.afterSubscription hb ctx selections) hb' rfl (ReadyDone.readyOnce hwaiting.ready)
      (hinvariant.tracked.afterSubscription hv.numbered hb ctx selections nofun)
      (hinvariant.owned.unscoped hqueue hscoped (fun _ => rfl) rfl)
      ?_ (fun _ => hv.fresh.subscribed) ?_ ctx
    · refine { hinvariant.governed with unselected := fun _ => ?_, first := fun _ _ => hv.fresh.subscribed }
      rw [leaving_unscoped (s := { s with session := authenticated }) hqueue hscoped]
      exact hv.fresh.not_leaving
    · intro channel hchannel
      refine (hinvariant.holds channel hchannel).append hqueue fun c hc command x hc' => ?_
      rw [List.mem_singleton.mp hc] at hc'
      exact absurd hc' (hscoped command x)

theorem Invariant.authenticated_error (h : s.Invariant link) {t : Session} {e : FailureCategory}
    (hexec : (handleAuthenticated ctx nonce userId).exec s.session = (.error e, t)) :
    Ordered { s with session := t } := by
  have hordered : s.Ordered := h.owned.order
  unfold handleAuthenticated at hexec
  simp only [exec_bind, exec_get] at hexec
  split at hexec
  · cases hexec
  · rw [exec_modifyWorker_bind] at hexec
    rcases exec_bind_eq_error.mp hexec with hsend | ⟨_, m, hsend, hexec⟩
    · obtain ⟨_, hsend, -⟩ := exec_mapError_eq_error.mp hsend
      refine hordered.withSession ?_
      rw [exec_sendPayload_error hsend]
    · rw [exec_mapError_eq_ok] at hsend
      obtain ⟨-, -, rfl⟩ := exec_sendPayload_eq_ok.mp hsend
      obtain ⟨_, hrequest, -⟩ := exec_mapError_eq_error.mp hexec
      apply hordered.append
      · rw [exec_requestSelectedChannel_error hrequest]
        rfl
      · left
        rintro c hc x ⟨event, hcommand⟩
        rw [List.mem_singleton.mp hc] at hcommand
        cases hcommand

end DiscordSystem

end OverCrow.Discord
