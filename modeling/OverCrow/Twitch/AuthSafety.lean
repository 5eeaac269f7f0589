import OverCrow.Twitch.Auth

/-!
# What the presentation of a session tells

A session is coherent if its presentation agrees with its credentials and its pending authorization,
and if what counts as persisted is in the store. Four operations do not keep this by themselves:
`cancel` with credentials, a `begin` that fails over a pending authorization, `restore` over a pending
authorization or over credentials that the store lost, and a failed deletion that was carried out.
-/

namespace OverCrow.Twitch
open OverCrow.Base

/-- `AwaitingUser` is shown. -/
def AuthPresentation.awaits : AuthPresentation → Bool
  | .awaitingUser _ _ _ => true
  | _ => false

namespace AuthMachine

/-- The store contains the tokens of the session. -/
def StoresTokens (m : AuthMachine) : Prop :=
  ∃ credentials stored, m.credentials = some credentials ∧ m.store = some stored ∧
    stored.accessToken = credentials.accessToken ∧ stored.refreshToken = credentials.refreshToken

structure Coherent (m : AuthMachine) : Prop where
  connected : ∀ login userId, m.presentation = .connected login userId →
    m.credentials.isSome = true ∧ m.pending = none ∧ m.lastValidatedAt.isSome = true
  awaiting : m.presentation.awaits = true ↔ m.pending.isSome = true
  disconnected : m.presentation = .disconnected → m.credentials = none ∧ m.pending = none
  persisted : m.credentialsPersisted = true → m.StoresTokens

/-- Stored credentials that the provider conclusively rejects. -/
def Rejects (m : AuthMachine) (call : Call) : Prop :=
  call.answers.loads = true ∧ ∃ credentials, m.store = some credentials ∧
    ((m.loaded credentials).validateCurrent call.answers call.now call.nowUnixSecs).1 =
      .error .invalidCredentials

/-- The condition on a call. -/
def Guarded (m : AuthMachine) (call : Call) : Prop :=
  match call.operation with
  | .begin =>
    m.pending = none ∨ m.clientId.isEmpty = true ∨
      (m.credentials.isSome || m.storeMayContainCredentials) = true ∨
      ∃ granted, grantPending call.answers call.now = .ok granted
  | .cancel => m.credentials = none
  | .restore =>
    (m.pending = none ∨ m.Rejects call) ∧
      (call.answers.loads = true → m.store = none → m.credentials = none)
  | .disconnect | .disconnectLocal =>
    call.answers.delete = .failed true → m.credentialsPersisted = false
  | _ => True

/-- Without credentials while an authorization is pending. -/
def Alone (m : AuthMachine) : Prop := m.pending.isSome = true → m.credentials = none

variable {m : AuthMachine} {answers : Answers} {now : Instant} {nowUnixSecs : Nat}
  {pending : PendingAuthorization}

theorem coherent_new (clientId : String) (store : Option TwitchCredentials) :
    (new clientId store).Coherent :=
  ⟨nofun, ⟨nofun, nofun⟩, fun _ => ⟨rfl, rfl⟩, nofun⟩

theorem coherent_clearInvalidCredentials (category : TwitchFailureCategory) :
    (m.clearInvalidCredentials answers category).Coherent :=
  ⟨nofun, ⟨nofun, nofun⟩, nofun, nofun⟩

/-- A failure that is shown with nothing pending. -/
theorem coherent_of_failed {category : TwitchFailureCategory} (hfailed : m.presentation = .failed category)
    (hpending : m.pending = none) (hkept : m.credentialsPersisted = true → m.StoresTokens) :
    m.Coherent := by
  refine ⟨fun login userId hconnected => ?_, ?_, fun hdisconnected => ?_, hkept⟩
  · cases hfailed.symm.trans hconnected
  · rw [hfailed, hpending]
    exact ⟨nofun, nofun⟩
  · cases hfailed.symm.trans hdisconnected

/-- A presentation that awaits nobody needs nothing pending. -/
theorem not_coherent_of_pending (hawaits : m.presentation.awaits = false) (hpending : m.pending ≠ none) :
    ¬m.Coherent := fun h =>
  Bool.false_ne_true (hawaits.symm.trans (h.awaiting.mpr (Option.isSome_iff_ne_none.mpr hpending)))

theorem storesTokens_persist (outcome : StoreOutcome)
    (hkept : m.credentialsPersisted = true → m.StoresTokens)
    (h : (m.persistCurrentIfNeeded outcome).credentialsPersisted = true) :
    (m.persistCurrentIfNeeded outcome).StoresTokens := by
  unfold persistCurrentIfNeeded at h ⊢
  split at h
  · next hneed =>
    rw [if_pos hneed]
    exact hkept h
  · next hneed =>
    rw [if_neg hneed]
    split at h
    · next credentials hcredentials =>
      exact ⟨credentials, credentials, hcredentials, rfl, rfl, rfl⟩
    · cases h
    · cases h

/-- Saving changes nothing else. -/
theorem persistCurrentIfNeeded_eq (outcome : StoreOutcome) :
    ∃ store persisted needs mayContain, m.persistCurrentIfNeeded outcome =
      { m with
        store := store, credentialsPersisted := persisted, credentialsNeedPersist := needs
        storeMayContainCredentials := mayContain } := by
  unfold persistCurrentIfNeeded
  split
  · exact ⟨_, _, _, _, rfl⟩
  · split <;> exact ⟨_, _, _, _, rfl⟩

/-- A session that was validated. -/
structure Validated (m t : AuthMachine) : Prop where
  connected : ∃ login userId, t.presentation = .connected login userId
  credentials : t.credentials.isSome = true
  validated : t.lastValidatedAt.isSome = true
  pending : t.pending = m.pending
  persisted : (m.credentialsPersisted = true → m.StoresTokens) → t.credentialsPersisted = true →
    t.StoresTokens

theorem Validated.awaits {t : AuthMachine} (h : Validated m t) : t.presentation.awaits = false := by
  obtain ⟨login, userId, hconnected⟩ := h.connected
  rw [hconnected]
  rfl

theorem Validated.persist {t : AuthMachine} (h : Validated m t) (outcome : StoreOutcome) :
    Validated m (t.persistCurrentIfNeeded outcome) := by
  have htokens := fun hkept => storesTokens_persist outcome (h.persisted hkept)
  obtain ⟨store, persisted, needs, mayContain, heq⟩ := persistCurrentIfNeeded_eq (m := t) outcome
  rw [heq] at htokens ⊢
  exact { h with persisted := htokens }

/-- What `validate_current` does: it fails without a change, or the session is connected. -/
theorem validateCurrent_cases :
    (∃ error, m.validateCurrent answers now nowUnixSecs = (.error error, m)) ∨
    ∃ t, m.validateCurrent answers now nowUnixSecs = (.ok (), t) ∧ Validated m t := by
  unfold validateCurrent
  split
  · exact .inl ⟨_, rfl⟩
  next credentials hcredentials =>
  split
  · exact .inl ⟨_, rfl⟩
  split
  · exact .inl ⟨_, rfl⟩
  split
  · exact .inl ⟨_, rfl⟩
  · refine .inr ⟨_, rfl, .persist ?_ _⟩
    refine ⟨⟨_, _, rfl⟩, rfl, rfl, rfl, fun hkept hpersisted => ?_⟩
    obtain ⟨old, stored, hold, hstore, haccess, hrefresh⟩ := hkept hpersisted
    cases hcredentials.symm.trans hold
    exact ⟨_, stored, rfl, hstore, haccess, hrefresh⟩

theorem coherent_handleCredentialFailure (error : AuthError) (hpending : m.pending = none)
    (hkept : m.credentialsPersisted = true → m.StoresTokens) :
    (m.handleCredentialFailure answers now error).Coherent := by
  unfold handleCredentialFailure
  split
  · exact coherent_clearInvalidCredentials _
  · exact coherent_of_failed rfl hpending hkept

theorem coherent_validated (hpending : m.pending = none)
    (hkept : m.credentialsPersisted = true → m.StoresTokens) :
    (handled answers now (m.validateCurrent answers now nowUnixSecs)).Coherent := by
  rcases @validateCurrent_cases m answers now nowUnixSecs with ⟨error, hfails⟩ | ⟨t, hvalid, ht⟩
  · rw [hfails]
    exact coherent_handleCredentialFailure error hpending hkept
  · rw [hvalid]
    have hpending := ht.pending.trans hpending
    refine ⟨fun _ _ _ => ⟨ht.credentials, hpending, ht.validated⟩, ?_, fun hdisconnected => ?_,
      ht.persisted hkept⟩
    · dsimp only [handled]
      rw [ht.awaits, hpending]
      exact ⟨nofun, nofun⟩
    · obtain ⟨login, userId, hconnected⟩ := ht.connected
      cases hconnected.symm.trans hdisconnected

/-- Over a pending authorization only a rejection is coherent. -/
theorem coherent_validated_iff (hpending : m.pending ≠ none) :
    (handled answers now (m.validateCurrent answers now nowUnixSecs)).Coherent ↔
      (m.validateCurrent answers now nowUnixSecs).1 = .error .invalidCredentials := by
  rcases @validateCurrent_cases m answers now nowUnixSecs with ⟨error, hfails⟩ | ⟨t, hvalid, ht⟩
  · rw [hfails]
    dsimp only [handled]
    unfold handleCredentialFailure
    split
    · next hinvalid =>
      rw [hinvalid]
      exact iff_of_true (coherent_clearInvalidCredentials _) rfl
    · next hsoft =>
      refine iff_of_false (not_coherent_of_pending rfl hpending) fun heq => hsoft ?_
      exact Except.error.inj heq
  · rw [hvalid]
    exact iff_of_false (not_coherent_of_pending ht.awaits (ht.pending ▸ hpending)) nofun

/-- A failure or a validated session awaits nobody. -/
theorem awaits_handleCredentialFailure (error : AuthError) :
    (m.handleCredentialFailure answers now error).presentation.awaits = false := by
  unfold handleCredentialFailure
  split <;> rfl

theorem awaits_validated :
    (handled answers now (m.validateCurrent answers now nowUnixSecs)).presentation.awaits = false := by
  rcases @validateCurrent_cases m answers now nowUnixSecs with ⟨error, hfails⟩ | ⟨t, hvalid, ht⟩
  · rw [hfails]
    exact awaits_handleCredentialFailure error
  · rw [hvalid]
    exact ht.awaits

/-! ### The operations -/

theorem coherent_begin_iff (h : m.Coherent) (call : Call) :
    (m.begin call.answers call.now).2.Coherent ↔ m.Guarded { call with operation := .begin } := by
  unfold begin Guarded
  split
  · next hclient => exact iff_of_true h (.inr (.inl hclient))
  next hclient =>
  split
  · next hsession => exact iff_of_true h (.inr (.inr (.inl hsession)))
  next hsession =>
  split
  · next error category hgrant =>
    constructor
    · intro hcoherent
      by_contra hguarded
      refine absurd hcoherent (not_coherent_of_pending
        (m := { m with presentation := .failed category }) rfl fun hnone => ?_)
      exact hguarded (.inl hnone)
    · rintro (hpending | hclient' | hsession' | ⟨granted, hgranted⟩)
      · exact coherent_of_failed rfl hpending h.persisted
      · exact absurd hclient' hclient
      · exact absurd hsession' hsession
      · cases hgrant.symm.trans hgranted
  · next grant pending hgrant =>
    refine iff_of_true ⟨nofun, ⟨fun _ => rfl, fun _ => rfl⟩, nofun, nofun⟩ ?_
    exact .inr (.inr (.inr ⟨_, hgrant⟩))

theorem coherent_cancel_iff (h : m.Coherent) : m.cancel.Coherent ↔ m.credentials = none :=
  ⟨fun hcoherent => (hcoherent.disconnected rfl).1,
    fun hnone => ⟨nofun, ⟨nofun, nofun⟩, fun _ => ⟨hnone, rfl⟩, h.persisted⟩⟩

theorem coherent_cancelPending (h : m.Coherent) (halone : m.Alone) : m.cancelPending.Coherent := by
  unfold cancelPending
  split
  · next hpending => exact (coherent_cancel_iff h).mpr (halone hpending)
  · exact h

theorem coherent_restore_iff (h : m.Coherent) (call : Call) :
    (m.restore call.answers call.now call.nowUnixSecs).2.Coherent ↔
      m.Guarded { call with operation := .restore } := by
  unfold restore Guarded
  by_cases hpending : m.pending = none
  · split
    · next hloads =>
      refine iff_of_true (coherent_of_failed rfl hpending h.persisted) ⟨.inl hpending, fun hloaded => ?_⟩
      exact absurd hloaded (by simpa using hloads)
    next hloads =>
    split
    · next hstore =>
      constructor
      · exact fun hcoherent => ⟨.inl hpending, fun _ _ => (hcoherent.disconnected rfl).1⟩
      · intro hguarded
        have hnone := hguarded.2 (by simpa using hloads) hstore
        refine ⟨nofun, ?_, fun _ => ⟨hnone, hpending⟩, h.persisted⟩
        rw [hpending]
        exact ⟨nofun, nofun⟩
    · next credentials hstore =>
      refine iff_of_true (coherent_validated hpending fun _ => ?_) ⟨.inl hpending, fun _ hnone => ?_⟩
      · exact ⟨credentials, credentials, rfl, hstore, rfl, rfl⟩
      · cases hstore.symm.trans hnone
  · split
    · next hloads =>
      refine iff_of_false (not_coherent_of_pending rfl hpending) ?_
      rintro ⟨hnone | hrejects, -⟩
      · exact hpending hnone
      · exact absurd hrejects.1 (by simpa using hloads)
    next hloads =>
    split
    · next hstore =>
      refine iff_of_false (not_coherent_of_pending rfl hpending) ?_
      rintro ⟨hnone | ⟨-, credentials, hsome, -⟩, -⟩
      · exact hpending hnone
      · cases hstore.symm.trans hsome
    · next credentials hstore =>
      have hloaded : (m.loaded credentials).pending ≠ none := hpending
      rw [coherent_validated_iff hloaded]
      constructor
      · refine fun hrejected => ⟨.inr ⟨by simpa using hloads, credentials, hstore, hrejected⟩,
          fun _ hnone => ?_⟩
        cases hstore.symm.trans hnone
      · rintro ⟨hnone | ⟨-, other, hother, hrejected⟩, -⟩
        · exact absurd hnone hpending
        · cases hstore.symm.trans hother
          exact hrejected

/-- A poll that is repeated keeps everything else. -/
theorem coherent_repoll (h : m.Coherent) (hpending : m.pending = some pending)
    (again : PendingAuthorization) : Coherent { m with pending := some again } := by
  refine ⟨fun login userId hconnected => ?_, ?_, fun hdisconnected => ?_, h.persisted⟩
  · cases hpending.symm.trans (h.connected login userId hconnected).2.1
  · rw [h.awaiting, hpending]
    exact Iff.rfl
  · cases hpending.symm.trans (h.disconnected hdisconnected).2

section

variable (hpending : m.pending = none) (hkept : m.credentialsPersisted = true → m.StoresTokens)

include hpending hkept

theorem coherent_accepted (token : TokenResponse) :
    (handled answers now (m.acceptToken answers now nowUnixSecs token)).Coherent := by
  unfold acceptToken
  split
  · exact coherent_handleCredentialFailure _ hpending hkept
  · exact coherent_validated hpending nofun

theorem coherent_refreshed :
    (handled answers now (m.refresh answers now nowUnixSecs)).Coherent := by
  unfold refresh
  split
  · exact coherent_handleCredentialFailure _ hpending hkept
  split
  · exact coherent_handleCredentialFailure _ hpending hkept
  split
  · exact coherent_handleCredentialFailure _ hpending hkept
  · next token credentials htoken =>
    refine coherent_validated ?_ (storesTokens_persist _ nofun)
    obtain ⟨store, persisted, needs, mayContain, heq⟩ :=
      persistCurrentIfNeeded_eq (m := m.replaced credentials) answers.earlySave
    rw [heq]
    exact hpending

end

theorem coherent_tickPending (h : m.Coherent) (hpending : m.pending = some pending) :
    (m.tickPending answers now nowUnixSecs pending).2.Coherent := by
  unfold tickPending
  split
  · exact coherent_of_failed rfl rfl h.persisted
  split
  · exact h
  split
  · exact coherent_repoll h hpending _
  · exact coherent_repoll h hpending _
  · exact coherent_repoll h hpending _
  · exact coherent_of_failed rfl rfl h.persisted
  · exact coherent_of_failed rfl rfl h.persisted
  · exact coherent_accepted (m := { m with pending := none }) rfl h.persisted _

theorem coherent_tick (h : m.Coherent) : (m.tick answers now nowUnixSecs).2.Coherent := by
  unfold tick
  split
  · next pending hpending => exact coherent_tickPending h hpending
  next hpending =>
  split
  · next hcredentials =>
    split
    · exact (coherent_restore_iff h ⟨.restore, answers, now, nowUnixSecs⟩).mpr
        ⟨.inl hpending, fun _ _ => hcredentials⟩
    · exact h
  split
  · exact h
  split
  · exact coherent_refreshed hpending h.persisted
  · have hdue (due : Bool) : (if !due then (AuthTick.idle, m)
        else (.changed, handled answers now (m.validateCurrent answers now nowUnixSecs))).2.Coherent := by
      split
      · exact h
      · exact coherent_validated hpending h.persisted
    exact hdue _

theorem coherent_disconnectLocal_iff (h : m.Coherent) (call : Call) :
    (m.disconnectLocal call.answers).2.Coherent ↔
      m.Guarded { call with operation := .disconnectLocal } := by
  unfold disconnectLocal Guarded
  split
  · next applied hdelete =>
    cases applied with
    | true =>
      constructor
      · intro hcoherent _
        by_contra hpersisted
        rw [Bool.not_eq_false] at hpersisted
        obtain ⟨credentials, stored, -, hstored, -⟩ := hcoherent.persisted hpersisted
        rw [hdelete] at hstored
        cases hstored
      · intro hguarded
        have hnot := hguarded hdelete
        refine coherent_of_failed rfl rfl fun hpersisted => ?_
        cases hnot.symm.trans hpersisted
    | false =>
      refine iff_of_true (coherent_of_failed rfl rfl fun hpersisted => ?_) fun hfailed => ?_
      · obtain ⟨credentials, stored, hcredentials, hstored, htokens⟩ := h.persisted hpersisted
        refine ⟨credentials, stored, hcredentials, ?_, htokens⟩
        rw [hdelete]
        exact hstored
      · cases hdelete.symm.trans hfailed
  · next hdelete =>
    refine iff_of_true ⟨nofun, ⟨nofun, nofun⟩, fun _ => ⟨rfl, rfl⟩, nofun⟩ fun hfailed => ?_
    cases hdelete.symm.trans hfailed

theorem disconnect_snd : (m.disconnect answers).2 = (m.disconnectLocal answers).2 := by
  unfold disconnect
  dsimp only
  split <;> next heq => rw [heq]

/-- A call keeps a session coherent exactly if it is guarded. -/
theorem coherent_call_iff (h : m.Coherent) (halone : m.Alone) (call : Call) :
    (m.call call).Coherent ↔ m.Guarded call := by
  obtain ⟨operation, answers, now, nowUnixSecs⟩ := call
  cases operation with
  | begin => exact coherent_begin_iff h ⟨.begin, answers, now, nowUnixSecs⟩
  | cancel => exact coherent_cancel_iff h
  | cancelPending => exact iff_of_true (coherent_cancelPending h halone) trivial
  | invalidate category => exact iff_of_true (coherent_clearInvalidCredentials category) trivial
  | restore => exact coherent_restore_iff h ⟨.restore, answers, now, nowUnixSecs⟩
  | tick => exact iff_of_true (coherent_tick h) trivial
  | disconnect =>
    change (m.disconnect answers).2.Coherent ↔ _
    rw [disconnect_snd]
    exact coherent_disconnectLocal_iff h ⟨.disconnect, answers, now, nowUnixSecs⟩
  | disconnectLocal =>
    exact coherent_disconnectLocal_iff h ⟨.disconnectLocal, answers, now, nowUnixSecs⟩

/-! ### Runs -/

theorem alone_of_not_awaits (h : m.Coherent) (hawaits : m.presentation.awaits = false) : m.Alone :=
  fun hpending => absurd (h.awaiting.mpr hpending) (Bool.eq_false_iff.mp hawaits)

theorem awaits_accepted (token : TokenResponse) :
    (handled answers now (m.acceptToken answers now nowUnixSecs token)).presentation.awaits = false := by
  unfold acceptToken
  split
  · exact awaits_handleCredentialFailure _
  · exact awaits_validated

theorem awaits_refreshed :
    (handled answers now (m.refresh answers now nowUnixSecs)).presentation.awaits = false := by
  unfold refresh
  split
  · exact awaits_handleCredentialFailure _
  split
  · exact awaits_handleCredentialFailure _
  split
  · exact awaits_handleCredentialFailure _
  · exact awaits_validated

theorem awaits_restore : (m.restore answers now nowUnixSecs).2.presentation.awaits = false := by
  unfold restore
  split
  · rfl
  split
  · rfl
  · exact awaits_validated

theorem awaits_disconnectLocal : (m.disconnectLocal answers).2.presentation.awaits = false := by
  unfold disconnectLocal
  split <;> rfl

/-- After a tick the session awaits nobody, or its credentials are those from before. -/
theorem tick_cases : (m.tick answers now nowUnixSecs).2.presentation.awaits = false ∨
    ((m.tick answers now nowUnixSecs).2.pending.isSome = true → m.pending.isSome = true) ∧
      (m.tick answers now nowUnixSecs).2.credentials = m.credentials := by
  unfold tick
  split
  · next pending hpending =>
    unfold tickPending
    have hsome : m.pending.isSome = true := hpending ▸ rfl
    split
    · exact .inl rfl
    split
    · exact .inr ⟨id, rfl⟩
    split
    · exact .inr ⟨fun _ => hsome, rfl⟩
    · exact .inr ⟨fun _ => hsome, rfl⟩
    · exact .inr ⟨fun _ => hsome, rfl⟩
    · exact .inl rfl
    · exact .inl rfl
    · exact .inl (awaits_accepted _)
  split
  · split
    · exact .inl awaits_restore
    · exact .inr ⟨id, rfl⟩
  split
  · exact .inr ⟨id, rfl⟩
  split
  · exact .inl awaits_refreshed
  · have hdue (due : Bool) (outcome : AuthTick × AuthMachine)
        (houtcome : outcome.2.presentation.awaits = false) :
        (if !due then (AuthTick.idle, m) else outcome).2.presentation.awaits = false ∨
          ((if !due then (AuthTick.idle, m) else outcome).2.pending.isSome = true →
            m.pending.isSome = true) ∧
          (if !due then (AuthTick.idle, m) else outcome).2.credentials = m.credentials := by
      split
      · exact .inr ⟨id, rfl⟩
      · exact .inl houtcome
    exact hdue _ _ awaits_validated

theorem alone_call (halone : m.Alone) (call : Call) (h : (m.call call).Coherent) : (m.call call).Alone := by
  obtain ⟨operation, answers, now, nowUnixSecs⟩ := call
  cases operation with
  | begin =>
    change (m.begin answers now).2.Alone
    unfold begin
    split
    · exact halone
    split
    · exact halone
    split
    · exact halone
    · exact fun _ => rfl
  | cancel => exact nofun
  | cancelPending =>
    change m.cancelPending.Alone
    unfold cancelPending
    split
    · exact nofun
    · exact halone
  | invalidate category => exact nofun
  | restore => exact alone_of_not_awaits h awaits_restore
  | tick =>
    rcases @tick_cases m answers now nowUnixSecs with hawaits | ⟨hpending, hcredentials⟩
    · exact alone_of_not_awaits h hawaits
    · exact fun hsome => hcredentials.trans (halone (hpending hsome))
  | disconnect =>
    refine alone_of_not_awaits h ?_
    change (m.disconnect answers).2.presentation.awaits = false
    rw [disconnect_snd]
    exact awaits_disconnectLocal
  | disconnectLocal => exact alone_of_not_awaits h awaits_disconnectLocal

end AuthMachine

/-- All sessions of a run are coherent exactly if all of its calls are guarded. -/
theorem AuthMachine.coherent_iff_guarded (clientId : String) (store : Option TwitchCredentials)
    (calls : List Call) :
    (∀ begun, begun <+: calls → ∀ m, run step (new clientId store) begun = some m → m.Coherent) ↔
      Along step Guarded (new clientId store) calls := by
  have hnew : (new clientId store).Alone := fun hsome => nomatch hsome
  refine (along_iff_forall_reached (I := Alone) ?_ ?_ ?_ hnew (coherent_new clientId store) calls).symm
  · rintro s call _ halone - h ⟨⟩
    exact alone_call halone call h
  · rintro s call _ halone h ⟨⟩
    exact coherent_call_iff h halone call
  · exact fun s call hnone => absurd hnone (Option.some_ne_none _)

/-- The user cancels while the session is connected: it is shown as disconnected with its credentials;
and a second authorization that fails is shown while the first one is still polled. -/
theorem AuthMachine.incoherent :
    (∃ m credentials, run step
        (new "client" (TwitchCredentials.new "access" "refresh" 1).toOption)
        [{ operation := .restore
           answers := { validation := .ok ⟨"client", "login", "1", requiredScopes, 3600⟩ } },
          { operation := .cancel }] = some m ∧
      m.presentation = .disconnected ∧ m.credentials = some credentials) ∧
    ∃ m pending, run step (new "client" none)
        [{ operation := .begin, answers := { grant := .ok ⟨"device", "code", "uri", 600, 5⟩ } },
          { operation := .begin, now := fromSecs 1 }] = some m ∧
      m.presentation = .failed .connection ∧ m.pending = some pending :=
  ⟨⟨_, _, rfl, rfl, rfl⟩, _, _, rfl, rfl, rfl⟩

end OverCrow.Twitch
