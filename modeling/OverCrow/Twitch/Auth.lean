import Mathlib
import OverCrow.Base.Machine
import OverCrow.Base.Run
import OverCrow.Base.Text

/-!
# Twitch authorization

`AuthMachine` of `crates/overcrow-overlay/src/twitch/auth.rs` with the content of its credential store.
What the provider and the store answer during a call is an argument of it: the answers are arbitrary,
and an operation of the store that fails may have been carried out.
-/

namespace OverCrow.Twitch
open OverCrow.Base

/-- `crates/overcrow-overlay/src/twitch/http.rs:20`. -/
inductive HttpError where
  | invalidUrl
  | invalidRequest
  | transport
  | timeout
  | status (code : Nat)
  | bodyTooLarge
  | providerResponse
  deriving DecidableEq

/-- `crates/overcrow-overlay/src/twitch/model.rs:35`. -/
inductive TwitchFailureCategory where
  | authentication
  | authorizationExpired
  | channelUnavailable
  | connection
  | rateLimited
  | providerResponse
  | credentialStore
  deriving DecidableEq

/-- `crates/overcrow-overlay/src/twitch/credentials.rs:80`. -/
inductive CredentialStoreError where
  | unavailable
  | corrupt
  deriving DecidableEq

/-- `auth.rs:46`. -/
inductive AuthError where
  | clientUnavailable
  | sessionExists
  | invalidCredentials
  | provider (error : HttpError)
  | credentials (error : CredentialStoreError)
  deriving DecidableEq

/-! ### Credentials -/

/-- `credentials.rs:7`. -/
def tokenMaxBytes : Nat := 4 * 1024

/-- `u8::is_ascii_control` and `u8::is_ascii_whitespace`. -/
def isAsciiBlank (c : Char) : Bool := c.toNat ≤ 32 || c.toNat = 127

/-- `credentials.rs:191`. -/
def validToken (token : String) : Bool :=
  !token.isEmpty && token.utf8ByteSize ≤ tokenMaxBytes && !token.toList.any isAsciiBlank

/-- `credentials.rs:12`. -/
structure TwitchCredentials where
  accessToken : String
  refreshToken : String
  expiresAtUnixSecs : Nat
  access_valid : validToken accessToken = true
  refresh_valid : validToken refreshToken = true
  deriving DecidableEq

/-- `credentials.rs:19`. -/
def TwitchCredentials.new (accessToken refreshToken : String) (expiresAtUnixSecs : Nat) :
    Except CredentialStoreError TwitchCredentials :=
  if h : validToken accessToken = true ∧ validToken refreshToken = true ∧ expiresAtUnixSecs ≠ 0 then
    .ok ⟨accessToken, refreshToken, expiresAtUnixSecs, h.1, h.2.1⟩
  else .error .corrupt

/-- `credentials.rs:50`. -/
def TwitchCredentials.setExpiry (credentials : TwitchCredentials) (expiresAtUnixSecs : Nat) :
    TwitchCredentials :=
  { credentials with expiresAtUnixSecs := expiresAtUnixSecs }

/-! ### Answers -/

/-- `http.rs:47`. -/
structure DeviceCodeGrant where
  deviceCode : String
  userCode : String
  verificationUri : String
  expiresInSecs : Nat
  intervalSecs : Nat
  deriving DecidableEq

/-- `http.rs:56`. -/
structure TokenResponse where
  accessToken : String
  refreshToken : String
  expiresInSecs : Nat
  scopes : List String
  deriving DecidableEq

/-- `http.rs:64`. -/
inductive TokenPoll where
  | pending
  | slowDown
  | denied
  | expired
  | authorized (token : TokenResponse)
  deriving DecidableEq

/-- `http.rs:73`. -/
structure TokenValidation where
  clientId : String
  login : String
  userId : String
  scopes : List String
  expiresInSecs : Nat
  deriving DecidableEq

/-- How an operation of the store ends; one that fails may have been carried out. -/
inductive StoreOutcome where
  | done
  | failed (applied : Bool)
  deriving DecidableEq

/-- What the provider and the store answer during a call. -/
structure Answers where
  grant : Except HttpError DeviceCodeGrant := .error .transport
  /-- `validate_verification_uri` on the address of the grant. -/
  uriAccepted : Bool := true
  poll : Except HttpError TokenPoll := .error .transport
  refresh : Except HttpError TokenResponse := .error .transport
  validation : Except HttpError TokenValidation := .error .transport
  revocation : Except HttpError Unit := .ok ()
  /-- Whether the store can be read. -/
  loads : Bool := true
  /-- The save of a refreshed token before it is validated. -/
  earlySave : StoreOutcome := .done
  save : StoreOutcome := .done
  delete : StoreOutcome := .done

/-! ### The machine -/

/-- `auth.rs:24`. -/
inductive AuthPresentation where
  | disconnected
  | awaitingUser (userCode verificationUri : String) (expiresAt : Instant)
  | connected (login userId : String)
  | failed (category : TwitchFailureCategory)
  deriving DecidableEq

/-- `auth.rs:39`. -/
inductive AuthTick where
  | idle
  | changed
  | connected
  deriving DecidableEq

/-- `auth.rs:79`. -/
structure PendingAuthorization where
  deviceCode : String
  expiresAt : Instant
  interval : Duration
  nextPoll : Instant
  deriving DecidableEq

/-- `auth.rs:86`. -/
structure AuthMachine where
  clientId : String
  /-- What the store contains. -/
  store : Option TwitchCredentials
  credentials : Option TwitchCredentials := none
  pending : Option PendingAuthorization := none
  presentation : AuthPresentation := .disconnected
  lastValidatedAt : Option Instant := none
  retryAt : Option Instant := none
  credentialsPersisted : Bool := false
  credentialsNeedPersist : Bool := false
  storeMayContainCredentials : Bool := false
  deriving DecidableEq

/-- `auth.rs:18`. -/
def validationInterval : Duration := fromSecs (60 * 60)

/-- `auth.rs:19`. -/
def retryInterval : Duration := fromSecs 30

/-- `auth.rs:20`. -/
def refreshMarginSecs : Nat := 5 * 60

/-- `auth.rs:21`. -/
def requiredScopes : List String := ["user:read:chat", "user:write:chat"]

/-- `auth.rs:603`. -/
def hasRequiredScopes (scopes : List String) : Bool :=
  scopes.length = requiredScopes.length && requiredScopes.all fun required => scopes.contains required

/-- `validate_identity`, `auth.rs:578`: whether it accepts. -/
def validIdentity (expectedClientId : String) (validation : TokenValidation) : Bool :=
  validation.clientId = expectedClientId &&
  !validation.login.isEmpty && validation.login.utf8ByteSize ≤ 25 &&
  validation.login.toList.all (fun c => isAsciiAlphanumeric c || c = '_') &&
  !validation.userId.isEmpty && validation.userId.utf8ByteSize ≤ 32 &&
  validation.userId.toList.all isAsciiDigit &&
  validation.expiresInSecs ≠ 0 && validation.expiresInSecs ≤ 31536000 &&
  hasRequiredScopes validation.scopes

/-- `auth.rs:570`. -/
def beginFailureCategory : HttpError → TwitchFailureCategory
  | .timeout | .transport => .connection
  | .status 429 => .rateLimited
  | _ => .providerResponse

/-- `auth.rs:610`. -/
def mapValidationError (error : HttpError) : AuthError :=
  if error = .status 401 then .invalidCredentials else .provider error

/-- `auth.rs:618`. -/
def mapRefreshError (error : HttpError) : AuthError :=
  if error = .status 400 ∨ error = .status 401 then .invalidCredentials else .provider error

/-- The category of a failure that is not conclusive,
`auth.rs:545-551`. -/
def softFailureCategory : AuthError → TwitchFailureCategory
  | .credentials _ => .credentialStore
  | .provider .timeout | .provider .transport => .connection
  | _ => .providerResponse

namespace AuthMachine

variable (m : AuthMachine) (answers : Answers) (now : Instant) (nowUnixSecs : Nat)

/-- `auth.rs:100`. -/
def new (clientId : String) (store : Option TwitchCredentials) : AuthMachine :=
  { clientId := clientId, store := store }

/-- `auth.rs:136`. -/
def canConnect : Bool := m.credentials.isSome && m.presentation matches .connected _ _

/-- `auth.rs:132`. -/
def credentialsAvailable : Bool := m.credentials.isSome || m.storeMayContainCredentials

/-- `auth.rs:145`. -/
def accessToken : Option String := m.credentials.map (·.accessToken)

/-- `auth.rs:151`. -/
def authenticatedLogin : Option String :=
  match m.presentation with
  | .connected login _ => some login
  | _ => none

/-- `auth.rs:158`. -/
def authenticatedUserId : Option String :=
  match m.presentation with
  | .connected _ userId => some userId
  | _ => none

/-- `auth.rs:165`. -/
def nextDeadline : Option Instant :=
  match m.pending, m.retryAt, m.credentials with
  | some pending, _, _ => some (min pending.nextPoll pending.expiresAt)
  | none, some retryAt, _ => some retryAt
  | none, none, none => none
  | none, none, some credentials =>
    let validationDeadline :=
      (m.lastValidatedAt.bind fun validated => checkedAddDuration validated validationInterval).getD now
    let secondsUntilRefresh :=
      credentials.expiresAtUnixSecs - saturatingAdd u64Max nowUnixSecs refreshMarginSecs
    some (min validationDeadline
      ((checkedAddDuration now (fromSecs secondsUntilRefresh)).getD validationDeadline))

/-- The content of the store after it is deleted. -/
def deleted : StoreOutcome → Option TwitchCredentials
  | .done => none
  | .failed applied => if applied then none else m.store

/-- `auth.rs:554`. -/
def clearInvalidCredentials (category : TwitchFailureCategory) : AuthMachine :=
  { m with
    store := m.deleted answers.delete
    credentials := none
    pending := none
    lastValidatedAt := none
    retryAt := none
    credentialsPersisted := false
    credentialsNeedPersist := false
    storeMayContainCredentials := !(answers.delete = .done)
    presentation := .failed (if answers.delete = .done then category else .credentialStore) }

/-- `auth.rs:538`. -/
def handleCredentialFailure (error : AuthError) : AuthMachine :=
  if error = .invalidCredentials then m.clearInvalidCredentials answers .authentication
  else
    { m with
      lastValidatedAt := none
      retryAt := checkedAddDuration now retryInterval
      presentation := .failed (softFailureCategory error) }

/-- `auth.rs:525`. -/
def persistCurrentIfNeeded (outcome : StoreOutcome) : AuthMachine :=
  if !m.credentialsNeedPersist then m
  else
    match m.credentials, outcome with
    | some credentials, .done =>
      { m with
        store := some credentials, credentialsPersisted := true, credentialsNeedPersist := false
        storeMayContainCredentials := true }
    | some credentials, .failed applied =>
      { m with
        store := if applied then some credentials else m.store, credentialsPersisted := false
        credentialsNeedPersist := true, storeMayContainCredentials := true }
    | none, _ =>
      { m with
        credentialsPersisted := false, credentialsNeedPersist := true
        storeMayContainCredentials := true }

/-- `auth.rs:492`. -/
def validateCurrent : Except AuthError Unit × AuthMachine :=
  match m.credentials with
  | none => (.error (.provider .providerResponse), m)
  | some credentials =>
    match answers.validation with
    | .error error => (.error (mapValidationError error), m)
    | .ok validation =>
      if !validIdentity m.clientId validation then (.error .invalidCredentials, m)
      else
        match checkedAdd u64Max nowUnixSecs validation.expiresInSecs with
        | none => (.error (.provider .providerResponse), m)
        | some expiry =>
          let m := { m with
            credentials := some (credentials.setExpiry expiry)
            presentation := .connected validation.login validation.userId
            lastValidatedAt := some now
            retryAt := none }
          (.ok (), m.persistCurrentIfNeeded answers.save)

/-- The credentials of a token, or why it is refused: the checks that `accept_token` and `refresh` share,
`auth.rs:448-459,474-481`. -/
def tokenCredentials (token : TokenResponse) : Except AuthError TwitchCredentials :=
  if !hasRequiredScopes token.scopes then .error .invalidCredentials
  else
    match checkedAdd u64Max nowUnixSecs token.expiresInSecs with
    | none => .error (.provider .providerResponse)
    | some expiresAt =>
      match TwitchCredentials.new token.accessToken token.refreshToken expiresAt with
      | .error error => .error (.credentials error)
      | .ok credentials => .ok credentials

/-- New credentials are taken, `auth.rs:454-460,482-484`. -/
def replaced (credentials : TwitchCredentials) : AuthMachine :=
  { m with
    credentials := some credentials, credentialsPersisted := false, credentialsNeedPersist := true }

/-- `auth.rs:440`. -/
def acceptToken (token : TokenResponse) : Except AuthError Unit × AuthMachine :=
  match tokenCredentials nowUnixSecs token with
  | .error error => (.error error, m)
  | .ok credentials => (m.replaced credentials).validateCurrent answers now nowUnixSecs

/-- `auth.rs:463`. -/
def refresh : Except AuthError Unit × AuthMachine :=
  if m.credentials = none then (.error (.provider .providerResponse), m)
  else
    match answers.refresh with
    | .error error => (.error (mapRefreshError error), m)
    | .ok token =>
      match tokenCredentials nowUnixSecs token with
      | .error error => (.error error, m)
      | .ok credentials =>
        ((m.replaced credentials).persistCurrentIfNeeded answers.earlySave).validateCurrent answers now
          nowUnixSecs

/-- A failure is handled where `validate_current`, `accept_token` and `refresh` are called. -/
def handled (outcome : Except AuthError Unit × AuthMachine) : AuthMachine :=
  match outcome with
  | (.ok _, m) => m
  | (.error error, m) => m.handleCredentialFailure answers now error

/-- The deadlines of a grant, `auth.rs:193-224`. -/
def grantPending : Except (HttpError × TwitchFailureCategory) (DeviceCodeGrant × PendingAuthorization) :=
  match answers.grant with
  | .error error => .error (error, beginFailureCategory error)
  | .ok grant =>
    if !answers.uriAccepted then .error (.invalidUrl, beginFailureCategory .invalidUrl)
    else
      match checkedAddDuration now (fromSecs grant.expiresInSecs),
        checkedAddDuration now (fromSecs (max 1 (min grant.intervalSecs 60))) with
      | some expiresAt, some nextPoll =>
        .ok (grant, {
          deviceCode := grant.deviceCode, expiresAt := expiresAt
          interval := fromSecs (max 1 (min grant.intervalSecs 60)), nextPoll := nextPoll })
      | _, _ => .error (.providerResponse, .providerResponse)

/-- `auth.rs:186`. -/
def begin : Except AuthError Unit × AuthMachine :=
  if m.clientId.isEmpty then (.error .clientUnavailable, m)
  else if m.credentials.isSome || m.storeMayContainCredentials then (.error .sessionExists, m)
  else
    match grantPending answers now with
    | .error (error, category) => (.error (.provider error), { m with presentation := .failed category })
    | .ok (grant, pending) =>
      (.ok (), { m with
        credentials := none
        pending := some pending
        presentation := .awaitingUser grant.userCode grant.verificationUri pending.expiresAt
        lastValidatedAt := none
        retryAt := none
        credentialsPersisted := false
        credentialsNeedPersist := false })

/-- `auth.rs:246`. -/
def cancel : AuthMachine := { m with pending := none, presentation := .disconnected }

/-- `auth.rs:251`. -/
def cancelPending : AuthMachine := if m.pending.isSome then m.cancel else m

/-- Credentials of the store are taken, `auth.rs:283-287`. -/
def loaded (credentials : TwitchCredentials) : AuthMachine :=
  { m with
    credentials := some credentials
    credentialsPersisted := true
    credentialsNeedPersist := false
    storeMayContainCredentials := true
    retryAt := none }

/-- `auth.rs:261`. -/
def restore : AuthTick × AuthMachine :=
  if !answers.loads then
    (.changed, { m with
      storeMayContainCredentials := true
      retryAt := checkedAddDuration now retryInterval
      presentation := .failed .credentialStore })
  else
    match m.store with
    | none =>
      (.idle, { m with
        storeMayContainCredentials := false, retryAt := none, presentation := .disconnected })
    | some credentials =>
      let outcome := (m.loaded credentials).validateCurrent answers now nowUnixSecs
      (if outcome.1 matches .ok _ then .connected else .changed, handled answers now outcome)

/-- `auth.rs:373`. -/
def tickPending (pending : PendingAuthorization) : AuthTick × AuthMachine :=
  let pollAgain (pending : PendingAuthorization) : AuthTick × AuthMachine :=
    (.changed, { m with
      pending := some { pending with
        nextPoll := (checkedAddDuration now pending.interval).getD pending.expiresAt } })
  let failed (category : TwitchFailureCategory) : AuthTick × AuthMachine :=
    (.changed, { m with pending := none, presentation := .failed category })
  if pending.expiresAt ≤ now then failed .authorizationExpired
  else if now < pending.nextPoll then (.idle, m)
  else
    match answers.poll with
    | .ok .pending | .error _ => pollAgain pending
    | .ok .slowDown =>
      pollAgain { pending with interval := min (pending.interval + fromSecs 5) (fromSecs 60) }
    | .ok .denied => failed .authentication
    | .ok .expired => failed .authorizationExpired
    | .ok (.authorized token) =>
      let outcome := { m with pending := none }.acceptToken answers now nowUnixSecs token
      (if outcome.1 matches .ok _ then .connected else .changed, handled answers now outcome)

/-- A retry is not due yet. -/
def waits : Bool := m.retryAt.any (now < ·)

/-- `auth.rs:298`. -/
def tick : AuthTick × AuthMachine :=
  match m.pending with
  | some pending => m.tickPending answers now nowUnixSecs pending
  | none =>
    match m.credentials with
    | none =>
      if m.storeMayContainCredentials && !m.waits now then m.restore answers now nowUnixSecs
      else (.idle, m)
    | some credentials =>
      if m.waits now then (.idle, m)
      else if credentials.expiresAtUnixSecs ≤ saturatingAdd u64Max nowUnixSecs refreshMarginSecs then
        (.changed, handled answers now (m.refresh answers now nowUnixSecs))
      else
        let due := match m.lastValidatedAt.bind (checkedDurationSince now) with
          | none => true
          | some elapsed => validationInterval ≤ elapsed
        if !due then (.idle, m)
        else (.changed, handled answers now (m.validateCurrent answers now nowUnixSecs))

/-- `auth.rs:352`, with `clear_local_session`. -/
def disconnectLocal : Except AuthError Unit × AuthMachine :=
  match answers.delete with
  | .failed _ =>
    (.error (.credentials .unavailable), { m with
      store := m.deleted answers.delete
      pending := none
      storeMayContainCredentials := true
      presentation := .failed .credentialStore
      lastValidatedAt := none
      retryAt := none })
  | .done =>
    (.ok (), { m with
      store := m.deleted answers.delete
      pending := none
      credentials := none
      lastValidatedAt := none
      retryAt := none
      credentialsPersisted := false
      credentialsNeedPersist := false
      storeMayContainCredentials := false
      presentation := .disconnected })

/-- `auth.rs:338`. -/
def disconnect : Except AuthError Unit × AuthMachine :=
  let revoked : Except AuthError Unit := match m.credentials, answers.revocation with
    | some _, .error error => .error (.provider error)
    | _, _ => .ok ()
  match m.disconnectLocal answers with
  | (.error error, m) => (.error error, m)
  | (.ok _, m) => (revoked, m)

/-! ### Calls -/

/-- The operations of the machine. -/
inductive Operation where
  | begin
  | cancel
  | cancelPending
  | invalidate (category : TwitchFailureCategory)
  | restore
  | tick
  | disconnect
  | disconnectLocal
  deriving DecidableEq

/-- An operation with its times and what is answered during it. -/
structure Call where
  operation : Operation
  answers : Answers := {}
  now : Instant := 0
  nowUnixSecs : Nat := 0

/-- The machine after a call. -/
def call (call : Call) : AuthMachine :=
  match call.operation with
  | .begin => (m.begin call.answers call.now).2
  | .cancel => m.cancel
  | .cancelPending => m.cancelPending
  | .invalidate category => m.clearInvalidCredentials call.answers category
  | .restore => (m.restore call.answers call.now call.nowUnixSecs).2
  | .tick => (m.tick call.answers call.now call.nowUnixSecs).2
  | .disconnect => (m.disconnect call.answers).2
  | .disconnectLocal => (m.disconnectLocal call.answers).2

/-- Calls are always possible. -/
def step (m : AuthMachine) (call : Call) : Option AuthMachine := some (m.call call)

end AuthMachine

end OverCrow.Twitch
