import OverCrow.Base.Machine
import OverCrow.Base.Text

/-!
# Discord authorization

`crates/overcrow-overlay/src/discord/auth.rs` with the credentials of
`crates/overcrow-overlay/src/discord/credentials.rs`. The credential store and the OAuth
broker are given by the results of their calls.
-/

namespace OverCrow.Discord
open OverCrow.Base

/-- `credentials.rs:76`. -/
inductive CredentialStoreError where
  | unavailable
  | corrupt
  deriving DecidableEq

/-- `crates/overcrow-overlay/src/discord/oauth.rs:15`. -/
inductive OauthError where
  | invalidRequest
  | transport
  | timeout
  | status (code : Nat)
  | bodyTooLarge
  | invalidResponse
  | unauthorized
  deriving DecidableEq

/-- `auth.rs:18`. -/
inductive AuthError where
  | authorizationExpired
  | credentialStore (error : CredentialStoreError)
  | oauth (error : OauthError)
  deriving DecidableEq

/-- `credentials.rs:7`. -/
def tokenMaxBytes : Nat := 4 * 1024

/-- `credentials.rs:190`: nonempty, bounded,
and free of ASCII control characters and white space. -/
def validToken (token : String) : Bool :=
  !token.isEmpty && token.utf8ByteSize ≤ tokenMaxBytes &&
    token.toList.all fun c => !(c.toNat ≤ 0x20 || c.toNat == 0x7f)

/-- `credentials.rs:12`. -/
structure DiscordCredentials where
  accessToken : String
  refreshToken : String
  expiresAtUnixSecs : Nat
  validAccess : validToken accessToken = true
  validRefresh : validToken refreshToken = true
  expires : expiresAtUnixSecs ≠ 0
  deriving DecidableEq

/-- `credentials.rs:19`. -/
def DiscordCredentials.new (accessToken refreshToken : String) (expiresAtUnixSecs : Nat) :
    Except CredentialStoreError DiscordCredentials :=
  if h : validToken accessToken = true ∧ validToken refreshToken = true ∧ expiresAtUnixSecs ≠ 0 then
    .ok ⟨accessToken, refreshToken, expiresAtUnixSecs, h.1, h.2.1, h.2.2⟩
  else .error .corrupt

/-- `oauth.rs:46`. -/
structure TokenResponse where
  accessToken : String
  refreshToken : String
  expiresInSecs : Nat
  deriving DecidableEq

/-- The results of the store's and the broker's calls while one event is handled. Handling an
event makes each of these calls at most once. -/
structure AuthServices where
  exchange : String → Except OauthError TokenResponse
  refresh : String → Except OauthError TokenResponse
  save : DiscordCredentials → Except CredentialStoreError Unit
  delete : Except CredentialStoreError Unit

/-- `auth.rs:9`. -/
def refreshMarginSecs : Nat := 5 * 60

/-- `auth.rs:48`. -/
structure DiscordAuth where
  credentials : Option DiscordCredentials := none
  persisted : Bool := false
  deriving DecidableEq

namespace DiscordAuth

/-- `auth.rs:125`. -/
def accessToken (auth : DiscordAuth) : Option String :=
  auth.credentials.map DiscordCredentials.accessToken

/-- `auth.rs:149`. -/
def installResponse (auth : DiscordAuth) (services : AuthServices) (response : TokenResponse)
    (nowUnixSecs : Nat) : Except AuthError Unit × DiscordAuth :=
  match checkedAdd u64Max nowUnixSecs response.expiresInSecs with
  | none => (.error (.oauth .invalidResponse), auth)
  | some expiresAt =>
    match DiscordCredentials.new response.accessToken response.refreshToken expiresAt with
    | .error error => (.error (.credentialStore error), auth)
    | .ok credentials =>
      (.ok (), { credentials := some credentials, persisted := (services.save credentials).isOk })

/-- `auth.rs:69`. -/
def authorize (auth : DiscordAuth) (services : AuthServices) (code : String)
    (nowUnixSecs : Nat) : Except AuthError Unit × DiscordAuth :=
  match services.exchange code with
  | .error error => (.error (.oauth error), auth)
  | .ok response => auth.installResponse services response nowUnixSecs

/-- `auth.rs:135`. -/
def refresh (auth : DiscordAuth) (services : AuthServices) (nowUnixSecs : Nat) :
    Except AuthError Unit × DiscordAuth :=
  match auth.credentials with
  | none => (.error .authorizationExpired, auth)
  | some credentials =>
    match services.refresh credentials.refreshToken with
    | .error error => (.error (.oauth error), auth)
    | .ok response => auth.installResponse services response nowUnixSecs

/-- `auth.rs:79`. -/
def refreshIfNeeded (auth : DiscordAuth) (services : AuthServices) (nowUnixSecs : Nat) :
    Except AuthError Unit × DiscordAuth :=
  match auth.credentials with
  | none => (.error .authorizationExpired, auth)
  | some credentials =>
    if saturatingAdd u64Max nowUnixSecs refreshMarginSecs < credentials.expiresAtUnixSecs then
      (.ok (), auth)
    else auth.refresh services nowUnixSecs

/-- `auth.rs:118`, which is also
what `sign_out` does after it asked the broker to revoke the token. -/
def invalidate (auth : DiscordAuth) (services : AuthServices) :
    Except AuthError Unit × DiscordAuth :=
  match services.delete with
  | .error error => (.error (.credentialStore error), auth)
  | .ok () => (.ok (), {})

/-- `auth.rs:94`. -/
def refreshAfterRejection (auth : DiscordAuth) (services : AuthServices) (nowUnixSecs : Nat) :
    Except AuthError Unit × DiscordAuth :=
  match auth.refresh services nowUnixSecs with
  | (.error (.oauth .unauthorized), auth) =>
    match auth.invalidate services with
    | (.error error, auth) => (.error error, auth)
    | (.ok (), auth) => (.error .authorizationExpired, auth)
  | result => result

end DiscordAuth

end OverCrow.Discord
