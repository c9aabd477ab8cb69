import Agentgateway.Auth.Config
import Agentgateway.Auth.Jwt

/-!
# Sessions

`auth/session.rs`: sessions, their token claims, and the session manager. The clock and the random
generator are arguments.
-/

namespace Agentgateway.Auth

open Outcome

/-- `AuthMethod`. -/
inductive AuthMethod where
  | traditional
  | oAuth2 (provider : String)
  deriving DecidableEq, Repr

/-- `UserSession`. -/
structure UserSession where
  /-- `session_id`. -/
  sessionId : String
  /-- `user_id`. -/
  userId : String
  /-- `username`. -/
  username : String
  /-- `email`. -/
  email : Option String
  /-- `roles`. -/
  roles : List String
  /-- `auth_method`. -/
  authMethod : AuthMethod
  /-- `created_at`. -/
  createdAt : SystemTime
  /-- `last_accessed`. -/
  lastAccessed : SystemTime
  /-- `expires_at`. -/
  expiresAt : SystemTime
  /-- `csrf_token`. -/
  csrfToken : String
  /-- `metadata`, a `HashMap` given by its entries. -/
  metadata : List (String × String)
  deriving DecidableEq

/-- `SessionClaims`, the payload of a session token. -/
structure SessionClaims where
  /-- `sub`: the session id. -/
  sub : String
  /-- `iat`: the second the token was made. -/
  iat : BitVec 64
  /-- `exp`: the second the session expires. -/
  exp : BitVec 64
  /-- `user_id`. -/
  userId : String
  /-- `username`. -/
  username : String
  /-- `email`. -/
  email : Option String
  /-- `roles`. -/
  roles : List String
  /-- `auth_method`. -/
  authMethod : AuthMethod
  /-- `csrf_token`. -/
  csrfToken : String
  /-- `metadata`. -/
  metadata : List (String × String)
  deriving DecidableEq

instance encodableAuthMethod : Encodable AuthMethod :=
  Encodable.ofLeftInjection (fun | .traditional => none | .oAuth2 p => some p)
    (fun o => some (o.elim .traditional .oAuth2)) (by rintro (_ | _) <;> rfl)

instance encodableSessionClaims : Encodable SessionClaims :=
  Encodable.ofLeftInjection
    (fun c => (c.sub, c.iat, c.exp, c.userId, c.username, c.email, c.roles, c.authMethod,
      c.csrfToken, c.metadata))
    (fun ⟨sub, iat, exp, userId, username, email, roles, authMethod, csrfToken, metadata⟩ =>
      some ⟨sub, iat, exp, userId, username, email, roles, authMethod, csrfToken, metadata⟩)
    fun _ => rfl

/-- The claims `create_session` signs for a session: its fields, with the given seconds. -/
def SessionClaims.ofSession (s : UserSession) (iat exp : BitVec 64) : SessionClaims :=
  { sub := s.sessionId, iat, exp, userId := s.userId, username := s.username, email := s.email
    roles := s.roles, authMethod := s.authMethod, csrfToken := s.csrfToken, metadata := s.metadata }

/-- The session `validate_session` builds from verified claims and the instants it computed. -/
def UserSession.ofClaims (c : SessionClaims) (createdAt lastAccessed expiresAt : SystemTime) :
    UserSession :=
  { sessionId := c.sub, userId := c.userId, username := c.username, email := c.email
    roles := c.roles, authMethod := c.authMethod, createdAt, lastAccessed, expiresAt
    csrfToken := c.csrfToken, metadata := c.metadata }

/-- A session read back from its own claims differs from it only in its three instants. -/
@[simp] theorem UserSession.ofClaims_ofSession (s : UserSession) (iat exp : BitVec 64)
    (createdAt lastAccessed expiresAt : SystemTime) :
    UserSession.ofClaims (SessionClaims.ofSession s iat exp) createdAt lastAccessed expiresAt =
      { s with createdAt, lastAccessed, expiresAt } :=
  rfl

/-- What `generate_csrf_token` returns: thirty-two ASCII letters and digits. -/
structure CsrfToken where
  /-- The token. -/
  value : String
  /-- It has thirty-two characters. -/
  length_eq : value.length = 32
  /-- Each is an ASCII letter or digit. -/
  alphanumeric : ∀ c ∈ value.data, c.isAlphanum = true

/-- `SessionManager`: the configuration, the HS256 codec of its secret, and the validation. -/
structure SessionManager where
  /-- `config`. -/
  config : SessionConfig
  /-- `encoding_key` and `decoding_key`, both from `config.secret_key`. -/
  jwt : Jwt SessionClaims
  /-- `validation`. -/
  validation : Validation

namespace SessionManager

/-- `SessionManager::new`, where `jwt` signs and checks with the key of `config.secret_key`. -/
def new (config : SessionConfig) (jwt : Jwt SessionClaims) : Outcome AuthError SessionManager :=
  ok { config, jwt, validation := { Validation.new with validateExp := true, leeway := 60 } }

/-- `t.duration_since(UNIX_EPOCH)` in whole seconds, an internal error before the epoch. -/
def secsSinceEpoch (t : SystemTime) : Outcome AuthError (BitVec 64) := do
  let d ← (ofExcept (t.durationSince SystemTime.unixEpoch)).mapErr .internalError
  pure d.asSecs

/-- `SessionManager::create_session`. -/
def createSession (m : SessionManager) (s : UserSession) (now : SystemTime) :
    Outcome AuthError String := do
  let nowTimestamp ← secsSinceEpoch now
  let expTimestamp ← secsSinceEpoch s.expiresAt
  pure (m.jwt.encode (SessionClaims.ofSession s nowTimestamp expTimestamp))

/-- `SessionManager::validate_session`. -/
def validateSession (m : SessionManager) (token : String) (now : SystemTime) :
    Outcome AuthError UserSession := do
  let claims ← (decode m.jwt SessionClaims.exp token m.validation now).mapErr .jwtError
  let createdAt ← SystemTime.unixEpoch.add (Duration.fromSecs claims.iat)
  let expiresAt ← SystemTime.unixEpoch.add (Duration.fromSecs claims.exp)
  if expiresAt ≤ now then err .sessionExpired
  else pure (UserSession.ofClaims claims createdAt now expiresAt)

/-- `SessionManager::refresh_session`, where `fresh` is what `generate_csrf_token` returns. -/
def refreshSession (m : SessionManager) (s : UserSession) (now : SystemTime) (fresh : CsrfToken) :
    Outcome AuthError (UserSession × String) := do
  let timeUntilExpiry ← (ofExcept (s.expiresAt.durationSince now)).mapErr fun _ => .sessionExpired
  if m.config.refreshThreshold < timeUntilExpiry then pure (s, "")
  else
    let expiresAt ← now.add m.config.maxAge
    let newSession := { s with lastAccessed := now, expiresAt, csrfToken := fresh.value }
    let token ← m.createSession newSession now
    pure (newSession, token)

/-- `SessionManager::validate_csrf_token`. -/
def validateCsrfToken (s : UserSession) (providedToken : String) : Bool :=
  s.csrfToken == providedToken

end SessionManager

/-! ## Cookies -/

/-- `cookie::SameSite`. -/
inductive SameSite where
  | strict
  | lax
  | none
  deriving DecidableEq, Repr

/-- A cookie as `Cookie::build` leaves it: the attributes that were set. -/
structure Cookie where
  /-- The name. -/
  name : String
  /-- The value. -/
  value : String
  /-- `Path`. -/
  path : Option String
  /-- `Max-Age`, in seconds. -/
  maxAge : Option Int
  /-- `HttpOnly`. -/
  httpOnly : Option Bool
  /-- `Secure`. -/
  secure : Option Bool
  /-- `SameSite`. -/
  sameSite : Option SameSite
  /-- `Domain`. -/
  domain : Option String
  deriving DecidableEq

namespace SessionManager

/-- `SessionManager::create_session_cookie`: `max_age` in whole seconds, taken `as i64`. -/
def createSessionCookie (m : SessionManager) (token : String) : Cookie where
  name := m.config.cookieName
  value := token
  path := some m.config.path
  maxAge := some m.config.maxAge.asSecs.toInt
  httpOnly := some m.config.httpOnly
  secure := some m.config.secure
  sameSite := some (match m.config.sameSite with
    | .strict => .strict
    | .lax => .lax
    | .none => .none)
  domain := m.config.domain

/-- `SessionManager::create_logout_cookie`: the session cookie emptied, with no age left. -/
def createLogoutCookie (m : SessionManager) : Cookie where
  name := m.config.cookieName
  value := ""
  path := some m.config.path
  maxAge := some 0
  httpOnly := some m.config.httpOnly
  secure := some m.config.secure
  sameSite := none
  domain := m.config.domain

end SessionManager

/-! ## Sessions of a user -/

namespace UserSession

/-- `UserSession::new`, at `now`, with the generated `session_id` and CSRF token. -/
def new {ε : Type} (userId username : String) (email : Option String) (roles : List String)
    (authMethod : AuthMethod) (sessionDuration : Duration) (now : SystemTime) (sessionId : String)
    (csrf : CsrfToken) : Outcome ε UserSession := do
  let expiresAt ← now.add sessionDuration
  pure { sessionId, userId, username, email, roles, authMethod, createdAt := now
         lastAccessed := now, expiresAt, csrfToken := csrf.value, metadata := [] }

/-- A new session starts now, lasts `session_duration`, and carries the generated id and CSRF
token; it panics when its expiry is past the last instant. -/
theorem new_eq_ok {ε : Type} {userId username : String} {email : Option String}
    {roles : List String} {authMethod : AuthMethod} {sessionDuration : Duration}
    {now : SystemTime} {sessionId : String} {csrf : CsrfToken} {s : UserSession} :
    (UserSession.new userId username email roles authMethod sessionDuration now sessionId csrf :
        Outcome ε UserSession) = ok s ↔
      ∃ expiresAt, (now.add sessionDuration : Outcome ε SystemTime) = ok expiresAt ∧
        s = { sessionId, userId, username, email, roles, authMethod, createdAt := now
              lastAccessed := now, expiresAt, csrfToken := csrf.value, metadata := [] } := by
  simp only [UserSession.new, bind_eq_ok, pure_eq, ok.injEq]
  exact exists_congr fun _ => and_congr_right fun _ => eq_comm

/-- `UserSession::has_role`. -/
def hasRole (s : UserSession) (role : String) : Bool := s.roles.contains role

/-- `UserSession::has_any_role`. -/
def hasAnyRole (s : UserSession) (roles : List String) : Bool := roles.any s.hasRole

/-- `UserSession::is_expired`. -/
def isExpired (s : UserSession) (now : SystemTime) : Bool := decide (s.expiresAt ≤ now)

/-- `UserSession::is_admin`. -/
def isAdmin (s : UserSession) : Bool := s.hasRole "admin"

end UserSession

/-! ## Sessions to run the model on -/

/-- A session of the default `admin` user, created and last accessed at the epoch. -/
def UserSession.admin (expiresAt : SystemTime) (csrfToken : String) : UserSession :=
  { sessionId := "session", userId := "admin", username := "admin"
    email := some "admin@example.com", roles := ["admin"], authMethod := .traditional
    createdAt := SystemTime.unixEpoch, lastAccessed := SystemTime.unixEpoch, expiresAt, csrfToken
    metadata := [] }

/-- A token `generate_csrf_token` can return. -/
def CsrfToken.sample : CsrfToken := ⟨"abcdefghijklmnopqrstuvwxyzABCDEF", by decide, by decide⟩

end Agentgateway.Auth
