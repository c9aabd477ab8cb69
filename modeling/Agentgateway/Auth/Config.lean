import Agentgateway.Time

/-!
# Configuration and errors of the web login

`auth/config.rs` and `auth/error.rs`: the session settings and their defaults, the file provider's
users, and the login errors with their HTTP statuses.
-/

namespace Agentgateway.Auth

/-- `SameSitePolicy`. -/
inductive SameSitePolicy where
  | strict
  | lax
  | none
  deriving DecidableEq, Repr

/-- `SessionConfig`. -/
structure SessionConfig where
  /-- `cookie_name`. -/
  cookieName : String
  /-- `max_age`: how long a new or refreshed session lasts. -/
  maxAge : Duration
  /-- `secure`. -/
  secure : Bool
  /-- `same_site`. -/
  sameSite : SameSitePolicy
  /-- `http_only`. -/
  httpOnly : Bool
  /-- `domain`. -/
  domain : Option String
  /-- `path`. -/
  path : String
  /-- `secret_key`, from which the HS256 keys are made. -/
  secretKey : String
  /-- `refresh_threshold`: a session this close to its expiry is refreshed. -/
  refreshThreshold : Duration
  deriving DecidableEq

/-- `SessionConfig::default`: eight hours, refreshed in the last thirty minutes. -/
def SessionConfig.default : SessionConfig where
  cookieName := "agentgateway_session"
  maxAge := Duration.fromSecs (8 * 60 * 60)
  secure := true
  sameSite := .lax
  httpOnly := true
  domain := none
  path := "/"
  secretKey := "change-me-in-production"
  refreshThreshold := Duration.fromSecs (30 * 60)

/-- `FileUser`. -/
structure FileUser where
  /-- `username`. -/
  username : String
  /-- `password_hash`, a bcrypt hash. -/
  passwordHash : String
  /-- `email`. -/
  email : Option String
  /-- `roles`. -/
  roles : List String
  /-- `enabled`. -/
  enabled : Bool
  deriving DecidableEq, Repr

/-- `UserConfig`. -/
inductive UserConfig where
  | file (users : List FileUser)
  | database (connectionString : String)
  deriving DecidableEq, Repr

/-- The user of `UserConfig::default`. The source comments its hash as that of `admin`, but
`bcrypt::verify` rejects `admin` against it. -/
def FileUser.admin : FileUser where
  username := "admin"
  passwordHash := "$2b$12$LQv3c1yqBWVHxkd0LHAkCOYz6TtxMQJqhN8/LeqZnwHfJpFZqEUhm"
  email := some "admin@example.com"
  roles := ["admin"]
  enabled := true

/-- A bcrypt hash, at cost 12, of the password `admin`. -/
def adminHash : String := "$2b$12$YU1sdysuwdIdWcgZyzjPgOpZGZiw4D8YxdqdPfSKyrIdsTQyG7dge"

/-- The default user with its hash replaced by `adminHash`; to run the model on. -/
def FileUser.adminWithPassword : FileUser := { FileUser.admin with passwordHash := adminHash }

/-- `bcrypt::verify` where the examples call it: `admin` verifies against `adminHash`, and not
against the default user's hash. -/
def verifyAdminHash (password hash : String) : Except String Bool :=
  .ok (password == "admin" && hash == adminHash)

/-- `UserConfig::default`. -/
def UserConfig.default : UserConfig := .file [.admin]

/-- `SecurityConfig`, with the field the middleware reads. -/
structure SecurityConfig where
  /-- `csrf_protection`. -/
  csrfProtection : Bool
  deriving DecidableEq

/-- `SecurityConfig::default`. -/
def SecurityConfig.default : SecurityConfig := ⟨true⟩

/-- `AuthConfig`, with the fields the middleware and the handlers read. -/
structure AuthConfig where
  /-- `enabled`. -/
  enabled : Bool
  /-- `session`. -/
  session : SessionConfig
  /-- `users`. -/
  users : UserConfig
  /-- `security`. -/
  security : SecurityConfig

/-- `AuthConfig::default`: authentication is off. -/
def AuthConfig.default : AuthConfig :=
  ⟨false, .default, .default, .default⟩

/-- `AuthError`. -/
inductive AuthError where
  | invalidCredentials
  | sessionExpired
  | sessionNotFound
  | invalidSession
  | userNotFound
  | userDisabled
  | accountLocked
  | rateLimited
  | csrfError
  | oAuth2Error (message : String)
  | jwtError (message : String)
  | configError (message : String)
  | databaseError (message : String)
  | cryptoError (message : String)
  | networkError (message : String)
  | serializationError (message : String)
  | internalError (message : String)
  deriving DecidableEq, Repr

/-- `AuthError::is_authentication_failure`. -/
def AuthError.isAuthenticationFailure : AuthError → Bool
  | .invalidCredentials | .sessionExpired | .sessionNotFound | .invalidSession | .userNotFound
  | .userDisabled | .accountLocked => true
  | _ => false

/-- `AuthError::status_code`. -/
def AuthError.statusCode : AuthError → BitVec 16
  | .invalidCredentials | .sessionExpired | .sessionNotFound | .invalidSession | .userNotFound
  | .userDisabled | .accountLocked => 401
  | .rateLimited => 429
  | .csrfError => 403
  | _ => 500

end Agentgateway.Auth
