import Agentgateway.Auth.Session

/-!
# Users and the authentication service

`auth/providers.rs` and `auth/mod.rs`: the file provider, which checks a password against the
first enabled user of the name, the database provider, which turns everyone away, and
`AuthService::new`.
-/

namespace Agentgateway.Auth

open Outcome

/-- `User`, with the fields the handlers read. -/
structure User where
  /-- `id`. -/
  id : String
  /-- `username`. -/
  username : String
  /-- `email`. -/
  email : Option String
  /-- `roles`. -/
  roles : List String
  /-- `enabled`. -/
  enabled : Bool
  deriving DecidableEq

/-- `UserProvider`, with the two methods the login handler calls. -/
structure UserProvider where
  /-- `authenticate_user(username, password)`. -/
  authenticateUser : String → String → Outcome AuthError User
  /-- `update_last_login(user_id)`. -/
  updateLastLogin : String → Outcome AuthError Unit

namespace FileUserProvider

/-- `FileUserProvider::file_user_to_user`. -/
def fileUserToUser (fileUser : FileUser) : User :=
  { id := fileUser.username, username := fileUser.username, email := fileUser.email
    roles := fileUser.roles, enabled := fileUser.enabled }

/-- `FileUserProvider::authenticate_user`, where `verify` is `bcrypt::verify` with the text of its
error. -/
def authenticateUser (users : List FileUser) (verify : String → String → Except String Bool)
    (username password : String) : Outcome AuthError User := do
  let fileUser ← okOr (users.find? fun u => u.username == username && u.enabled)
    .invalidCredentials
  let verified ← (ofExcept (verify password fileUser.passwordHash)).mapErr .cryptoError
  if verified then pure (fileUserToUser fileUser) else err .invalidCredentials

/-- `FileUserProvider::get_user_by_id`: the first user of that name, enabled or not. -/
def getUserById (users : List FileUser) (userId : String) : Outcome AuthError User := do
  let fileUser ← okOr (users.find? fun u => u.username == userId) .userNotFound
  pure (fileUserToUser fileUser)

/-- `FileUserProvider::get_user_by_username`. -/
def getUserByUsername (users : List FileUser) (username : String) : Outcome AuthError User :=
  getUserById users username

/-- `FileUserProvider::is_user_enabled`: the flag of the first user of that name. -/
def isUserEnabled (users : List FileUser) (userId : String) : Outcome AuthError Bool := do
  let fileUser ← okOr (users.find? fun u => u.username == userId) .userNotFound
  pure fileUser.enabled

/-- `FileUserProvider::new(users)`. -/
def new (users : List FileUser) (verify : String → String → Except String Bool) :
    UserProvider where
  authenticateUser := authenticateUser users verify
  updateLastLogin _ := ok ()

/-- An `admin` whose password is `admin` behind a disabled record of the same name, with no email
and the `viewer` role; to run the model on. -/
def usersWithDisabledDuplicate : List FileUser :=
  [{ FileUser.adminWithPassword with email := none, roles := ["viewer"], enabled := false },
    .adminWithPassword]

section Lookups

variable {users : List FileUser} {verify : String → String → Except String Bool}
  {username password : String} {user : User}

/-- A disabled `admin` ahead of the default one splits the lookups: `authenticate_user` skips it
and lets the enabled `admin` in, while `get_user_by_id` reads the disabled record, with its other
roles and email, and `is_user_enabled` says `false`. -/
theorem authenticateUser_skips_disabled_duplicate :
    ∃ user user',
      authenticateUser usersWithDisabledDuplicate verifyAdminHash "admin" "admin" = ok user ∧
      getUserById usersWithDisabledDuplicate "admin" = ok user' ∧
      isUserEnabled usersWithDisabledDuplicate "admin" = ok false ∧
      user.roles ≠ user'.roles ∧ user.email ≠ user'.email ∧ user.enabled ≠ user'.enabled :=
  ⟨_, _, rfl, rfl, rfl, by decide, by decide, by decide⟩

end Lookups

end FileUserProvider

/-- `DatabaseUserProvider`, which authenticates no one. -/
def DatabaseUserProvider.new : UserProvider where
  authenticateUser _ _ := err (.internalError "Database provider not implemented")
  updateLastLogin _ := ok ()

/-- `AuthService`, without its OAuth2 providers. -/
structure AuthService where
  /-- `session_manager`. -/
  sessionManager : SessionManager
  /-- `user_provider`. -/
  userProvider : UserProvider
  /-- `config`. -/
  config : AuthConfig

/-- `AuthService::new`, where `jwt` is the HS256 codec of `config.session.secret_key` and
`verify` is `bcrypt::verify`. -/
def AuthService.new (config : AuthConfig) (jwt : Jwt SessionClaims)
    (verify : String → String → Except String Bool) : Outcome AuthError AuthService := do
  let sessionManager ← SessionManager.new config.session jwt
  let userProvider := match config.users with
    | .file users => FileUserProvider.new users verify
    | .database _ => DatabaseUserProvider.new
  pure { sessionManager, userProvider, config }

/-- The service's session manager runs on the service's session settings. -/
theorem AuthService.new_sessionManager {config : AuthConfig} {jwt : Jwt SessionClaims}
    {verify : String → String → Except String Bool} {svc : AuthService}
    (made : AuthService.new config jwt verify = ok svc) :
    SessionManager.new config.session jwt = ok svc.sessionManager ∧ svc.config = config := by
  obtain rfl := (ok.inj made).symm
  exact ⟨rfl, rfl⟩

/-- The service `AuthService::new` builds from the default configuration with authentication on,
where `bcrypt::verify` rejects every password it is given; to run the model on. -/
def AuthService.enabledDefault : AuthService where
  sessionManager := ⟨SessionConfig.default, Jwt.unary SessionClaims, ⟨60, true⟩⟩
  userProvider := FileUserProvider.new [.admin] fun _ _ => .ok false
  config := { AuthConfig.default with enabled := true }

/-- The service `AuthService::new` builds with authentication on and the one user
`FileUser.adminWithPassword`, whose password is `admin`; to run the model on. -/
def AuthService.adminPassword : AuthService where
  sessionManager := ⟨SessionConfig.default, Jwt.unary SessionClaims, ⟨60, true⟩⟩
  userProvider := FileUserProvider.new [.adminWithPassword] verifyAdminHash
  config := { AuthConfig.default with enabled := true, users := .file [.adminWithPassword] }

/-- `AuthService::new` builds `AuthService.enabledDefault`. -/
theorem AuthService.new_enabledDefault :
    AuthService.new { AuthConfig.default with enabled := true } (Jwt.unary SessionClaims)
      (fun _ _ => .ok false) = ok AuthService.enabledDefault := rfl

/-- `AuthService::new` builds `AuthService.adminPassword`. -/
theorem AuthService.new_adminPassword :
    AuthService.new { AuthConfig.default with enabled := true, users := .file [.adminWithPassword] }
      (Jwt.unary SessionClaims) verifyAdminHash = ok AuthService.adminPassword := rfl

end Agentgateway.Auth
