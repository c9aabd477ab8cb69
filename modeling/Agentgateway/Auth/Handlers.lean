import Agentgateway.Auth.Tokens
import Agentgateway.Auth.Middleware

/-!
# The login handlers

`auth/handlers.rs`: the login page, the login submission with its CSRF comparison, logout and the
user-info endpoint. A page is what it leads to; its HTML is left out.
-/

namespace Agentgateway.Auth

open Outcome

/-- `LoginRequest`. -/
structure LoginRequest where
  /-- `username`. -/
  username : String
  /-- `password`. -/
  password : String
  /-- `csrf_token`. -/
  csrfToken : Option String

/-- `LoginResponse`. -/
structure LoginResponse where
  /-- `success`. -/
  success : Bool
  /-- `message`. -/
  message : String
  /-- `csrf_token`. -/
  csrfToken : Option String
  /-- `redirect_url`. -/
  redirectUrl : Option String
  deriving DecidableEq

/-- A `LoginResponse` that turns the login down with `message`. -/
def LoginResponse.failure (message : String) : LoginResponse :=
  { success := false, message, csrfToken := none, redirectUrl := none }

/-- The page `handle_login_page` returns: the script that sends a logged-in user home, or the
login form with its hidden CSRF token. -/
inductive LoginPage where
  | redirectHome
  | form (csrfToken : String)
  deriving DecidableEq

/-- The `csrf_token` cookie of the login page: path `/`, HTTP only, for ten minutes. -/
def csrfCookie (svc : AuthService) (csrfToken : String) : Cookie where
  name := "csrf_token"
  value := csrfToken
  path := some "/"
  maxAge := some 600
  httpOnly := some true
  secure := some svc.config.session.secure
  sameSite := none
  domain := none

/-- `handle_login_page`, at `now`, where `csrf` is what `generate_csrf_token` returns. -/
def handleLoginPage (svc : AuthService) (cookies : Cookies) (now : SystemTime)
    (csrf : CsrfToken) : Outcome Empty (LoginPage × Cookies) :=
  match cookies.get svc.config.session.cookieName with
  | some sessionCookie =>
    match svc.sessionManager.validateSession sessionCookie now with
    | .ok _ => ok (.redirectHome, cookies)
    | .err _ => ok (.form csrf.value, cookies.add (csrfCookie svc csrf.value))
    | .panic message => .panic message
  | none => ok (.form csrf.value, cookies.add (csrfCookie svc csrf.value))

/-- `handle_login_submit`, at `now`, where `sessionId` and `csrf` are what `generate_session_id`
and `generate_csrf_token` return: the response or the status, and the cookie jar after it. -/
def handleLoginSubmit (svc : AuthService) (cookies : Cookies) (loginReq : LoginRequest)
    (now : SystemTime) (sessionId : String) (csrf : CsrfToken) :
    Outcome Empty (Except StatusCode LoginResponse × Cookies) :=
  match loginReq.csrfToken, cookies.get "csrf_token" with
  | some csrfToken, some csrfCookie =>
    if csrfCookie ≠ csrfToken then ok (.ok (.failure "Invalid CSRF token"), cookies)
    else authenticate
  | some _, none => ok (.ok (.failure "CSRF token required"), cookies)
  | none, _ => authenticate
where
  -- The login once the CSRF check let it through.
  authenticate : Outcome Empty (Except StatusCode LoginResponse × Cookies) :=
    match svc.userProvider.authenticateUser loginReq.username loginReq.password with
    | .ok user =>
      if !user.enabled then ok (.ok (.failure "Account disabled"), cookies)
      else do
        let session ← UserSession.new user.id user.username user.email user.roles .traditional
          svc.config.session.maxAge now sessionId csrf
        match svc.sessionManager.createSession session now with
        | .ok sessionToken =>
          let cookies :=
            (cookies.add (svc.sessionManager.createSessionCookie sessionToken)).remove "csrf_token"
          match svc.userProvider.updateLastLogin user.id with
          | .panic message => .panic message
          | _ => ok (.ok ⟨true, "Login successful", some session.csrfToken, some "/"⟩, cookies)
        | .err _ => ok (.error StatusCode.internalServerError, cookies)
        | .panic message => .panic message
    | .err .invalidCredentials => ok (.ok (.failure "Invalid username or password"), cookies)
    | .err _ => ok (.ok (.failure "Authentication failed"), cookies)
    | .panic message => .panic message

/-- `handle_logout`: the redirect to the login page, with the session cookie emptied. -/
def handleLogout (svc : AuthService) (cookies : Cookies) : Response × Cookies :=
  (⟨StatusCode.seeOther, [("location", "/auth/login")]⟩,
    cookies.add svc.sessionManager.createLogoutCookie)

/-- `UserInfoResponse`. -/
structure UserInfoResponse where
  /-- `username`. -/
  username : String
  /-- `email`. -/
  email : Option String
  /-- `roles`. -/
  roles : List String
  /-- `auth_method`. -/
  authMethod : AuthMethod
  /-- `csrf_token`. -/
  csrfToken : String

/-- `handle_user_info`, at `now`. -/
def handleUserInfo (svc : AuthService) (cookies : Cookies) (now : SystemTime) :
    Outcome StatusCode UserInfoResponse := do
  let sessionCookie ← okOr (cookies.get svc.config.session.cookieName) StatusCode.unauthorized
  let session ← (svc.sessionManager.validateSession sessionCookie now).mapErr
    fun _ => StatusCode.unauthorized
  pure ⟨session.username, session.email, session.roles, session.authMethod, session.csrfToken⟩

/-- `handle_user_info` answers with the session the session cookie validates into. -/
theorem handleUserInfo_of_ok {svc : AuthService} {cookies : Cookies} {now : SystemTime}
    {info : UserInfoResponse} (answered : handleUserInfo svc cookies now = ok info) :
    ∃ token session, cookies.get svc.config.session.cookieName = some token ∧
      svc.sessionManager.validateSession token now = ok session ∧
      info = ⟨session.username, session.email, session.roles, session.authMethod,
        session.csrfToken⟩ := by
  obtain ⟨token, cookie, answered⟩ := bind_eq_ok.mp answered
  obtain ⟨session, valid, answered⟩ := bind_eq_ok.mp answered
  exact ⟨token, session, okOr_eq_ok.mp cookie, mapErr_eq_ok.mp valid, (ok.inj answered).symm⟩

/-- Without a session cookie that validates, `handle_user_info` answers `401`. -/
theorem handleUserInfo_without_session {svc : AuthService} {cookies : Cookies} {now : SystemTime}
    (noSession : ∀ token, cookies.get svc.config.session.cookieName = some token →
      ∃ e, svc.sessionManager.validateSession token now = err e) :
    handleUserInfo svc cookies now = err StatusCode.unauthorized := by
  cases cookie : cookies.get svc.config.session.cookieName with
  | none => simp [handleUserInfo, cookie, okOr]
  | some token =>
      obtain ⟨e, invalid⟩ := noSession token cookie
      simp [handleUserInfo, cookie, okOr, invalid]

section Login

variable {svc : AuthService} {cookies : Cookies} {loginReq : LoginRequest} {now : SystemTime}
  {sessionId : String} {csrf : CsrfToken}

/-- A body whose token, if it carries one, is the cookie's goes on to authentication. -/
theorem handleLoginSubmit_of_csrf_passes
    (passes : ∀ csrfToken, loginReq.csrfToken = some csrfToken →
      cookies.get "csrf_token" = some csrfToken) :
    handleLoginSubmit svc cookies loginReq now sessionId csrf =
      handleLoginSubmit.authenticate svc cookies loginReq now sessionId csrf := by
  unfold handleLoginSubmit
  cases token : loginReq.csrfToken with
  | none => rfl
  | some csrfToken => simp [passes csrfToken token]

/-- A body whose token differs from the cookie's, or that carries one with no cookie, is turned
down. -/
theorem handleLoginSubmit_of_csrf_fails {csrfToken : String}
    (carried : loginReq.csrfToken = some csrfToken)
    (fails : cookies.get "csrf_token" ≠ some csrfToken) :
    ∃ message, handleLoginSubmit svc cookies loginReq now sessionId csrf =
      ok (.ok (.failure message), cookies) := by
  unfold handleLoginSubmit
  rw [carried]
  cases cookie : cookies.get "csrf_token" with
  | none => exact ⟨_, rfl⟩
  | some csrfCookie =>
      have differs : csrfCookie ≠ csrfToken := fun same => fails (same ▸ cookie)
      exact ⟨_, if_pos differs⟩

/-- Authentication of an enabled user whose session is made and signed logs the user in: the
session cookie is set, the CSRF cookie removed, and the answer carries the session's CSRF
token. -/
theorem authenticate_of_authenticated {user : User} {session : UserSession} {token : String}
    (authenticated : svc.userProvider.authenticateUser loginReq.username loginReq.password = ok user)
    (enabled : user.enabled = true)
    (made : (UserSession.new user.id user.username user.email user.roles .traditional
      svc.config.session.maxAge now sessionId csrf : Outcome Empty UserSession) = ok session)
    (signed : svc.sessionManager.createSession session now = ok token)
    (updated : ¬ (svc.userProvider.updateLastLogin user.id).Panics) :
    handleLoginSubmit.authenticate svc cookies loginReq now sessionId csrf =
      ok (.ok ⟨true, "Login successful", some csrf.value, some "/"⟩,
        (cookies.add (svc.sessionManager.createSessionCookie token)).remove "csrf_token") := by
  obtain ⟨_, -, rfl⟩ := UserSession.new_eq_ok.mp made
  simp only [handleLoginSubmit.authenticate, authenticated, enabled, Bool.not_true,
    Bool.false_eq_true, if_false, made, ok_bind, signed]
  cases login : svc.userProvider.updateLastLogin user.id with
  | panic message => rw [login] at updated; exact absurd trivial updated
  | ok _ => rfl
  | err _ => rfl

/-- A successful login is one whose body carries no token or the cookie's, of an enabled user
whose session is made and signed. -/
theorem handleLoginSubmit_success {response : LoginResponse} {cookies' : Cookies}
    (answered : handleLoginSubmit svc cookies loginReq now sessionId csrf =
      ok (.ok response, cookies'))
    (success : response.success = true) :
    (∀ csrfToken, loginReq.csrfToken = some csrfToken →
      cookies.get "csrf_token" = some csrfToken) ∧
    ∃ user session token,
      svc.userProvider.authenticateUser loginReq.username loginReq.password = ok user ∧
      user.enabled = true ∧
      (UserSession.new user.id user.username user.email user.roles .traditional
        svc.config.session.maxAge now sessionId csrf : Outcome Empty UserSession) = ok session ∧
      svc.sessionManager.createSession session now = ok token ∧
      response = ⟨true, "Login successful", some csrf.value, some "/"⟩ ∧
      cookies' = (cookies.add (svc.sessionManager.createSessionCookie token)).remove "csrf_token" := by
  have passes : ∀ csrfToken, loginReq.csrfToken = some csrfToken →
      cookies.get "csrf_token" = some csrfToken := by
    intro csrfToken carried
    by_contra fails
    obtain ⟨message, turnedDown⟩ := handleLoginSubmit_of_csrf_fails carried fails
    rw [turnedDown] at answered
    cases answered
    cases success
  refine ⟨passes, ?_⟩
  rw [handleLoginSubmit_of_csrf_passes passes, handleLoginSubmit.authenticate] at answered
  split at answered
  · next user authenticated =>
      split_ifs at answered with disabled
      · cases answered; cases success
      obtain ⟨session, made, answered⟩ := bind_eq_ok.mp answered
      split at answered
      · next token signed =>
          obtain ⟨_, -, rfl⟩ := UserSession.new_eq_ok.mp made
          split at answered
          · cases answered
          · cases answered
            exact ⟨user, _, token, authenticated, by simpa using disabled, made, signed, rfl, rfl⟩
      · cases answered
      · cases answered
  · cases answered; cases success
  · cases answered; cases success
  · cases answered

/-- Authentication either signs the user in, with the session cookie of a token it made set and
the CSRF cookie removed, or answers otherwise and leaves the cookies as they are. -/
theorem authenticate_cookies {response : Except StatusCode LoginResponse} {cookies' : Cookies}
    (answered : handleLoginSubmit.authenticate svc cookies loginReq now sessionId csrf =
      ok (response, cookies')) :
    (∃ r, response = .ok r ∧ r.success = true ∧ ∃ user session token,
        svc.userProvider.authenticateUser loginReq.username loginReq.password = ok user ∧
        user.enabled = true ∧
        (UserSession.new user.id user.username user.email user.roles .traditional
          svc.config.session.maxAge now sessionId csrf : Outcome Empty UserSession) = ok session ∧
        svc.sessionManager.createSession session now = ok token ∧
        cookies' = (cookies.add (svc.sessionManager.createSessionCookie token)).remove "csrf_token") ∨
      ((∀ r, response = .ok r → r.success = false) ∧ cookies' = cookies) := by
  unfold handleLoginSubmit.authenticate at answered
  split at answered
  · next user authenticated =>
    split_ifs at answered with disabled
    · cases answered
      exact .inr ⟨fun _ same => by cases same; rfl, rfl⟩
    · obtain ⟨session, made, answered⟩ := bind_eq_ok.mp answered
      split at answered
      · next token signed =>
        split at answered
        · cases answered
        · cases answered
          exact .inl ⟨_, rfl, rfl, user, session, token, authenticated, by simpa using disabled,
            made, signed, rfl⟩
      · cases answered
        exact .inr ⟨nofun, rfl⟩
      · cases answered
  · cases answered
    exact .inr ⟨fun _ same => by cases same; rfl, rfl⟩
  · cases answered
    exact .inr ⟨fun _ same => by cases same; rfl, rfl⟩
  · cases answered

/-- A login submission either signs the user in, as authentication does, or answers otherwise and
leaves the cookies as they are. -/
theorem handleLoginSubmit_cookies {response : Except StatusCode LoginResponse} {cookies' : Cookies}
    (answered : handleLoginSubmit svc cookies loginReq now sessionId csrf = ok (response, cookies')) :
    (∃ r, response = .ok r ∧ r.success = true ∧ ∃ user session token,
        svc.userProvider.authenticateUser loginReq.username loginReq.password = ok user ∧
        user.enabled = true ∧
        (UserSession.new user.id user.username user.email user.roles .traditional
          svc.config.session.maxAge now sessionId csrf : Outcome Empty UserSession) = ok session ∧
        svc.sessionManager.createSession session now = ok token ∧
        cookies' = (cookies.add (svc.sessionManager.createSessionCookie token)).remove "csrf_token") ∨
      ((∀ r, response = .ok r → r.success = false) ∧ cookies' = cookies) := by
  unfold handleLoginSubmit at answered
  split at answered
  · split_ifs at answered
    · cases answered
      exact .inr ⟨fun _ same => by cases same; rfl, rfl⟩
    · exact authenticate_cookies answered
  · cases answered
    exact .inr ⟨fun _ same => by cases same; rfl, rfl⟩
  · exact authenticate_cookies answered

end Login

/-- The login page adds the CSRF cookie or leaves the cookies as they are. -/
theorem handleLoginPage_cookies {svc : AuthService} {cookies cookies' : Cookies} {now : SystemTime}
    {csrf : CsrfToken} {page : LoginPage}
    (served : handleLoginPage svc cookies now csrf = ok (page, cookies')) :
    cookies' = cookies ∨ cookies' = cookies.add (csrfCookie svc csrf.value) := by
  unfold handleLoginPage at served
  split at served
  · split at served
    · cases served
      exact .inl rfl
    · cases served
      exact .inr rfl
    · cases served
  · cases served
    exact .inr rfl

theorem handleLoginSubmit_success_of_admin :
    ∃ response cookies',
      handleLoginSubmit .adminPassword ⟨[], []⟩ ⟨"admin", "admin", none⟩
          ⟨100000000000, by omega, by omega⟩ "session" .sample = ok (.ok response, cookies') ∧
      response.success = true ∧
      (∀ csrfToken, (none : Option String) = some csrfToken →
        (⟨[], []⟩ : Cookies).get "csrf_token" = some csrfToken) ∧
      ∃ user session token,
        AuthService.adminPassword.userProvider.authenticateUser "admin" "admin" = ok user ∧
        user.enabled = true ∧
        (UserSession.new user.id user.username user.email user.roles .traditional
          AuthService.adminPassword.config.session.maxAge ⟨100000000000, by omega, by omega⟩
          "session" .sample : Outcome Empty UserSession) = ok session ∧
        AuthService.adminPassword.sessionManager.createSession session
          ⟨100000000000, by omega, by omega⟩ = ok token ∧
        response = ⟨true, "Login successful", some CsrfToken.sample.value, some "/"⟩ ∧
        cookies' = ((⟨[], []⟩ : Cookies).add
          (AuthService.adminPassword.sessionManager.createSessionCookie token)).remove "csrf_token" :=
  have answered : handleLoginSubmit .adminPassword ⟨[], []⟩ ⟨"admin", "admin", none⟩
      ⟨100000000000, by omega, by omega⟩ "session" .sample =
        ok (.ok ⟨true, "Login successful", some CsrfToken.sample.value, some "/"⟩, _) :=
    Eq.trans (handleLoginSubmit_of_csrf_passes fun _ carried => nomatch carried)
      (authenticate_of_authenticated rfl rfl
        (UserSession.new_eq_ok.mpr ⟨_, SystemTime.add_of_lt (by decide), rfl⟩)
        (SessionManager.createSession_of_le (by decide) (by decide)) (by decide))
  ⟨_, _, answered, rfl, handleLoginSubmit_success answered rfl⟩

/-- The login handler lets in a body with no CSRF token whatever the cookies: with no
`csrf_token` cookie at all, an `admin` whose hash verifies `admin` logs in with it. -/
theorem handleLoginSubmit_without_csrf_token_logs_in :
    ∃ svc response cookies',
      AuthService.new
          { AuthConfig.default with enabled := true, users := .file [.adminWithPassword] }
          (Jwt.unary SessionClaims) verifyAdminHash = ok svc ∧
      (⟨[], []⟩ : Cookies).get "csrf_token" = none ∧
      handleLoginSubmit svc ⟨[], []⟩ ⟨"admin", "admin", none⟩ ⟨100000000000, by omega, by omega⟩
          "session" .sample = ok (.ok response, cookies') ∧
      response.success = true := by
  refine ⟨_, _, _, rfl, rfl, Eq.trans (handleLoginSubmit_of_csrf_passes fun _ carried => nomatch carried)
    (authenticate_of_authenticated rfl rfl
      (UserSession.new_eq_ok.mpr ⟨_, SystemTime.add_of_lt (by decide), rfl⟩)
      (SessionManager.createSession_of_le (by decide) (by decide)) (by decide)), rfl⟩

end Agentgateway.Auth
