import Agentgateway.Auth.Tokens
import Agentgateway.Auth.Middleware

/-!
# A request through both middlewares

`auth_middleware` then `csrf_middleware` in front of a handler. Within `refresh_threshold` of its
expiry a session gets a new CSRF token before the check runs, so the request carrying the old one
is turned away.
-/

namespace Agentgateway.Auth

open Outcome

/-- `auth_middleware` and then `csrf_middleware`, in front of `handler`. -/
def authThenCsrf (svc : AuthService) (cookies : Cookies) (request : Request)
    (handler : Request → Response) (now : SystemTime) (fresh : CsrfToken) :
    Outcome Empty (Except StatusCode Response × Cookies) :=
  authMiddleware svc cookies request (fun request => intoResponse (csrfMiddleware svc request handler))
    now fresh

section Pipeline

variable {svc : AuthService} {cookies : Cookies} {request : Request}
  {handler : Request → Response} {now : SystemTime} {fresh : CsrfToken}

/-- Once a session is found and refreshed, a state-changing request reaches the handler exactly
when its `X-CSRF-Token` header reads as the refreshed session's CSRF token, and gets `403`
otherwise. -/
theorem authThenCsrf_of_refresh {token newToken : String} {s s' : UserSession}
    (enabled : svc.config.enabled = true) (protection : svc.config.security.csrfProtection = true)
    (notExcluded : isExcludedPath request.path = false)
    (changing : isStateChangingRequest request = true)
    (cookie : cookies.get svc.config.session.cookieName = some token)
    (valid : svc.sessionManager.validateSession token now = ok s)
    (refresh : svc.sessionManager.refreshSession s now fresh = ok (s', newToken)) :
    authThenCsrf svc cookies request handler now fresh =
      ok (.ok (if (request.header "x-csrf-token").bind HeaderValue.toStr = some s'.csrfToken then
          handler { request with session := some s' }
        else ⟨StatusCode.forbidden, []⟩),
        if newToken.isEmpty then cookies
        else cookies.add (svc.sessionManager.createSessionCookie newToken)) := by
  rw [authThenCsrf, authMiddleware_of_found notExcluded enabled
    (findSession_of_refresh cookie valid refresh), csrfMiddleware_of_session
      (show isStateChangingRequest { request with session := some s' } = true from changing)
      protection rfl, Request.header_session]
  split_ifs <;> rfl

theorem authThenCsrf_of_refresh_panic {token message : String} {s : UserSession}
    (enabled : svc.config.enabled = true) (notExcluded : isExcludedPath request.path = false)
    (cookie : cookies.get svc.config.session.cookieName = some token)
    (valid : svc.sessionManager.validateSession token now = ok s)
    (refresh : svc.sessionManager.refreshSession s now fresh = .panic message) :
    authThenCsrf svc cookies request handler now fresh = .panic message :=
  authMiddleware_of_panic notExcluded enabled (findSession_of_refresh_panic cookie valid refresh)

end Pipeline

/-- A state-changing request carrying its session's CSRF token passes both middlewares while the
session is further than `refresh_threshold` from its expiry. Closer, the session gets the fresh
token first, and the request passes only if that equals the old one; past the last instant, a
panic. -/
theorem authThenCsrf_with_session (config : AuthConfig) (jwt : Jwt SessionClaims)
    (verify : String → String → Except String Bool) (svc : AuthService)
    (made : AuthService.new config jwt verify = ok svc) (cookies : Cookies) (request : Request)
    (handler : Request → Response) (now : SystemTime) (fresh : CsrfToken) (token : String)
    (s : UserSession) (enabled : config.enabled = true)
    (protection : config.security.csrfProtection = true)
    (notExcluded : isExcludedPath request.path = false)
    (changing : isStateChangingRequest request = true)
    (cookie : cookies.get config.session.cookieName = some token)
    (valid : svc.sessionManager.validateSession token now = ok s)
    (header : request.header "x-csrf-token" = some s.csrfToken) :
    (config.session.refreshThreshold.nanos < s.expiresAt.nanos - now.nanos →
      authThenCsrf svc cookies request handler now fresh =
        ok (.ok (if HeaderValue.toStr s.csrfToken = some s.csrfToken then
            handler { request with session := some s }
          else ⟨StatusCode.forbidden, []⟩), cookies)) ∧
    (s.expiresAt.nanos - now.nanos ≤ config.session.refreshThreshold.nanos →
      now.nanos + config.session.maxAge.nanos < 2 ^ 63 * 1000000000 →
      ∃ s' cookies', s'.csrfToken = fresh.value ∧
        s'.expiresAt.nanos = now.nanos + config.session.maxAge.nanos ∧
        authThenCsrf svc cookies request handler now fresh =
          ok (.ok (if fresh.value = s.csrfToken then handler { request with session := some s' }
            else ⟨StatusCode.forbidden, []⟩), cookies')) ∧
    (s.expiresAt.nanos - now.nanos ≤ config.session.refreshThreshold.nanos →
      2 ^ 63 * 1000000000 ≤ now.nanos + config.session.maxAge.nanos →
      authThenCsrf svc cookies request handler now fresh =
        .panic "overflow when adding duration to instant") := by
  obtain rfl := (ok.inj made).symm
  obtain ⟨after, live, -⟩ := SessionManager.validateSession_ok_facts rfl valid
  have le : now ≤ s.expiresAt := SystemTime.le_of_lt live
  refine ⟨fun far => ?_, fun near fits => ?_, fun near overflows => ?_⟩
  · rw [authThenCsrf_of_refresh enabled protection notExcluded changing cookie valid
      (SessionManager.refreshSession_of_far le far), header, Option.some_bind]
    rfl
  · have refresh : SessionManager.refreshSession ⟨config.session, jwt, ⟨60, true⟩⟩ s now fresh = _ :=
      SessionManager.refreshSession_of_near after le near
      ⟨now.nanos + config.session.maxAge.nanos, by have := now.lower; omega, fits⟩ rfl
    have reads : HeaderValue.toStr s.csrfToken = some fresh.value ↔ fresh.value = s.csrfToken :=
      ⟨fun reads => (HeaderValue.toStr_eq_some.mp reads).1.symm,
        fun same => by rw [← same, CsrfToken.toStr_value]⟩
    exact ⟨_, _, rfl, rfl, Eq.trans
      (authThenCsrf_of_refresh enabled protection notExcluded changing cookie valid refresh)
      (by simp only [header, Option.some_bind, reads]; rfl)⟩
  · exact authThenCsrf_of_refresh_panic enabled notExcluded cookie valid
      (SessionManager.refreshSession_of_near_overflow le near overflows)

/-- The admin session token the examples below carry: issued at the epoch, expiring eight hours
later, with the CSRF token `0123…`. -/
def SessionClaims.adminAtEpoch : SessionClaims :=
  .ofSession (.admin SystemTime.unixEpoch "0123456789abcdef0123456789abcdef") 0 28800

theorem authThenCsrf_with_session_at_enabledDefault :
    ((AuthConfig.default.session.refreshThreshold.nanos : Int) <
        28800000000000 - 28000000000000 →
      authThenCsrf .enabledDefault
          ⟨[("agentgateway_session", (Jwt.unary SessionClaims).encode .adminAtEpoch)], []⟩
          ⟨"POST", "/api/config", [("x-csrf-token", "0123456789abcdef0123456789abcdef")], none⟩
          (fun _ => ⟨StatusCode.found, []⟩) ⟨28000000000000, by omega, by omega⟩ .sample =
        ok (.ok (if HeaderValue.toStr "0123456789abcdef0123456789abcdef" =
              some "0123456789abcdef0123456789abcdef" then ⟨StatusCode.found, []⟩
            else ⟨StatusCode.forbidden, []⟩),
          ⟨[("agentgateway_session", (Jwt.unary SessionClaims).encode .adminAtEpoch)], []⟩)) ∧
    ((28800000000000 : Int) - 28000000000000 ≤ AuthConfig.default.session.refreshThreshold.nanos →
      (28000000000000 : Int) + AuthConfig.default.session.maxAge.nanos < 2 ^ 63 * 1000000000 →
      ∃ (s' : UserSession) (cookies' : Cookies), s'.csrfToken = CsrfToken.sample.value ∧
        s'.expiresAt.nanos = 28000000000000 + AuthConfig.default.session.maxAge.nanos ∧
        authThenCsrf .enabledDefault
            ⟨[("agentgateway_session", (Jwt.unary SessionClaims).encode .adminAtEpoch)], []⟩
            ⟨"POST", "/api/config", [("x-csrf-token", "0123456789abcdef0123456789abcdef")], none⟩
            (fun _ => ⟨StatusCode.found, []⟩) ⟨28000000000000, by omega, by omega⟩ .sample =
          ok (.ok (if CsrfToken.sample.value = "0123456789abcdef0123456789abcdef" then
              ⟨StatusCode.found, []⟩ else ⟨StatusCode.forbidden, []⟩), cookies')) ∧
    ((28800000000000 : Int) - 28000000000000 ≤ AuthConfig.default.session.refreshThreshold.nanos →
      2 ^ 63 * 1000000000 ≤ (28000000000000 : Int) + AuthConfig.default.session.maxAge.nanos →
      authThenCsrf .enabledDefault
          ⟨[("agentgateway_session", (Jwt.unary SessionClaims).encode .adminAtEpoch)], []⟩
          ⟨"POST", "/api/config", [("x-csrf-token", "0123456789abcdef0123456789abcdef")], none⟩
          (fun _ => ⟨StatusCode.found, []⟩) ⟨28000000000000, by omega, by omega⟩ .sample =
        .panic "overflow when adding duration to instant") :=
  authThenCsrf_with_session { AuthConfig.default with enabled := true } (Jwt.unary SessionClaims)
    (fun _ _ => .ok false) .enabledDefault rfl
    ⟨[("agentgateway_session", (Jwt.unary SessionClaims).encode .adminAtEpoch)], []⟩
    ⟨"POST", "/api/config", [("x-csrf-token", "0123456789abcdef0123456789abcdef")], none⟩
    (fun _ => ⟨StatusCode.found, []⟩) ⟨28000000000000, by omega, by omega⟩ .sample
    ((Jwt.unary SessionClaims).encode .adminAtEpoch)
    (.ofClaims .adminAtEpoch SystemTime.unixEpoch ⟨28000000000000, by omega, by omega⟩
      ⟨28800000000000, by omega, by omega⟩)
    rfl rfl (by decide) (by decide) rfl
    (SessionManager.validateSession_encode rfl (by decide) _ (by decide) _ (by decide) (by decide))
    rfl

/-- Eight hours after the epoch less eight hundred seconds, inside the thirty-minute refresh
window, a state-changing request carrying its session's CSRF token gets `403`: the session it
reaches the check with carries a newly generated token. -/
theorem authThenCsrf_forbids_in_refresh_window :
    ∃ svc cookies', AuthService.new { AuthConfig.default with enabled := true }
        (Jwt.unary SessionClaims) (fun _ _ => .ok false) = ok svc ∧
      authThenCsrf svc
          ⟨[("agentgateway_session", (Jwt.unary SessionClaims).encode .adminAtEpoch)], []⟩
          ⟨"POST", "/api/config", [("x-csrf-token", "0123456789abcdef0123456789abcdef")], none⟩
          (fun _ => ⟨StatusCode.found, []⟩) ⟨28000000000000, by omega, by omega⟩ .sample =
        ok (.ok ⟨StatusCode.forbidden, []⟩, cookies') := by
  exact ⟨_, _, rfl, Eq.trans (authThenCsrf_of_refresh rfl rfl (by decide) (by decide) rfl
    (SessionManager.validateSession_encode rfl (by decide) SystemTime.unixEpoch (by decide)
      ⟨28800000000000, by omega, by omega⟩ (by decide) (by decide))
    (SessionManager.refreshSession_of_near (by decide) (by decide) (by decide)
      ⟨56800000000000, by omega, by omega⟩ (by decide))) (by rw [if_neg (by decide)])⟩

end Agentgateway.Auth
