import Agentgateway.Primitive
import Agentgateway.Auth.Service

/-!
# The authentication middlewares

`auth/middleware.rs`: `auth_middleware`, which finds and refreshes the session, and
`csrf_middleware`, which compares the `X-CSRF-Token` header with the session's token. The cookies of
a request are those it carried and the changes made since, as `tower-cookies` keeps them.
-/

namespace Agentgateway.Auth

open Outcome

/-! ## Requests, responses and cookies -/

/-- An HTTP request, with what the middlewares read. -/
structure Request where
  /-- `method().as_str()`. -/
  method : String
  /-- `uri().path()`. -/
  path : String
  /-- The header map: names in lower case, as `HeaderMap` keeps them, each with its value. -/
  headers : List (String × String)
  /-- The `UserSession` in the request's extensions. -/
  session : Option UserSession

/-- `headers().get(name)`: the first value of the header. -/
def Request.header (request : Request) (name : String) : Option String :=
  request.headers.lookup name

@[simp] theorem Request.header_session (request : Request) (session : Option UserSession)
    (name : String) : { request with session }.header name = request.header name :=
  rfl

/-- An HTTP response: its status and headers. -/
structure Response where
  /-- The status. -/
  status : StatusCode
  /-- The headers. -/
  headers : List (String × String)
  deriving DecidableEq

/-- The response axum makes of a `Result<Response, StatusCode>`: the status alone, for an error. -/
def intoResponse : Except StatusCode Response → Response
  | .ok response => response
  | .error status => ⟨status, []⟩

namespace HeaderValue

/-- `is_visible_ascii`: a byte that `HeaderValue::to_str` accepts. -/
def isVisibleAscii (c : Char) : Bool := (32 ≤ c.toNat && c.toNat < 127) || c == '\t'

/-- `is_valid`: a byte that a `HeaderValue` may hold. A character outside ASCII stands for its
UTF-8 bytes, which are all at least `128`. -/
def isValid (c : Char) : Bool := (32 ≤ c.toNat && c.toNat != 127) || c == '\t'

/-- `HeaderValue::to_str`. -/
def toStr (value : String) : Option String :=
  if value.data.all isVisibleAscii then some value else none

/-- `HeaderValue::try_from` on a `String`. -/
def tryFrom (value : String) : Option String :=
  if value.data.all isValid then some value else none

theorem isValid_of_isVisibleAscii {c : Char} (visible : isVisibleAscii c = true) :
    isValid c = true := by
  simp only [isVisibleAscii, isValid, Bool.or_eq_true, Bool.and_eq_true, decide_eq_true_eq,
    bne_iff_ne, ne_eq] at visible ⊢
  rcases visible with ⟨low, high⟩ | tab
  · exact .inl ⟨low, by omega⟩
  · exact .inr tab

@[simp] theorem toStr_eq_some {value text : String} :
    toStr value = some text ↔ value = text ∧ ∀ c ∈ value.data, isVisibleAscii c = true := by
  unfold toStr
  by_cases visible : ∀ c ∈ value.data, isVisibleAscii c = true
  · rw [if_pos (List.all_eq_true.mpr visible)]
    exact ⟨fun same => ⟨Option.some.inj same, visible⟩, fun same => congrArg some same.1⟩
  · simp [List.all_eq_true, visible]

theorem isVisibleAscii_of_isAlphanum {c : Char} (alphanumeric : c.isAlphanum = true) :
    isVisibleAscii c = true := by
  simp only [Char.isAlphanum, Char.isAlpha, Char.isUpper, Char.isLower, Char.isDigit,
    Bool.or_eq_true, Bool.and_eq_true, decide_eq_true_eq, ge_iff_le, UInt32.le_def,
    BitVec.le_def] at alphanumeric
  simp only [isVisibleAscii, Bool.or_eq_true, Bool.and_eq_true, decide_eq_true_eq, Char.toNat,
    UInt32.toNat]
  left
  simp at alphanumeric
  omega

end HeaderValue

/-- A generated CSRF token reads back from a header as itself. -/
theorem CsrfToken.toStr_value (token : CsrfToken) :
    HeaderValue.toStr token.value = some token.value :=
  HeaderValue.toStr_eq_some.mpr
    ⟨rfl, fun c mem => HeaderValue.isVisibleAscii_of_isAlphanum (token.alphanumeric c mem)⟩

/-- A change made to the cookie jar. -/
inductive CookieChange where
  | add (cookie : Cookie)
  | remove (name : String)

/-- The name of the cookie a change is about. -/
def CookieChange.name : CookieChange → String
  | .add cookie => cookie.name
  | .remove name => name

/-- `tower_cookies::Cookies`: the cookies the request carried, in the order of its `Cookie` header,
and the changes made since, the latest first. -/
structure Cookies where
  /-- The cookies of the request. -/
  incoming : List (String × String)
  /-- The changes, the latest first. -/
  delta : List CookieChange

namespace Cookies

/-- `get(name)`, by the value it returns: the latest change to the cookie, or else the request's
cookie of that name, the last of several since `add_original` replaces the earlier ones. -/
def get (jar : Cookies) (name : String) : Option String :=
  match jar.delta.find? (·.name == name) with
  | some (.add cookie) => some cookie.value
  | some (.remove _) => none
  | none => jar.incoming.reverse.lookup name

/-- `add(cookie)`. -/
def add (jar : Cookies) (cookie : Cookie) : Cookies :=
  { jar with delta := .add cookie :: jar.delta }

/-- `remove(Cookie::from(name))`. -/
def remove (jar : Cookies) (name : String) : Cookies :=
  { jar with delta := .remove name :: jar.delta }

@[simp] theorem get_add (jar : Cookies) (cookie : Cookie) (name : String) :
    (jar.add cookie).get name = if cookie.name = name then some cookie.value else jar.get name := by
  by_cases same : cookie.name = name <;> simp [get, add, CookieChange.name, same]

@[simp] theorem get_remove (jar : Cookies) (removed name : String) :
    (jar.remove removed).get name = if removed = name then none else jar.get name := by
  by_cases same : removed = name <;> simp [get, remove, CookieChange.name, same]

/-- A cookie added to the request's cookies is the one `add` was given. -/
theorem eq_of_mem_add {incoming : List (String × String)} {cookie added : Cookie}
    (mem : .add cookie ∈ ((⟨incoming, []⟩ : Cookies).add added).delta) : cookie = added := by
  simpa [add] using mem

/-- A cookie added to the request's cookies and then a removal is the one `add` was given. -/
theorem eq_of_mem_add_remove {incoming : List (String × String)} {cookie added : Cookie}
    {name : String} (mem : .add cookie ∈ (((⟨incoming, []⟩ : Cookies).add added).remove name).delta) :
    cookie = added := by
  simpa [add, remove] using mem

/-- The cookie `remove` sends for a cookie the request carried: `Cookie::from(name)` after
`make_removal`, empty, with a `Max-Age` of zero and no path. -/
def removalCookie (name : String) : Cookie :=
  ⟨name, "", none, some 0, none, none, none, none⟩

/-- The `Set-Cookie` headers of a change: the cookie it adds, or the removal of a cookie the request
carried; removing any other cookie only drops the changes of its name. -/
def changeHeaders (incoming : List (String × String)) : CookieChange → List Cookie
  | .add cookie => [cookie]
  | .remove name => if (incoming.lookup name).isSome then [removalCookie name] else []

/-- The `Set-Cookie` headers of the response: for each name, those of its latest change. -/
def setCookies (jar : Cookies) : List Cookie :=
  jar.delta.foldr (fun change older =>
    changeHeaders jar.incoming change ++ older.filter (·.name != change.name)) []

@[simp] theorem setCookies_request (incoming : List (String × String)) :
    (⟨incoming, []⟩ : Cookies).setCookies = [] := rfl

@[simp] theorem setCookies_add (jar : Cookies) (cookie : Cookie) :
    (jar.add cookie).setCookies = cookie :: jar.setCookies.filter (·.name != cookie.name) := rfl

@[simp] theorem setCookies_remove (jar : Cookies) (name : String) :
    (jar.remove name).setCookies =
      (if (jar.incoming.lookup name).isSome then [removalCookie name] else []) ++
        jar.setCookies.filter (·.name != name) := rfl

/-- A response's `Set-Cookie` is a cookie a change added, or a removal. -/
theorem mem_setCookies {jar : Cookies} {cookie : Cookie} (sent : cookie ∈ jar.setCookies) :
    .add cookie ∈ jar.delta ∨ ∃ name, cookie = removalCookie name := by
  obtain ⟨incoming, delta⟩ := jar
  induction delta with
  | nil => cases sent
  | cons change older ih =>
      simp only [setCookies, List.foldr_cons, List.mem_append, List.mem_filter] at sent ih ⊢
      rcases sent with headed | ⟨sentOlder, -⟩
      · cases change with
        | add added =>
            simp only [changeHeaders, List.mem_singleton] at headed
            exact .inl (headed ▸ List.mem_cons_self _ _)
        | remove name =>
            simp only [changeHeaders] at headed
            split at headed
            · exact .inr ⟨name, List.mem_singleton.mp headed⟩
            · cases headed
      · exact (ih sentOlder).imp (List.mem_cons_of_mem _) id

end Cookies

/-! ## Percent-encoding -/

/-- A byte `urlencoding::encode` keeps: an ASCII letter or digit, `-`, `.`, `_` or `~`. -/
def isUnreserved (b : UInt8) : Bool :=
  (48 ≤ b.toNat && b.toNat ≤ 57) || (65 ≤ b.toNat && b.toNat ≤ 90) ||
    (97 ≤ b.toNat && b.toNat ≤ 122) || b.toNat == 45 || b.toNat == 46 || b.toNat == 95 ||
    b.toNat == 126

/-- An upper-case hexadecimal digit. -/
def hexDigit (n : Nat) : Char := Char.ofNat (if n < 10 then 48 + n else 55 + n)

/-- What `urlencoding::encode` writes for a byte: the byte itself, or `%` and its two upper-case
hexadecimal digits. -/
def encodeByte (b : UInt8) : List Char :=
  if isUnreserved b then [Char.ofNat b.toNat]
  else ['%', hexDigit (b.toNat / 16), hexDigit (b.toNat % 16)]

/-- `urlencoding::encode`, over the UTF-8 bytes of the text. -/
def urlEncode (text : String) : String :=
  ⟨text.data.flatMap fun c => (String.utf8EncodeChar c).flatMap encodeByte⟩

theorem toNat_charOfNat {n : Nat} (valid : n < 55296) : (Char.ofNat n).toNat = n := by
  rw [Char.ofNat, dif_pos (Or.inl valid)]
  rfl

theorem isVisibleAscii_hexDigit {n : Nat} (digit : n < 16) :
    HeaderValue.isVisibleAscii (hexDigit n) = true := by
  have code : (hexDigit n).toNat = if n < 10 then 48 + n else 55 + n :=
    toNat_charOfNat (by split <;> omega)
  simp only [HeaderValue.isVisibleAscii, code, Bool.or_eq_true, Bool.and_eq_true,
    decide_eq_true_eq]
  left
  split <;> omega

theorem isVisibleAscii_of_mem_encodeByte {b : UInt8} {c : Char} (written : c ∈ encodeByte b) :
    HeaderValue.isVisibleAscii c = true := by
  have byte : b.toNat < 256 := b.val.isLt
  unfold encodeByte at written
  split at written
  · next kept =>
      obtain rfl := List.mem_singleton.mp written
      simp only [isUnreserved, Bool.or_eq_true, Bool.and_eq_true, decide_eq_true_eq,
        beq_iff_eq] at kept
      simp only [HeaderValue.isVisibleAscii, toNat_charOfNat (show b.toNat < 55296 by omega),
        Bool.or_eq_true, Bool.and_eq_true, decide_eq_true_eq]
      left
      omega
  · simp only [List.mem_cons, List.mem_singleton, List.not_mem_nil, or_false] at written
    rcases written with rfl | rfl | rfl
    · decide
    · exact isVisibleAscii_hexDigit (by omega)
    · exact isVisibleAscii_hexDigit (by omega)

/-- Percent-encoded text is visible ASCII. -/
theorem isVisibleAscii_of_mem_urlEncode {text : String} {c : Char}
    (written : c ∈ (urlEncode text).data) : HeaderValue.isVisibleAscii c = true := by
  simp only [urlEncode, List.mem_flatMap] at written
  obtain ⟨_, -, _, -, byte⟩ := written
  exact isVisibleAscii_of_mem_encodeByte byte

/-! ## Paths and methods -/

/-- The paths of `is_excluded_path`. -/
def excludedPaths : List String :=
  ["/auth/login", "/auth/logout", "/auth/oauth2", "/auth/health", "/health", "/metrics", "/debug",
    "/quitquitquit", "/config_dump", "/logging", "/assets", "/favicon.ico", "/robots.txt"]

/-- `is_excluded_path`. -/
def isExcludedPath (path : String) : Bool := excludedPaths.any (startsWith path)

/-- The paths of `is_api_path`. -/
def apiPaths : List String := ["/api/", "/auth/", "/config", "/metrics"]

/-- `is_api_path`. -/
def isApiPath (path : String) : Bool := apiPaths.any (startsWith path)

/-- `is_state_changing_request`. -/
def isStateChangingRequest (request : Request) : Bool :=
  match request.method with
  | "POST" | "PUT" | "DELETE" | "PATCH" => true
  | _ => false

/-- A path is public exactly when one of the excluded paths is a prefix of it, as text. -/
theorem isExcludedPath_iff {path : String} :
    isExcludedPath path = true ↔ ∃ e ∈ excludedPaths, e.data <+: path.data := by
  simp [isExcludedPath, startsWith_iff]

/-! ## The middlewares -/

/-- The session `auth_middleware` takes from the session cookie, with the cookies it adds: a valid
session, refreshed when `refresh_session` succeeds, with the cookie of a new token when there is
one; no session, with a logout cookie when the session expired. -/
def findSession (svc : AuthService) (cookies : Cookies) (now : SystemTime) (fresh : CsrfToken) :
    Outcome Empty (Option UserSession × Cookies) :=
  match cookies.get svc.config.session.cookieName with
  | none => ok (none, cookies)
  | some cookie =>
    match svc.sessionManager.validateSession cookie now with
    | .ok session =>
      match svc.sessionManager.refreshSession session now fresh with
      | .ok (refreshedSession, newToken) =>
        ok (some refreshedSession,
          if newToken.isEmpty then cookies
          else cookies.add (svc.sessionManager.createSessionCookie newToken))
      | .err _ => ok (some session, cookies)
      | .panic message => .panic message
    | .err .sessionExpired => ok (none, cookies.add svc.sessionManager.createLogoutCookie)
    | .err _ => ok (none, cookies)
    | .panic message => .panic message

/-- `Response::builder().status(FOUND).header("Location", location).body(..).unwrap()`. -/
def redirectResponse {ε : Type} (location : String) : Outcome ε Response :=
  match HeaderValue.tryFrom location with
  | some value => ok ⟨StatusCode.found, [("location", value)]⟩
  | none => .panic "called `Result::unwrap()` on an `Err` value: http::Error(InvalidHeaderValue)"

/-- `auth_middleware`, at the instant `now`, where `fresh` is what `generate_csrf_token` returns
if the session is refreshed: the result, and the cookie jar after it. -/
def authMiddleware (svc : AuthService) (cookies : Cookies) (request : Request)
    (next : Request → Response) (now : SystemTime) (fresh : CsrfToken) :
    Outcome Empty (Except StatusCode Response × Cookies) :=
  if isExcludedPath request.path then ok (.ok (next request), cookies)
  else if !svc.config.enabled then ok (.ok (next request), cookies)
  else do
    let (session, cookies) ← findSession svc cookies now fresh
    match session with
    | some session => pure (.ok (next { request with session := some session }), cookies)
    | none =>
      if isApiPath request.path then pure (.error StatusCode.unauthorized, cookies)
      else do
        let response ← redirectResponse ("/auth/login?redirect=" ++ urlEncode request.path)
        pure (.ok response, cookies)

/-- `csrf_middleware`. -/
def csrfMiddleware (svc : AuthService) (request : Request) (next : Request → Response) :
    Except StatusCode Response :=
  if !isStateChangingRequest request then .ok (next request)
  else if !svc.config.security.csrfProtection then .ok (next request)
  else
    match request.session with
    | some session =>
      match request.header "x-csrf-token" with
      | some csrfHeader =>
        match HeaderValue.toStr csrfHeader with
        | some csrfToken =>
          if SessionManager.validateCsrfToken session csrfToken then .ok (next request)
          else .error StatusCode.forbidden
        | none => .error StatusCode.forbidden
      | none => .error StatusCode.forbidden
    | none => .ok (next request)

/-- `role_required_middleware(required_roles)`. -/
def roleRequiredMiddleware (requiredRoles : List String) (request : Request)
    (next : Request → Response) : Except StatusCode Response :=
  match request.session with
  | some session =>
    if requiredRoles.isEmpty || session.hasAnyRole requiredRoles then .ok (next request)
    else .error StatusCode.forbidden
  | none => .error StatusCode.unauthorized

/-- `RequestSessionExt::require_user_session`. -/
def Request.requireUserSession (request : Request) : Except AuthError UserSession :=
  match request.session with
  | some session => .ok session
  | none => .error .sessionNotFound

/-- `RequestSessionExt::require_role`. -/
def Request.requireRole (request : Request) (role : String) : Except AuthError UserSession := do
  let session ← request.requireUserSession
  if session.hasRole role then pure session else throw .invalidCredentials

/-- `RequestSessionExt::require_any_role`. -/
def Request.requireAnyRole (request : Request) (roles : List String) :
    Except AuthError UserSession := do
  let session ← request.requireUserSession
  if session.hasAnyRole roles then pure session else throw .invalidCredentials

/-! ## What the middlewares do -/

/-- The login redirect always builds: percent-encoded text is a valid header value. -/
theorem redirectResponse_login {ε : Type} (path : String) :
    (redirectResponse ("/auth/login?redirect=" ++ urlEncode path) : Outcome ε Response) =
      ok ⟨StatusCode.found, [("location", "/auth/login?redirect=" ++ urlEncode path)]⟩ := by
  have valid : ("/auth/login?redirect=" ++ urlEncode path).data.all HeaderValue.isValid := by
    simp only [String.data_append, List.all_append, Bool.and_eq_true, List.all_eq_true]
    exact ⟨by decide,
      fun _ written => HeaderValue.isValid_of_isVisibleAscii (isVisibleAscii_of_mem_urlEncode written)⟩
  rw [redirectResponse, HeaderValue.tryFrom, if_pos valid]

section Flow

variable {svc : AuthService} {cookies cookies' : Cookies} {request : Request}
  {next : Request → Response} {now : SystemTime} {fresh : CsrfToken}

theorem findSession_of_refresh {token newToken : String} {session refreshed : UserSession}
    (cookie : cookies.get svc.config.session.cookieName = some token)
    (valid : svc.sessionManager.validateSession token now = ok session)
    (refresh : svc.sessionManager.refreshSession session now fresh = ok (refreshed, newToken)) :
    findSession svc cookies now fresh =
      ok (some refreshed, if newToken.isEmpty then cookies
        else cookies.add (svc.sessionManager.createSessionCookie newToken)) := by
  simp only [findSession, cookie, valid, refresh]

theorem findSession_of_refresh_panic {token message : String} {session : UserSession}
    (cookie : cookies.get svc.config.session.cookieName = some token)
    (valid : svc.sessionManager.validateSession token now = ok session)
    (refresh : svc.sessionManager.refreshSession session now fresh = .panic message) :
    findSession svc cookies now fresh = .panic message := by
  simp only [findSession, cookie, valid, refresh]

theorem findSession_of_refresh_err {token : String} {session : UserSession} {e : AuthError}
    (cookie : cookies.get svc.config.session.cookieName = some token)
    (valid : svc.sessionManager.validateSession token now = ok session)
    (refresh : svc.sessionManager.refreshSession session now fresh = err e) :
    findSession svc cookies now fresh = ok (some session, cookies) := by
  simp only [findSession, cookie, valid, refresh]

/-- Without a cookie that validates, no session is found, whatever the cookies become. -/
theorem findSession_without_session
    (noSession : ∀ token, cookies.get svc.config.session.cookieName = some token →
      ∃ e, svc.sessionManager.validateSession token now = err e) :
    ∃ cookies', findSession svc cookies now fresh = ok (none, cookies') := by
  cases cookie : cookies.get svc.config.session.cookieName with
  | none => exact ⟨cookies, by simp only [findSession, cookie]⟩
  | some token =>
      obtain ⟨e, invalid⟩ := noSession token cookie
      cases e <;> simp [findSession, cookie, invalid]

/-- What looking for the session does to the cookies: nothing, or it adds the logout cookie, or,
where the session cookie validated, the cookie of a new token. -/
theorem findSession_cookies {session : Option UserSession}
    (found : findSession svc cookies now fresh = ok (session, cookies')) :
    cookies' = cookies ∨ cookies' = cookies.add svc.sessionManager.createLogoutCookie ∨
      ∃ token s s' newToken, cookies.get svc.config.session.cookieName = some token ∧
        svc.sessionManager.validateSession token now = ok s ∧
        svc.sessionManager.refreshSession s now fresh = ok (s', newToken) ∧
        newToken.isEmpty = false ∧
        cookies' = cookies.add (svc.sessionManager.createSessionCookie newToken) := by
  unfold findSession at found
  split at found
  · cases found
    exact .inl rfl
  · next token cookie =>
    split at found
    · next s valid =>
      split at found
      · next s' newToken refreshed =>
        cases found
        split
        · exact .inl rfl
        · next nonEmpty =>
          exact .inr (.inr ⟨token, s, s', newToken, cookie, valid, refreshed,
            Bool.eq_false_iff.mpr nonEmpty, rfl⟩)
      · cases found
        exact .inl rfl
      · cases found
    · cases found
      exact .inr (.inl rfl)
    · cases found
      exact .inl rfl
    · cases found

/-- The session found is the one the session cookie validates into, or that session refreshed. -/
theorem findSession_some {session : UserSession}
    (found : findSession svc cookies now fresh = ok (some session, cookies')) :
    ∃ token s, cookies.get svc.config.session.cookieName = some token ∧
      svc.sessionManager.validateSession token now = ok s ∧
      (session = s ∨ ∃ newToken, svc.sessionManager.refreshSession s now fresh = ok (session, newToken)) := by
  unfold findSession at found
  split at found
  · cases found
  · next token cookie =>
    split at found
    · next s valid =>
      split at found
      · next s' newToken refreshed =>
        cases found
        exact ⟨token, s, cookie, valid, .inr ⟨newToken, refreshed⟩⟩
      · cases found
        exact ⟨token, _, cookie, valid, .inl rfl⟩
      · cases found
    · cases found
    · cases found
    · cases found

theorem authMiddleware_of_excluded (excluded : isExcludedPath request.path = true) :
    authMiddleware svc cookies request next now fresh = ok (.ok (next request), cookies) := by
  rw [authMiddleware, if_pos excluded]

theorem authMiddleware_of_disabled (disabled : svc.config.enabled = false) :
    authMiddleware svc cookies request next now fresh = ok (.ok (next request), cookies) := by
  simp [authMiddleware, disabled]

theorem authMiddleware_of_found {session : UserSession}
    (notExcluded : isExcludedPath request.path = false) (enabled : svc.config.enabled = true)
    (found : findSession svc cookies now fresh = ok (some session, cookies')) :
    authMiddleware svc cookies request next now fresh =
      ok (.ok (next { request with session := some session }), cookies') := by
  rw [authMiddleware, if_neg (by simp [notExcluded]), if_neg (by simp [enabled]), found, ok_bind]
  rfl

theorem authMiddleware_of_panic {message : String}
    (notExcluded : isExcludedPath request.path = false) (enabled : svc.config.enabled = true)
    (panics : findSession svc cookies now fresh = .panic message) :
    authMiddleware svc cookies request next now fresh = .panic message := by
  rw [authMiddleware, if_neg (by simp [notExcluded]), if_neg (by simp [enabled]), panics,
    panic_bind]

theorem authMiddleware_of_not_found (notExcluded : isExcludedPath request.path = false)
    (enabled : svc.config.enabled = true)
    (notFound : findSession svc cookies now fresh = ok (none, cookies')) :
    authMiddleware svc cookies request next now fresh =
      ok (if isApiPath request.path then .error StatusCode.unauthorized
        else .ok ⟨StatusCode.found, [("location", "/auth/login?redirect=" ++ urlEncode request.path)]⟩,
        cookies') := by
  rw [authMiddleware, if_neg (by simp [notExcluded]), if_neg (by simp [enabled]), notFound, ok_bind]
  split_ifs
  · rfl
  · simp only [redirectResponse_login, ok_bind]
    rfl

/-- `auth_middleware` changes the cookies only as looking for the session does. -/
theorem authMiddleware_cookies {result : Except StatusCode Response}
    (handled : authMiddleware svc cookies request next now fresh = ok (result, cookies')) :
    cookies' = cookies ∨ cookies' = cookies.add svc.sessionManager.createLogoutCookie ∨
      ∃ token s s' newToken, cookies.get svc.config.session.cookieName = some token ∧
        svc.sessionManager.validateSession token now = ok s ∧
        svc.sessionManager.refreshSession s now fresh = ok (s', newToken) ∧
        newToken.isEmpty = false ∧
        cookies' = cookies.add (svc.sessionManager.createSessionCookie newToken) := by
  unfold authMiddleware at handled
  split at handled
  · cases handled
    exact .inl rfl
  split at handled
  · cases handled
    exact .inl rfl
  obtain ⟨⟨session, found⟩, lookup, handled⟩ := bind_eq_ok.mp handled
  suffices same : cookies' = found from same ▸ findSession_cookies lookup
  dsimp only at handled
  cases session with
  | some s =>
      cases handled
      rfl
  | none =>
      split_ifs at handled
      · cases handled
        rfl
      · obtain ⟨_, -, handled⟩ := bind_eq_ok.mp handled
        cases handled
        rfl

/-- A state-changing request with a session passes the CSRF check exactly when its
`X-CSRF-Token` header is visible ASCII and equal to the session's CSRF token. -/
theorem csrfMiddleware_of_session {session : UserSession}
    (changing : isStateChangingRequest request = true)
    (protection : svc.config.security.csrfProtection = true)
    (withSession : request.session = some session) :
    csrfMiddleware svc request next =
      if (request.header "x-csrf-token").bind HeaderValue.toStr = some session.csrfToken then
        .ok (next request)
      else .error StatusCode.forbidden := by
  simp only [csrfMiddleware, changing, protection, withSession, Bool.not_true, Bool.false_eq_true,
    if_false]
  cases request.header "x-csrf-token" with
  | none => rfl
  | some csrfHeader =>
      simp only [Option.some_bind]
      split
      · next csrfToken visible =>
          simp only [visible]
          by_cases same : csrfToken = session.csrfToken
          · simp [SessionManager.validateCsrfToken, same]
          · simp [SessionManager.validateCsrfToken, same, Ne.symm same]
      · next invisible => simp [invisible]

end Flow

/-- Looking for the session panics exactly when the session cookie's validation panics, or the
refresh of the session it validates into does. -/
theorem findSession_panics_iff {svc : AuthService} {cookies : Cookies} {now : SystemTime}
    {fresh : CsrfToken} :
    (findSession svc cookies now fresh).Panics ↔
      ∃ token, cookies.get svc.config.session.cookieName = some token ∧
        ((svc.sessionManager.validateSession token now).Panics ∨
          ∃ s, svc.sessionManager.validateSession token now = ok s ∧
            (svc.sessionManager.refreshSession s now fresh).Panics) := by
  unfold findSession
  cases cookies.get svc.config.session.cookieName with
  | none => simp
  | some token =>
      simp only [Option.some.injEq, exists_eq_left']
      cases svc.sessionManager.validateSession token now with
      | ok s => cases refresh : svc.sessionManager.refreshSession s now fresh <;> simp [refresh]
      | err e => cases e <;> simp
      | panic message => simp

/-- `auth_middleware` panics exactly on a protected path with authentication on, when the session
cookie's validation panics or the refresh of the session it validates into does: the login
redirect always builds. -/
theorem authMiddleware_panics_iff (svc : AuthService) (cookies : Cookies) (request : Request)
    (next : Request → Response) (now : SystemTime) (fresh : CsrfToken) :
    (authMiddleware svc cookies request next now fresh).Panics ↔
      isExcludedPath request.path = false ∧ svc.config.enabled = true ∧
      ∃ token, cookies.get svc.config.session.cookieName = some token ∧
        ((svc.sessionManager.validateSession token now).Panics ∨
          ∃ s, svc.sessionManager.validateSession token now = ok s ∧
            (svc.sessionManager.refreshSession s now fresh).Panics) := by
  rw [← findSession_panics_iff]
  cases excluded : isExcludedPath request.path
  · cases enabled : svc.config.enabled
    · simp [authMiddleware_of_disabled enabled]
    · cases found : findSession svc cookies now fresh with
      | ok result =>
          obtain ⟨session | _, cookies'⟩ := result
          · rw [authMiddleware_of_not_found excluded enabled found]
            simp
          · rw [authMiddleware_of_found excluded enabled found]
            simp
      | err e => exact e.elim
      | panic message =>
          rw [authMiddleware_of_panic excluded enabled found]
          simp
  · simp [authMiddleware_of_excluded excluded]

/-- With authentication on and no valid session cookie, a request passes untouched exactly on a
path that one of the excluded paths is a prefix of, as text; on any other path an API request
gets `401` and any other a redirect to the login page. -/
theorem authMiddleware_without_session (svc : AuthService) (cookies : Cookies) (request : Request)
    (next : Request → Response) (now : SystemTime) (fresh : CsrfToken)
    (enabled : svc.config.enabled = true)
    (noSession : ∀ token, cookies.get svc.config.session.cookieName = some token →
      ∃ e, svc.sessionManager.validateSession token now = err e) :
    ∃ cookies', authMiddleware svc cookies request next now fresh =
      ok (if ∃ e ∈ excludedPaths, e.data <+: request.path.data then (.ok (next request), cookies)
        else if isApiPath request.path then (.error StatusCode.unauthorized, cookies')
        else (.ok ⟨StatusCode.found,
          [("location", "/auth/login?redirect=" ++ urlEncode request.path)]⟩, cookies')) := by
  obtain ⟨cookies', notFound⟩ : ∃ cookies', findSession svc cookies now fresh = ok (none, cookies') :=
    findSession_without_session noSession
  refine ⟨cookies', ?_⟩
  by_cases public : ∃ e ∈ excludedPaths, e.data <+: request.path.data
  · rw [authMiddleware_of_excluded (isExcludedPath_iff.mpr public), if_pos public]
  · have excluded : isExcludedPath request.path = false :=
      Bool.eq_false_iff.mpr (mt isExcludedPath_iff.mp public)
    rw [authMiddleware_of_not_found excluded enabled notFound, if_neg public]
    split_ifs <;> rfl

theorem authMiddleware_without_session_at_enabledDefault :
    ∃ cookies', authMiddleware .enabledDefault ⟨[], []⟩ ⟨"GET", "/api/config", [], none⟩
        (fun _ => ⟨StatusCode.found, []⟩) SystemTime.unixEpoch .sample =
      ok (if ∃ e ∈ excludedPaths, e.data <+: "/api/config".data then
          (.ok ⟨StatusCode.found, []⟩, ⟨[], []⟩)
        else if isApiPath "/api/config" then (.error StatusCode.unauthorized, cookies')
        else (.ok ⟨StatusCode.found,
          [("location", "/auth/login?redirect=" ++ urlEncode "/api/config")]⟩, cookies')) :=
  authMiddleware_without_session .enabledDefault ⟨[], []⟩ ⟨"GET", "/api/config", [], none⟩
    (fun _ => ⟨StatusCode.found, []⟩) SystemTime.unixEpoch .sample rfl
    (fun _ noCookie => by simp [Cookies.get] at noCookie)

/-- `/healthz` is neither an excluded path nor below one, yet it is public: with authentication on
and no cookie, it reaches the handler. -/
theorem authMiddleware_healthz_is_public :
    (∀ e ∈ excludedPaths, e ≠ "/healthz" ∧ ¬ (e ++ "/").data <+: "/healthz".data) ∧
      ∃ svc, AuthService.new { AuthConfig.default with enabled := true } (Jwt.unary SessionClaims)
          (fun _ _ => .ok false) = ok svc ∧
        authMiddleware svc ⟨[], []⟩ ⟨"GET", "/healthz", [], none⟩
            (fun _ => ⟨⟨200, by decide⟩, []⟩) SystemTime.unixEpoch .sample =
          ok (.ok ⟨⟨200, by decide⟩, []⟩, ⟨[], []⟩) :=
  ⟨by decide, _, rfl, authMiddleware_of_excluded (by decide)⟩

end Agentgateway.Auth
