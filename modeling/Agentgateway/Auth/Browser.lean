import Agentgateway.Auth.CookieJar
import Agentgateway.Auth.Handlers
import Agentgateway.Auth.OAuth2Handlers

/-!
# A browser through the authentication routes

Runs of any requests, on any paths, against the browser's cookie jar. Until a sign-in no session is
found, every session found is for a signed-in user, and a callback accepts only the state of the
last OAuth2 login, though not only once, since the state cookie is removed with no path.
-/

namespace Agentgateway.Auth

open Outcome

/-! ## Runs -/

/-- What a run records: a login or an OAuth2 callback that signed the user in, an OAuth2 login
that issued a state, and a callback that accepted one. -/
inductive Event where
  | signedIn
  | stateIssued (state : String)
  | stateAccepted (state : String)
  deriving DecidableEq

/-- The state an event issues. -/
def Event.issued : Event → Option String
  | .stateIssued state => some state
  | _ => none

/-- The state the last OAuth2 login of a history issued. -/
def lastIssued (events : List Event) : Option String :=
  (events.filterMap Event.issued).getLast?

theorem lastIssued_append_of_quiet {events shown : List Event}
    (quiet : shown.filterMap Event.issued = []) : lastIssued (events ++ shown) = lastIssued events := by
  rw [lastIssued, List.filterMap_append, quiet, List.append_nil, lastIssued]

@[simp] theorem lastIssued_append_issued (events : List Event) (state : String) :
    lastIssued (events ++ [.stateIssued state]) = some state := by
  rw [lastIssued, List.filterMap_append]
  exact List.getLast?_concat _

/-- What a login submission shows: a sign-in where it answers success. -/
def loginEvents : Except StatusCode LoginResponse → List Event
  | .ok response => if response.success then [.signedIn] else []
  | .error _ => []

/-- What an OAuth2 login shows: the state it issued, where it redirects. -/
def oauth2LoginEvents (state : String) : Except StatusCode Response → List Event
  | .ok _ => [.stateIssued state]
  | .error _ => []

/-- What a callback shows: the state it accepted and a sign-in, where it redirects home. -/
def callbackEvents (params : OAuth2CallbackQuery) : Except StatusCode Response → List Event
  | .ok response =>
    if response = signedInResponse then [.stateAccepted (params.state.getD ""), .signedIn] else []
  | .error _ => []

/-- A login submission shows no state event. -/
theorem loginEvents_quiet (response : Except StatusCode LoginResponse) :
    (loginEvents response).filterMap Event.issued = [] ∧
      ∀ state, .stateAccepted state ∉ loginEvents response := by
  cases response with
  | error => exact ⟨rfl, nofun⟩
  | ok r => by_cases success : r.success <;> simp [loginEvents, success, Event.issued]

theorem callbackEvents_of_ne {params : OAuth2CallbackQuery} {result : Except StatusCode Response}
    (other : result ≠ .ok signedInResponse) : callbackEvents params result = [] := by
  cases result with
  | error => rfl
  | ok response => exact if_neg fun same => other (congrArg Except.ok same)

variable (svc : AuthService) (providers : List OAuth2Provider)

/-- One request of the browser, from the jar it holds to the jar after the response, with what the
response shows. A request for `path` carries the jar's cookies for that path, and the routes of the
handlers are not fixed; a request that panics makes no step. -/
inductive Step : List StoredCookie → List Event → List StoredCookie → Prop
  | loginPage {jar path now csrf page cookies} :
      handleLoginPage svc ⟨cookieHeader path jar, []⟩ now csrf = ok (page, cookies) →
      Step jar [] (cookies.settle path jar)
  | loginSubmit {jar path loginReq now sessionId csrf response cookies} :
      handleLoginSubmit svc ⟨cookieHeader path jar, []⟩ loginReq now sessionId csrf =
        ok (response, cookies) →
      Step jar (loginEvents response) (cookies.settle path jar)
  | logout {jar path} :
      Step jar [] ((handleLogout svc ⟨cookieHeader path jar, []⟩).2.settle path jar)
  | middleware {jar request next now fresh result cookies} :
      authMiddleware svc ⟨cookieHeader request.path jar, []⟩ request next now fresh =
        ok (result, cookies) →
      Step jar [] (cookies.settle request.path jar)
  | oauth2Login {jar path providerName state result cookies} :
      handleOAuth2Login svc providers ⟨cookieHeader path jar, []⟩ providerName state =
        ok (result, cookies) →
      Step jar (oauth2LoginEvents state result) (cookies.settle path jar)
  | oauth2Callback {jar path providerName params now sessionId csrf result cookies} :
      handleOAuth2Callback svc providers ⟨cookieHeader path jar, []⟩ providerName params now
        sessionId csrf = ok (result, cookies) →
      Step jar (callbackEvents params result) (cookies.settle path jar)
  | expire {jar entry} : Step jar [] (jar.erase entry)

/-- The jars a browser reaches from `start` by a run of requests, with the events of the run. -/
inductive Reach (start : List StoredCookie) : List StoredCookie → List Event → Prop
  | start : Reach start start []
  | step {jar events shown jar'} : Reach start jar events → Step svc providers jar shown jar' →
      Reach start jar' (events ++ shown)

@[simp] theorem Cookies.settle_request (incoming : List (String × String)) (path : String)
    (jar : List StoredCookie) : (⟨incoming, []⟩ : Cookies).settle path jar = jar := rfl

/-- A cookie of a name after a response was there before, or the response added a cookie of that
name and value. -/
theorem mem_settle_named {cookies : Cookies} {path name : String} {jar : List StoredCookie}
    {e : StoredCookie} (settled : e ∈ cookies.settle path jar) (named : e.name = name) :
    e ∈ jar ∨ ∃ cookie, .add cookie ∈ cookies.delta ∧ cookie.expired = false ∧
      cookie.name = name ∧ e.value = cookie.value := by
  rcases mem_settle settled with ⟨kept, -⟩ | ⟨cookie, added, fresh, rfl⟩
  · exact .inl kept
  · exact .inr ⟨cookie, added, fresh, named, rfl⟩

/-! ## What the runs assume of the service -/

/-- The service as `AuthService::new` makes it: its session manager is the one
`SessionManager::new` makes of its session settings; and its session cookie is neither the CSRF
cookie nor the OAuth2 state cookie. -/
structure Setup (svc : AuthService) : Prop where
  manager : SessionManager.new svc.config.session svc.sessionManager.jwt = ok svc.sessionManager
  notCsrf : svc.config.session.cookieName ≠ "csrf_token"
  notState : svc.config.session.cookieName ≠ "oauth2_state"

variable {svc}

theorem Setup.of_new {config : AuthConfig} {jwt : Jwt SessionClaims}
    {verify : String → String → Except String Bool} (made : AuthService.new config jwt verify = ok svc)
    (notCsrf : config.session.cookieName ≠ "csrf_token")
    (notState : config.session.cookieName ≠ "oauth2_state") : Setup svc := by
  obtain ⟨manager, rfl⟩ := AuthService.new_sessionManager made
  exact ⟨by rw [SessionManager.eq_of_new manager]; rfl, notCsrf, notState⟩

/-- The session cookie the session manager writes has the name the service reads. -/
theorem Setup.sessionCookie_name (setup : Setup svc) (token : String) :
    (svc.sessionManager.createSessionCookie token).name = svc.config.session.cookieName := by
  rw [SessionManager.eq_of_new setup.manager]
  rfl

/-! ## Who a session is for -/

/-- Who a session is for: the user, the user's roles, and how the user signed in. -/
structure Identity where
  /-- The user id. -/
  userId : String
  /-- The username. -/
  username : String
  /-- The email. -/
  email : Option String
  /-- The roles. -/
  roles : List String
  /-- How the user signed in. -/
  authMethod : AuthMethod

/-- Who the claims of a token are for. -/
def SessionClaims.identity (c : SessionClaims) : Identity :=
  ⟨c.userId, c.username, c.email, c.roles, c.authMethod⟩

/-- Who a session is for. -/
def UserSession.identity (s : UserSession) : Identity :=
  ⟨s.userId, s.username, s.email, s.roles, s.authMethod⟩

@[simp] theorem SessionClaims.identity_ofSession (s : UserSession) (iat exp : BitVec 64) :
    (SessionClaims.ofSession s iat exp).identity = s.identity := rfl

@[simp] theorem UserSession.identity_ofClaims (c : SessionClaims)
    (createdAt lastAccessed expiresAt : SystemTime) :
    (UserSession.ofClaims c createdAt lastAccessed expiresAt).identity = c.identity := rfl

/-- A refresh keeps who the session is for. -/
theorem UserSession.identity_of_refresh {m : SessionManager} {s s' : UserSession}
    {now : SystemTime} {fresh : CsrfToken} {token : String}
    (refreshed : m.refreshSession s now fresh = ok (s', token)) : s'.identity = s.identity := by
  rcases (SessionManager.refreshSession_cases refreshed).2 with ⟨-, rfl, -⟩ | ⟨-, -, same, -⟩
  · rfl
  · rw [same]
    rfl

/-- The identities a sign-in gives a session: an enabled user that the user provider
authenticates, signed in by password; or the user an OAuth2 provider maps from user information it
returned, signed in with that provider. -/
def SignInIdentity (svc : AuthService) (providers : List OAuth2Provider) (id : Identity) : Prop :=
  (∃ username password user, svc.userProvider.authenticateUser username password = ok user ∧
      user.enabled = true ∧ id = ⟨user.id, user.username, user.email, user.roles, .traditional⟩) ∨
    ∃ name provider accessToken userInfo, getOAuth2Provider providers name = some provider ∧
      provider.getUserInfo accessToken = ok userInfo ∧
      id = ⟨(provider.mapUserInfo userInfo).id, (provider.mapUserInfo userInfo).username,
        (provider.mapUserInfo userInfo).email, (provider.mapUserInfo userInfo).roles, .oAuth2 name⟩

/-! ## The session cookie -/

/-- No session cookie of the jar verifies. -/
def SessionRejected (svc : AuthService) (jar : List StoredCookie) : Prop :=
  ∀ e ∈ jar, e.name = svc.config.session.cookieName →
    ∃ err, svc.sessionManager.jwt.verify e.value = .error err

/-- Every session cookie of the jar that verifies is for an identity a sign-in gives. -/
def SessionsSignedIn (svc : AuthService) (providers : List OAuth2Provider)
    (jar : List StoredCookie) : Prop :=
  ∀ e ∈ jar, e.name = svc.config.session.cookieName → ∀ c,
    svc.sessionManager.jwt.verify e.value = .ok c → SignInIdentity svc providers c.identity

section Session

variable {providers} (setup : Setup svc) {jar jar' : List StoredCookie} {shown : List Event}
include setup

/-- A session cookie after a step was in the jar before, or holds a token that `create_session`
made: of a session a sign-in made, which the step shows, or of the session a session cookie of the
jar validated into, refreshed. -/
theorem Step.session_made (step : Step svc providers jar shown jar') {e : StoredCookie}
    (mem : e ∈ jar') (named : e.name = svc.config.session.cookieName) :
    e ∈ jar ∨ ∃ session now, svc.sessionManager.createSession session now = ok e.value ∧
      ((.signedIn ∈ shown ∧ SignInIdentity svc providers session.identity) ∨
        ∃ old ∈ jar, old.name = svc.config.session.cookieName ∧ ∃ now' s,
          svc.sessionManager.validateSession old.value now' = ok s ∧
          session.identity = s.identity) := by
  have notCsrf := setup.notCsrf
  have notState := setup.notState
  cases step with
  | loginPage served =>
      rcases mem_settle_named mem named with kept | ⟨c, added, -, name, -⟩
      · exact .inl kept
      rcases handleLoginPage_cookies served with rfl | rfl
      · cases added
      · obtain rfl := Cookies.eq_of_mem_add added
        exact absurd name.symm notCsrf
  | loginSubmit answered =>
      rcases handleLoginSubmit_cookies answered with
        ⟨r, rfl, success, user, session, token, authenticated, enabled, made, signed, rfl⟩ |
        ⟨-, rfl⟩
      · rcases mem_settle_named mem named with kept | ⟨c, added, -, -, valued⟩
        · exact .inl kept
        obtain rfl := Cookies.eq_of_mem_add_remove added
        refine .inr ⟨session, _, by rw [valued]; exact signed,
          .inl ⟨by simp [loginEvents, success], .inl ⟨_, _, user, authenticated, enabled, ?_⟩⟩⟩
        obtain ⟨_, -, rfl⟩ := UserSession.new_eq_ok.mp made
        rfl
      · exact .inl mem
  | logout =>
      rcases mem_settle_named mem named with kept | ⟨c, added, fresh, -⟩
      · exact .inl kept
      obtain rfl := Cookies.eq_of_mem_add added
      cases fresh
  | middleware handled =>
      rcases mem_settle_named mem named with kept | ⟨c, added, fresh, -, valued⟩
      · exact .inl kept
      rcases authMiddleware_cookies handled with
        rfl | rfl | ⟨token, s, s', newToken, cookie, valid, refreshed, nonEmpty, rfl⟩
      · cases added
      · obtain rfl := Cookies.eq_of_mem_add added
        cases fresh
      · obtain rfl := Cookies.eq_of_mem_add added
        rcases (SessionManager.refreshSession_cases refreshed).2 with
          ⟨-, -, rfl⟩ | ⟨-, -, -, signed⟩
        · cases nonEmpty
        obtain ⟨old, oldMem, oldNamed, oldValue⟩ := get_cookieHeader cookie
        refine .inr ⟨s', _, by rw [valued]; exact signed, .inr ⟨old, oldMem, oldNamed, _, s,
          by rw [oldValue]; exact valid,
          UserSession.identity_of_refresh refreshed⟩⟩
  | oauth2Login handled =>
      rcases mem_settle_named mem named with kept | ⟨c, added, -, name, -⟩
      · exact .inl kept
      rcases handleOAuth2Login_cases handled with ⟨-, -, rfl⟩ | ⟨-, -, rfl⟩
      · obtain rfl := Cookies.eq_of_mem_add added
        exact absurd name.symm notState
      · cases added
  | oauth2Callback handled =>
      rcases mem_settle_named mem named with kept | ⟨c, added, -, -, valued⟩
      · exact .inl kept
      rcases handleOAuth2Callback_cases handled with ⟨code, state, -, -, -, -, signed⟩ | ⟨-, rfl⟩
      · rcases signIn_cases signed with ⟨rfl, provider, tokens, userInfo, session, token, found,
          -, read, made, signedToken, rfl⟩ | ⟨-, -, rfl⟩
        · obtain rfl := Cookies.eq_of_mem_add_remove added
          refine .inr ⟨session, _, by rw [valued]; exact signedToken, .inl ⟨by simp [callbackEvents],
            .inr ⟨_, provider, tokens.accessToken, userInfo, found, read, ?_⟩⟩⟩
          obtain ⟨_, -, rfl⟩ := UserSession.new_eq_ok.mp made
          rfl
        · cases added
      · cases added
  | expire => exact .inl (List.mem_of_mem_erase mem)

/-- Over a run from a jar whose session cookies do not verify, no session cookie of the jar
verifies until a sign-in. -/
theorem Reach.signedIn_or_rejected {start : List StoredCookie} {events : List Event}
    (startRejected : SessionRejected svc start) (reach : Reach svc providers start jar events) :
    .signedIn ∈ events ∨ SessionRejected svc jar := by
  induction reach with
  | start => exact .inr startRejected
  | @step jar events shown jar' _ step ih =>
      rcases ih with signedIn | rejected
      · exact .inl (List.mem_append_left _ signedIn)
      by_cases signs : Event.signedIn ∈ shown
      · exact .inl (List.mem_append_right _ signs)
      refine .inr fun e mem named => ?_
      rcases step.session_made setup mem named with kept |
        ⟨-, -, -, ⟨signedIn, -⟩ | ⟨old, oldMem, oldNamed, now', s, valid, -⟩⟩
      · exact rejected e kept named
      · exact absurd signedIn signs
      · obtain ⟨err, fails⟩ := rejected old oldMem oldNamed
        rw [SessionManager.validateSession_of_rejected setup.manager fails] at valid
        cases valid

/-- Over a run from a jar whose verifying session cookies are for signed-in identities, every
session cookie of the jar that verifies is. -/
theorem Reach.sessionsSignedIn {start : List StoredCookie} {events : List Event}
    (startSigned : SessionsSignedIn svc providers start)
    (reach : Reach svc providers start jar events) : SessionsSignedIn svc providers jar := by
  induction reach with
  | start => exact startSigned
  | step _ step ih =>
      intro e mem named c verified
      rcases step.session_made setup mem named with kept | ⟨session, now, made, origin⟩
      · exact ih e kept named c verified
      obtain ⟨iat, exp, encoded⟩ := SessionManager.verify_of_createSession made
      rw [encoded] at verified
      cases verified
      rw [SessionClaims.identity_ofSession]
      rcases origin with ⟨-, signed⟩ | ⟨old, oldMem, oldNamed, now', s, valid, same⟩
      · exact signed
      · rw [same]
        obtain ⟨c, -, -, oldVerified, -, -, -, -, rfl⟩ :=
          (SessionManager.validateSession_eq_ok setup.manager).mp valid
        rw [UserSession.identity_ofClaims]
        exact ih old oldMem oldNamed c oldVerified

end Session

/-! ## The OAuth2 state -/

/-- Every state cookie of the jar is stored under `/` and holds the state the run issued last. -/
def StateCookiesIssued (jar : List StoredCookie) (events : List Event) : Prop :=
  ∀ e ∈ jar, e.name = "oauth2_state" → e.path = "/" ∧ lastIssued events = some e.value

/-- Every state a callback accepted is the one the last OAuth2 login before it issued. -/
def AcceptsLastIssued (events : List Event) : Prop :=
  ∀ pre state post, events = pre ++ .stateAccepted state :: post → lastIssued pre = some state

/-- A history keeps its acceptances right when the events after it accept only the state the last
OAuth2 login before them issued. -/
theorem AcceptsLastIssued.append {events shown : List Event} (accepts : AcceptsLastIssued events)
    (new : ∀ pre state post, shown = pre ++ .stateAccepted state :: post →
      lastIssued (events ++ pre) = some state) :
    AcceptsLastIssued (events ++ shown) := by
  intro pre state post split
  rcases List.append_eq_append_iff.mp split with ⟨rest, rfl, inShown⟩ | ⟨_ | ⟨e, rest⟩, inEvents, tail⟩
  · exact new rest state post inShown
  · rw [List.append_nil] at inEvents
    subst inEvents
    simpa using new [] state post tail.symm
  · obtain ⟨rfl, rfl⟩ := List.cons.inj tail
    exact accepts pre state rest inEvents

theorem acceptsLastIssued_quiet {events shown : List Event} (accepts : AcceptsLastIssued events)
    (quiet : ∀ state, .stateAccepted state ∉ shown) : AcceptsLastIssued (events ++ shown) :=
  accepts.append fun pre state _ split =>
    absurd (split ▸ List.mem_append_right pre (List.mem_cons_self _ _)) (quiet state)

section State

variable {providers} {jar jar' : List StoredCookie} {shown : List Event}
  (notState : svc.sessionManager.config.cookieName ≠ "oauth2_state")
include notState

/-- A step either shows no state event and adds no state cookie; or it is an OAuth2 login that
shows the state it issues and stores it under `/` in place of the state cookie there; or a
callback that shows it accepted the state of one of the jar's state cookies, and adds none. -/
theorem Step.state_cases (step : Step svc providers jar shown jar') :
    (shown.filterMap Event.issued = [] ∧ (∀ state, .stateAccepted state ∉ shown) ∧
        ∀ e ∈ jar', e.name = "oauth2_state" → e ∈ jar) ∨
      (∃ state, shown = [.stateIssued state] ∧ ∀ e ∈ jar', e.name = "oauth2_state" →
        e = ⟨"oauth2_state", "/", state⟩ ∨ (e ∈ jar ∧ e.path ≠ "/")) ∨
      (∃ state, shown = [.stateAccepted state, .signedIn] ∧
        (∃ e ∈ jar, e.name = "oauth2_state" ∧ e.value = state) ∧
        ∀ e ∈ jar', e.name = "oauth2_state" → e ∈ jar) := by
  have notState' := Ne.symm notState
  cases step with
  | loginPage served =>
      refine .inl ⟨rfl, nofun, fun e mem named => ?_⟩
      rcases mem_settle_named mem named with kept | ⟨c, added, -, name, -⟩
      · exact kept
      rcases handleLoginPage_cookies served with rfl | rfl
      · cases added
      · obtain rfl := Cookies.eq_of_mem_add added
        exact absurd name (by simp [csrfCookie])
  | loginSubmit answered =>
      refine .inl ⟨(loginEvents_quiet _).1, (loginEvents_quiet _).2, fun e mem named => ?_⟩
      rcases mem_settle_named mem named with kept | ⟨c, added, -, name, -⟩
      · exact kept
      rcases handleLoginSubmit_cookies answered with
        ⟨-, -, -, -, -, token, -, -, -, -, rfl⟩ | ⟨-, rfl⟩
      · obtain rfl := Cookies.eq_of_mem_add_remove added
        exact absurd name notState
      · cases added
  | logout =>
      refine .inl ⟨rfl, nofun, fun e mem named => ?_⟩
      rcases mem_settle_named mem named with kept | ⟨c, added, fresh, -⟩
      · exact kept
      obtain rfl := Cookies.eq_of_mem_add added
      cases fresh
  | middleware handled =>
      refine .inl ⟨rfl, nofun, fun e mem named => ?_⟩
      rcases mem_settle_named mem named with kept | ⟨c, added, fresh, name, -⟩
      · exact kept
      rcases authMiddleware_cookies handled with rfl | rfl | ⟨-, -, -, newToken, -, -, -, -, rfl⟩
      · cases added
      · obtain rfl := Cookies.eq_of_mem_add added
        cases fresh
      · obtain rfl := Cookies.eq_of_mem_add added
        exact absurd name notState
  | oauth2Login handled =>
      rcases handleOAuth2Login_cases handled with ⟨-, rfl, rfl⟩ | ⟨-, rfl, rfl⟩
      · refine .inr (.inl ⟨_, rfl, fun e mem named => ?_⟩)
        rcases mem_settle mem with ⟨kept, untouched⟩ | ⟨c, added, -, rfl⟩
        · refine .inr ⟨kept, fun onRoot => ?_⟩
          have := untouched _ (List.mem_singleton_self _)
          simp [StoredCookie.sameKey, Cookie.stored, Cookie.storedPath, oauth2StateCookie, named,
            onRoot] at this
        · obtain rfl := Cookies.eq_of_mem_add added
          exact .inl rfl
      · exact .inl ⟨rfl, nofun, fun e mem _ => mem⟩
  | oauth2Callback handled =>
      rcases handleOAuth2Callback_cases handled with
        ⟨code, state, -, -, given, cookie, signed⟩ | ⟨other, rfl⟩
      · rcases signIn_cases signed with ⟨rfl, -, -, -, -, token, -, -, -, -, -, rfl⟩ | ⟨-, rfl, rfl⟩
        · refine .inr (.inr ⟨state, by simp [callbackEvents, given], get_cookieHeader cookie,
            fun e mem named => ?_⟩)
          rcases mem_settle_named mem named with kept | ⟨c, added, -, name, -⟩
          · exact kept
          obtain rfl := Cookies.eq_of_mem_add_remove added
          exact absurd name notState
        · exact .inl ⟨rfl, nofun, fun e mem _ => mem⟩
      · exact .inl ⟨by rw [callbackEvents_of_ne other]; rfl, by rw [callbackEvents_of_ne other]; nofun,
          fun e mem _ => mem⟩
  | expire => exact .inl ⟨rfl, nofun, fun e mem _ => List.mem_of_mem_erase mem⟩

/-- Over a run from a jar without a state cookie, every state cookie holds the state the run issued
last, and every callback accepted the state the last OAuth2 login before it issued. -/
theorem Reach.stateIssued {start : List StoredCookie} {events : List Event}
    (noState : ∀ e ∈ start, e.name ≠ "oauth2_state") (reach : Reach svc providers start jar events) :
    StateCookiesIssued jar events ∧ AcceptsLastIssued events := by
  induction reach with
  | start =>
      exact ⟨fun e mem named => absurd named (noState e mem),
        fun pre state post split => by simp at split⟩
  | @step jar events shown jar' _ step ih =>
      obtain ⟨issued, accepts⟩ := ih
      rcases step.state_cases notState with ⟨quiet, noAccept, kept⟩ | ⟨state, rfl, stored⟩ |
        ⟨state, rfl, ⟨cookie, cookieMem, cookieNamed, rfl⟩, kept⟩
      · refine ⟨fun e mem named => ?_, acceptsLastIssued_quiet accepts noAccept⟩
        rw [lastIssued_append_of_quiet quiet]
        exact issued e (kept e mem named) named
      · refine ⟨fun e mem named => ?_, acceptsLastIssued_quiet accepts (by simp)⟩
        rcases stored e mem named with rfl | ⟨old, notRoot⟩
        · exact ⟨rfl, lastIssued_append_issued _ _⟩
        · exact absurd (issued e old named).1 notRoot
      · refine ⟨fun e mem named => ?_, accepts.append fun pre state' post split => ?_⟩
        · have quiet : [Event.stateAccepted cookie.value, .signedIn].filterMap Event.issued = [] :=
            rfl
          rw [lastIssued_append_of_quiet quiet]
          exact issued e (kept e mem named) named
        · rcases pre with _ | ⟨first, _ | ⟨second, pre⟩⟩
          · obtain ⟨same, -⟩ := List.cons.inj split
            rw [List.append_nil, ← Event.stateAccepted.inj same]
            exact (issued cookie cookieMem cookieNamed).2
          · simp at split
          · simp at split

end State

/-! ## Removals with no path -/

/-- A response whose added cookies have other names keeps a cookie stored under `/` when the
request's default-path is not `/`, where the browser stores the response's removals. -/
theorem mem_settle_of_removed_elsewhere {cookies : Cookies} {path : String}
    {jar : List StoredCookie} {e : StoredCookie} (kept : e ∈ jar) (onRoot : e.path = "/")
    (deep : defaultPath path ≠ "/") (others : ∀ c, .add c ∈ cookies.delta → c.name ≠ e.name) :
    e ∈ cookies.settle path jar := by
  refine mem_settle_of_untouched kept fun c sent => ?_
  rcases Cookies.mem_setCookies sent with added | ⟨name, rfl⟩
  · simp [StoredCookie.sameKey, Cookie.stored, Ne.symm (others c added)]
  · simp [StoredCookie.sameKey, Cookie.stored, onRoot, Ne.symm deep]

/-! ## Over every run -/

section Runs

variable {providers} {config : AuthConfig} {jwt : Jwt SessionClaims}
  {verify : String → String → Except String Bool} {start jar : List StoredCookie}
  {events : List Event}

/-- Until a sign-in, over every run from a jar whose session cookies do not verify,
`auth_middleware` finds no session on any path and `handle_user_info` answers `401`. -/
theorem reach_unauthorized_before_sign_in (made : AuthService.new config jwt verify = ok svc)
    (notCsrf : config.session.cookieName ≠ "csrf_token")
    (notState : config.session.cookieName ≠ "oauth2_state")
    (startRejected : SessionRejected svc start) (reach : Reach svc providers start jar events)
    (notSignedIn : Event.signedIn ∉ events) :
    (∀ request next now fresh, isExcludedPath request.path = false → config.enabled = true →
      ∃ cookies', authMiddleware svc ⟨cookieHeader request.path jar, []⟩ request next now fresh =
        ok (if isApiPath request.path then .error StatusCode.unauthorized
          else .ok ⟨StatusCode.found, [("location", "/auth/login?redirect=" ++ urlEncode request.path)]⟩,
          cookies')) ∧
      ∀ path now, handleUserInfo svc ⟨cookieHeader path jar, []⟩ now = err StatusCode.unauthorized := by
  have setup := Setup.of_new made notCsrf notState
  obtain ⟨-, rfl⟩ := AuthService.new_sessionManager made
  have rejected := (reach.signedIn_or_rejected setup startRejected).resolve_left notSignedIn
  have noSession : ∀ path now token,
      (⟨cookieHeader path jar, []⟩ : Cookies).get svc.config.session.cookieName = some token →
      ∃ e, svc.sessionManager.validateSession token now = err e := fun path now token cookie => by
    obtain ⟨e, mem, named, rfl⟩ := get_cookieHeader cookie
    obtain ⟨_, fails⟩ := rejected e mem named
    exact ⟨_, SessionManager.validateSession_of_rejected setup.manager fails⟩
  refine ⟨fun request next now fresh notExcluded enabled => ?_, fun path now =>
    handleUserInfo_without_session (noSession path now)⟩
  obtain ⟨cookies', found⟩ : ∃ cookies',
      findSession svc ⟨cookieHeader request.path jar, []⟩ now fresh = ok (none, cookies') :=
    findSession_without_session (noSession request.path now)
  exact ⟨cookies', authMiddleware_of_not_found notExcluded enabled found⟩

/-- A visit to the login page stores the CSRF cookie under `/`. -/
theorem reach_after_loginPage :
    Reach AuthService.enabledDefault [] [] [⟨"csrf_token", "/", CsrfToken.sample.value⟩] ([] ++ []) :=
  .step .start (.loginPage (show handleLoginPage AuthService.enabledDefault ⟨cookieHeader "/auth/login" [], []⟩
    ⟨100000000000, by omega, by omega⟩ .sample = ok (.form CsrfToken.sample.value,
      (⟨[], []⟩ : Cookies).add (csrfCookie AuthService.enabledDefault CsrfToken.sample.value))
    from rfl))

theorem reach_unauthorized_before_sign_in_after_login_page :
    handleUserInfo AuthService.enabledDefault
      ⟨cookieHeader "/auth/user" [⟨"csrf_token", "/", CsrfToken.sample.value⟩], []⟩
      ⟨100000000000, by omega, by omega⟩ = err StatusCode.unauthorized :=
  (reach_unauthorized_before_sign_in AuthService.new_enabledDefault (by decide) (by decide)
    (fun _ mem => nomatch mem : SessionRejected AuthService.enabledDefault [])
    reach_after_loginPage (by decide)).2 _ _

/-- Over every run from a jar without a state cookie, a callback signs the user in only with the
state of the last OAuth2 login before it, as often as it is replayed. -/
theorem reach_accepts_last_issued_state (made : AuthService.new config jwt verify = ok svc)
    (notState : config.session.cookieName ≠ "oauth2_state")
    (noState : ∀ e ∈ start, e.name ≠ "oauth2_state") (reach : Reach svc providers start jar events) :
    AcceptsLastIssued events := by
  obtain ⟨manager, rfl⟩ := AuthService.new_sessionManager made
  have named : svc.sessionManager.config.cookieName ≠ "oauth2_state" := by
    rw [SessionManager.eq_of_new manager]
    exact notState
  exact (reach.stateIssued named noState).2

/-- A provider that authorizes any state and exchanges any code for the user `octocat`. -/
def OAuth2Provider.sample : OAuth2Provider where
  name := "sample"
  displayName := "Sample"
  getAuthorizationUrl state := ok ("https://example.com/authorize?state=" ++ state)
  exchangeCode _ _ := ok ⟨"token", none, none, "Bearer", none, none⟩
  getUserInfo _ := ok ⟨"1", "octocat", none, none, []⟩
  mapUserInfo info := ⟨info.sub, info.username, info.email, ["user"], true⟩

/-- A callback of the sample provider with the state its cookie holds signs in, at 100 s. -/
theorem handleOAuth2Callback_sample (jar : List StoredCookie) (path : String)
    (cookie : (⟨cookieHeader path jar, []⟩ : Cookies).get "oauth2_state" = some "state") :
    ∃ token, handleOAuth2Callback .enabledDefault [.sample] ⟨cookieHeader path jar, []⟩ "sample"
        ⟨some "code", some "state", none, none⟩ ⟨100000000000, by omega, by omega⟩ "session"
        .sample =
      ok (.ok signedInResponse, ((⟨cookieHeader path jar, []⟩ : Cookies).add
        (AuthService.enabledDefault.sessionManager.createSessionCookie token)).remove
          "oauth2_state") :=
  ⟨_, (handleOAuth2Callback_of_state rfl rfl rfl cookie).trans
    (signIn_of_ok rfl rfl rfl (UserSession.new_eq_ok.mpr ⟨_, SystemTime.add_of_lt (by decide), rfl⟩)
      (SessionManager.createSession_of_le (by decide) (by decide)))⟩

/-- The OAuth2 state is accepted twice: an OAuth2 login stores it under `/`, and the first
callback's path-less removal of it goes to the callback's own default-path. -/
theorem reach_state_accepted_twice :
    ∃ jar, Reach AuthService.enabledDefault [.sample] [] jar
      ([] ++ [.stateIssued "state"] ++ [.stateAccepted "state", .signedIn] ++
        [.stateAccepted "state", .signedIn]) := by
  have login : handleOAuth2Login .enabledDefault [.sample]
      ⟨cookieHeader "/auth/oauth2/sample/login" [], []⟩ "sample" "state" =
      ok (.ok ⟨StatusCode.seeOther, [("location", "https://example.com/authorize?state=state")]⟩,
        (⟨[], []⟩ : Cookies).add (oauth2StateCookie .enabledDefault "state")) := rfl
  have issued : Reach AuthService.enabledDefault [.sample] [] [⟨"oauth2_state", "/", "state"⟩]
      ([] ++ [.stateIssued "state"]) := .step .start (.oauth2Login login)
  obtain ⟨token, first⟩ := handleOAuth2Callback_sample [⟨"oauth2_state", "/", "state"⟩]
    "/auth/oauth2/sample/callback" rfl
  have accepted := issued.step (.oauth2Callback first)
  obtain ⟨token', second⟩ := handleOAuth2Callback_sample
    ((((⟨cookieHeader "/auth/oauth2/sample/callback" [⟨"oauth2_state", "/", "state"⟩], []⟩ : Cookies).add
      (AuthService.enabledDefault.sessionManager.createSessionCookie token)).remove
        "oauth2_state").settle "/auth/oauth2/sample/callback" [⟨"oauth2_state", "/", "state"⟩])
    "/auth/oauth2/sample/callback" rfl
  exact ⟨_, accepted.step (.oauth2Callback second)⟩

theorem reach_accepts_last_issued_state_replayed :
    AcceptsLastIssued ([] ++ [.stateIssued "state"] ++ [.stateAccepted "state", .signedIn] ++
      [.stateAccepted "state", .signedIn]) :=
  reach_state_accepted_twice.elim fun _ reach =>
    reach_accepts_last_issued_state AuthService.new_enabledDefault (by decide) (by simp) reach

/-- Over every run from a jar whose verifying session cookies are for signed-in identities, each
session `auth_middleware` finds and each answer of `handle_user_info` is for an identity a sign-in
gave; and refreshing a session keeps its user and its roles. -/
theorem reach_sessions_from_sign_in (made : AuthService.new config jwt verify = ok svc)
    (notCsrf : config.session.cookieName ≠ "csrf_token")
    (notState : config.session.cookieName ≠ "oauth2_state")
    (startSigned : SessionsSignedIn svc providers start)
    (reach : Reach svc providers start jar events) :
    (∀ path now fresh session cookies',
      findSession svc ⟨cookieHeader path jar, []⟩ now fresh = ok (some session, cookies') →
      SignInIdentity svc providers session.identity) ∧
    (∀ path now info, handleUserInfo svc ⟨cookieHeader path jar, []⟩ now = ok info →
      ∃ id, SignInIdentity svc providers id ∧ info.username = id.username ∧
        info.email = id.email ∧ info.roles = id.roles ∧ info.authMethod = id.authMethod) ∧
    ∀ s now fresh s' token, svc.sessionManager.refreshSession s now fresh = ok (s', token) →
      s'.identity = s.identity := by
  have setup := Setup.of_new made notCsrf notState
  have signed := reach.sessionsSignedIn setup startSigned
  have validated : ∀ path token now s,
      (⟨cookieHeader path jar, []⟩ : Cookies).get svc.config.session.cookieName = some token →
      svc.sessionManager.validateSession token now = ok s →
      SignInIdentity svc providers s.identity := by
    intro path token now s cookie valid
    obtain ⟨e, mem, named, rfl⟩ := get_cookieHeader cookie
    obtain ⟨c, -, -, verified, -, -, -, -, rfl⟩ :=
      (SessionManager.validateSession_eq_ok setup.manager).mp valid
    exact signed e mem named c verified
  refine ⟨fun path now fresh session cookies' found => ?_, fun path now info answered => ?_,
    fun _ _ _ _ _ => UserSession.identity_of_refresh⟩
  · obtain ⟨token, s, cookie, valid, rfl | ⟨newToken, refreshed⟩⟩ := findSession_some found
    · exact validated path token now _ cookie valid
    · rw [UserSession.identity_of_refresh refreshed]
      exact validated path token now s cookie valid
  · obtain ⟨token, session, cookie, valid, rfl⟩ := handleUserInfo_of_ok answered
    exact ⟨session.identity, validated path token now session cookie valid, rfl, rfl, rfl, rfl⟩

theorem reach_sessions_from_sign_in_after_login :
    ∃ jar session cookies', Reach AuthService.adminPassword [] [] jar ([] ++ [.signedIn]) ∧
      findSession .adminPassword ⟨cookieHeader "/" jar, []⟩ ⟨200000000000, by omega, by omega⟩
        .sample = ok (some session, cookies') ∧
      SignInIdentity AuthService.adminPassword [] session.identity := by
  have answered : handleLoginSubmit .adminPassword ⟨cookieHeader "/auth/login" [], []⟩
      ⟨"admin", "admin", none⟩ ⟨100000000000, by omega, by omega⟩ "session" .sample =
      ok (.ok ⟨true, "Login successful", some CsrfToken.sample.value, some "/"⟩, _) :=
    (handleLoginSubmit_of_csrf_passes (by simp)).trans
      (authenticate_of_authenticated rfl rfl
        (UserSession.new_eq_ok.mpr ⟨_, SystemTime.add_of_lt (by decide), rfl⟩)
        (SessionManager.createSession_of_le (by decide) (by decide)) (by decide))
  have reach : Reach AuthService.adminPassword [] [] _ ([] ++ [.signedIn]) :=
    .step .start (.loginSubmit answered)
  have signedIn := reach_sessions_from_sign_in AuthService.new_adminPassword (by decide)
    (by decide) (by simp [SessionsSignedIn]) reach
  exact ⟨_, _, _, reach, (and_iff_left_of_imp
    (signedIn.1 "/" ⟨200000000000, by omega, by omega⟩ .sample _ _)).mpr
    (findSession_of_refresh rfl
      (SessionManager.validateSession_encode (AuthService.new_sessionManager
        AuthService.new_adminPassword).1 (by decide) ⟨100000000000, by omega, by omega⟩
        (by decide) ⟨28900000000000, by omega, by omega⟩ (by decide) (by decide))
      (SessionManager.refreshSession_of_far (by decide) (by decide)))⟩

/-- A login or an OAuth2 callback removes the CSRF or the state cookie with `Cookie::from(name)`,
which has no path. For a request whose default-path is not `/`, the browser stores the removal
there, and keeps the cookie that the login page or the OAuth2 login stored under `/`. -/
theorem pathless_removal_keeps_cookie (made : AuthService.new config jwt verify = ok svc)
    (notCsrf : config.session.cookieName ≠ "csrf_token")
    (notState : config.session.cookieName ≠ "oauth2_state") (jar : List StoredCookie)
    (path : String) (deep : defaultPath path ≠ "/") :
    (∀ loginReq now sessionId csrf response cookies,
      handleLoginSubmit svc ⟨cookieHeader path jar, []⟩ loginReq now sessionId csrf =
        ok (response, cookies) →
      ∀ e ∈ jar, e.name = "csrf_token" → e.path = "/" → e ∈ cookies.settle path jar) ∧
    (∀ providerName params now sessionId csrf result cookies,
      handleOAuth2Callback svc providers ⟨cookieHeader path jar, []⟩ providerName params now
        sessionId csrf = ok (result, cookies) →
      ∀ e ∈ jar, e.name = "oauth2_state" → e.path = "/" → e ∈ cookies.settle path jar) := by
  have setup := Setup.of_new made notCsrf notState
  refine ⟨fun loginReq now sessionId csrf response cookies answered e mem named onRoot => ?_,
    fun providerName params now sessionId csrf result cookies handled e mem named onRoot => ?_⟩
  · refine mem_settle_of_removed_elsewhere mem onRoot deep fun c added => ?_
    rcases handleLoginSubmit_cookies answered with
      ⟨-, -, -, -, -, token, -, -, -, -, rfl⟩ | ⟨-, rfl⟩
    · obtain rfl := Cookies.eq_of_mem_add_remove added
      rw [named, setup.sessionCookie_name]
      exact setup.notCsrf
    · cases added
  · refine mem_settle_of_removed_elsewhere mem onRoot deep fun c added => ?_
    rcases handleOAuth2Callback_cases handled with ⟨code, state, -, -, -, -, signed⟩ | ⟨-, rfl⟩
    · rcases signIn_cases signed with ⟨-, -, -, -, -, token, -, -, -, -, -, rfl⟩ | ⟨-, -, rfl⟩
      · obtain rfl := Cookies.eq_of_mem_add_remove added
        rw [named, setup.sessionCookie_name]
        exact setup.notState
      · cases added
    · cases added

theorem pathless_removal_keeps_cookie_at_callback :
    ∃ cookies, handleOAuth2Callback .enabledDefault [.sample]
        ⟨cookieHeader "/auth/oauth2/sample/callback" [⟨"oauth2_state", "/", "state"⟩], []⟩ "sample"
        ⟨some "code", some "state", none, none⟩ ⟨100000000000, by omega, by omega⟩ "session"
        .sample = ok (.ok signedInResponse, cookies) ∧
      (⟨"oauth2_state", "/", "state"⟩ : StoredCookie) ∈
        cookies.settle "/auth/oauth2/sample/callback" [⟨"oauth2_state", "/", "state"⟩] :=
  let ⟨_, handled⟩ := handleOAuth2Callback_sample [⟨"oauth2_state", "/", "state"⟩]
    "/auth/oauth2/sample/callback" rfl
  ⟨_, handled, (pathless_removal_keeps_cookie AuthService.new_enabledDefault (by decide) (by decide)
    _ _ (by decide)).2 _ _ _ _ _ _ _ handled _ (List.mem_singleton_self _) rfl rfl⟩

end Runs

end Agentgateway.Auth
