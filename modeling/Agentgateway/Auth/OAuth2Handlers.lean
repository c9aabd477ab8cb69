import Agentgateway.Auth.OAuth2
import Agentgateway.Auth.Middleware

/-!
# The OAuth2 handlers

`auth/handlers.rs`, its OAuth2 half: the provider list, the OAuth2 login that keeps a fresh state
in the `oauth2_state` cookie, and the callback that signs in only with that state.
-/

namespace Agentgateway.Auth

open Outcome

/-- `Redirect::to(uri)`: `303 See Other` to `uri`, a panic where `uri` is not a valid header
value. -/
def redirectTo {ε : Type} (uri : String) : Outcome ε Response :=
  match HeaderValue.tryFrom uri with
  | some location => ok ⟨StatusCode.seeOther, [("location", location)]⟩
  | none => .panic "URI isn't a valid header value: InvalidHeaderValue"

/-- The redirect home that ends a successful callback. -/
def signedInResponse : Response := ⟨StatusCode.seeOther, [("location", "/")]⟩

theorem redirectTo_eq_ok {ε : Type} {uri : String} {response : Response} :
    (redirectTo uri : Outcome ε Response) = ok response ↔
      uri.data.all HeaderValue.isValid = true ∧
        response = ⟨StatusCode.seeOther, [("location", uri)]⟩ := by
  by_cases valid : uri.data.all HeaderValue.isValid = true <;>
    simp [redirectTo, HeaderValue.tryFrom, valid, eq_comm]

/-- A redirect anywhere but home is not the answer of a successful callback. -/
theorem redirectTo_ne_signedIn {ε : Type} {uri : String} {response : Response} (other : uri ≠ "/")
    (redirected : (redirectTo uri : Outcome ε Response) = ok response) :
    response ≠ signedInResponse := by
  rw [(redirectTo_eq_ok.mp redirected).2]
  simpa [signedInResponse] using other

theorem redirectTo_home {ε : Type} : (redirectTo "/" : Outcome ε Response) = ok signedInResponse :=
  rfl

/-! ## Listing the providers -/

/-- `OAuth2ProviderInfo`. -/
structure OAuth2ProviderInfo where
  /-- `name`. -/
  name : String
  /-- `display_name`. -/
  displayName : String
  /-- `auth_url`. -/
  authUrl : String

/-- The entry `handle_oauth2_providers` makes for a provider with the state generated for it: the
authorization URL, or empty text where it cannot be built. -/
def providerInfo (provider : OAuth2Provider) (state : String) : Outcome Empty OAuth2ProviderInfo :=
  match provider.getAuthorizationUrl state with
  | .ok authUrl => ok ⟨provider.name, provider.displayName, authUrl⟩
  | .err _ => ok ⟨provider.name, provider.displayName, ""⟩
  | .panic message => .panic message

/-- `handle_oauth2_providers`, where `oauth2` is the configuration's `oauth2`, `providers` the
service's providers, and `states i` what the `i`-th call of `Uuid::new_v4()` returns. -/
def handleOAuth2Providers (oauth2 : OAuth2Config) (providers : List OAuth2Provider)
    (states : Nat → String) : Outcome Empty (List OAuth2ProviderInfo) :=
  collect (fun (i, provider) => providerInfo provider (states i))
    (providers.filter fun _ => oauth2.enabled).enum

theorem providerInfo_panics_iff (provider : OAuth2Provider) (state : String) :
    (providerInfo provider state).Panics ↔ (provider.getAuthorizationUrl state).Panics := by
  cases built : provider.getAuthorizationUrl state <;> simp [providerInfo, built]

theorem providerInfo_names {provider : OAuth2Provider} {state : String} {info : OAuth2ProviderInfo}
    (made : providerInfo provider state = ok info) :
    (provider.name, provider.displayName) = (info.name, info.displayName) := by
  unfold providerInfo at made
  split at made <;> cases made <;> rfl

section Listing

variable {oauth2 : OAuth2Config} {providers : List OAuth2Provider} {states : Nat → String}

/-- The listing panics exactly when OAuth2 is on and building some provider's URL panics, with
the state generated for it: an error only empties that provider's URL. -/
theorem handleOAuth2Providers_panics_iff :
    (handleOAuth2Providers oauth2 providers states).Panics ↔
      oauth2.enabled = true ∧ ∃ i provider, (i, provider) ∈ providers.enum ∧
        (provider.getAuthorizationUrl (states i)).Panics := by
  rw [handleOAuth2Providers, collect_panics_iff_exists fun _ e => nomatch e]
  cases oauth2.enabled <;> simp [providerInfo_panics_iff]

/-- The listing names the providers in order when OAuth2 is on, and none when it is off. -/
theorem handleOAuth2Providers_entries {infos : List OAuth2ProviderInfo}
    (listed : handleOAuth2Providers oauth2 providers states = ok infos) :
    infos.map (fun info => (info.name, info.displayName)) =
      (providers.filter fun _ => oauth2.enabled).map
        fun provider => (provider.name, provider.displayName) := by
  rw [handleOAuth2Providers, collect_eq_ok_iff] at listed
  have named := listed.imp fun entry _ made => providerInfo_names made
  rw [← List.enum_map_snd (providers.filter _), List.map_map]
  exact (List.forall₂_eq_eq_eq ▸ List.forall₂_map_left_iff.2
    (List.forall₂_map_right_iff.2 named)).symm

/-- With providers built by `AuthService::new`, `handle_oauth2_providers` panics exactly when OAuth2
is on and a provider has neither discovery information nor an `auth_url`; otherwise it lists each
provider once, in order, when OAuth2 is on, and none when it is off. -/
theorem handleOAuth2Providers_impls (impls : List OAuth2ProviderImpl) (http : HttpClient)
    (withQueryPairs : String → List (String × String) → Except String String) :
    ((handleOAuth2Providers oauth2 (impls.map fun p => p.toProvider http withQueryPairs)
        states).Panics ↔
      oauth2.enabled = true ∧ ∃ p ∈ impls, p.discoveryInfo = none ∧ p.config.authUrl = none) ∧
    ∀ infos, handleOAuth2Providers oauth2 (impls.map fun p => p.toProvider http withQueryPairs)
        states = ok infos →
      infos.map (fun info => (info.name, info.displayName)) =
        if oauth2.enabled then impls.map fun p => (p.config.name, p.config.displayName) else [] := by
  refine ⟨?_, fun infos listed => ?_⟩
  · rw [handleOAuth2Providers_panics_iff]
    apply and_congr_right fun _ => ?_
    constructor
    · rintro ⟨i, provider, member, panics⟩
      obtain ⟨p, mem, rfl⟩ := List.mem_map.1 (List.snd_mem_of_mem_enum member)
      exact ⟨p, mem, (OAuth2ProviderImpl.getAuthorizationUrl_panics_iff p withQueryPairs _).1 panics⟩
    · rintro ⟨p, mem, unconfigured⟩
      have listed := List.mem_map_of_mem (fun p => p.toProvider http withQueryPairs) mem
      rw [← List.enum_map_snd (impls.map _), List.mem_map] at listed
      obtain ⟨⟨i, _⟩, member, rfl⟩ := listed
      exact ⟨i, _, member,
        (OAuth2ProviderImpl.getAuthorizationUrl_panics_iff p withQueryPairs _).2 unconfigured⟩
  · rw [handleOAuth2Providers_entries listed]
    cases oauth2.enabled <;> simp [OAuth2ProviderImpl.toProvider]

end Listing

/-! ## Login and callback -/

/-- The `oauth2_state` cookie of `handle_oauth2_login`: path `/`, HTTP only, for ten minutes. -/
def oauth2StateCookie (svc : AuthService) (state : String) : Cookie where
  name := "oauth2_state"
  value := state
  path := some "/"
  maxAge := some 600
  httpOnly := some true
  secure := some svc.config.session.secure
  sameSite := none
  domain := none

/-- `handle_oauth2_login`, where `state` is what `Uuid::new_v4()` returns. -/
def handleOAuth2Login (svc : AuthService) (providers : List OAuth2Provider) (cookies : Cookies)
    (providerName state : String) : Outcome Empty (Except StatusCode Response × Cookies) :=
  match getOAuth2Provider providers providerName with
  | none => ok (.error StatusCode.notFound, cookies)
  | some provider =>
    match provider.getAuthorizationUrl state with
    | .ok authUrl => do
      let cookies := cookies.add (oauth2StateCookie svc state)
      let response ← redirectTo authUrl
      pure (.ok response, cookies)
    | .err _ => ok (.error StatusCode.internalServerError, cookies)
    | .panic message => .panic message

/-- `OAuth2CallbackQuery`. -/
structure OAuth2CallbackQuery where
  /-- `code`. -/
  code : Option String
  /-- `state`. -/
  state : Option String
  /-- `error`. -/
  error : Option String
  /-- `error_description`. -/
  errorDescription : Option String

/-- `handle_oauth2_callback`, at `now`, where `sessionId` and `csrf` are what the generators of
`UserSession::new` return. -/
def handleOAuth2Callback (svc : AuthService) (providers : List OAuth2Provider) (cookies : Cookies)
    (providerName : String) (params : OAuth2CallbackQuery) (now : SystemTime) (sessionId : String)
    (csrf : CsrfToken) : Outcome Empty (Except StatusCode Response × Cookies) :=
  match params.error with
  | some _ => do
    let response ← redirectTo "/auth/login?error=oauth2_error"
    pure (.ok response, cookies)
  | none =>
    match params.code, params.state with
    | some code, some state =>
      match cookies.get "oauth2_state" with
      | some stateCookie =>
        if stateCookie ≠ state then do
          let response ← redirectTo "/auth/login?error=invalid_state"
          pure (.ok response, cookies)
        else signIn code state
      | none => do
        let response ← redirectTo "/auth/login?error=missing_state"
        pure (.ok response, cookies)
    | _, _ => ok (.error StatusCode.badRequest, cookies)
where
  -- The callback once its state is the cookie's.
  signIn (code state : String) : Outcome Empty (Except StatusCode Response × Cookies) :=
    match getOAuth2Provider providers providerName with
    | none => ok (.error StatusCode.notFound, cookies)
    | some provider =>
      match provider.exchangeCode code state with
      | .ok tokens =>
        match provider.getUserInfo tokens.accessToken with
        | .ok userInfo => do
          let user := provider.mapUserInfo userInfo
          let session ← UserSession.new user.id user.username user.email user.roles
            (.oAuth2 providerName) svc.config.session.maxAge now sessionId csrf
          match svc.sessionManager.createSession session now with
          | .ok sessionToken => do
            let cookies := (cookies.add (svc.sessionManager.createSessionCookie sessionToken)).remove
              "oauth2_state"
            let response ← redirectTo "/"
            pure (.ok response, cookies)
          | .err _ => ok (.error StatusCode.internalServerError, cookies)
          | .panic message => .panic message
        | .err _ => ok (.error StatusCode.internalServerError, cookies)
        | .panic message => .panic message
      | .err _ => ok (.error StatusCode.internalServerError, cookies)
      | .panic message => .panic message

section Flow

variable {svc : AuthService} {providers : List OAuth2Provider} {cookies cookies' : Cookies}
  {providerName : String} {result : Except StatusCode Response}

/-- The login either sets the state cookie and redirects, or fails and leaves the cookies as they
are. -/
theorem handleOAuth2Login_cases {state : String}
    (handled : handleOAuth2Login svc providers cookies providerName state = ok (result, cookies')) :
    (∃ response, result = .ok response ∧ cookies' = cookies.add (oauth2StateCookie svc state)) ∨
      (∃ status, result = .error status ∧ cookies' = cookies) := by
  unfold handleOAuth2Login at handled
  split at handled
  · cases handled
    exact .inr ⟨_, rfl, rfl⟩
  · split at handled
    · obtain ⟨response, -, handled⟩ := bind_eq_ok.mp handled
      cases handled
      exact .inl ⟨response, rfl, rfl⟩
    · cases handled
      exact .inr ⟨_, rfl, rfl⟩
    · cases handled

variable {now : SystemTime} {sessionId : String} {csrf : CsrfToken}

/-- Past the state check, the callback either signs the user in, through each call in turn, with
the redirect home, the session cookie set and the state cookie removed; or it fails and leaves the
cookies as they are. -/
theorem signIn_cases {code state : String}
    (handled : handleOAuth2Callback.signIn svc providers cookies providerName now sessionId csrf
      code state = ok (result, cookies')) :
    (result = .ok signedInResponse ∧
      ∃ provider tokens userInfo session sessionToken,
        getOAuth2Provider providers providerName = some provider ∧
        provider.exchangeCode code state = ok tokens ∧
        provider.getUserInfo tokens.accessToken = ok userInfo ∧
        (UserSession.new (provider.mapUserInfo userInfo).id (provider.mapUserInfo userInfo).username
          (provider.mapUserInfo userInfo).email (provider.mapUserInfo userInfo).roles
          (.oAuth2 providerName) svc.config.session.maxAge now sessionId csrf :
            Outcome Empty UserSession) = ok session ∧
        svc.sessionManager.createSession session now = ok sessionToken ∧
        cookies' = (cookies.add (svc.sessionManager.createSessionCookie sessionToken)).remove
          "oauth2_state") ∨
      (∃ status, result = .error status ∧ cookies' = cookies) := by
  unfold handleOAuth2Callback.signIn at handled
  split at handled
  · cases handled
    exact .inr ⟨_, rfl, rfl⟩
  · next provider found =>
    split at handled
    · next tokens exchanged =>
      split at handled
      · next userInfo read =>
        obtain ⟨session, made, handled⟩ := bind_eq_ok.mp handled
        split at handled
        · next sessionToken signed =>
          obtain ⟨response, redirected, handled⟩ := bind_eq_ok.mp handled
          cases handled
          obtain ⟨-, rfl⟩ := redirectTo_eq_ok.mp redirected
          exact .inl ⟨rfl, provider, tokens, userInfo, session, sessionToken, found, exchanged, read,
            made, signed, rfl⟩
        · cases handled
          exact .inr ⟨_, rfl, rfl⟩
        · cases handled
      · cases handled
        exact .inr ⟨_, rfl, rfl⟩
      · cases handled
    · cases handled
      exact .inr ⟨_, rfl, rfl⟩
    · cases handled

/-- The callback goes on to sign in only with no error in the query, and a code and a state there,
the state being the `oauth2_state` cookie's. Every other outcome is another answer than the
redirect home, and leaves the cookies as they are. -/
theorem handleOAuth2Callback_cases {params : OAuth2CallbackQuery}
    (handled : handleOAuth2Callback svc providers cookies providerName params now sessionId csrf =
      ok (result, cookies')) :
    (∃ code state, params.error = none ∧ params.code = some code ∧ params.state = some state ∧
      cookies.get "oauth2_state" = some state ∧
      handleOAuth2Callback.signIn svc providers cookies providerName now sessionId csrf code state =
        ok (result, cookies')) ∨
      (result ≠ .ok signedInResponse ∧ cookies' = cookies) := by
  unfold handleOAuth2Callback at handled
  split at handled
  · obtain ⟨response, redirected, handled⟩ := bind_eq_ok.mp handled
    cases handled
    exact .inr ⟨fun same => redirectTo_ne_signedIn (by decide) redirected (Except.ok.inj same),
      rfl⟩
  · next noError =>
    split at handled
    · next code state codeGiven stateGiven =>
      split at handled
      · next stateCookie cookie =>
        split_ifs at handled with differs
        · obtain ⟨response, redirected, handled⟩ := bind_eq_ok.mp handled
          cases handled
          exact .inr ⟨fun same => redirectTo_ne_signedIn (by decide) redirected
            (Except.ok.inj same), rfl⟩
        · rw [not_not] at differs
          subst differs
          exact .inl ⟨code, stateCookie, noError, codeGiven, stateGiven, cookie, handled⟩
      · obtain ⟨response, redirected, handled⟩ := bind_eq_ok.mp handled
        cases handled
        exact .inr ⟨fun same => redirectTo_ne_signedIn (by decide) redirected (Except.ok.inj same),
          rfl⟩
    · cases handled
      exact .inr ⟨nofun, rfl⟩

/-- A callback whose query carries no error, a code, and the state of the `oauth2_state` cookie
goes on to sign in. -/
theorem handleOAuth2Callback_of_state {params : OAuth2CallbackQuery} {code state : String}
    (noError : params.error = none) (codeGiven : params.code = some code)
    (stateGiven : params.state = some state) (cookie : cookies.get "oauth2_state" = some state) :
    handleOAuth2Callback svc providers cookies providerName params now sessionId csrf =
      handleOAuth2Callback.signIn svc providers cookies providerName now sessionId csrf code
        state := by
  simp only [handleOAuth2Callback, noError, codeGiven, stateGiven, cookie, ne_eq,
    not_true_eq_false, if_false]

/-- Sign-in where every call succeeds redirects home, sets the session cookie and removes the
state cookie. -/
theorem signIn_of_ok {code state : String} {provider : OAuth2Provider} {tokens : OAuth2Tokens}
    {userInfo : OAuth2UserInfo} {session : UserSession} {sessionToken : String}
    (found : getOAuth2Provider providers providerName = some provider)
    (exchanged : provider.exchangeCode code state = ok tokens)
    (read : provider.getUserInfo tokens.accessToken = ok userInfo)
    (made : (UserSession.new (provider.mapUserInfo userInfo).id
      (provider.mapUserInfo userInfo).username (provider.mapUserInfo userInfo).email
      (provider.mapUserInfo userInfo).roles (.oAuth2 providerName) svc.config.session.maxAge now
      sessionId csrf : Outcome Empty UserSession) = ok session)
    (signed : svc.sessionManager.createSession session now = ok sessionToken) :
    handleOAuth2Callback.signIn svc providers cookies providerName now sessionId csrf code state =
      ok (.ok signedInResponse,
        (cookies.add (svc.sessionManager.createSessionCookie sessionToken)).remove
          "oauth2_state") := by
  simp only [handleOAuth2Callback.signIn, found, exchanged, read, made, signed, ok_bind,
    redirectTo_home]
  rfl

/-- A callback signs the user in exactly when its query has a code and the cookie's state and no
error, and every step after succeeds; it then sets the session cookie and removes the state one. -/
theorem handleOAuth2Callback_signs_in_iff {params : OAuth2CallbackQuery} :
    handleOAuth2Callback svc providers cookies providerName params now sessionId csrf =
        ok (.ok signedInResponse, cookies') ↔
      ∃ code state provider tokens userInfo session sessionToken,
        params.error = none ∧ params.code = some code ∧ params.state = some state ∧
        cookies.get "oauth2_state" = some state ∧
        getOAuth2Provider providers providerName = some provider ∧
        provider.exchangeCode code state = ok tokens ∧
        provider.getUserInfo tokens.accessToken = ok userInfo ∧
        (UserSession.new (provider.mapUserInfo userInfo).id (provider.mapUserInfo userInfo).username
          (provider.mapUserInfo userInfo).email (provider.mapUserInfo userInfo).roles
          (.oAuth2 providerName) svc.config.session.maxAge now sessionId csrf :
            Outcome Empty UserSession) = ok session ∧
        svc.sessionManager.createSession session now = ok sessionToken ∧
        cookies' = (cookies.add (svc.sessionManager.createSessionCookie sessionToken)).remove
          "oauth2_state" := by
  constructor
  · intro handled
    rcases handleOAuth2Callback_cases handled with
      ⟨code, state, noError, codeGiven, stateGiven, cookie, signed⟩ | ⟨other, -⟩
    · rcases signIn_cases signed with ⟨-, provider, tokens, userInfo, session, sessionToken, found,
        exchanged, read, made, signedToken, rfl⟩ | ⟨status, failed, -⟩
      · exact ⟨code, state, provider, tokens, userInfo, session, sessionToken, noError, codeGiven,
          stateGiven, cookie, found, exchanged, read, made, signedToken, rfl⟩
      · cases failed
    · exact absurd rfl other
  · rintro ⟨code, state, provider, tokens, userInfo, session, sessionToken, noError, codeGiven,
      stateGiven, cookie, found, exchanged, read, made, signedToken, rfl⟩
    rw [handleOAuth2Callback_of_state noError codeGiven stateGiven cookie]
    exact signIn_of_ok found exchanged read made signedToken

end Flow

end Agentgateway.Auth
