import Agentgateway.Auth.Service

/-!
# OAuth2 providers

`auth/providers.rs`, its OAuth2 half: endpoints from discovery or from the configuration, the
authorization URL, the code exchange, and the mapping of user info to a user. The HTTP calls and
`url::Url` are arguments.
-/

namespace Agentgateway.Auth

open Outcome

/-! ## JSON values -/

/-- `serde_json::Number`: an integer that fits `u64`, a negative one that fits `i64`, or a
float. -/
inductive JsonNumber where
  | posInt (n : BitVec 64)
  | negInt (n : Int)
  | float (f : Float)

/-- `serde_json::Value`. The entries of an object have distinct keys, as its map's do. -/
inductive Json where
  | null
  | bool (b : Bool)
  | number (n : JsonNumber)
  | string (s : String)
  | array (elements : List Json)
  | object (entries : List (String × Json))

namespace Json

/-- `value[key]`: the entry of an object under `key`, and `Null` for any other value or key. -/
def index : Json → String → Json
  | .object entries, key => (entries.lookup key).getD .null
  | _, _ => .null

/-- `Value::as_str`. -/
def asStr : Json → Option String
  | .string s => some s
  | _ => none

/-- `Value::as_array`. -/
def asArray : Json → Option (List Json)
  | .array elements => some elements
  | _ => none

/-- `Value::as_u64`. -/
def asU64 : Json → Option (BitVec 64)
  | .number (.posInt n) => some n
  | _ => none

end Json

/-! ## Configuration -/

/-- `UserMapping`: the claims that name the user, and the roles each group is given. -/
structure UserMapping where
  /-- `username_field`. -/
  usernameField : String
  /-- `email_field`. -/
  emailField : Option String
  /-- `name_field`. -/
  nameField : Option String
  /-- `groups_field`. -/
  groupsField : Option String
  /-- `role_mapping`, by its lookup `HashMap::get`. -/
  roleMapping : String → Option (List String)

/-- `UserMapping::default`: no group is given a role. -/
def UserMapping.default : UserMapping :=
  ⟨"sub", some "email", some "name", some "groups", fun _ => none⟩

/-- `OAuth2ProviderConfig`, without `jwks_url`, which nothing reads. -/
structure OAuth2ProviderConfig where
  /-- `name`. -/
  name : String
  /-- `display_name`. -/
  displayName : String
  /-- `client_id`. -/
  clientId : String
  /-- `client_secret`. -/
  clientSecret : String
  /-- `discovery_url`. -/
  discoveryUrl : Option String
  /-- `auth_url`. -/
  authUrl : Option String
  /-- `token_url`. -/
  tokenUrl : Option String
  /-- `userinfo_url`. -/
  userinfoUrl : Option String
  /-- `scopes`. -/
  scopes : List String
  /-- `redirect_uri`. -/
  redirectUri : String
  /-- `user_mapping`. -/
  userMapping : UserMapping
  /-- `enabled`, which nothing reads. -/
  enabled : Bool

/-- `OAuth2Config`. -/
structure OAuth2Config where
  /-- `enabled`. -/
  enabled : Bool
  /-- `providers`. -/
  providers : List OAuth2ProviderConfig

/-- `OAuth2Config::default`: off, with no provider. -/
def OAuth2Config.default : OAuth2Config := ⟨false, []⟩

/-! ## Tokens and claims -/

/-- `OAuth2Tokens`. -/
structure OAuth2Tokens where
  /-- `access_token`. -/
  accessToken : String
  /-- `refresh_token`. -/
  refreshToken : Option String
  /-- `id_token`. -/
  idToken : Option String
  /-- `token_type`. -/
  tokenType : String
  /-- `expires_in`. -/
  expiresIn : Option (BitVec 64)
  /-- `scope`. -/
  scope : Option String

/-- `OAuth2UserInfo`, without `raw_claims`. -/
structure OAuth2UserInfo where
  /-- `sub`. -/
  sub : String
  /-- `username`. -/
  username : String
  /-- `email`. -/
  email : Option String
  /-- `name`. -/
  name : Option String
  /-- `groups`. -/
  groups : List String

/-- The tokens `exchange_code` reads from the token endpoint's JSON answer: an access token is
required, the type defaults to `Bearer`. -/
def tokensOfJson (tokenResponse : Json) : Outcome AuthError OAuth2Tokens := do
  let accessToken ← okOr (tokenResponse.index "access_token").asStr
    (.oAuth2Error "Missing access_token in response")
  pure { accessToken
         refreshToken := (tokenResponse.index "refresh_token").asStr
         idToken := (tokenResponse.index "id_token").asStr
         tokenType := ((tokenResponse.index "token_type").asStr).getD "Bearer"
         expiresIn := (tokenResponse.index "expires_in").asU64
         scope := (tokenResponse.index "scope").asStr }

/-- The groups `get_user_info` reads: the string elements of the groups claim, in order. -/
def groupsOfJson (mapping : UserMapping) (userInfo : Json) : List String :=
  match mapping.groupsField with
  | some groupsField =>
    (((userInfo.index groupsField).asArray).map fun elements => elements.filterMap Json.asStr).getD []
  | none => []

/-- The claims `get_user_info` reads from the userinfo endpoint's JSON answer: `sub` is required,
the user name falls back to it, and the other fields are read where the mapping names them. -/
def userInfoOfJson (mapping : UserMapping) (userInfo : Json) :
    Outcome AuthError OAuth2UserInfo := do
  let sub ← okOr (userInfo.index "sub").asStr (.oAuth2Error "Missing 'sub' claim in user info")
  pure { sub
         username := ((userInfo.index mapping.usernameField).asStr).getD sub
         email := mapping.emailField.bind fun emailField => (userInfo.index emailField).asStr
         name := mapping.nameField.bind fun nameField => (userInfo.index nameField).asStr
         groups := groupsOfJson mapping userInfo }

/-! ## Providers -/

/-- `OpenIDConnectDiscovery`, with the endpoints the provider reads. -/
structure OpenIDConnectDiscovery where
  /-- `authorization_endpoint`. -/
  authorizationEndpoint : String
  /-- `token_endpoint`. -/
  tokenEndpoint : String
  /-- `userinfo_endpoint`. -/
  userinfoEndpoint : Option String

/-- A response `reqwest` received: its status, its text (empty where it does not decode), and its
body parsed as JSON, or the parser's error. -/
structure HttpResponse where
  /-- `status()`. -/
  status : StatusCode
  /-- `text().await.unwrap_or_default()`. -/
  text : String
  /-- `json::<serde_json::Value>().await`. -/
  json : Except String Json

/-- The requests a provider sends, by what `send().await` returns: the response, or the text of
the network error. -/
structure HttpClient where
  /-- `post(url).form(params)`. -/
  postForm : String → List (String × String) → Except String HttpResponse
  /-- `get(url).bearer_auth(token)`. -/
  getBearer : String → String → Except String HttpResponse

/-- `OAuth2ProviderImpl`, without its HTTP client. -/
structure OAuth2ProviderImpl where
  /-- `config`. -/
  config : OAuth2ProviderConfig
  /-- `discovery_info`. -/
  discoveryInfo : Option OpenIDConnectDiscovery

namespace OAuth2ProviderImpl

/-- `OAuth2ProviderImpl::new`, where `fetch` is `fetch_discovery_info`, by what it returns. -/
def new (config : OAuth2ProviderConfig)
    (fetch : String → Outcome AuthError OpenIDConnectDiscovery) :
    Outcome AuthError OAuth2ProviderImpl := do
  let discoveryInfo ← mapTranspose fetch config.discoveryUrl
  pure { config, discoveryInfo }

/-- `get_auth_url`: the discovered endpoint, else the configured one, unwrapped. -/
def getAuthUrl {ε : Type} (p : OAuth2ProviderImpl) : Outcome ε String :=
  match p.discoveryInfo with
  | some discovery => ok discovery.authorizationEndpoint
  | none => unwrap p.config.authUrl

/-- `get_token_url`: the discovered endpoint, else the configured one, unwrapped. -/
def getTokenUrl {ε : Type} (p : OAuth2ProviderImpl) : Outcome ε String :=
  match p.discoveryInfo with
  | some discovery => ok discovery.tokenEndpoint
  | none => unwrap p.config.tokenUrl

/-- `get_userinfo_url`: the discovered endpoint, else the configured one. -/
def getUserinfoUrl (p : OAuth2ProviderImpl) : Option String :=
  match p.discoveryInfo with
  | some discovery => discovery.userinfoEndpoint
  | none => p.config.userinfoUrl

/-- The query pairs `get_authorization_url` appends, in order. -/
def authorizationPairs (p : OAuth2ProviderImpl) (state : String) : List (String × String) :=
  [("response_type", "code"), ("client_id", p.config.clientId),
    ("redirect_uri", p.config.redirectUri), ("scope", " ".intercalate p.config.scopes),
    ("state", state)]

/-- `get_authorization_url`, where `withQueryPairs` is `Url::parse` of the base URL followed by
`query_pairs_mut().append_pair` of each pair and `to_string()`: the URL, or the parser's error. -/
def getAuthorizationUrl (p : OAuth2ProviderImpl)
    (withQueryPairs : String → List (String × String) → Except String String) (state : String) :
    Outcome AuthError String := do
  let authUrl ← p.getAuthUrl
  (ofExcept (withQueryPairs authUrl (p.authorizationPairs state))).mapErr fun e =>
    .configError ("Invalid auth URL: " ++ e)

/-- `exchange_code`: the form the token endpoint is sent, in the order its fields are inserted
(the form writes its map in the map's own order). -/
def exchangeCode (p : OAuth2ProviderImpl) (http : HttpClient) (code _state : String) :
    Outcome AuthError OAuth2Tokens := do
  let tokenUrl ← p.getTokenUrl
  let response ← (ofExcept (http.postForm tokenUrl
    [("grant_type", "authorization_code"), ("code", code), ("redirect_uri", p.config.redirectUri),
      ("client_id", p.config.clientId), ("client_secret", p.config.clientSecret)])).mapErr
    .networkError
  if !response.status.isSuccess then
    err (.oAuth2Error ("Token exchange failed: " ++ response.text))
  else do
    let tokenResponse ← (ofExcept response.json).mapErr .serializationError
    tokensOfJson tokenResponse

/-- `get_user_info`. -/
def getUserInfo (p : OAuth2ProviderImpl) (http : HttpClient) (accessToken : String) :
    Outcome AuthError OAuth2UserInfo := do
  let userinfoUrl ← okOr p.getUserinfoUrl (.configError "No userinfo endpoint configured")
  let response ← (ofExcept (http.getBearer userinfoUrl accessToken)).mapErr .networkError
  if !response.status.isSuccess then
    err (.oAuth2Error ("Failed to get user info: " ++ response.text))
  else do
    let userInfo ← (ofExcept response.json).mapErr .serializationError
    userInfoOfJson p.config.userMapping userInfo

/-- One turn of the loop of `map_user_info`: the roles the mapping gives `group`, appended. -/
def addMappedRoles (mapping : UserMapping) (roles : List String) (group : String) : List String :=
  match mapping.roleMapping group with
  | some mappedRoles => roles ++ mappedRoles
  | none => roles

/-- The roles the loop of `map_user_info` collects. -/
def mappedRoles (mapping : UserMapping) (groups : List String) : List String :=
  groups.foldl (addMappedRoles mapping) []

/-- `map_user_info`, without the metadata: an enabled user with the mapped roles, or the role
`user` when there are none. -/
def mapUserInfo (p : OAuth2ProviderImpl) (userInfo : OAuth2UserInfo) : User :=
  let roles := mappedRoles p.config.userMapping userInfo.groups
  { id := userInfo.sub, username := userInfo.username, email := userInfo.email
    roles := if roles.isEmpty then ["user"] else roles, enabled := true }

theorem foldl_addMappedRoles (mapping : UserMapping) (groups roles : List String) :
    groups.foldl (addMappedRoles mapping) roles =
      roles ++ groups.flatMap fun group => (mapping.roleMapping group).getD [] := by
  induction groups generalizing roles with
  | nil => simp
  | cons group groups ih =>
      rw [List.foldl_cons, ih]
      cases mapped : mapping.roleMapping group <;> simp [addMappedRoles, mapped]

/-- The loop collects the roles the mapping gives the groups, in the order of the groups. -/
theorem mappedRoles_eq (mapping : UserMapping) (groups : List String) :
    mappedRoles mapping groups = groups.flatMap fun group => (mapping.roleMapping group).getD [] := by
  rw [mappedRoles, foldl_addMappedRoles, List.nil_append]

/-- A user mapped from OAuth2 claims is enabled and has a role. Each of its roles is one the role
mapping gives one of the user's groups, or else it is the default `user`, which the user gets
alone, only when the mapping gives its groups no role at all. -/
theorem mapUserInfo_roles (p : OAuth2ProviderImpl) (userInfo : OAuth2UserInfo) :
    (p.mapUserInfo userInfo).enabled = true ∧ (p.mapUserInfo userInfo).roles ≠ [] ∧
      ∀ role ∈ (p.mapUserInfo userInfo).roles,
        (∃ group ∈ userInfo.groups, ∃ roles,
          p.config.userMapping.roleMapping group = some roles ∧ role ∈ roles) ∨
        ((p.mapUserInfo userInfo).roles = ["user"] ∧
          ∀ group ∈ userInfo.groups, ∀ roles,
            p.config.userMapping.roleMapping group = some roles → roles = []) := by
  have flat := mappedRoles_eq p.config.userMapping userInfo.groups
  by_cases none : mappedRoles p.config.userMapping userInfo.groups = []
  · have noRole : ∀ group ∈ userInfo.groups, ∀ roles,
        p.config.userMapping.roleMapping group = some roles → roles = [] := by
      intro group member roles mapped
      rw [none, eq_comm, List.flatMap_eq_nil_iff] at flat
      simpa [mapped] using flat group member
    have roles : (p.mapUserInfo userInfo).roles = ["user"] := by simp [mapUserInfo, none]
    rw [roles]
    exact ⟨rfl, List.cons_ne_nil _ _, fun _ _ => .inr ⟨rfl, noRole⟩⟩
  · have roles : (p.mapUserInfo userInfo).roles =
        mappedRoles p.config.userMapping userInfo.groups := by simp [mapUserInfo, none]
    rw [roles]
    refine ⟨rfl, none, fun role member => .inl ?_⟩
    rw [flat, List.mem_flatMap] at member
    obtain ⟨group, inGroups, given⟩ := member
    cases mapped : p.config.userMapping.roleMapping group with
    | none => simp [mapped] at given
    | some roles => exact ⟨group, inGroups, roles, mapped, by simpa [mapped] using given⟩

/-- `get_authorization_url` panics exactly on a provider with no discovery document and no
configured authorization URL. -/
theorem getAuthorizationUrl_panics_iff (p : OAuth2ProviderImpl)
    (withQueryPairs : String → List (String × String) → Except String String) (state : String) :
    (p.getAuthorizationUrl withQueryPairs state).Panics ↔
      p.discoveryInfo = none ∧ p.config.authUrl = none := by
  unfold getAuthorizationUrl getAuthUrl
  cases p.discoveryInfo with
  | some discovery => simp [panics_mapErr]
  | none => cases p.config.authUrl <;> simp [unwrap, panics_mapErr]

end OAuth2ProviderImpl

/-- `dyn OAuth2Provider`: what the handlers call. -/
structure OAuth2Provider where
  /-- `name()`. -/
  name : String
  /-- `display_name()`. -/
  displayName : String
  /-- `get_authorization_url(state)`. -/
  getAuthorizationUrl : String → Outcome AuthError String
  /-- `exchange_code(code, state)`. -/
  exchangeCode : String → String → Outcome AuthError OAuth2Tokens
  /-- `get_user_info(access_token)`. -/
  getUserInfo : String → Outcome AuthError OAuth2UserInfo
  /-- `map_user_info(user_info)`. -/
  mapUserInfo : OAuth2UserInfo → User

/-- An `OAuth2ProviderImpl` as the `dyn OAuth2Provider` the service holds. -/
def OAuth2ProviderImpl.toProvider (p : OAuth2ProviderImpl) (http : HttpClient)
    (withQueryPairs : String → List (String × String) → Except String String) : OAuth2Provider where
  name := p.config.name
  displayName := p.config.displayName
  getAuthorizationUrl := p.getAuthorizationUrl withQueryPairs
  exchangeCode := p.exchangeCode http
  getUserInfo := p.getUserInfo http
  mapUserInfo := p.mapUserInfo

/-- The OAuth2 providers `AuthService::new` builds: one per configured provider, in order, the
first failure ending the loop. -/
def oauth2ProvidersOf (config : OAuth2Config)
    (fetch : String → Outcome AuthError OpenIDConnectDiscovery) :
    Outcome AuthError (List OAuth2ProviderImpl) :=
  collect (fun providerConfig => OAuth2ProviderImpl.new providerConfig fetch) config.providers

/-- `AuthService::get_oauth2_provider`: the first provider of that name. -/
def getOAuth2Provider (providers : List OAuth2Provider) (name : String) : Option OAuth2Provider :=
  providers.find? fun p => p.name == name

end Agentgateway.Auth
