import Agentgateway.Time

/-!
# Control-plane wire messages

The `proto::agent` messages that `types/agent_xds.rs` converts, with the fields it reads, each at
its Rust width.
-/

namespace Agentgateway.Proto

/-- `google.protobuf.Duration`, as `prost_types::Duration`. -/
structure Duration where
  /-- `seconds: i64`. -/
  seconds : BitVec 64
  /-- `nanos: i32`. -/
  nanos : BitVec 32
  deriving DecidableEq, Repr

/-- `TlsConfig`: the PEM certificate chain and private key. -/
structure TlsConfig where
  /-- `cert: bytes`. -/
  cert : List UInt8
  /-- `private_key: bytes`. -/
  privateKey : List UInt8
  deriving DecidableEq, Repr

/-- `Bind`. -/
structure Bind where
  /-- `key`. -/
  key : String
  /-- `port: u32`. -/
  port : BitVec 32
  deriving DecidableEq, Repr

/-- `Listener`. -/
structure Listener where
  /-- `key`. -/
  key : String
  /-- `name`. -/
  name : String
  /-- `bind_key`. -/
  bindKey : String
  /-- `gateway_name`. -/
  gatewayName : String
  /-- `hostname`. -/
  hostname : String
  /-- `protocol`: a `Protocol` enum value. -/
  protocol : BitVec 32
  /-- `tls`. -/
  tls : Option TlsConfig
  deriving DecidableEq, Repr

/-! ## Route matches -/

/-- `path_match::Kind`. -/
inductive PathMatchKind where
  | exact (path : String)
  | pathPrefix (path : String)
  | regex (pattern : String)
  deriving DecidableEq, Repr

/-- `PathMatch`. -/
structure PathMatch where
  /-- `kind`. -/
  kind : Option PathMatchKind
  deriving DecidableEq, Repr

/-- `MethodMatch`. -/
structure MethodMatch where
  /-- `exact`. -/
  exact : String
  deriving DecidableEq, Repr

/-- `header_match::Value`. -/
inductive HeaderMatchValue where
  | exact (value : String)
  | regex (pattern : String)
  deriving DecidableEq, Repr

/-- `HeaderMatch`. -/
structure HeaderMatch where
  /-- `name`. -/
  name : String
  /-- `value`. -/
  value : Option HeaderMatchValue
  deriving DecidableEq, Repr

/-- `query_match::Value`. -/
inductive QueryMatchValue where
  | exact (value : String)
  | regex (pattern : String)
  deriving DecidableEq, Repr

/-- `QueryMatch`. -/
structure QueryMatch where
  /-- `name`. -/
  name : String
  /-- `value`. -/
  value : Option QueryMatchValue
  deriving DecidableEq, Repr

/-- `RouteMatch`. -/
structure RouteMatch where
  /-- `path`. -/
  path : Option PathMatch
  /-- `method`. -/
  method : Option MethodMatch
  /-- `headers`. -/
  headers : List HeaderMatch
  /-- `query_params`. -/
  queryParams : List QueryMatch
  deriving DecidableEq, Repr

/-! ## Route filters -/

/-- `Header`: one name and value of a header modifier. -/
structure Header where
  /-- `name`. -/
  name : String
  /-- `value`. -/
  value : String
  deriving DecidableEq, Repr

/-- `HeaderModifier`. -/
structure HeaderModifier where
  /-- `add`. -/
  add : List Header
  /-- `set`. -/
  set : List Header
  /-- `remove`. -/
  remove : List String
  deriving DecidableEq, Repr

/-- `request_redirect::Path` and `url_rewrite::Path`, which have the same two cases. -/
inductive PathRewrite where
  | full (path : String)
  | pathPrefix (path : String)
  deriving DecidableEq, Repr

/-- `RequestRedirect`. -/
structure RequestRedirect where
  /-- `scheme`, empty for none. -/
  scheme : String
  /-- `host`, empty for none. -/
  host : String
  /-- `path`. -/
  path : Option PathRewrite
  /-- `port: u32`, zero for none. -/
  port : BitVec 32
  /-- `status: u32`, zero for none. -/
  status : BitVec 32
  deriving DecidableEq, Repr

/-- `UrlRewrite`. -/
structure UrlRewrite where
  /-- `host`, empty for none. -/
  host : String
  /-- `path`. -/
  path : Option PathRewrite
  deriving DecidableEq, Repr

/-- `request_mirror::Kind`. -/
inductive RequestMirrorKind where
  | service (key : String)
  deriving DecidableEq, Repr

/-- `RequestMirror`. -/
structure RequestMirror where
  /-- `kind`. -/
  kind : Option RequestMirrorKind
  /-- `port: u32`. -/
  port : BitVec 32
  /-- `percentage: f64`. -/
  percentage : Float
  deriving Repr

/-- `DirectResponse`. -/
structure DirectResponse where
  /-- `body: bytes`. -/
  body : List UInt8
  /-- `status: u32`. -/
  status : BitVec 32
  deriving DecidableEq, Repr

/-- `Cors`. -/
structure Cors where
  /-- `allow_credentials`. -/
  allowCredentials : Bool
  /-- `allow_headers`. -/
  allowHeaders : List String
  /-- `allow_methods`. -/
  allowMethods : List String
  /-- `allow_origins`. -/
  allowOrigins : List String
  /-- `expose_headers`. -/
  exposeHeaders : List String
  /-- `max_age`. -/
  maxAge : Option Duration
  deriving DecidableEq, Repr

/-- `route_filter::Kind`. -/
inductive RouteFilterKind where
  | requestHeaderModifier (modifier : HeaderModifier)
  | requestRedirect (redirect : RequestRedirect)
  | urlRewrite (rewrite : UrlRewrite)
  | responseHeaderModifier (modifier : HeaderModifier)
  | requestMirror (mirror : RequestMirror)
  | directResponse (response : DirectResponse)
  | cors (cors : Cors)
  deriving Repr

/-- `RouteFilter`. -/
structure RouteFilter where
  /-- `kind`. -/
  kind : Option RouteFilterKind
  deriving Repr

/-! ## Routes -/

/-- `route_backend::Kind`. -/
inductive RouteBackendKind where
  | backend (key : String)
  | service (key : String)
  deriving DecidableEq, Repr

/-- `RouteBackend`. -/
structure RouteBackend where
  /-- `kind`. -/
  kind : Option RouteBackendKind
  /-- `weight: i32`. -/
  weight : BitVec 32
  /-- `port: u32`. -/
  port : BitVec 32
  /-- `filters`. -/
  filters : List RouteFilter
  deriving Repr

/-- `TrafficPolicy`. -/
structure TrafficPolicy where
  /-- `request_timeout`. -/
  requestTimeout : Option Duration
  /-- `backend_request_timeout`. -/
  backendRequestTimeout : Option Duration
  deriving DecidableEq, Repr

/-- `Route`. -/
structure Route where
  /-- `key`. -/
  key : String
  /-- `listener_key`. -/
  listenerKey : String
  /-- `route_name`. -/
  routeName : String
  /-- `rule_name`, empty for none. -/
  ruleName : String
  /-- `hostnames`. -/
  hostnames : List String
  /-- `matches` (a keyword in Lean). -/
  routeMatches : List RouteMatch
  /-- `filters`. -/
  filters : List RouteFilter
  /-- `backends`. -/
  backends : List RouteBackend
  /-- `traffic_policy`. -/
  trafficPolicy : Option TrafficPolicy
  deriving Repr

/-! ## Backends -/

/-- `StaticBackend`. -/
structure StaticBackend where
  /-- `host`. -/
  host : String
  /-- `port: u32`. -/
  port : BitVec 32
  deriving DecidableEq, Repr

/-- `ai_backend::Override`: a host and port that replace the provider's default. -/
structure AiOverride where
  /-- `host`. -/
  host : String
  /-- `port: u32`. -/
  port : BitVec 32
  deriving DecidableEq, Repr

/-- `ai_backend::Provider`, with the fields of each provider message. -/
inductive AiProvider where
  | openai (model : Option String)
  | gemini (model : Option String)
  | vertex (model : Option String) (region projectId : String)
  | anthropic (model : Option String)
  | bedrock (model : Option String) (region : String)
  deriving DecidableEq, Repr

/-- `AiBackend`. -/
structure AiBackend where
  /-- `override`. -/
  override : Option AiOverride
  /-- `provider`. -/
  provider : Option AiProvider
  deriving DecidableEq, Repr

/-- `mcp_target::Kind`. -/
inductive McpTargetKind where
  | backend (name : String)
  | service (key : String)
  deriving DecidableEq, Repr

/-- `McpTarget`. -/
structure McpTarget where
  /-- `name`. -/
  name : String
  /-- `kind`. -/
  kind : Option McpTargetKind
  /-- `port: u32`. -/
  port : BitVec 32
  /-- `protocol`: an `mcp_target::Protocol` enum value. -/
  protocol : BitVec 32
  deriving DecidableEq, Repr

/-- `McpBackend`. -/
structure McpBackend where
  /-- `targets`. -/
  targets : List McpTarget
  deriving DecidableEq, Repr

/-- `backend::Kind`. -/
inductive BackendKind where
  | static (backend : StaticBackend)
  | ai (backend : AiBackend)
  | mcp (backend : McpBackend)
  deriving DecidableEq, Repr

/-- `Backend`. -/
structure Backend where
  /-- `name`. -/
  name : String
  /-- `kind`. -/
  kind : Option BackendKind
  deriving DecidableEq, Repr

/-! ## Policies -/

/-- `policy_target::Kind`. -/
inductive PolicyTargetKind where
  | gateway (name : String)
  | listener (name : String)
  | route (name : String)
  | routeRule (name : String)
  | backend (name : String)
  deriving DecidableEq, Repr

/-- `PolicyTarget`. -/
structure PolicyTarget where
  /-- `kind`. -/
  kind : Option PolicyTargetKind
  deriving DecidableEq, Repr

/-- `policy_spec::LocalRateLimit`. -/
structure LocalRateLimit where
  /-- `max_tokens: u64`. -/
  maxTokens : BitVec 64
  /-- `tokens_per_fill: u64`. -/
  tokensPerFill : BitVec 64
  /-- `fill_interval`. -/
  fillInterval : Option Duration
  /-- `type`: a `local_rate_limit::Type` enum value. -/
  type : BitVec 32
  deriving DecidableEq, Repr

/-- `policy_spec::Kind`. -/
inductive PolicySpecKind where
  | localRateLimit (limit : LocalRateLimit)
  deriving DecidableEq, Repr

/-- `PolicySpec`. -/
structure PolicySpec where
  /-- `kind`. -/
  kind : Option PolicySpecKind
  deriving DecidableEq, Repr

/-- `Policy`. -/
structure Policy where
  /-- `name`. -/
  name : String
  /-- `target`. -/
  target : Option PolicyTarget
  /-- `spec`. -/
  spec : Option PolicySpec
  deriving DecidableEq, Repr

/-! ## Enum values

prost decodes an enum field with `TryFrom<i32>`, which rejects a value the enum does not list.
`agent.proto` is not in the repository; the values below follow the order in which the
conversions list the cases.
-/

/-- `agent::Protocol`. -/
inductive Protocol where
  | unknown
  | http
  | https
  | tls
  | tcp
  | hbone
  deriving DecidableEq, Repr

/-- `Protocol::try_from(i32)`. -/
def Protocol.tryFrom (value : BitVec 32) : Except Int Protocol :=
  match value.toNat with
  | 0 => .ok .unknown
  | 1 => .ok .http
  | 2 => .ok .https
  | 3 => .ok .tls
  | 4 => .ok .tcp
  | 5 => .ok .hbone
  | _ => .error value.toInt

/-- `mcp_target::Protocol`. -/
inductive McpProtocol where
  | undefined
  | sse
  | streamableHttp
  deriving DecidableEq, Repr

/-- `mcp_target::Protocol::try_from(i32)`. -/
def McpProtocol.tryFrom (value : BitVec 32) : Except Int McpProtocol :=
  match value.toNat with
  | 0 => .ok .undefined
  | 1 => .ok .sse
  | 2 => .ok .streamableHttp
  | _ => .error value.toInt

theorem McpProtocol.exists_tryFrom_eq_ok {value : BitVec 32} :
    (∃ p, McpProtocol.tryFrom value = .ok p) ↔ value.toNat < 3 := by
  unfold McpProtocol.tryFrom
  split <;> simp_all
  omega

/-- `local_rate_limit::Type`. -/
inductive LimitType where
  | request
  | token
  deriving DecidableEq, Repr

/-- `local_rate_limit::Type::try_from(i32)`. -/
def LimitType.tryFrom (value : BitVec 32) : Except Int LimitType :=
  match value.toNat with
  | 0 => .ok .request
  | 1 => .ok .token
  | _ => .error value.toInt

end Agentgateway.Proto
