import Agentgateway.Types.Proto

/-!
# Runtime configuration entities

The values the conversions of `types/agent_xds.rs` build, with the fields they write. A value
another crate constructs is held as its input, and `Externals` says which inputs that crate rejects.
-/

namespace Agentgateway

/-! ## Values built by other crates -/

/-- `regex::Regex`, compiled from its pattern. -/
structure Regex where
  /-- The pattern. -/
  pattern : String
  deriving DecidableEq, Repr

/-- `http::HeaderName`. -/
structure HeaderName where
  /-- The name. -/
  name : String
  deriving DecidableEq, Repr

/-- `http::HeaderValue`. -/
structure HeaderValue where
  /-- The value. -/
  value : String
  deriving DecidableEq, Repr

/-- `http::uri::Scheme`. -/
structure Scheme where
  /-- The scheme. -/
  scheme : String
  deriving DecidableEq, Repr

/-- `Target`: a host, an address or a name, and a port. -/
structure Target where
  /-- The host. -/
  host : String
  /-- The port. -/
  port : BitVec 16
  deriving DecidableEq, Repr

/-- `http::cors::CorsSerde`, the input of `Cors::try_from`. -/
structure CorsSerde where
  /-- `allow_credentials`. -/
  allowCredentials : Bool
  /-- `allow_headers`. -/
  allowHeaders : List String
  /-- `allow_methods`. -/
  allowMethods : List String
  /-- `allow_origins`. -/
  allowOrigins : List String
  /-- `expose_headers`. -/
  exposeHeaders : List String
  /-- `max_age`. -/
  maxAge : Option Duration
  deriving DecidableEq

/-- `http::cors::Cors`, built from a `CorsSerde`. -/
structure Cors where
  /-- The settings it was built from. -/
  serde : CorsSerde
  deriving DecidableEq

/-- `localratelimit::RateLimitType`. -/
inductive RateLimitType where
  | requests
  | tokens
  deriving DecidableEq, Repr

/-- `localratelimit::RateLimitSerde`, the input of the rate limit's `try_into`. -/
structure RateLimitSerde where
  /-- `max_tokens`. -/
  maxTokens : BitVec 64
  /-- `tokens_per_fill`. -/
  tokensPerFill : BitVec 64
  /-- `fill_interval`. -/
  fillInterval : Duration
  /-- `limit_type`. -/
  limitType : RateLimitType
  deriving DecidableEq

/-- `localratelimit::RateLimit`, built from a `RateLimitSerde`. -/
structure RateLimit where
  /-- The settings it was built from. -/
  serde : RateLimitSerde
  deriving DecidableEq

/-- `TLSConfig`: the server TLS configuration built from a certificate chain and a key. -/
structure TLSConfig where
  /-- The certificate chain and key it was built from. -/
  source : Proto.TlsConfig
  /-- `alpn_protocols`. -/
  alpnProtocols : List String
  deriving DecidableEq, Repr

/-- Modelled from the spec: `ProtoError` is declared in `types/proto.rs`, which is not in the
repository. It has the four variants the conversions build by name, and one variant for each
error that `?` converts into it. -/
inductive ProtoError where
  | namespacedHostnameParse (key : String)
  | enumParse (message : String)
  | generic (message : String)
  | missingRequiredField
  | unknownEnumValue (value : Int)
  | regex (message : String)
  | invalidHeaderName
  | invalidHeaderValue
  | invalidStatusCode
  | invalidUri
  | duration (message : String)
  deriving DecidableEq, Repr

/-- The calls into other crates that the conversions make, each given by the error it reports
on an input it rejects, and the `Display` text of a `ProtoError`. -/
structure Externals where
  /-- `Regex::new`. -/
  regexError : String → Option String
  /-- `HeaderName::from_bytes` rejects the name. -/
  headerNameRejects : String → Bool
  /-- `HeaderValue::from_bytes` rejects the value. -/
  headerValueRejects : String → Bool
  /-- `uri::Scheme::try_from` rejects the scheme. -/
  schemeRejects : String → Bool
  /-- `Target::try_from((host, port))`. -/
  targetError : String → BitVec 16 → Option String
  /-- `Cors::try_from`. -/
  corsError : CorsSerde → Option String
  /-- The rate limit's `try_into`. -/
  rateLimitError : RateLimitSerde → Option String
  /-- `std::time::Duration::try_from(prost_types::Duration)`. -/
  durationTryFrom : Proto.Duration → Except String Duration
  /-- `parse_cert`. -/
  certError : List UInt8 → Option String
  /-- `parse_key`. -/
  keyError : List UInt8 → Option String
  /-- `with_single_cert(cert_chain, private_key)`. -/
  singleCertError : List UInt8 → List UInt8 → Option String
  /-- `with_protocol_versions(ALL_TLS_VERSIONS)` on the crate's TLS provider succeeds; it reads
  no input. -/
  protocolVersionsAccepted : Bool
  /-- `format!("{e}")` of a `ProtoError`. -/
  protoErrorText : ProtoError → String

/-! ## References and matches -/

/-- `NamespacedHostname`. -/
structure NamespacedHostname where
  /-- `namespace` (a keyword in Lean). -/
  ns : String
  /-- `hostname`. -/
  hostname : String
  deriving DecidableEq, Repr

/-- `BackendReference`. -/
inductive BackendReference where
  | service (name : NamespacedHostname) (port : BitVec 16)
  | backend (name : String)
  | invalid
  deriving DecidableEq, Repr

/-- `SimpleBackendReference`. -/
inductive SimpleBackendReference where
  | service (name : NamespacedHostname) (port : BitVec 16)
  | backend (name : String)
  | invalid
  deriving DecidableEq, Repr

/-- `PathMatch`; a regex keeps the byte length of its pattern. -/
inductive PathMatch where
  | exact (path : String)
  | pathPrefix (path : String)
  | regex (regex : Regex) (patternLength : Nat)
  deriving DecidableEq, Repr

/-- `MethodMatch`. -/
structure MethodMatch where
  /-- `method`. -/
  method : String
  deriving DecidableEq, Repr

/-- `HeaderValueMatch`. -/
inductive HeaderValueMatch where
  | exact (value : HeaderValue)
  | regex (regex : Regex)
  deriving DecidableEq, Repr

/-- `HeaderMatch`. -/
structure HeaderMatch where
  /-- `name`. -/
  name : HeaderName
  /-- `value`. -/
  value : HeaderValueMatch
  deriving DecidableEq, Repr

/-- `QueryValueMatch`. -/
inductive QueryValueMatch where
  | exact (value : String)
  | regex (regex : Regex)
  deriving DecidableEq, Repr

/-- `QueryMatch`. -/
structure QueryMatch where
  /-- `name`. -/
  name : String
  /-- `value`. -/
  value : QueryValueMatch
  deriving DecidableEq, Repr

/-- `RouteMatch`. -/
structure RouteMatch where
  /-- `headers`. -/
  headers : List HeaderMatch
  /-- `path`. -/
  path : PathMatch
  /-- `method`. -/
  method : Option MethodMatch
  /-- `query`. -/
  query : List QueryMatch
  deriving DecidableEq, Repr

/-! ## Filters -/

/-- `filters::HeaderModifier`. -/
structure HeaderModifier where
  /-- `add`. -/
  add : List (String × String)
  /-- `set`. -/
  set : List (String × String)
  /-- `remove`. -/
  remove : List String
  deriving DecidableEq, Repr

/-- `HostRedirect`; a port redirect holds a `NonZeroU16`. -/
inductive HostRedirect where
  | full (authority : String)
  | host (host : String)
  | port (port : { p : BitVec 16 // p ≠ 0 })
  deriving DecidableEq

/-- `PathRedirect`. -/
inductive PathRedirect where
  | full (path : String)
  | pathPrefix (path : String)
  deriving DecidableEq, Repr

/-- `filters::RequestRedirect`. -/
structure RequestRedirect where
  /-- `scheme`. -/
  scheme : Option Scheme
  /-- `authority`. -/
  authority : Option HostRedirect
  /-- `path`. -/
  path : Option PathRedirect
  /-- `status`. -/
  status : Option StatusCode
  deriving DecidableEq

/-- `filters::UrlRewrite`. -/
structure UrlRewrite where
  /-- `authority`. -/
  authority : Option HostRedirect
  /-- `path`. -/
  path : Option PathRedirect
  deriving DecidableEq

/-- `filters::RequestMirror`. -/
structure RequestMirror where
  /-- `backend`. -/
  backend : SimpleBackendReference
  /-- `percentage`, a fraction. -/
  percentage : Float

/-- `filters::DirectResponse`. -/
structure DirectResponse where
  /-- `body`. -/
  body : List UInt8
  /-- `status`. -/
  status : StatusCode
  deriving DecidableEq

/-- `RouteFilter`. -/
inductive RouteFilter where
  | requestHeaderModifier (modifier : HeaderModifier)
  | requestRedirect (redirect : RequestRedirect)
  | urlRewrite (rewrite : UrlRewrite)
  | responseHeaderModifier (modifier : HeaderModifier)
  | requestMirror (mirror : RequestMirror)
  | directResponse (response : DirectResponse)
  | cors (cors : Cors)

/-! ## Routes, listeners and binds -/

/-- `RouteBackendReference`. -/
structure RouteBackendReference where
  /-- `weight: usize`. -/
  weight : BitVec 64
  /-- `backend`. -/
  backend : BackendReference
  /-- `filters`. -/
  filters : List RouteFilter

/-- `timeout::Policy`. -/
structure TimeoutPolicy where
  /-- `request_timeout`. -/
  requestTimeout : Option Duration
  /-- `backend_request_timeout`. -/
  backendRequestTimeout : Option Duration
  deriving DecidableEq

/-- `TrafficPolicy`; its `retry` is always `None` in the conversion, and is left out. -/
structure TrafficPolicy where
  /-- `timeout`. -/
  timeout : TimeoutPolicy
  deriving DecidableEq

/-- `Route`. -/
structure Route where
  /-- `key`. -/
  key : String
  /-- `route_name`. -/
  routeName : String
  /-- `rule_name`. -/
  ruleName : Option String
  /-- `hostnames`. -/
  hostnames : List String
  /-- `matches` (a keyword in Lean). -/
  routeMatches : List RouteMatch
  /-- `filters`. -/
  filters : List RouteFilter
  /-- `backends`. -/
  backends : List RouteBackendReference
  /-- `policies`. -/
  policies : Option TrafficPolicy

/-- `ListenerProtocol`: `HTTPS` and `TLS` carry their TLS configuration. -/
inductive ListenerProtocol where
  | http
  | https (tls : TLSConfig)
  | tls (tls : TLSConfig)
  | tcp
  | hbone
  deriving DecidableEq, Repr

/-- `Listener`. -/
structure Listener where
  /-- `key`. -/
  key : String
  /-- `name`. -/
  name : String
  /-- `hostname`. -/
  hostname : String
  /-- `protocol`. -/
  protocol : ListenerProtocol
  /-- `gateway_name`. -/
  gatewayName : String
  /-- `routes`. -/
  routes : List String
  /-- `tcp_routes`. -/
  tcpRoutes : List String
  deriving DecidableEq, Repr

/-- `SocketAddr` for an IPv4 address. -/
structure SocketAddr where
  /-- The IPv4 address. -/
  ip : BitVec 32
  /-- The port. -/
  port : BitVec 16
  deriving DecidableEq, Repr

/-- `Bind`. -/
structure Bind where
  /-- `key`. -/
  key : String
  /-- `address`. -/
  address : SocketAddr
  /-- `listeners`. -/
  listeners : List String
  deriving DecidableEq, Repr

/-! ## Backends and policies -/

/-- `AIProvider`, with the fields of each provider. -/
inductive AIProvider where
  | openAI (model : Option String)
  | gemini (model : Option String)
  | vertex (model : Option String) (region : Option String) (projectId : String)
  | anthropic (model : Option String)
  | bedrock (model : String) (region : String)
  deriving DecidableEq, Repr

/-- `AIBackend`. -/
structure AIBackend where
  /-- `host_override`. -/
  hostOverride : Option Target
  /-- `provider`. -/
  provider : AIProvider
  deriving DecidableEq, Repr

/-- `McpTargetSpec`: an SSE or a streamable-HTTP target, with its backend and path. -/
inductive McpTargetSpec where
  | sse (backend : SimpleBackendReference) (path : String)
  | mcp (backend : SimpleBackendReference) (path : String)
  deriving DecidableEq, Repr

/-- `McpTarget`. -/
structure McpTarget where
  /-- `name`. -/
  name : String
  /-- `spec`. -/
  spec : McpTargetSpec
  deriving DecidableEq, Repr

/-- `Backend`; `Backend::Opaque` is `opaqueTarget` here. -/
inductive Backend where
  | opaqueTarget (name : String) (target : Target)
  | ai (name : String) (backend : AIBackend)
  | mcp (name : String) (targets : List McpTarget)
  deriving DecidableEq, Repr

/-- `PolicyTarget`. -/
inductive PolicyTarget where
  | gateway (name : String)
  | listener (name : String)
  | route (name : String)
  | routeRule (name : String)
  | backend (name : String)
  deriving DecidableEq, Repr

/-- `Policy`. -/
inductive Policy where
  | localRateLimit (limits : List RateLimit)
  deriving DecidableEq

/-- `TargetedPolicy`. -/
structure TargetedPolicy where
  /-- `name`. -/
  name : String
  /-- `target`. -/
  target : PolicyTarget
  /-- `policy`. -/
  policy : Policy
  deriving DecidableEq

end Agentgateway
