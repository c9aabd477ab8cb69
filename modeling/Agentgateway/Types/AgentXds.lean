import Agentgateway.Types.Agent

/-!
# Converting wire messages into runtime entities

The `TryFrom` implementations of `types/agent_xds.rs`, each returning an `Outcome ProtoError`.
-/

namespace Agentgateway

open Outcome

variable (ext : Externals)

/-- `default_as_none`: the type's default value reads as absent. -/
def defaultAsNone {α : Type} [DecidableEq α] (default : α) (i : α) : Option α :=
  if i = default then none else some i

@[simp] theorem defaultAsNone_eq_none {α : Type} [DecidableEq α] {default i : α} :
    defaultAsNone default i = none ↔ i = default := by
  unfold defaultAsNone
  split_ifs <;> simp_all

@[simp] theorem defaultAsNone_eq_some {α : Type} [DecidableEq α] {default i a : α} :
    defaultAsNone default i = some a ↔ i ≠ default ∧ i = a := by
  unfold defaultAsNone
  split_ifs <;> simp_all [eq_comm]

/-- `NonZeroU16::new`. -/
def nonZeroU16 (p : BitVec 16) : Option { p : BitVec 16 // p ≠ 0 } :=
  if h : p = 0 then none else some ⟨p, h⟩

theorem nonZeroU16_eq_none {p : BitVec 16} : nonZeroU16 p = none ↔ p = 0 := by
  unfold nonZeroU16
  split_ifs <;> simp_all

@[simp] theorem nonZeroU16_eq_some {p : BitVec 16} {q : { p : BitVec 16 // p ≠ 0 }} :
    nonZeroU16 p = some q ↔ q.1 = p := by
  unfold nonZeroU16
  split_ifs with zero
  · exact ⟨nofun, fun h => q.2 (h.trans zero)⟩
  · simp [Subtype.ext_iff, eq_comm]

/-! ## Calls into other crates -/

/-- `regex::Regex::new(pattern)?`. -/
def regexNew (pattern : String) : Outcome ProtoError Regex := do
  ofRejection ((ext.regexError pattern).map .regex)
  pure ⟨pattern⟩

/-- `HeaderName::from_bytes(name.as_bytes())?`. -/
def headerNameFromBytes (name : String) : Outcome ProtoError HeaderName :=
  if ext.headerNameRejects name then err .invalidHeaderName else ok ⟨name⟩

/-- `HeaderValue::from_bytes(value.as_bytes())?`. -/
def headerValueFromBytes (value : String) : Outcome ProtoError HeaderValue :=
  if ext.headerValueRejects value then err .invalidHeaderValue else ok ⟨value⟩

/-- `uri::Scheme::try_from(scheme)?`. -/
def schemeTryFrom (scheme : String) : Outcome ProtoError Scheme :=
  if ext.schemeRejects scheme then err .invalidUri else ok ⟨scheme⟩

/-- `StatusCode::from_u16(code)?`. -/
def statusFromU16 (code : BitVec 16) : Outcome ProtoError StatusCode :=
  okOr (StatusCode.fromU16 code) .invalidStatusCode

/-- `Target::try_from((host, port)).map_err(|e| ProtoError::Generic(e.to_string()))?`. -/
def targetTryFrom (host : String) (port : BitVec 16) : Outcome ProtoError Target := do
  ofRejection ((ext.targetError host port).map .generic)
  pure ⟨host, port⟩

/-- `duration.try_into()?`, from a wire duration to a `std::time::Duration`. -/
def durationTryInto (d : Proto.Duration) : Outcome ProtoError Duration :=
  (ofExcept (ext.durationTryFrom d)).mapErr .duration

/-- The service key of a backend reference: `split_once('/')` into namespace and hostname, or
`ProtoError::NamespacedHostnameParse` carrying the key. The three conversions that read a service
key (a route backend, an MCP target, a request mirror) hold this same code. -/
def namespacedHostnameOf (key : String) : Outcome ProtoError NamespacedHostname :=
  match splitOnce key '/' with
  | some (ns, hostname) => ok ⟨ns, hostname⟩
  | none => err (.namespacedHostnameParse key)

/-! ## TLS and listeners -/

/-- `TLSConfig::try_from(&TlsConfig)`: parse the chain and the key, and build a server config
that offers `http/1.1` only. Its errors are `anyhow` messages. -/
def tlsConfigTryFrom (value : Proto.TlsConfig) : Outcome String TLSConfig := do
  ofRejection (ext.certError value.cert)
  ofRejection (ext.keyError value.privateKey)
  if ext.protocolVersionsAccepted then pure () else panic "server config must be valid"
  ofRejection (ext.singleCertError value.cert value.privateKey)
  pure ⟨value, ["http/1.1"]⟩

/-- The `Debug` text of a wire protocol. -/
def Proto.Protocol.debugName : Proto.Protocol → String
  | .unknown => "Unknown"
  | .http => "Http"
  | .https => "Https"
  | .tls => "Tls"
  | .tcp => "Tcp"
  | .hbone => "Hbone"

/-- `ListenerProtocol::try_from((Protocol, Option<&TlsConfig>))`: `HTTPS` and `TLS` need a TLS
configuration, `HTTP`, `TCP` and `HBONE` must not have one. -/
def listenerProtocolTryFrom :
    Proto.Protocol → Option Proto.TlsConfig → Outcome ProtoError ListenerProtocol
  | .unknown, _ => err (.enumParse "unknown protocol")
  | .http, none => ok .http
  | .https, some tls => do
      let config ← (tlsConfigTryFrom ext tls).mapErr .generic
      pure (.https config)
  | .tls, some tls => do
      let config ← (tlsConfigTryFrom ext tls).mapErr .generic
      pure (.tls config)
  | .tcp, none => ok .tcp
  | .hbone, none => ok .hbone
  | proto, tls =>
      err (.generic ("protocol " ++ proto.debugName ++ " is incompatible with " ++
        if tls.isSome then "tls" else "no tls config"))

/-- `Bind::try_from(&Bind)`: listen on `0.0.0.0` at the wire port taken `as u16`. -/
def bindTryFrom (s : Proto.Bind) : Outcome ProtoError Bind :=
  ok { key := s.key, address := ⟨0, asU16 s.port⟩, listeners := [] }

/-- `(Listener, BindName)::try_from(&Listener)`. -/
def listenerTryFrom (s : Proto.Listener) : Outcome ProtoError (Listener × String) := do
  let proto ← (ofExcept (Proto.Protocol.tryFrom s.protocol)).mapErr .unknownEnumValue
  let protocol ← (listenerProtocolTryFrom ext proto s.tls).mapErr
    fun e => .generic (ext.protoErrorText e)
  pure ({ key := s.key, name := s.name, hostname := s.hostname, protocol
          gatewayName := s.gatewayName, routes := [], tcpRoutes := [] }, s.bindKey)

/-! ## Route filters -/

/-- The shared body of the two header-modifier filters. -/
def headerModifierOf (m : Proto.HeaderModifier) : HeaderModifier :=
  { add := m.add.map fun h => (h.name, h.value)
    set := m.set.map fun h => (h.name, h.value)
    remove := m.remove }

/-- A redirect or rewrite path. -/
def pathRedirectOf : Proto.PathRewrite → PathRedirect
  | .full path => .full path
  | .pathPrefix path => .pathPrefix path

/-- The `authority` of a request redirect: the host, the port (zero reads as absent), both, or
neither. A port alone goes through `NonZeroU16::new(p as u16).unwrap()`. -/
def redirectAuthority (host : String) (port : BitVec 32) :
    Outcome ProtoError (Option HostRedirect) :=
  match defaultAsNone "" host, defaultAsNone 0 port with
  | some h, some p => ok (some (.full (h ++ ":" ++ toString p.toNat)))
  | _, some p => do
      let nonZero ← unwrap (nonZeroU16 (asU16 p))
      pure (some (.port nonZero))
  | some h, _ => ok (some (.host h))
  | none, none => ok none

/-- The service of a request mirror. -/
def mirrorBackendOf (m : Proto.RequestMirror) : Outcome ProtoError SimpleBackendReference :=
  match m.kind with
  | none => ok .invalid
  | some (.service key) => do
      let ns ← namespacedHostnameOf key
      pure (.service ns (asU16 m.port))

/-- The `CorsSerde` that a wire CORS filter describes; `max_age` seconds are taken `as u64`. -/
def corsSerdeOf (c : Proto.Cors) : CorsSerde :=
  { allowCredentials := c.allowCredentials
    allowHeaders := c.allowHeaders
    allowMethods := c.allowMethods
    allowOrigins := c.allowOrigins
    exposeHeaders := c.exposeHeaders
    maxAge := c.maxAge.map fun d => Duration.fromSecs (asU64 d.seconds) }

/-- `RouteFilter::try_from(&RouteFilter)`. -/
def routeFilterTryFrom (s : Proto.RouteFilter) : Outcome ProtoError RouteFilter :=
  match s.kind with
  | none => err (.generic "invalid route filter")
  | some (.requestHeaderModifier rhm) => ok (.requestHeaderModifier (headerModifierOf rhm))
  | some (.requestRedirect rd) => do
      let scheme ← mapTranspose (schemeTryFrom ext) (defaultAsNone "" rd.scheme)
      let authority ← redirectAuthority rd.host rd.port
      let status ← mapTranspose (fun i => statusFromU16 (asU16 i)) (defaultAsNone 0 rd.status)
      pure (.requestRedirect { scheme, authority, path := rd.path.map pathRedirectOf, status })
  | some (.urlRewrite rw) =>
      ok (.urlRewrite { authority := (defaultAsNone "" rw.host).map .host
                        path := rw.path.map pathRedirectOf })
  | some (.responseHeaderModifier rhm) => ok (.responseHeaderModifier (headerModifierOf rhm))
  | some (.requestMirror m) => do
      let backend ← mirrorBackendOf m
      pure (.requestMirror { backend, percentage := m.percentage / 100.0 })
  | some (.directResponse m) => do
      let status ← statusFromU16 (asU16 m.status)
      pure (.directResponse { body := m.body, status })
  | some (.cors c) => do
      ofRejection ((ext.corsError (corsSerdeOf c)).map .generic)
      pure (.cors ⟨corsSerdeOf c⟩)

/-! ## Routes -/

/-- The backend of a route backend. -/
def routeBackendKindOf (s : Proto.RouteBackend) : Outcome ProtoError BackendReference :=
  match s.kind with
  | none => ok .invalid
  | some (.backend key) => ok (.backend key)
  | some (.service key) => do
      let ns ← namespacedHostnameOf key
      pure (.service ns (asU16 s.port))

/-- `RouteBackendReference::try_from(&RouteBackend)`. -/
def routeBackendTryFrom (s : Proto.RouteBackend) : Outcome ProtoError RouteBackendReference := do
  let backend ← routeBackendKindOf s
  let filters ← collect (routeFilterTryFrom ext) s.filters
  pure { weight := asUsize s.weight, backend, filters }

/-- `TrafficPolicy::try_from(TrafficPolicy)`. -/
def trafficPolicyTryFrom (s : Proto.TrafficPolicy) : Outcome ProtoError TrafficPolicy := do
  let req ← mapTranspose (durationTryInto ext) s.requestTimeout
  let backend ← mapTranspose (durationTryInto ext) s.backendRequestTimeout
  pure { timeout := { requestTimeout := req, backendRequestTimeout := backend } }

/-- A header match of a route match. -/
def headerMatchTryFrom (h : Proto.HeaderMatch) : Outcome ProtoError HeaderMatch :=
  match h.value with
  | none => err (.generic "invalid header match value")
  | some (.exact e) => do
      let name ← headerNameFromBytes ext h.name
      let value ← headerValueFromBytes ext e
      pure ⟨name, .exact value⟩
  | some (.regex e) => do
      let name ← headerNameFromBytes ext h.name
      let regex ← regexNew ext e
      pure ⟨name, .regex regex⟩

/-- A query match of a route match. -/
def queryMatchTryFrom (h : Proto.QueryMatch) : Outcome ProtoError QueryMatch :=
  match h.value with
  | none => err (.generic "invalid query match value")
  | some (.exact e) => ok ⟨h.name, .exact e⟩
  | some (.regex e) => do
      let regex ← regexNew ext e
      pure ⟨h.name, .regex regex⟩

/-- The path of a route match; an absent one matches the prefix `/`. -/
def pathMatchOf : Option Proto.PathMatch → Outcome ProtoError PathMatch
  | none => ok (.pathPrefix "/")
  | some ⟨some (.pathPrefix p)⟩ => ok (.pathPrefix p)
  | some ⟨some (.exact p)⟩ => ok (.exact p)
  | some ⟨some (.regex r)⟩ => do
      let regex ← regexNew ext r
      pure (.regex regex r.utf8ByteSize)
  | some ⟨none⟩ => err (.generic "invalid path match")

/-- `RouteMatch::try_from(&RouteMatch)`. -/
def routeMatchTryFrom (s : Proto.RouteMatch) : Outcome ProtoError RouteMatch := do
  let path ← pathMatchOf ext s.path
  let headers ← collect (headerMatchTryFrom ext) s.headers
  let query ← collect (queryMatchTryFrom ext) s.queryParams
  pure { headers, path, method := s.method.map fun m => ⟨m.exact⟩, query }

/-- `(Route, ListenerKey)::try_from(&Route)`. -/
def routeTryFrom (s : Proto.Route) : Outcome ProtoError (Route × String) := do
  let routeMatches ← collect (routeMatchTryFrom ext) s.routeMatches
  let filters ← collect (routeFilterTryFrom ext) s.filters
  let backends ← collect (routeBackendTryFrom ext) s.backends
  let policies ← mapTranspose (trafficPolicyTryFrom ext) s.trafficPolicy
  pure ({ key := s.key, routeName := s.routeName, ruleName := defaultAsNone "" s.ruleName
          hostnames := s.hostnames, routeMatches, filters, backends, policies }, s.listenerKey)

/-! ## Backends -/

/-- The provider of an AI backend. -/
def aiProviderOf : Option Proto.AiProvider → Outcome ProtoError AIProvider
  | some (.openai model) => ok (.openAI model)
  | some (.gemini model) => ok (.gemini model)
  | some (.vertex model region projectId) => ok (.vertex model (some region) projectId)
  | some (.anthropic model) => ok (.anthropic model)
  | some (.bedrock model region) => do
      let model ← okOr model (.generic "bedrock requires a model")
      pure (.bedrock model region)
  | none => err (.generic "AI backend provider is required")

/-- The backend reference of an MCP target. -/
def mcpBackendOf (s : Proto.McpTarget) : Outcome ProtoError SimpleBackendReference :=
  match s.kind with
  | none => ok .invalid
  | some (.backend name) => ok (.backend name)
  | some (.service key) => do
      let ns ← namespacedHostnameOf key
      pure (.service ns (asU16 s.port))

/-- `McpTarget::try_from(&McpTarget)`: the protocol is decoded before the backend. -/
def mcpTargetTryFrom (s : Proto.McpTarget) : Outcome ProtoError McpTarget := do
  let proto ← (ofExcept (Proto.McpProtocol.tryFrom s.protocol)).mapErr .unknownEnumValue
  let backend ← mcpBackendOf s
  pure { name := s.name
         spec := match proto with
           | .sse => .sse backend "/sse"
           | .undefined | .streamableHttp => .mcp backend "/mcp" }

/-- `Backend::try_from(&Backend)`. -/
def backendTryFrom (s : Proto.Backend) : Outcome ProtoError Backend :=
  match s.kind with
  | some (.static st) => do
      let target ← targetTryFrom ext st.host (asU16 st.port)
      pure (.opaqueTarget s.name target)
  | some (.ai a) => do
      let hostOverride ← mapTranspose (fun o => targetTryFrom ext o.host (asU16 o.port)) a.override
      let provider ← aiProviderOf a.provider
      pure (.ai s.name { hostOverride, provider })
  | some (.mcp m) => do
      let targets ← collect mcpTargetTryFrom m.targets
      pure (.mcp s.name targets)
  | none => err (.generic "unknown backend")

/-! ## Policies -/

/-- The target of a policy. -/
def policyTargetOf : Option Proto.PolicyTargetKind → Outcome ProtoError PolicyTarget
  | some (.gateway v) => ok (.gateway v)
  | some (.listener v) => ok (.listener v)
  | some (.route v) => ok (.route v)
  | some (.routeRule v) => ok (.routeRule v)
  | some (.backend v) => ok (.backend v)
  | none => err (.enumParse "unknown target kind")

/-- A local rate limit policy: one token bucket. -/
def localRateLimitOf (lrl : Proto.LocalRateLimit) : Outcome ProtoError Policy := do
  let t ← (ofExcept (Proto.LimitType.tryFrom lrl.type)).mapErr .unknownEnumValue
  let interval ← okOr lrl.fillInterval .missingRequiredField
  let fillInterval ← durationTryInto ext interval
  let serde : RateLimitSerde :=
    { maxTokens := lrl.maxTokens
      tokensPerFill := lrl.tokensPerFill
      fillInterval
      limitType := match t with
        | .request => .requests
        | .token => .tokens }
  ofRejection ((ext.rateLimitError serde).map fun e => .generic ("invalid rate limit: " ++ e))
  pure (.localRateLimit [⟨serde⟩])

/-- `TargetedPolicy::try_from(&Policy)`. -/
def policyTryFrom (s : Proto.Policy) : Outcome ProtoError TargetedPolicy := do
  let target ← okOr s.target .missingRequiredField
  let spec ← okOr s.spec .missingRequiredField
  let target ← policyTargetOf target.kind
  let policy ← match spec.kind with
    | some (.localRateLimit lrl) => localRateLimitOf ext lrl
    | none => err (.enumParse "unknown spec kind")
  pure { name := s.name, target, policy }

end Agentgateway
