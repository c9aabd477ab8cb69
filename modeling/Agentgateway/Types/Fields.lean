import Agentgateway.Types.Panics

/-!
# What a successful conversion carries

An integer taken with `as` keeps its value modulo the width of its target and is never rejected
for its range, so a bind port of `65616` listens on `80`. A service key is split at its first `/`.
-/

namespace Agentgateway

open Outcome

variable {ext : Externals}

/-- The backend an MCP target connects to, whichever transport it speaks. -/
def McpTargetSpec.backend : McpTargetSpec → SimpleBackendReference
  | .sse backend _ => backend
  | .mcp backend _ => backend

/-! ## Calls into other crates -/

@[simp] theorem statusFromU16_eq_ok {code : BitVec 16} {status : StatusCode} :
    statusFromU16 code = ok status ↔ status.code = code := by
  simp [statusFromU16, StatusCode.fromU16_eq_some]

@[simp] theorem targetTryFrom_eq_ok {host : String} {port : BitVec 16} {t : Target} :
    targetTryFrom ext host port = ok t ↔ ext.targetError host port = none ∧ ⟨host, port⟩ = t := by
  unfold targetTryFrom
  cases ext.targetError host port <;> simp

@[simp] theorem schemeTryFrom_eq_err {scheme : String} {e : ProtoError} :
    schemeTryFrom ext scheme = err e ↔ ext.schemeRejects scheme ∧ .invalidUri = e := by
  unfold schemeTryFrom
  split <;> simp_all

@[simp] theorem statusFromU16_eq_err {code : BitVec 16} {e : ProtoError} :
    statusFromU16 code = err e ↔ StatusCode.fromU16 code = none ∧ .invalidStatusCode = e := by
  cases h : StatusCode.fromU16 code <;> simp [statusFromU16, h]

/-! ## Integers taken with `as` -/

theorem routeBackendTryFrom_eq_ok {s : Proto.RouteBackend} {r : RouteBackendReference} :
    routeBackendTryFrom ext s = ok r ↔
      ∃ backend, routeBackendKindOf s = ok backend ∧
        ∃ filters, collect (routeFilterTryFrom ext) s.filters = ok filters ∧
          { weight := asUsize s.weight, backend, filters } = r := by
  simp only [routeBackendTryFrom, bind_eq_ok, pure_eq, ok.injEq]

/-- A route backend's `i32` weight is sign-extended to `usize`; a service's port is the wire port
modulo `2^16`. -/
theorem routeBackendTryFrom_casts {s : Proto.RouteBackend} {r : RouteBackendReference}
    (h : routeBackendTryFrom ext s = ok r) :
    r.weight.toNat = (s.weight.toInt % 2 ^ 64).toNat ∧
      ∀ key, s.kind = some (.service key) →
        ∃ n p, r.backend = .service n p ∧ p.toNat = s.port.toNat % 2 ^ 16 := by
  obtain ⟨backend, kind_ok, -, -, rfl⟩ := routeBackendTryFrom_eq_ok.mp h
  refine ⟨toNat_asUsize _, fun key kind => ?_⟩
  simp only [routeBackendKindOf, kind, bind_eq_ok, pure_eq, ok.injEq] at kind_ok
  obtain ⟨n, -, rfl⟩ := kind_ok
  exact ⟨n, _, rfl, toNat_asU16 _⟩

/-- The weight reaches the result and nothing else: it never decides whether the conversion
succeeds. -/
theorem routeBackendTryFrom_weight (s : Proto.RouteBackend) (w : BitVec 32) :
    routeBackendTryFrom ext { s with weight := w } =
      (fun r => { r with weight := asUsize w }) <$> routeBackendTryFrom ext s := by
  simp only [routeBackendTryFrom,
    show routeBackendKindOf { s with weight := w } = routeBackendKindOf s from rfl]
  cases routeBackendKindOf s <;> simp
  cases collect (routeFilterTryFrom ext) s.filters <;> simp

/-! Each conversion reads a port or a status only through its `u16` cast, so two wire values with
the same low sixteen bits give the same outcome. -/

theorem routeBackendTryFrom_port_congr {kind weight filters} {p q : BitVec 32}
    (h : p.toNat % 2 ^ 16 = q.toNat % 2 ^ 16) :
    routeBackendTryFrom ext ⟨kind, weight, p, filters⟩ =
      routeBackendTryFrom ext ⟨kind, weight, q, filters⟩ := by
  simp only [routeBackendTryFrom, routeBackendKindOf, asU16_congr h]

theorem backendTryFrom_static_port_congr {name host} {p q : BitVec 32}
    (h : p.toNat % 2 ^ 16 = q.toNat % 2 ^ 16) :
    backendTryFrom ext ⟨name, some (.static ⟨host, p⟩)⟩ =
      backendTryFrom ext ⟨name, some (.static ⟨host, q⟩)⟩ := by
  simp only [backendTryFrom, asU16_congr h]

theorem backendTryFrom_hostOverride_port_congr {name host provider} {p q : BitVec 32}
    (h : p.toNat % 2 ^ 16 = q.toNat % 2 ^ 16) :
    backendTryFrom ext ⟨name, some (.ai ⟨some ⟨host, p⟩, provider⟩)⟩ =
      backendTryFrom ext ⟨name, some (.ai ⟨some ⟨host, q⟩, provider⟩)⟩ := by
  simp only [backendTryFrom, mapTranspose_some, asU16_congr h]

theorem mcpTargetTryFrom_port_congr {name kind protocol} {p q : BitVec 32}
    (h : p.toNat % 2 ^ 16 = q.toNat % 2 ^ 16) :
    mcpTargetTryFrom ⟨name, kind, p, protocol⟩ = mcpTargetTryFrom ⟨name, kind, q, protocol⟩ := by
  simp only [mcpTargetTryFrom, mcpBackendOf, asU16_congr h]

theorem routeFilterTryFrom_mirror_port_congr {kind percentage} {p q : BitVec 32}
    (h : p.toNat % 2 ^ 16 = q.toNat % 2 ^ 16) :
    routeFilterTryFrom ext ⟨some (.requestMirror ⟨kind, p, percentage⟩)⟩ =
      routeFilterTryFrom ext ⟨some (.requestMirror ⟨kind, q, percentage⟩)⟩ := by
  simp only [routeFilterTryFrom, mirrorBackendOf, asU16_congr h]

theorem routeFilterTryFrom_directResponse_status_congr {body} {p q : BitVec 32}
    (h : p.toNat % 2 ^ 16 = q.toNat % 2 ^ 16) :
    routeFilterTryFrom ext ⟨some (.directResponse ⟨body, p⟩)⟩ =
      routeFilterTryFrom ext ⟨some (.directResponse ⟨body, q⟩)⟩ := by
  simp only [routeFilterTryFrom, asU16_congr h]

/-- A redirect's port and status are read as absent when they are `0`, before the cast. -/
theorem routeFilterTryFrom_redirect_port_congr {scheme path status} {p q : BitVec 32}
    (hp : p ≠ 0#32) (hq : q ≠ 0#32) (h : p.toNat % 2 ^ 16 = q.toNat % 2 ^ 16) :
    routeFilterTryFrom ext ⟨some (.requestRedirect ⟨scheme, "", path, p, status⟩)⟩ =
      routeFilterTryFrom ext ⟨some (.requestRedirect ⟨scheme, "", path, q, status⟩)⟩ := by
  simp [routeFilterTryFrom, redirectAuthority, defaultAsNone, hp, hq, asU16_congr h]

theorem routeFilterTryFrom_redirect_status_congr {scheme host path port} {p q : BitVec 32}
    (hp : p ≠ 0#32) (hq : q ≠ 0#32) (h : p.toNat % 2 ^ 16 = q.toNat % 2 ^ 16) :
    routeFilterTryFrom ext ⟨some (.requestRedirect ⟨scheme, host, path, port, p⟩)⟩ =
      routeFilterTryFrom ext ⟨some (.requestRedirect ⟨scheme, host, path, port, q⟩)⟩ := by
  simp [routeFilterTryFrom, defaultAsNone, hp, hq, asU16_congr h]

theorem backendTryFrom_static_port {s : Proto.Backend} {st : Proto.StaticBackend} {b : Backend}
    (kind : s.kind = some (.static st)) (h : backendTryFrom ext s = ok b) :
    ∃ t, b = .opaqueTarget s.name t ∧ t.port.toNat = st.port.toNat % 2 ^ 16 := by
  simp only [backendTryFrom, kind, bind_eq_ok, targetTryFrom_eq_ok, pure_eq, ok.injEq] at h
  obtain ⟨_, ⟨-, rfl⟩, rfl⟩ := h
  exact ⟨_, rfl, toNat_asU16 _⟩

theorem backendTryFrom_hostOverride_port {s : Proto.Backend} {a : Proto.AiBackend}
    {o : Proto.AiOverride} {b : Backend} (kind : s.kind = some (.ai a))
    (override : a.override = some o) (h : backendTryFrom ext s = ok b) :
    ∃ ai t, b = .ai s.name ai ∧ ai.hostOverride = some t ∧ t.port.toNat = o.port.toNat % 2 ^ 16 := by
  simp only [backendTryFrom, kind, override, mapTranspose_some, bind_eq_ok, targetTryFrom_eq_ok,
    pure_eq, ok.injEq] at h
  obtain ⟨_, ⟨_, ⟨-, rfl⟩, rfl⟩, _, -, rfl⟩ := h
  exact ⟨_, _, rfl, rfl, toNat_asU16 _⟩

/-- An MCP target holds the backend that `mcpBackendOf` builds, under either transport. -/
theorem mcpTargetTryFrom_backend {s : Proto.McpTarget} {t : McpTarget}
    (h : mcpTargetTryFrom s = ok t) : mcpBackendOf s = ok t.spec.backend := by
  simp only [mcpTargetTryFrom, bind_eq_ok, pure_eq, ok.injEq] at h
  obtain ⟨proto, -, backend, backend_ok, rfl⟩ := h
  cases proto <;> exact backend_ok

theorem mcpTargetTryFrom_service_port {s : Proto.McpTarget} {t : McpTarget} {key : String}
    (kind : s.kind = some (.service key)) (h : mcpTargetTryFrom s = ok t) :
    ∃ n p, t.spec.backend = .service n p ∧ p.toNat = s.port.toNat % 2 ^ 16 := by
  have backend_ok := mcpTargetTryFrom_backend h
  simp only [mcpBackendOf, kind, bind_eq_ok, pure_eq, ok.injEq] at backend_ok
  obtain ⟨n, -, eq⟩ := backend_ok
  exact ⟨n, _, eq.symm, toNat_asU16 _⟩

theorem routeFilterTryFrom_mirror_port {m : Proto.RequestMirror} {f : RouteFilter} {key : String}
    (kind : m.kind = some (.service key))
    (h : routeFilterTryFrom ext ⟨some (.requestMirror m)⟩ = ok f) :
    ∃ n p, f = .requestMirror ⟨.service n p, m.percentage / 100.0⟩ ∧
      p.toNat = m.port.toNat % 2 ^ 16 := by
  simp only [routeFilterTryFrom, mirrorBackendOf, kind, bind_eq_ok, pure_eq, ok.injEq] at h
  obtain ⟨_, ⟨n, -, rfl⟩, rfl⟩ := h
  exact ⟨n, _, rfl, toNat_asU16 _⟩

theorem routeFilterTryFrom_requestRedirect_eq_ok {rd : Proto.RequestRedirect} {f : RouteFilter} :
    routeFilterTryFrom ext ⟨some (.requestRedirect rd)⟩ = ok f ↔
      ∃ scheme, mapTranspose (schemeTryFrom ext) (defaultAsNone "" rd.scheme) = ok scheme ∧
        ∃ authority, redirectAuthority rd.host rd.port = ok authority ∧
          ∃ status, mapTranspose (fun i => statusFromU16 (asU16 i)) (defaultAsNone 0 rd.status) =
              ok status ∧
            .requestRedirect { scheme, authority, path := rd.path.map pathRedirectOf, status } = f := by
  simp only [routeFilterTryFrom, bind_eq_ok, pure_eq, ok.injEq]

/-- A redirect status that is present is the wire status modulo `2^16`. -/
theorem redirectStatus_codes {status : BitVec 32} {r : Option StatusCode}
    (h : mapTranspose (fun i => statusFromU16 (asU16 i)) (defaultAsNone 0 status) = ok r) :
    r.map (·.code.toNat) = (defaultAsNone 0 status).map (·.toNat % 2 ^ 16) := by
  rcases mapTranspose_eq_ok.mp h with ⟨absent, rfl⟩ | ⟨i, code, present, code_ok, rfl⟩
  · rw [absent]; rfl
  · rw [present]
    simp [statusFromU16_eq_ok.mp code_ok]

theorem redirectAuthority_ne_err (host : String) (port : BitVec 32) (e : ProtoError) :
    redirectAuthority host port ≠ err e := by
  unfold redirectAuthority
  split <;> simp [bind_eq_err]

/-- A redirect status is absent when it is `0`, and otherwise converts exactly when its low
sixteen bits are three digits. -/
theorem exists_redirectStatus_eq_ok {status : BitVec 32} :
    (∃ r, mapTranspose (fun i => statusFromU16 (asU16 i)) (defaultAsNone 0 status) = ok r) ↔
      status = 0#32 ∨ 100 ≤ status.toNat % 2 ^ 16 ∧ status.toNat % 2 ^ 16 < 1000 := by
  rw [exists_mapTranspose_eq_ok, ← toNat_asU16, ← StatusCode.exists_code_eq]
  by_cases absent : status = 0#32 <;> simp [defaultAsNone, absent]

/-- The authority of a redirect converts unless it reaches the port `unwrap` and panics. -/
theorem exists_redirectAuthority_eq_ok {host : String} {port : BitVec 32} :
    (∃ a, redirectAuthority host port = ok a) ↔
      ¬ (host = "" ∧ port ≠ 0#32 ∧ port.toNat % 2 ^ 16 = 0) := by
  have zero : asU16 port = 0#16 ↔ port.toNat % 2 ^ 16 = 0 := by simp [BitVec.toNat_eq]
  rw [← zero, ← redirectAuthority_panics_iff]
  cases h : redirectAuthority host port with
  | ok a => simp
  | err e => exact absurd h (redirectAuthority_ne_err host port e)
  | panic m => simp

theorem exists_routeFilterTryFrom_requestRedirect_eq_ok {rd : Proto.RequestRedirect} :
    (∃ f, routeFilterTryFrom ext ⟨some (.requestRedirect rd)⟩ = ok f) ↔
      (rd.scheme = "" ∨ ext.schemeRejects rd.scheme = false) ∧
        ¬ (rd.host = "" ∧ rd.port ≠ 0#32 ∧ rd.port.toNat % 2 ^ 16 = 0) ∧
        (rd.status = 0#32 ∨ 100 ≤ rd.status.toNat % 2 ^ 16 ∧ rd.status.toNat % 2 ^ 16 < 1000) := by
  rw [← exists_schemeOption_ok_iff, ← exists_redirectAuthority_eq_ok, ← exists_redirectStatus_eq_ok]
  simp only [routeFilterTryFrom_requestRedirect_eq_ok]
  constructor
  · rintro ⟨_, scheme, scheme_ok, authority, authority_ok, status, status_ok, -⟩
    exact ⟨⟨scheme, scheme_ok⟩, ⟨authority, authority_ok⟩, ⟨status, status_ok⟩⟩
  · rintro ⟨⟨scheme, scheme_ok⟩, ⟨authority, authority_ok⟩, ⟨status, status_ok⟩⟩
    exact ⟨_, scheme, scheme_ok, authority, authority_ok, status, status_ok, rfl⟩

/-- A redirect naming a port and no host redirects to the wire port modulo `2^16`. -/
theorem redirectAuthority_port_only {host : String} {port : BitVec 32} {a : Option HostRedirect}
    (h : redirectAuthority host port = ok a) (noHost : host = "") (hp : port ≠ 0#32) :
    ∃ p : { p : BitVec 16 // p ≠ 0 }, a = some (.port p) ∧ p.1.toNat = port.toNat % 2 ^ 16 := by
  subst noHost
  simp [redirectAuthority, defaultAsNone, hp, bind_eq_ok] at h
  obtain ⟨_, rfl⟩ := h
  exact ⟨_, rfl, toNat_asU16 _⟩

/-- A redirect naming a host and a port writes the wire port whole: `format!` reads the `u32`. -/
theorem redirectAuthority_host_and_port {host : String} {port : BitVec 32}
    (hh : host ≠ "") (hp : port ≠ 0#32) :
    redirectAuthority host port = ok (some (.full (host ++ ":" ++ toString port.toNat))) := by
  simp [redirectAuthority, defaultAsNone, hh, hp]

theorem routeFilterTryFrom_directResponse_eq_ok {m : Proto.DirectResponse} {f : RouteFilter} :
    routeFilterTryFrom ext ⟨some (.directResponse m)⟩ = ok f ↔
      ∃ status : StatusCode, status.code = asU16 m.status ∧ .directResponse ⟨m.body, status⟩ = f := by
  simp only [routeFilterTryFrom, bind_eq_ok, statusFromU16_eq_ok, pure_eq, ok.injEq]

theorem routeFilterTryFrom_cors_eq_ok {c : Proto.Cors} {f : RouteFilter} :
    routeFilterTryFrom ext ⟨some (.cors c)⟩ = ok f ↔
      ext.corsError (corsSerdeOf c) = none ∧ .cors ⟨corsSerdeOf c⟩ = f := by
  simp only [routeFilterTryFrom]
  cases ext.corsError (corsSerdeOf c) <;> simp

/-- Each integer that a conversion takes with `as` reaches the runtime value reduced to the width
of its target type, and the outcome depends on it only through that remainder, so no conversion
rejects an integer for its range; only a redirect's authority with a host carries the port whole. -/
theorem as_casts_keep_wire_value_modulo_width (ext : Externals) :
    (∀ s : Proto.Bind, ∃ b, bindTryFrom s = ok b ∧
      b.address.port.toNat = s.port.toNat % 2 ^ 16) ∧
    (∀ s r, routeBackendTryFrom ext s = ok r →
      r.weight.toNat = (s.weight.toInt % 2 ^ 64).toNat ∧
      ∀ key, s.kind = some (.service key) →
        ∃ n p, r.backend = .service n p ∧ p.toNat = s.port.toNat % 2 ^ 16) ∧
    (∀ s w, routeBackendTryFrom ext { s with weight := w } =
      (fun r => { r with weight := asUsize w }) <$> routeBackendTryFrom ext s) ∧
    (∀ kind weight p q filters, p.toNat % 2 ^ 16 = q.toNat % 2 ^ 16 →
      routeBackendTryFrom ext ⟨kind, weight, p, filters⟩ =
        routeBackendTryFrom ext ⟨kind, weight, q, filters⟩) ∧
    (∀ s st b, s.kind = some (.static st) → backendTryFrom ext s = ok b →
      ∃ t, b = .opaqueTarget s.name t ∧ t.port.toNat = st.port.toNat % 2 ^ 16) ∧
    (∀ name host p q, p.toNat % 2 ^ 16 = q.toNat % 2 ^ 16 →
      backendTryFrom ext ⟨name, some (.static ⟨host, p⟩)⟩ =
        backendTryFrom ext ⟨name, some (.static ⟨host, q⟩)⟩) ∧
    (∀ s a o b, s.kind = some (.ai a) → a.override = some o → backendTryFrom ext s = ok b →
      ∃ ai t, b = .ai s.name ai ∧ ai.hostOverride = some t ∧
        t.port.toNat = o.port.toNat % 2 ^ 16) ∧
    (∀ name host provider p q, p.toNat % 2 ^ 16 = q.toNat % 2 ^ 16 →
      backendTryFrom ext ⟨name, some (.ai ⟨some ⟨host, p⟩, provider⟩)⟩ =
        backendTryFrom ext ⟨name, some (.ai ⟨some ⟨host, q⟩, provider⟩)⟩) ∧
    (∀ s t key, s.kind = some (.service key) → mcpTargetTryFrom s = ok t →
      ∃ n p, t.spec.backend = .service n p ∧ p.toNat = s.port.toNat % 2 ^ 16) ∧
    (∀ name kind p q protocol, p.toNat % 2 ^ 16 = q.toNat % 2 ^ 16 →
      mcpTargetTryFrom ⟨name, kind, p, protocol⟩ = mcpTargetTryFrom ⟨name, kind, q, protocol⟩) ∧
    (∀ m f key, m.kind = some (.service key) →
      routeFilterTryFrom ext ⟨some (.requestMirror m)⟩ = ok f →
      ∃ n p, f = .requestMirror ⟨.service n p, m.percentage / 100.0⟩ ∧
        p.toNat = m.port.toNat % 2 ^ 16) ∧
    (∀ kind p q percentage, p.toNat % 2 ^ 16 = q.toNat % 2 ^ 16 →
      routeFilterTryFrom ext ⟨some (.requestMirror ⟨kind, p, percentage⟩)⟩ =
        routeFilterTryFrom ext ⟨some (.requestMirror ⟨kind, q, percentage⟩)⟩) ∧
    (∀ rd f, routeFilterTryFrom ext ⟨some (.requestRedirect rd)⟩ = ok f →
      ∃ r, f = .requestRedirect r ∧
        r.status.map (·.code.toNat) = (defaultAsNone 0 rd.status).map (·.toNat % 2 ^ 16) ∧
        (rd.host = "" → rd.port ≠ 0#32 →
          ∃ p, r.authority = some (.port p) ∧ p.1.toNat = rd.port.toNat % 2 ^ 16) ∧
        (rd.host ≠ "" → rd.port ≠ 0#32 →
          r.authority = some (.full (rd.host ++ ":" ++ toString rd.port.toNat)))) ∧
    (∀ rd, (∃ f, routeFilterTryFrom ext ⟨some (.requestRedirect rd)⟩ = ok f) ↔
      (rd.scheme = "" ∨ ext.schemeRejects rd.scheme = false) ∧
        ¬ (rd.host = "" ∧ rd.port ≠ 0#32 ∧ rd.port.toNat % 2 ^ 16 = 0) ∧
        (rd.status = 0#32 ∨ 100 ≤ rd.status.toNat % 2 ^ 16 ∧ rd.status.toNat % 2 ^ 16 < 1000)) ∧
    (∀ scheme path p q status, p ≠ 0#32 → q ≠ 0#32 → p.toNat % 2 ^ 16 = q.toNat % 2 ^ 16 →
      routeFilterTryFrom ext ⟨some (.requestRedirect ⟨scheme, "", path, p, status⟩)⟩ =
        routeFilterTryFrom ext ⟨some (.requestRedirect ⟨scheme, "", path, q, status⟩)⟩) ∧
    (∀ scheme host path port p q, p ≠ 0#32 → q ≠ 0#32 → p.toNat % 2 ^ 16 = q.toNat % 2 ^ 16 →
      routeFilterTryFrom ext ⟨some (.requestRedirect ⟨scheme, host, path, port, p⟩)⟩ =
        routeFilterTryFrom ext ⟨some (.requestRedirect ⟨scheme, host, path, port, q⟩)⟩) ∧
    (∀ m, (∃ f, routeFilterTryFrom ext ⟨some (.directResponse m)⟩ = ok f) ↔
      100 ≤ m.status.toNat % 2 ^ 16 ∧ m.status.toNat % 2 ^ 16 < 1000) ∧
    (∀ m f, routeFilterTryFrom ext ⟨some (.directResponse m)⟩ = ok f →
      ∃ status : StatusCode, f = .directResponse ⟨m.body, status⟩ ∧
        status.code.toNat = m.status.toNat % 2 ^ 16) ∧
    (∀ body p q, p.toNat % 2 ^ 16 = q.toNat % 2 ^ 16 →
      routeFilterTryFrom ext ⟨some (.directResponse ⟨body, p⟩)⟩ =
        routeFilterTryFrom ext ⟨some (.directResponse ⟨body, q⟩)⟩) ∧
    (∀ c f d, c.maxAge = some d → routeFilterTryFrom ext ⟨some (.cors c)⟩ = ok f →
      ∃ serde age, f = .cors ⟨serde⟩ ∧ serde.maxAge = some age ∧
        age.nanos = (d.seconds.toInt % 2 ^ 64).toNat * 1000000000) ∧
    (∀ c, (∃ f, routeFilterTryFrom ext ⟨some (.cors c)⟩ = ok f) ↔
      ext.corsError (corsSerdeOf c) = none) := by
  refine ⟨fun s => ⟨_, rfl, toNat_asU16 _⟩, fun _ _ => routeBackendTryFrom_casts,
    routeBackendTryFrom_weight, fun _ _ _ _ _ => routeBackendTryFrom_port_congr,
    fun _ _ _ => backendTryFrom_static_port, fun _ _ _ _ => backendTryFrom_static_port_congr,
    fun _ _ _ _ => backendTryFrom_hostOverride_port,
    fun _ _ _ _ _ => backendTryFrom_hostOverride_port_congr,
    fun _ _ _ => mcpTargetTryFrom_service_port, fun _ _ _ _ _ => mcpTargetTryFrom_port_congr,
    fun _ _ _ => routeFilterTryFrom_mirror_port, fun _ _ _ _ => routeFilterTryFrom_mirror_port_congr,
    fun rd f h => ?_, fun _ => exists_routeFilterTryFrom_requestRedirect_eq_ok,
    fun _ _ _ _ _ => routeFilterTryFrom_redirect_port_congr,
    fun _ _ _ _ _ _ => routeFilterTryFrom_redirect_status_congr, fun m => ?_, fun m f h => ?_,
    fun _ _ _ => routeFilterTryFrom_directResponse_status_congr, fun c f d age h => ?_,
    fun c => ?_⟩
  · obtain ⟨_, -, authority, authority_ok, status, status_ok, rfl⟩ :=
      routeFilterTryFrom_requestRedirect_eq_ok.mp h
    refine ⟨_, rfl, redirectStatus_codes status_ok,
      redirectAuthority_port_only authority_ok, fun hh hp => ?_⟩
    simpa [redirectAuthority_host_and_port hh hp, eq_comm] using authority_ok
  · rw [← toNat_asU16, ← StatusCode.exists_code_eq]
    simp only [routeFilterTryFrom_directResponse_eq_ok]
    exact ⟨fun ⟨_, status, code, _⟩ => ⟨status, code⟩, fun ⟨status, code⟩ => ⟨_, status, code, rfl⟩⟩
  · obtain ⟨status, code, rfl⟩ := routeFilterTryFrom_directResponse_eq_ok.mp h
    exact ⟨status, rfl, by rw [code, toNat_asU16]⟩
  · obtain ⟨-, rfl⟩ := routeFilterTryFrom_cors_eq_ok.mp h
    exact ⟨_, Duration.fromSecs (asU64 d.seconds), rfl, by simp [corsSerdeOf, age],
      by simp [toNat_asU64]⟩
  · simp [routeFilterTryFrom_cors_eq_ok]

/-! ## Service keys -/

theorem namespacedHostnameOf_eq_err {key k : String} :
    namespacedHostnameOf key = err (.namespacedHostnameParse k) ↔ '/' ∉ key.data ∧ k = key := by
  cases h : splitOnce key '/' with
  | none => simp [namespacedHostnameOf, h, splitOnce_eq_none_iff.mp h, eq_comm]
  | some p => simp [namespacedHostnameOf, h, ← splitOnce_eq_none_iff]

/-- A key converts exactly into the namespace before its first `/` and the hostname after it. -/
theorem namespacedHostnameOf_eq_ok {key : String} {n : NamespacedHostname} :
    namespacedHostnameOf key = ok n ↔ n.ns ++ "/" ++ n.hostname = key ∧ '/' ∉ n.ns.data := by
  obtain ⟨ns, hostname⟩ := n
  rw [show "/" = String.singleton '/' from rfl, ← splitOnce_eq_some_iff]
  cases h : splitOnce key '/' with
  | none => simp [namespacedHostnameOf, h]
  | some p => obtain ⟨a, b⟩ := p; simp [namespacedHostnameOf, h]

theorem namespacedHostnameOf_ok_of_mem {key : String} (slash : '/' ∈ key.data) :
    ∃ n, namespacedHostnameOf key = ok n := by
  cases h : splitOnce key '/' with
  | none => exact absurd slash (splitOnce_eq_none_iff.mp h)
  | some p => obtain ⟨a, b⟩ := p; exact ⟨⟨a, b⟩, by simp [namespacedHostnameOf, h]⟩

/-- The only `NamespacedHostnameParse` a route filter reports is a mirrored service's key, which
has no `/`. -/
theorem routeFilterTryFrom_parse_error_key {f : Proto.RouteFilter} {k : String}
    (h : routeFilterTryFrom ext f = err (.namespacedHostnameParse k)) : '/' ∉ k.data := by
  obtain ⟨_ | kind⟩ := f
  · simp [routeFilterTryFrom] at h
  cases kind with
  | requestMirror m =>
      simp only [routeFilterTryFrom, mirrorBackendOf] at h
      split at h
      · simp at h
      · simp [bind_eq_err, namespacedHostnameOf_eq_err] at h
        obtain ⟨noSlash, rfl⟩ := h
        exact noSlash
  | requestRedirect rd =>
      simp [routeFilterTryFrom, bind_eq_err, mapTranspose_eq_err, redirectAuthority_ne_err] at h
  | _ => simp [routeFilterTryFrom, bind_eq_err] at h

/-- The three sites that read a service key split it at its first `/` alike: a key without one
is rejected with `NamespacedHostnameParse` (at an MCP target once its protocol decodes), and a key
with one gives the same namespace and hostname at each site. -/
theorem serviceKey_splits_at_first_slash (ext : Externals) (k : String) :
    (∀ s : Proto.McpTarget, s.kind = some (.service k) → 3 ≤ s.protocol.toNat →
      mcpTargetTryFrom s = err (.unknownEnumValue s.protocol.toInt)) ∧
    ('/' ∉ k.data →
      (∀ s : Proto.RouteBackend, s.kind = some (.service k) →
        routeBackendTryFrom ext s = err (.namespacedHostnameParse k)) ∧
      (∀ s : Proto.McpTarget, s.kind = some (.service k) → s.protocol.toNat < 3 →
        mcpTargetTryFrom s = err (.namespacedHostnameParse k)) ∧
      (∀ m : Proto.RequestMirror, m.kind = some (.service k) →
        routeFilterTryFrom ext ⟨some (.requestMirror m)⟩ = err (.namespacedHostnameParse k))) ∧
    ('/' ∈ k.data → ∃ n : NamespacedHostname, n.ns ++ "/" ++ n.hostname = k ∧ '/' ∉ n.ns.data ∧
      (∀ s : Proto.RouteBackend, s.kind = some (.service k) →
        routeBackendTryFrom ext s ≠ err (.namespacedHostnameParse k) ∧
        ∀ r, routeBackendTryFrom ext s = ok r → r.backend = .service n (asU16 s.port)) ∧
      (∀ s : Proto.McpTarget, s.kind = some (.service k) → s.protocol.toNat < 3 →
        ∃ t, mcpTargetTryFrom s = ok t ∧ t.spec.backend = .service n (asU16 s.port)) ∧
      (∀ m : Proto.RequestMirror, m.kind = some (.service k) →
        routeFilterTryFrom ext ⟨some (.requestMirror m)⟩ =
          ok (.requestMirror ⟨.service n (asU16 m.port), m.percentage / 100.0⟩))) := by
  refine ⟨fun s _ unknown => ?_, fun noSlash => ?_, fun slash => ?_⟩
  · unfold mcpTargetTryFrom Proto.McpProtocol.tryFrom
    split <;> first | omega | rfl
  · have key : namespacedHostnameOf k = err (.namespacedHostnameParse k) :=
      namespacedHostnameOf_eq_err.mpr ⟨noSlash, rfl⟩
    refine ⟨fun s kind => ?_, fun s kind known => ?_, fun m kind => ?_⟩
    · simp [routeBackendTryFrom, routeBackendKindOf, kind, key]
    · obtain ⟨p, proto⟩ := Proto.McpProtocol.exists_tryFrom_eq_ok.mpr known
      simp [mcpTargetTryFrom, mcpBackendOf, proto, kind, key]
    · simp [routeFilterTryFrom, mirrorBackendOf, kind, key]
  · obtain ⟨n, key⟩ := namespacedHostnameOf_ok_of_mem slash
    obtain ⟨joined, first⟩ := namespacedHostnameOf_eq_ok.mp key
    refine ⟨n, joined, first, fun s kind => ?_, fun s kind known => ?_, fun m kind => ?_⟩
    · have kind_ok : routeBackendKindOf s = ok (.service n (asU16 s.port)) := by
        simp [routeBackendKindOf, kind, key]
      refine ⟨fun h => ?_, fun r h => ?_⟩
      · simp only [routeBackendTryFrom, kind_ok, ok_bind, bind_eq_err, pure_eq] at h
        rcases h with h | ⟨_, -, h⟩
        · obtain ⟨f, -, filter_err⟩ := (collect_eq_err_iff.mp h).exists_mem
          exact routeFilterTryFrom_parse_error_key filter_err slash
        · simp at h
      · obtain ⟨backend, backend_ok, -, -, rfl⟩ := routeBackendTryFrom_eq_ok.mp h
        simpa [kind_ok] using backend_ok.symm
    · obtain ⟨p, proto⟩ := Proto.McpProtocol.exists_tryFrom_eq_ok.mpr known
      cases p <;> simp [mcpTargetTryFrom, mcpBackendOf, proto, kind, key, McpTargetSpec.backend]
    · simp [routeFilterTryFrom, mirrorBackendOf, kind, key]

/-- An MCP target whose service key has no `/` and whose protocol is `3` is rejected for its
protocol, not for its key. -/
theorem mcpTargetTryFrom_protocol_before_key :
    mcpTargetTryFrom ⟨"", some (.service "abc"), 0#32, 3#32⟩ = err (.unknownEnumValue 3) :=
  rfl

/-- A bind port of `65616` is not rejected: the listener binds port `80`. -/
theorem bindTryFrom_port_65616 :
    bindTryFrom ⟨"", 65616#32⟩ = ok { key := "", address := ⟨0, 80#16⟩, listeners := [] } :=
  rfl

end Agentgateway
