import Agentgateway.Types.AgentXds

/-!
# Where the conversions panic

Every conversion returns `Ok` or `Err` except at a redirect's `unwrap` on a port with no host, and
at the `expect` on the TLS protocol versions, which reads no input.
-/

namespace Agentgateway

open Outcome

variable {ext : Externals}

/-! ## Steps that never panic -/

@[simp] theorem not_panics_regexNew (pattern : String) : ¬ (regexNew ext pattern).Panics := by
  simp [regexNew, panics_bind]

@[simp] theorem not_panics_headerNameFromBytes (name : String) :
    ¬ (headerNameFromBytes ext name).Panics := by
  unfold headerNameFromBytes
  split <;> simp

@[simp] theorem not_panics_headerValueFromBytes (value : String) :
    ¬ (headerValueFromBytes ext value).Panics := by
  unfold headerValueFromBytes
  split <;> simp

@[simp] theorem not_panics_schemeTryFrom (scheme : String) : ¬ (schemeTryFrom ext scheme).Panics := by
  unfold schemeTryFrom
  split <;> simp

@[simp] theorem not_panics_statusFromU16 (code : BitVec 16) : ¬ (statusFromU16 code).Panics := by
  simp [statusFromU16]

@[simp] theorem not_panics_targetTryFrom (host : String) (port : BitVec 16) :
    ¬ (targetTryFrom ext host port).Panics := by
  simp [targetTryFrom, panics_bind]

@[simp] theorem not_panics_durationTryInto (d : Proto.Duration) :
    ¬ (durationTryInto ext d).Panics := by
  simp [durationTryInto, panics_mapErr]

@[simp] theorem not_panics_namespacedHostnameOf (key : String) :
    ¬ (namespacedHostnameOf key).Panics := by
  unfold namespacedHostnameOf
  split <;> simp

/-! ## The port of a redirect -/

/-- The authority of a redirect panics exactly when it names no host and a non-zero port with
zero low bits. -/
theorem redirectAuthority_panics_iff {host : String} {port : BitVec 32} :
    (redirectAuthority host port).Panics ↔ host = "" ∧ port ≠ 0#32 ∧ asU16 port = 0#16 := by
  by_cases hh : host = "" <;> by_cases hp : port = 0#32 <;>
    simp [redirectAuthority, defaultAsNone, hh, hp, nonZeroU16_eq_none, panics_bind]

theorem exists_schemeOption_ok_iff {scheme : String} :
    (∃ a, mapTranspose (schemeTryFrom ext) (defaultAsNone "" scheme) = ok a) ↔
      scheme = "" ∨ ext.schemeRejects scheme = false := by
  by_cases hs : scheme = "" <;> simp [defaultAsNone, hs, schemeTryFrom]
  split <;> simp_all

/-- A wire filter on which the conversion reaches the failing `unwrap`: a redirect whose scheme
converts, with no host and a non-zero port whose low sixteen bits are zero. -/
def Proto.RouteFilter.ReachesPortUnwrap (ext : Externals) (f : Proto.RouteFilter) : Prop :=
  ∃ rd, f.kind = some (.requestRedirect rd) ∧ (rd.scheme = "" ∨ ext.schemeRejects rd.scheme = false) ∧
    rd.host = "" ∧ rd.port ≠ 0#32 ∧ asU16 rd.port = 0#16

/-- `RouteFilter::try_from` panics on exactly the filters that reach the port `unwrap`. -/
theorem routeFilterTryFrom_panics_iff {f : Proto.RouteFilter} :
    (routeFilterTryFrom ext f).Panics ↔ f.ReachesPortUnwrap ext := by
  obtain ⟨_ | kind⟩ := f
  · simp [routeFilterTryFrom, Proto.RouteFilter.ReachesPortUnwrap]
  · cases kind with
    | requestRedirect rd =>
        simp only [routeFilterTryFrom, panics_bind, panics_mapTranspose,
          Proto.RouteFilter.ReachesPortUnwrap, Option.some.injEq,
          Proto.RouteFilterKind.requestRedirect.injEq, exists_eq_left']
        rw [← exists_schemeOption_ok_iff, ← redirectAuthority_panics_iff]
        constructor
        · rintro (⟨_, -, scheme_panics⟩ | ⟨scheme, scheme_ok, rest⟩)
          · simp at scheme_panics
          · refine ⟨⟨scheme, scheme_ok⟩, ?_⟩
            rcases rest with authority_panics | ⟨_, -, status⟩
            · exact authority_panics
            · simp [panics_bind, panics_mapTranspose] at status
        · rintro ⟨⟨scheme, scheme_ok⟩, authority_panics⟩
          exact .inr ⟨scheme, scheme_ok, .inl authority_panics⟩
    | requestMirror m =>
        simp [routeFilterTryFrom, Proto.RouteFilter.ReachesPortUnwrap, mirrorBackendOf,
          panics_bind]
        split <;> simp [panics_bind]
    | _ => simp [routeFilterTryFrom, Proto.RouteFilter.ReachesPortUnwrap, panics_bind]

/-- A redirect to port `65536` with no host: the cast leaves port `0`, and the `unwrap` of
`NonZeroU16::new(0)` panics, whatever the other crates do. -/
theorem routeFilterTryFrom_port_65536_panics (ext : Externals) :
    routeFilterTryFrom ext ⟨some (.requestRedirect ⟨"", "", none, 65536#32, 0#32⟩)⟩ =
      .panic "called Option::unwrap() on a None value" :=
  rfl

/-! ## The other conversions -/

theorem not_panics_routeMatchTryFrom (s : Proto.RouteMatch) :
    ¬ (routeMatchTryFrom ext s).Panics := by
  have path : ¬ (pathMatchOf ext s.path).Panics := by
    unfold pathMatchOf
    split <;> simp [panics_bind]
  have header (h : Proto.HeaderMatch) : ¬ (headerMatchTryFrom ext h).Panics := by
    unfold headerMatchTryFrom
    split <;> simp [panics_bind]
  have query (q : Proto.QueryMatch) : ¬ (queryMatchTryFrom ext q).Panics := by
    unfold queryMatchTryFrom
    split <;> simp [panics_bind]
  simp [routeMatchTryFrom, panics_bind, path,
    collect_not_panics fun h _ => header h, collect_not_panics fun q _ => query q]

theorem not_panics_mcpTargetTryFrom (s : Proto.McpTarget) : ¬ (mcpTargetTryFrom s).Panics := by
  have backend : ¬ (mcpBackendOf s).Panics := by
    unfold mcpBackendOf
    split <;> simp [panics_bind]
  simp [mcpTargetTryFrom, panics_bind, panics_mapErr, backend]

theorem not_panics_backendTryFrom (s : Proto.Backend) : ¬ (backendTryFrom ext s).Panics := by
  have provider (p : Option Proto.AiProvider) : ¬ (aiProviderOf p).Panics := by
    unfold aiProviderOf
    split <;> simp [panics_bind]
  unfold backendTryFrom
  split <;> simp [panics_bind, panics_mapTranspose, provider,
    collect_not_panics fun t _ => not_panics_mcpTargetTryFrom t]

theorem not_panics_trafficPolicyTryFrom (s : Proto.TrafficPolicy) :
    ¬ (trafficPolicyTryFrom ext s).Panics := by
  simp [trafficPolicyTryFrom, panics_bind, panics_mapTranspose]

theorem not_panics_policyTryFrom (s : Proto.Policy) : ¬ (policyTryFrom ext s).Panics := by
  have target (t : Option Proto.PolicyTargetKind) : ¬ (policyTargetOf t).Panics := by
    unfold policyTargetOf
    split <;> simp
  have limit (l : Proto.LocalRateLimit) : ¬ (localRateLimitOf ext l).Panics := by
    simp [localRateLimitOf, panics_bind, panics_mapErr]
  simp only [policyTryFrom, panics_bind, not_panics_okOr, target, false_or, false_and,
    exists_false, or_false, not_exists, not_and]
  intro _ _ _ _ _ _
  split <;> simp [limit, panics_bind]

/-- The listener conversion panics only if the TLS provider rejects its protocol versions. -/
theorem listenerTryFrom_panics (s : Proto.Listener) (panics : (listenerTryFrom ext s).Panics) :
    ext.protocolVersionsAccepted = false := by
  have tls (t : Proto.TlsConfig) (accepted : ext.protocolVersionsAccepted = true) :
      ¬ (tlsConfigTryFrom ext t).Panics := by
    simp [tlsConfigTryFrom, panics_bind, accepted]
  by_contra accepted
  rw [Bool.not_eq_false] at accepted
  simp only [listenerTryFrom, panics_bind, panics_mapErr, not_panics_ofExcept, false_or] at panics
  obtain ⟨proto, -, protocol_panics | ⟨_, -, done⟩⟩ := panics
  · revert protocol_panics
    unfold listenerProtocolTryFrom
    split <;> simp [panics_bind, panics_mapErr, tls _ accepted]
  · simp at done

theorem routeBackendTryFrom_panics_iff {s : Proto.RouteBackend} :
    (routeBackendTryFrom ext s).Panics ↔
      (∃ b, routeBackendKindOf s = ok b) ∧ FirstFails (routeFilterTryFrom ext) s.filters Panics := by
  have kind : ¬ (routeBackendKindOf s).Panics := by
    unfold routeBackendKindOf
    split <;> simp [panics_bind]
  simp [routeBackendTryFrom, panics_bind, kind, collect_panics_iff]

theorem routeTryFrom_panics_iff {s : Proto.Route} :
    (routeTryFrom ext s).Panics ↔
      AllOk (routeMatchTryFrom ext) s.routeMatches ∧
        (FirstFails (routeFilterTryFrom ext) s.filters Panics ∨
          AllOk (routeFilterTryFrom ext) s.filters ∧
            FirstFails (routeBackendTryFrom ext) s.backends Panics) := by
  have matches_calm : ¬ (collect (routeMatchTryFrom ext) s.routeMatches).Panics :=
    collect_not_panics fun m _ => not_panics_routeMatchTryFrom m
  have policy_calm : ¬ (mapTranspose (trafficPolicyTryFrom ext) s.trafficPolicy).Panics := by
    simp [panics_mapTranspose, not_panics_trafficPolicyTryFrom]
  simp only [routeTryFrom, panics_bind, matches_calm, policy_calm, false_or, pure_eq,
    not_panics_ok, and_false, exists_false, or_false, exists_and_right,
    exists_collect_eq_ok_iff, collect_panics_iff]

/-- With the other crates' conversions returning `Ok` or `Err`, as `Externals` has them, the only
panic an input reaches is the port `unwrap` of a redirect: a route or a route backend panics only
through a filter, a listener only when the TLS provider rejects its fixed protocol versions. -/
theorem conversions_panic_only_at_port_unwrap :
    (∀ s, ¬ (bindTryFrom s).Panics) ∧
    (∀ s, (listenerTryFrom ext s).Panics → ext.protocolVersionsAccepted = false) ∧
    (∀ s, ¬ (routeMatchTryFrom ext s).Panics) ∧
    (∀ s, ¬ (backendTryFrom ext s).Panics) ∧
    (∀ s, ¬ (mcpTargetTryFrom s).Panics) ∧
    (∀ s, ¬ (policyTryFrom ext s).Panics) ∧
    (∀ s, (routeBackendTryFrom ext s).Panics → ∃ f ∈ s.filters, f.ReachesPortUnwrap ext) ∧
    (∀ s, (routeTryFrom ext s).Panics →
      ∃ f, (f ∈ s.filters ∨ ∃ b ∈ s.backends, f ∈ b.filters) ∧ f.ReachesPortUnwrap ext) := by
  have backend (b : Proto.RouteBackend) (panics : (routeBackendTryFrom ext b).Panics) :
      ∃ f ∈ b.filters, f.ReachesPortUnwrap ext := by
    obtain ⟨f, member, reaches⟩ := (routeBackendTryFrom_panics_iff.mp panics).2.exists_mem
    exact ⟨f, member, routeFilterTryFrom_panics_iff.mp reaches⟩
  refine ⟨fun s => by simp [bindTryFrom], listenerTryFrom_panics, not_panics_routeMatchTryFrom,
    not_panics_backendTryFrom, not_panics_mcpTargetTryFrom, not_panics_policyTryFrom, backend,
    fun s panics => ?_⟩
  rcases (routeTryFrom_panics_iff.mp panics).2 with filter | ⟨-, backends⟩
  · obtain ⟨f, member, reaches⟩ := filter.exists_mem
    exact ⟨f, .inl member, routeFilterTryFrom_panics_iff.mp reaches⟩
  · obtain ⟨b, member, panics⟩ := backends.exists_mem
    obtain ⟨f, inner, reaches⟩ := backend b panics
    exact ⟨f, .inr ⟨b, member, inner⟩, reaches⟩

end Agentgateway
