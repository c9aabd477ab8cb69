import Agentgateway.Types.Fields

/-!
# Converting a route

A route converts its matches, filters, backends and traffic policy in that order and stops at the
first that fails.
-/

namespace Agentgateway

open Outcome

variable {ext : Externals}

theorem routeBackendTryFrom_filters {b : Proto.RouteBackend} {b' : RouteBackendReference}
    (h : routeBackendTryFrom ext b = ok b') :
    List.Forall₂ (fun f f' => routeFilterTryFrom ext f = ok f') b.filters b'.filters := by
  obtain ⟨_, -, filters, filters_ok, rfl⟩ := routeBackendTryFrom_eq_ok.mp h
  exact collect_eq_ok_iff.mp filters_ok

/-- What a converted route holds: each list is the element-wise conversion of the wire list, and
the other fields are copied, the rule name reading `""` as absent. -/
theorem routeTryFrom_eq_ok {s : Proto.Route} {r : Route} {listener : String} :
    routeTryFrom ext s = ok (r, listener) ↔
      List.Forall₂ (fun m m' => routeMatchTryFrom ext m = ok m') s.routeMatches r.routeMatches ∧
      List.Forall₂ (fun f f' => routeFilterTryFrom ext f = ok f') s.filters r.filters ∧
      List.Forall₂ (fun b b' => routeBackendTryFrom ext b = ok b') s.backends r.backends ∧
      mapTranspose (trafficPolicyTryFrom ext) s.trafficPolicy = ok r.policies ∧
      r.key = s.key ∧ r.routeName = s.routeName ∧ r.ruleName = defaultAsNone "" s.ruleName ∧
      r.hostnames = s.hostnames ∧ listener = s.listenerKey := by
  obtain ⟨key, routeName, ruleName, hostnames, routeMatches, filters, backends, policies⟩ := r
  simp only [routeTryFrom, bind_eq_ok, pure_eq, ok.injEq, Prod.mk.injEq, Route.mk.injEq,
    ← collect_eq_ok_iff]
  constructor
  · rintro ⟨_, hm, _, hf, _, hb, _, hp, ⟨rfl, rfl, rfl, rfl, rfl, rfl, rfl, rfl⟩, rfl⟩
    exact ⟨hm, hf, hb, hp, rfl, rfl, rfl, rfl, rfl⟩
  · rintro ⟨hm, hf, hb, hp, rfl, rfl, rfl, rfl, rfl⟩
    exact ⟨_, hm, _, hf, _, hb, _, hp, ⟨rfl, rfl, rfl, rfl, rfl, rfl, rfl, rfl⟩, rfl⟩

theorem exists_routeTryFrom_eq_ok {s : Proto.Route} :
    (∃ r, routeTryFrom ext s = ok r) ↔
      AllOk (routeMatchTryFrom ext) s.routeMatches ∧ AllOk (routeFilterTryFrom ext) s.filters ∧
      AllOk (routeBackendTryFrom ext) s.backends ∧
      ∀ tp, s.trafficPolicy = some tp → ∃ p, trafficPolicyTryFrom ext tp = ok p := by
  simp only [routeTryFrom, bind_eq_ok, pure_eq, ok.injEq, ← exists_collect_eq_ok_iff]
  constructor
  · rintro ⟨_, _, hm, _, hf, _, hb, _, hp, -⟩
    exact ⟨⟨_, hm⟩, ⟨_, hf⟩, ⟨_, hb⟩, exists_mapTranspose_eq_ok.mp ⟨_, hp⟩⟩
  · rintro ⟨⟨_, hm⟩, ⟨_, hf⟩, ⟨_, hb⟩, hp⟩
    obtain ⟨_, hp⟩ := exists_mapTranspose_eq_ok.mpr hp
    exact ⟨_, _, hm, _, hf, _, hb, _, hp, rfl⟩

theorem routeTryFrom_eq_err {s : Proto.Route} {e : ProtoError} :
    routeTryFrom ext s = err e ↔
      FirstFails (routeMatchTryFrom ext) s.routeMatches (· = err e) ∨
      AllOk (routeMatchTryFrom ext) s.routeMatches ∧
        (FirstFails (routeFilterTryFrom ext) s.filters (· = err e) ∨
         AllOk (routeFilterTryFrom ext) s.filters ∧
          (FirstFails (routeBackendTryFrom ext) s.backends (· = err e) ∨
           AllOk (routeBackendTryFrom ext) s.backends ∧
            ∃ tp, s.trafficPolicy = some tp ∧ trafficPolicyTryFrom ext tp = err e)) := by
  simp [routeTryFrom, bind_eq_err, collect_eq_err_iff, exists_and_right, exists_collect_eq_ok_iff,
    mapTranspose_eq_err]

/-- A route converts exactly when its parts do, into their element-wise conversions in the wire
order; a rejected route reports the first failing part, matches first and the policy last. -/
theorem routeTryFrom_converts_elementwise (ext : Externals) (s : Proto.Route) :
    ((∃ r, routeTryFrom ext s = ok r) ↔
      AllOk (routeMatchTryFrom ext) s.routeMatches ∧ AllOk (routeFilterTryFrom ext) s.filters ∧
      AllOk (routeBackendTryFrom ext) s.backends ∧
      ∀ tp, s.trafficPolicy = some tp → ∃ p, trafficPolicyTryFrom ext tp = ok p) ∧
    (∀ r listener, routeTryFrom ext s = ok (r, listener) →
      List.Forall₂ (fun m m' => routeMatchTryFrom ext m = ok m') s.routeMatches r.routeMatches ∧
      List.Forall₂ (fun f f' => routeFilterTryFrom ext f = ok f') s.filters r.filters ∧
      List.Forall₂ (fun b b' => routeBackendTryFrom ext b = ok b' ∧
          List.Forall₂ (fun f f' => routeFilterTryFrom ext f = ok f') b.filters b'.filters)
        s.backends r.backends ∧
      r.hostnames = s.hostnames ∧ listener = s.listenerKey) ∧
    (∀ e, routeTryFrom ext s = err e ↔
      FirstFails (routeMatchTryFrom ext) s.routeMatches (· = err e) ∨
      AllOk (routeMatchTryFrom ext) s.routeMatches ∧
        (FirstFails (routeFilterTryFrom ext) s.filters (· = err e) ∨
         AllOk (routeFilterTryFrom ext) s.filters ∧
          (FirstFails (routeBackendTryFrom ext) s.backends (· = err e) ∨
           AllOk (routeBackendTryFrom ext) s.backends ∧
            ∃ tp, s.trafficPolicy = some tp ∧ trafficPolicyTryFrom ext tp = err e))) := by
  refine ⟨exists_routeTryFrom_eq_ok, fun r listener h => ?_, fun e => routeTryFrom_eq_err⟩
  obtain ⟨hm, hf, hb, -, -, -, -, hostnames, listener⟩ := routeTryFrom_eq_ok.mp h
  exact ⟨hm, hf, hb.imp fun _ _ ok => ⟨ok, routeBackendTryFrom_filters ok⟩, hostnames, listener⟩

end Agentgateway
