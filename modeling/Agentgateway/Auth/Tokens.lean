import Agentgateway.Auth.Session

/-!
# A session through its token

What `validate_session` reads back from a token `create_session` made, where it panics, and how
`refresh_session` moves a session's expiry. A token keeps whole seconds.
-/

namespace Agentgateway.Auth

open Outcome

namespace SessionManager

variable {config : SessionConfig} {jwt : Jwt SessionClaims} {m : SessionManager}

theorem eq_of_new (made : new config jwt = ok m) : m = ⟨config, jwt, ⟨60, true⟩⟩ :=
  (ok.inj made).symm

theorem secsSinceEpoch_of_le {t : SystemTime} (after : SystemTime.unixEpoch ≤ t) :
    secsSinceEpoch t = ok t.epochSecs := by
  obtain ⟨d, since, secs⟩ := SystemTime.durationSince_unixEpoch after
  rw [secsSinceEpoch, since, ofExcept_ok, mapErr_ok, ok_bind, secs]
  rfl

/-- A token that `create_session` makes verifies into the claims of its session. -/
theorem verify_of_createSession {s : UserSession} {now : SystemTime} {token : String}
    (made : m.createSession s now = ok token) :
    ∃ iat exp, m.jwt.verify token = .ok (.ofSession s iat exp) := by
  obtain ⟨iat, -, made⟩ := bind_eq_ok.mp made
  obtain ⟨exp, -, made⟩ := bind_eq_ok.mp made
  cases made
  exact ⟨iat, exp, m.jwt.verify_encode _⟩

/-- After the epoch, `create_session` signs the session's claims stamped with the current second
and the session's expiry second. -/
theorem createSession_of_le {s : UserSession} {now : SystemTime}
    (nowAfter : SystemTime.unixEpoch ≤ now) (expiresAfter : SystemTime.unixEpoch ≤ s.expiresAt) :
    m.createSession s now =
      ok (m.jwt.encode (.ofSession s now.epochSecs s.expiresAt.epochSecs)) := by
  rw [createSession, secsSinceEpoch_of_le nowAfter, ok_bind, secsSinceEpoch_of_le expiresAfter,
    ok_bind]
  rfl

/-! ## Validation, by the outcome of the `exp` check -/

/-- From a minute after the epoch, the manager's `exp` check passes exactly when `exp` plus the
minute of leeway reaches the current second. -/
theorem expCheck_eq_ok {early : BitVec 64 → Nat → Outcome String Unit} {exp : BitVec 64}
    {now : SystemTime} (pastLeeway : 60000000000 ≤ now.nanos) :
    validate early exp ⟨60, true⟩ now = ok () ↔ now.nanos.toNat / 1000000000 ≤ exp.toNat + 60 := by
  rw [@validate_eq_ok early exp ⟨60, true⟩ now pastLeeway]
  simp

section Verified

variable {token : String} {c : SessionClaims} {now : SystemTime}

/-- A token that verifies is validated by the `exp` check and then by the instants of its seconds. -/
theorem validateSession_of_verified (made : new config jwt = ok m)
    (verified : jwt.verify token = .ok c) :
    m.validateSession token now =
      ((validate jwt.expCheckBeforeLeeway c.exp ⟨60, true⟩ now).mapErr .jwtError >>= fun _ =>
        SystemTime.unixEpoch.add (Duration.fromSecs c.iat) >>= fun createdAt =>
          SystemTime.unixEpoch.add (Duration.fromSecs c.exp) >>= fun expiresAt =>
            if expiresAt ≤ now then err .sessionExpired
            else ok (.ofClaims c createdAt now expiresAt)) := by
  obtain rfl := eq_of_new made
  rw [validateSession, decode_of_verify verified]
  cases validate jwt.expCheckBeforeLeeway c.exp ⟨60, true⟩ now <;> rfl

theorem validateSession_of_valid (made : new config jwt = ok m) (verified : jwt.verify token = .ok c)
    (passes : validate jwt.expCheckBeforeLeeway c.exp ⟨60, true⟩ now = ok ()) :
    m.validateSession token now =
      (SystemTime.unixEpoch.add (Duration.fromSecs c.iat) >>= fun createdAt =>
        SystemTime.unixEpoch.add (Duration.fromSecs c.exp) >>= fun expiresAt =>
          if expiresAt ≤ now then err .sessionExpired
          else ok (.ofClaims c createdAt now expiresAt)) := by
  rw [validateSession_of_verified made verified, passes, mapErr_ok, ok_bind]

theorem validateSession_of_expired (made : new config jwt = ok m)
    (verified : jwt.verify token = .ok c) {e : String}
    (expired : validate jwt.expCheckBeforeLeeway c.exp ⟨60, true⟩ now = err e) :
    m.validateSession token now = err (.jwtError e) := by
  rw [validateSession_of_verified made verified, expired, mapErr_err, err_bind]

theorem validateSession_of_before (made : new config jwt = ok m)
    (verified : jwt.verify token = .ok c) (before : now < SystemTime.unixEpoch) :
    m.validateSession token now = .panic "Time went backwards" := by
  rw [validateSession_of_verified made verified, validate_of_lt rfl before, mapErr_panic,
    panic_bind]

/-- A token that does not verify is rejected with the codec's error. -/
theorem validateSession_of_rejected {e : String} (made : new config jwt = ok m)
    (rejected : jwt.verify token = .error e) :
    m.validateSession token now = err (.jwtError e) := by
  obtain rfl := eq_of_new made
  rw [validateSession, decode_of_verify_error rejected, mapErr_err, err_bind]

end Verified

/-- From a minute after the epoch, a token that verifies validates, before its expiry second, into
the session of its claims with the instants its seconds stand for. -/
theorem validateSession_of_live {token : String} {c : SessionClaims} {now : SystemTime}
    (made : new config jwt = ok m) (verified : jwt.verify token = .ok c)
    (pastLeeway : 60000000000 ≤ now.nanos)
    (createdAt : SystemTime) (created : createdAt.nanos = c.iat.toNat * 1000000000)
    (expiresAt : SystemTime) (expires : expiresAt.nanos = c.exp.toNat * 1000000000)
    (live : now < expiresAt) :
    m.validateSession token now = ok (.ofClaims c createdAt now expiresAt) := by
  have passes : validate jwt.expCheckBeforeLeeway c.exp ⟨60, true⟩ now = ok () := by
    rw [expCheck_eq_ok pastLeeway]
    simp only [SystemTime.lt_iff] at live
    omega
  rw [validateSession_of_valid made verified passes,
    SystemTime.unixEpoch_add_fromSecs_eq_ok.mpr created, ok_bind,
    SystemTime.unixEpoch_add_fromSecs_eq_ok.mpr expires, ok_bind,
    if_neg (SystemTime.not_le.mpr live)]

theorem validateSession_encode {c : SessionClaims} {now : SystemTime}
    (made : new config jwt = ok m) (pastLeeway : 60000000000 ≤ now.nanos)
    (createdAt : SystemTime) (created : createdAt.nanos = c.iat.toNat * 1000000000)
    (expiresAt : SystemTime) (expires : expiresAt.nanos = c.exp.toNat * 1000000000)
    (live : now < expiresAt) :
    m.validateSession (jwt.encode c) now = ok (.ofClaims c createdAt now expiresAt) :=
  validateSession_of_live made (jwt.verify_encode c) pastLeeway createdAt created expiresAt expires
    live

/-- `validate_session` accepts a token exactly when it verifies, its claims pass the `exp` check,
both their seconds stand for instants and the expiry is still ahead; the session is then the
claims' with those instants, last accessed now. -/
theorem validateSession_eq_ok (made : new config jwt = ok m) {token : String} {now : SystemTime}
    {s : UserSession} :
    m.validateSession token now = ok s ↔
      ∃ (c : SessionClaims) (createdAt expiresAt : SystemTime),
        jwt.verify token = .ok c ∧ validate jwt.expCheckBeforeLeeway c.exp ⟨60, true⟩ now = ok () ∧
        createdAt.nanos = c.iat.toNat * 1000000000 ∧ expiresAt.nanos = c.exp.toNat * 1000000000 ∧
        now < expiresAt ∧ s = .ofClaims c createdAt now expiresAt := by
  constructor
  · intro valid
    cases verified : jwt.verify token with
    | error e => rw [validateSession_of_rejected made verified] at valid; cases valid
    | ok c =>
        rw [validateSession_of_verified made verified] at valid
        obtain ⟨_, passes, valid⟩ := bind_eq_ok.mp valid
        obtain ⟨createdAt, createdAdd, valid⟩ := bind_eq_ok.mp valid
        obtain ⟨expiresAt, expiresAdd, valid⟩ := bind_eq_ok.mp valid
        split_ifs at valid with expired
        obtain rfl := ok.inj valid
        exact ⟨c, createdAt, expiresAt, rfl, mapErr_eq_ok.mp passes,
          SystemTime.unixEpoch_add_fromSecs_eq_ok.mp createdAdd,
          SystemTime.unixEpoch_add_fromSecs_eq_ok.mp expiresAdd, SystemTime.not_le.mp expired, rfl⟩
  · rintro ⟨c, createdAt, expiresAt, verified, passes, created, expires, live, rfl⟩
    rw [validateSession_of_valid made verified passes,
      SystemTime.unixEpoch_add_fromSecs_eq_ok.mpr created, ok_bind,
      SystemTime.unixEpoch_add_fromSecs_eq_ok.mpr expires, ok_bind,
      if_neg (SystemTime.not_le.mpr live)]

/-- A session validated at `now` was validated after the epoch, expires after `now`, and was last
accessed at `now`. -/
theorem validateSession_ok_facts (made : new config jwt = ok m) {token : String}
    {now : SystemTime} {s : UserSession} (valid : m.validateSession token now = ok s) :
    SystemTime.unixEpoch ≤ now ∧ now < s.expiresAt ∧ s.lastAccessed = now := by
  obtain ⟨_, _, _, -, passes, -, -, live, rfl⟩ := (validateSession_eq_ok made).mp valid
  exact ⟨validate_ok_after rfl passes, live, rfl⟩

/-- A token that passes the `exp` check with an `iat` of `2^63` seconds or more makes validation
panic when it adds `iat` seconds to the epoch. -/
theorem validateSession_of_iat_overflow {token : String} {c : SessionClaims} {now : SystemTime}
    (made : new config jwt = ok m) (verified : jwt.verify token = .ok c)
    (passes : validate jwt.expCheckBeforeLeeway c.exp ⟨60, true⟩ now = ok ())
    (big : 2 ^ 63 ≤ c.iat.toNat) :
    m.validateSession token now = .panic "overflow when adding duration to instant" := by
  rw [validateSession_of_valid made verified passes, SystemTime.unixEpoch_add_fromSecs_of_le big,
    panic_bind]

/-- Before the epoch, or from a minute after it, validation panics exactly on a token that
verifies, when the clock is before the epoch, or when the claims pass the `exp` check with an
`iat` or an `exp` of `2^63` seconds or more. -/
theorem validateSession_panics_iff (made : new config jwt = ok m) (token : String)
    (now : SystemTime) (clock : now < SystemTime.unixEpoch ∨ 60000000000 ≤ now.nanos) :
    (m.validateSession token now).Panics ↔
      ∃ c, jwt.verify token = .ok c ∧
        (now < SystemTime.unixEpoch ∨
          (now.nanos.toNat / 1000000000 ≤ c.exp.toNat + 60 ∧
            (2 ^ 63 ≤ c.iat.toNat ∨ 2 ^ 63 ≤ c.exp.toNat))) := by
  cases verified : jwt.verify token with
  | error e => simp [validateSession_of_rejected made verified]
  | ok c =>
      simp only [Except.ok.injEq, exists_eq_left']
      rcases clock with before | pastLeeway
      · simp [validateSession_of_before made verified before, before]
      have after : SystemTime.unixEpoch ≤ now := SystemTime.le_iff.mpr (by simp; omega)
      have notBefore : ¬ now < SystemTime.unixEpoch := SystemTime.not_lt.mpr after
      by_cases fresh : now.nanos.toNat / 1000000000 ≤ c.exp.toNat + 60
      · have passes : validate jwt.expCheckBeforeLeeway c.exp ⟨60, true⟩ now = ok () :=
          (expCheck_eq_ok pastLeeway).mpr fresh
        simp only [notBefore, fresh, true_and, false_or]
        by_cases iatBig : 2 ^ 63 ≤ c.iat.toNat
        · simp only [validateSession_of_iat_overflow made verified passes iatBig, panics_panic,
            true_iff]
          exact .inl iatBig
        obtain ⟨createdAt, createdAdd, -⟩ : ∃ u, (SystemTime.unixEpoch.add (Duration.fromSecs c.iat) :
            Outcome AuthError SystemTime) = .ok u ∧ u.nanos = c.iat.toNat * 1000000000 :=
          SystemTime.unixEpoch_add_fromSecs_of_lt (by omega)
        rw [validateSession_of_valid made verified passes, createdAdd, ok_bind]
        by_cases expBig : 2 ^ 63 ≤ c.exp.toNat
        · simp only [SystemTime.unixEpoch_add_fromSecs_of_le expBig, panic_bind, panics_panic,
            true_iff]
          exact .inr expBig
        obtain ⟨expiresAt, expiresAdd, -⟩ : ∃ u, (SystemTime.unixEpoch.add (Duration.fromSecs c.exp) :
            Outcome AuthError SystemTime) = .ok u ∧ u.nanos = c.exp.toNat * 1000000000 :=
          SystemTime.unixEpoch_add_fromSecs_of_lt (by omega)
        rw [expiresAdd, ok_bind]
        split <;> simp only [not_panics_err, not_panics_ok, false_iff, not_or] <;> omega
      · have expired : validate jwt.expCheckBeforeLeeway c.exp ⟨60, true⟩ now = err "ExpiredSignature" :=
          validate_of_expired rfl after (show c.exp.toNat + 60 < _ by omega)
        simp [validateSession_of_expired made verified expired, notBefore, fresh]

theorem validateSession_panics_iff_big_iat :
    ((⟨.default, Jwt.unary SessionClaims, ⟨60, true⟩⟩ : SessionManager).validateSession
        ((Jwt.unary SessionClaims).encode (.ofSession (.admin SystemTime.unixEpoch "") 9223372036854775808 3600)) ⟨100000000000, by omega, by omega⟩).Panics ↔
      ∃ c, (Jwt.unary SessionClaims).verify ((Jwt.unary SessionClaims).encode (.ofSession (.admin SystemTime.unixEpoch "") 9223372036854775808 3600)) =
          .ok c ∧
        ((⟨100000000000, by omega, by omega⟩ : SystemTime) < SystemTime.unixEpoch ∨
          ((100000000000 : Int).toNat / 1000000000 ≤ c.exp.toNat + 60 ∧
            (2 ^ 63 ≤ c.iat.toNat ∨ 2 ^ 63 ≤ c.exp.toNat))) :=
  validateSession_panics_iff rfl _ _ (.inr (by decide))

/-- A token that `create_session` made at `t0` validates, from a minute after the epoch up to the
session's expiry second, into the same session but for its instants: created at `t0`'s second,
expiring at its own expiry second, last accessed at the validation. -/
theorem validateSession_createSession (config : SessionConfig) (jwt : Jwt SessionClaims)
    (m : SessionManager) (made : new config jwt = ok m) (s : UserSession) (t0 t : SystemTime)
    (t0After : SystemTime.unixEpoch < t0) (expiresAfter : SystemTime.unixEpoch < s.expiresAt)
    (pastLeeway : 60000000000 ≤ t.nanos)
    (beforeExpiry : t.nanos < s.expiresAt.nanos / 1000000000 * 1000000000) :
    ∃ token session, m.createSession s t0 = ok token ∧ m.validateSession token t = ok session ∧
      { session with createdAt := s.createdAt, lastAccessed := s.lastAccessed
                     expiresAt := s.expiresAt } = s ∧
      session.createdAt.nanos = t0.nanos / 1000000000 * 1000000000 ∧
      session.expiresAt.nanos = s.expiresAt.nanos / 1000000000 * 1000000000 ∧
      session.lastAccessed = t := by
  have t0Le := SystemTime.le_of_lt t0After
  have expiresLe := SystemTime.le_of_lt expiresAfter
  rw [SystemTime.lt_iff, SystemTime.unixEpoch_nanos] at t0After expiresAfter
  have := t0.upper
  have := s.expiresAt.upper
  have t0Secs := SystemTime.toNat_epochSecs t0
  have expiresSecs := SystemTime.toNat_epochSecs s.expiresAt
  obtain ⟨createdAt, -, created⟩ : ∃ u, (SystemTime.unixEpoch.add (Duration.fromSecs t0.epochSecs) :
      Outcome AuthError SystemTime) = .ok u ∧ u.nanos = t0.epochSecs.toNat * 1000000000 :=
    SystemTime.unixEpoch_add_fromSecs_of_lt (by omega)
  obtain ⟨expiresAt, -, expires⟩ : ∃ u, (SystemTime.unixEpoch.add
      (Duration.fromSecs s.expiresAt.epochSecs) : Outcome AuthError SystemTime) = .ok u ∧
      u.nanos = s.expiresAt.epochSecs.toNat * 1000000000 :=
    SystemTime.unixEpoch_add_fromSecs_of_lt (by omega)
  have live : t < expiresAt := by simp only [SystemTime.lt_iff]; omega
  obtain rfl := eq_of_new made
  have validated : validateSession ⟨config, jwt, ⟨60, true⟩⟩
      (jwt.encode (.ofSession s t0.epochSecs s.expiresAt.epochSecs)) t =
      ok (.ofClaims (.ofSession s t0.epochSecs s.expiresAt.epochSecs) createdAt t expiresAt) := by
    refine validateSession_encode made pastLeeway createdAt ?_ expiresAt ?_ ?_
    exacts [created, expires, live]
  refine ⟨_, _, createSession_of_le t0Le expiresLe, validated, rfl, ?_, ?_, rfl⟩
  · show createdAt.nanos = _
    omega
  · show expiresAt.nanos = _
    omega

/-- A session created at the epoch and signed a hundred seconds later reads back as created a
hundred seconds after the epoch. -/
theorem validateSession_createdAt_is_signing_time :
    ∃ m token session,
      SessionManager.new .default (Jwt.unary SessionClaims) = ok m ∧
      m.createSession (.admin ⟨3600000000000, by omega, by omega⟩ "")
        ⟨100000000000, by omega, by omega⟩ = ok token ∧
      m.validateSession token ⟨100000000000, by omega, by omega⟩ = ok session ∧
      session.createdAt.nanos = 100000000000 := by
  refine ⟨_, _, _, rfl, createSession_of_le (by decide) (by decide),
    validateSession_encode rfl (by decide) ⟨100000000000, by omega, by omega⟩ (by decide)
      ⟨3600000000000, by omega, by omega⟩ (by decide) (by decide), rfl⟩

theorem validateSession_createSession_admin :
    ∃ token session,
      (⟨.default, Jwt.unary SessionClaims, ⟨60, true⟩⟩ : SessionManager).createSession
          (.admin ⟨3600500000000, by omega, by omega⟩ "") ⟨100000000000, by omega, by omega⟩ =
        ok token ∧
      (⟨.default, Jwt.unary SessionClaims, ⟨60, true⟩⟩ : SessionManager).validateSession token
          ⟨200000000000, by omega, by omega⟩ = ok session ∧
      { session with createdAt := SystemTime.unixEpoch, lastAccessed := SystemTime.unixEpoch
                     expiresAt := ⟨3600500000000, by omega, by omega⟩ } =
        .admin ⟨3600500000000, by omega, by omega⟩ "" ∧
      session.createdAt.nanos = 100000000000 / 1000000000 * 1000000000 ∧
      session.expiresAt.nanos = 3600500000000 / 1000000000 * 1000000000 ∧
      session.lastAccessed = ⟨200000000000, by omega, by omega⟩ :=
  validateSession_createSession .default (Jwt.unary SessionClaims) _ rfl
    (.admin ⟨3600500000000, by omega, by omega⟩ "") ⟨100000000000, by omega, by omega⟩
    ⟨200000000000, by omega, by omega⟩ (by decide) (by decide) (by decide) (by decide)

/-- A token signed with the default secret whose `iat` is `2^63` and whose `exp` is an hour,
validated a hundred seconds after the epoch, passes the `exp` check and makes
`UNIX_EPOCH + Duration::from_secs(iat)` overflow. -/
theorem validateSession_iat_two_pow_63_panics :
    (SessionManager.new .default (Jwt.unary SessionClaims) >>= fun m =>
      m.validateSession ((Jwt.unary SessionClaims).encode
        { sub := "session", iat := 9223372036854775808#64, exp := 3600#64, userId := "admin"
          username := "admin", email := none, roles := ["admin"], authMethod := .traditional
          csrfToken := "", metadata := [] })
        ⟨100000000000, by omega, by omega⟩) =
      .panic "overflow when adding duration to instant" := by
  rw [show SessionManager.new .default (Jwt.unary SessionClaims) = ok ⟨_, _, ⟨60, true⟩⟩ from rfl,
    ok_bind]
  exact validateSession_of_iat_overflow rfl ((Jwt.unary _).verify_encode _)
    ((expCheck_eq_ok (by decide)).mpr (by decide)) (by decide)

/-! ## Refreshing -/

/-- What `refresh_session` can return: the session unchanged, with no token, while it is further
from its expiry than the threshold; otherwise the session moved to expire `max_age` after `now`,
with the fresh CSRF token, and the token made of it. -/
theorem refreshSession_cases {s s' : UserSession} {now : SystemTime} {fresh : CsrfToken}
    {token : String} (refreshed : m.refreshSession s now fresh = ok (s', token)) :
    now ≤ s.expiresAt ∧
      ((m.config.refreshThreshold.nanos < s.expiresAt.nanos - now.nanos ∧ s' = s ∧ token = "") ∨
        (s.expiresAt.nanos - now.nanos ≤ m.config.refreshThreshold.nanos ∧
          s'.expiresAt.nanos = now.nanos + m.config.maxAge.nanos ∧
          s' = { s with lastAccessed := now, expiresAt := s'.expiresAt, csrfToken := fresh.value } ∧
          m.createSession s' now = ok token)) := by
  by_cases le : now ≤ s.expiresAt
  · obtain ⟨d, since, nanos⟩ := SystemTime.durationSince_of_le le
    rw [refreshSession, since, ofExcept_ok, mapErr_ok, ok_bind] at refreshed
    refine ⟨le, ?_⟩
    split_ifs at refreshed with far
    · obtain ⟨rfl, rfl⟩ := Prod.mk.inj (ok.inj refreshed)
      simp only [Duration.lt_iff] at far
      exact .inl ⟨by omega, rfl, rfl⟩
    · simp only [bind_eq_ok, pure_eq, ok.injEq, Prod.mk.injEq] at refreshed
      obtain ⟨expiresAt, added, _, created, rfl, rfl⟩ := refreshed
      simp only [Duration.lt_iff, not_lt] at far
      exact .inr ⟨by omega, (SystemTime.add_eq_ok.mp added).2, rfl, created⟩
  · rw [refreshSession, SystemTime.durationSince_of_lt (SystemTime.not_le.mp le)] at refreshed
    simp at refreshed

/-- Inside the refresh window, `refresh_session` moves the session to expire `max_age` after `now`
with the fresh CSRF token, and signs it. -/
theorem refreshSession_of_near {s : UserSession} {now : SystemTime} {fresh : CsrfToken}
    (after : SystemTime.unixEpoch ≤ now) (le : now ≤ s.expiresAt)
    (near : s.expiresAt.nanos - now.nanos ≤ m.config.refreshThreshold.nanos)
    (expiresAt : SystemTime) (expires : expiresAt.nanos = now.nanos + m.config.maxAge.nanos) :
    m.refreshSession s now fresh =
      ok ({ s with lastAccessed := now, expiresAt, csrfToken := fresh.value },
        m.jwt.encode (.ofSession { s with lastAccessed := now, expiresAt, csrfToken := fresh.value }
          now.epochSecs expiresAt.epochSecs)) := by
  obtain ⟨d, since, nanos⟩ := SystemTime.durationSince_of_le le
  have notFar : ¬ m.config.refreshThreshold < d := by
    simp only [Duration.lt_iff, not_lt]
    omega
  have expiresAfter : SystemTime.unixEpoch ≤ expiresAt := by
    simp only [SystemTime.le_iff, SystemTime.unixEpoch_nanos] at after ⊢
    omega
  rw [refreshSession, since, ofExcept_ok, mapErr_ok, ok_bind, if_neg notFar,
    SystemTime.add_eq_ok.mpr ⟨by rw [← expires]; exact expiresAt.upper, expires⟩, ok_bind]
  dsimp only
  rw [createSession_of_le after (show SystemTime.unixEpoch ≤
    ({ s with lastAccessed := now, expiresAt, csrfToken := fresh.value } : UserSession).expiresAt
    from expiresAfter), ok_bind]
  rfl

/-- Further from its expiry than the threshold, a session is kept as it is, with no new token. -/
theorem refreshSession_of_far {s : UserSession} {now : SystemTime} {fresh : CsrfToken}
    (le : now ≤ s.expiresAt)
    (far : m.config.refreshThreshold.nanos < s.expiresAt.nanos - now.nanos) :
    m.refreshSession s now fresh = ok (s, "") := by
  obtain ⟨d, since, nanos⟩ := SystemTime.durationSince_of_le le
  have isFar : m.config.refreshThreshold < d := by
    simp only [Duration.lt_iff]
    omega
  rw [refreshSession, since, ofExcept_ok, mapErr_ok, ok_bind, if_pos isFar]
  rfl

/-- Inside the refresh window, `refresh_session` panics when `now + max_age` is past the last
instant. -/
theorem refreshSession_of_near_overflow {s : UserSession} {now : SystemTime} {fresh : CsrfToken}
    (le : now ≤ s.expiresAt)
    (near : s.expiresAt.nanos - now.nanos ≤ m.config.refreshThreshold.nanos)
    (overflows : 2 ^ 63 * 1000000000 ≤ now.nanos + m.config.maxAge.nanos) :
    m.refreshSession s now fresh = .panic "overflow when adding duration to instant" := by
  obtain ⟨d, since, nanos⟩ := SystemTime.durationSince_of_le le
  have notFar : ¬ m.config.refreshThreshold < d := by
    simp only [Duration.lt_iff, not_lt]
    omega
  rw [refreshSession, since, ofExcept_ok, mapErr_ok, ok_bind, if_neg notFar,
    SystemTime.add_of_not_lt (by omega), panic_bind]

/-- Refreshing a session shortens it by at most the time by which `refresh_threshold` exceeds
`max_age`; with `max_age` at least `refresh_threshold`, as in the default configuration, it never
shortens it. -/
theorem refreshSession_shortens_by_at_most (m : SessionManager) (s : UserSession)
    (now : SystemTime) (fresh : CsrfToken) (s' : UserSession) (token : String)
    (beforeExpiry : now ≤ s.expiresAt) (refreshed : m.refreshSession s now fresh = ok (s', token)) :
    s.expiresAt.nanos ≤
        s'.expiresAt.nanos + (m.config.refreshThreshold.nanos - m.config.maxAge.nanos : Nat) ∧
      (m.config.refreshThreshold ≤ m.config.maxAge → s.expiresAt ≤ s'.expiresAt) := by
  rcases (refreshSession_cases refreshed).2 with ⟨-, rfl, -⟩ | ⟨near, expires, -, -⟩
  · exact ⟨by omega, fun _ => by simp⟩
  · refine ⟨by omega, fun longer => ?_⟩
    simp only [Duration.le_iff, SystemTime.le_iff] at longer ⊢
    omega

theorem refreshSession_default_in_window :
    (UserSession.admin ⟨1000000000000, by omega, by omega⟩ "").expiresAt.nanos ≤
        ({ UserSession.admin ⟨1000000000000, by omega, by omega⟩ "" with
            lastAccessed := ⟨100000000000, by omega, by omega⟩
            expiresAt := ⟨28900000000000, by omega, by omega⟩
            csrfToken := CsrfToken.sample.value } : UserSession).expiresAt.nanos +
          (SessionConfig.default.refreshThreshold.nanos - SessionConfig.default.maxAge.nanos : Nat) ∧
      (SessionConfig.default.refreshThreshold ≤ SessionConfig.default.maxAge →
        (UserSession.admin ⟨1000000000000, by omega, by omega⟩ "").expiresAt ≤
          ({ UserSession.admin ⟨1000000000000, by omega, by omega⟩ "" with
              lastAccessed := ⟨100000000000, by omega, by omega⟩
              expiresAt := ⟨28900000000000, by omega, by omega⟩
              csrfToken := CsrfToken.sample.value } : UserSession).expiresAt) :=
  refreshSession_shortens_by_at_most ⟨.default, Jwt.unary SessionClaims, ⟨60, true⟩⟩ _
    ⟨100000000000, by omega, by omega⟩ .sample _ _ (by decide)
    (refreshSession_of_near (by decide) (by decide) (by decide)
      ⟨28900000000000, by omega, by omega⟩ (by decide))

/-- With a one-minute `max_age` and the default thirty-minute threshold, a session with fifteen
minutes left is refreshed into one that expires a minute from now. -/
theorem refreshSession_shortens_short_maxAge :
    ∃ s' token,
      (⟨{ SessionConfig.default with maxAge := Duration.fromSecs 60 }, Jwt.unary SessionClaims,
          ⟨60, true⟩⟩ : SessionManager).refreshSession (.admin ⟨1000000000000, by omega, by omega⟩ "")
        ⟨100000000000, by omega, by omega⟩ .sample = ok (s', token) ∧
      s'.expiresAt.nanos < 1000000000000 :=
  ⟨_, _, refreshSession_of_near (by decide) (by decide) (by decide)
    ⟨160000000000, by omega, by omega⟩ (by decide), by decide⟩

end SessionManager

end Agentgateway.Auth
