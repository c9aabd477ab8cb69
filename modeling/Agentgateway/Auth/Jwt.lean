import Agentgateway.Outcome
import Agentgateway.Time
import Mathlib.Logic.Equiv.List

/-!
# `jsonwebtoken`, as the session manager calls it

The crate enters as a codec whose one law is that a token it made reads back as its claims;
`decode` checks `exp` against the clock in whole seconds.
-/

namespace Agentgateway.Auth

open Outcome

/-- HS256 tokens under one key: `encode(&Header::default(), &claims, &key)`, and the signature
check and deserialization that start `decode`, with the error text of a token they reject. -/
structure Jwt (Claims : Type) where
  /-- The token of the claims. -/
  encode : Claims → String
  /-- The claims of a token signed with the key, or why the token is rejected. -/
  verify : String → Except String Claims
  /-- A token made with the key reads back as its claims. -/
  verify_encode : ∀ claims, verify (encode claims) = .ok claims
  /-- The `exp` check, given `exp` and the current second, while that second is below the leeway:
  up to version 9.3 the crate's `u64` subtraction `now - leeway` overflows there, and later versions
  saturate it, so the model leaves it open. -/
  expCheckBeforeLeeway : BitVec 64 → Nat → Outcome String Unit

/-- `Validation`, with the fields `decode` reads for claims that carry an `exp` and no `nbf`. -/
structure Validation where
  /-- `leeway`, in seconds. -/
  leeway : Nat
  /-- `validate_exp`. -/
  validateExp : Bool
  deriving DecidableEq

/-- `Validation::new(Algorithm::HS256)`: `exp` is checked, with a minute of leeway. -/
def Validation.new : Validation := ⟨60, true⟩

/-- `get_current_timestamp`: the whole seconds since the epoch, panicking before it. -/
def getCurrentTimestamp {ε : Type} (now : SystemTime) : Outcome ε Nat :=
  match now.durationSince SystemTime.unixEpoch with
  | .ok d => ok (d.nanos / 1000000000)
  | .error _ => .panic "Time went backwards"

/-- The `exp` check of `validate`: `exp < now - leeway` is `ExpiredSignature`, and `early` is the
check while `now` is below the leeway. -/
def validate (early : BitVec 64 → Nat → Outcome String Unit) (exp : BitVec 64) (v : Validation)
    (now : SystemTime) : Outcome String Unit :=
  if v.validateExp then do
    let nowSecs ← getCurrentTimestamp now
    if nowSecs < v.leeway then early exp nowSecs
    else if exp.toNat < nowSecs - v.leeway then err "ExpiredSignature" else ok ()
  else ok ()

/-- `decode::<Claims>(token, &key, &validation)`, for claims whose `exp` is `exp`. -/
def decode {Claims : Type} (jwt : Jwt Claims) (exp : Claims → BitVec 64) (token : String)
    (v : Validation) (now : SystemTime) : Outcome String Claims := do
  let claims ← ofExcept (jwt.verify token)
  validate jwt.expCheckBeforeLeeway (exp claims) v now
  pure claims

theorem getCurrentTimestamp_of_le {ε : Type} {now : SystemTime} (after : SystemTime.unixEpoch ≤ now) :
    (getCurrentTimestamp now : Outcome ε Nat) = ok (now.nanos.toNat / 1000000000) := by
  obtain ⟨d, since, nanos⟩ := SystemTime.durationSince_of_le after
  simp only [getCurrentTimestamp, since, ok.injEq]
  simp at nanos
  omega

theorem getCurrentTimestamp_panics {ε : Type} {now : SystemTime} :
    (getCurrentTimestamp now : Outcome ε Nat).Panics ↔ now < SystemTime.unixEpoch := by
  by_cases after : SystemTime.unixEpoch ≤ now
  · simp only [getCurrentTimestamp_of_le after, not_panics_ok, false_iff, SystemTime.lt_iff]
    simp only [SystemTime.le_iff] at after
    omega
  · have before : now < SystemTime.unixEpoch := by simp at after ⊢; omega
    simp [getCurrentTimestamp, SystemTime.durationSince_of_lt before, before]

section Validate

variable {early : BitVec 64 → Nat → Outcome String Unit} {exp : BitVec 64} {v : Validation}
  {now : SystemTime}

/-- From the leeway on, the validation passes exactly when `exp` plus the leeway reaches the
current second, or `exp` is not checked. -/
theorem validate_eq_ok (pastLeeway : (v.leeway * 1000000000 : Int) ≤ now.nanos) :
    validate early exp v now = ok () ↔
      v.validateExp = false ∨ now.nanos.toNat / 1000000000 ≤ exp.toNat + v.leeway := by
  have after : SystemTime.unixEpoch ≤ now := SystemTime.le_iff.mpr (by simp; omega)
  have secs : v.leeway ≤ now.nanos.toNat / 1000000000 := by omega
  unfold validate
  cases v.validateExp <;> simp [getCurrentTimestamp_of_le after, Nat.not_lt.mpr secs]

theorem validate_of_lt (checks : v.validateExp = true) (before : now < SystemTime.unixEpoch) :
    validate early exp v now = .panic "Time went backwards" := by
  rw [validate, if_pos checks, getCurrentTimestamp, SystemTime.durationSince_of_lt before]
  rfl

theorem validate_of_expired (checks : v.validateExp = true) (after : SystemTime.unixEpoch ≤ now)
    (expired : exp.toNat + v.leeway < now.nanos.toNat / 1000000000) :
    validate early exp v now = err "ExpiredSignature" := by
  rw [validate, if_pos checks, getCurrentTimestamp_of_le after, ok_bind, if_neg (by omega),
    if_pos (by omega)]

/-- A check that passes read the clock after the epoch. -/
theorem validate_ok_after (checks : v.validateExp = true) (passes : validate early exp v now = ok ()) :
    SystemTime.unixEpoch ≤ now := by
  by_contra before
  rw [validate_of_lt checks (SystemTime.not_le.mp before)] at passes
  cases passes

end Validate

/-- A token that verifies decodes to its claims exactly when they pass the validation. -/
theorem decode_of_verify {Claims : Type} {jwt : Jwt Claims} {token : String} {claims : Claims}
    (verified : jwt.verify token = .ok claims) (exp : Claims → BitVec 64) (v : Validation)
    (now : SystemTime) :
    decode jwt exp token v now =
      (validate jwt.expCheckBeforeLeeway (exp claims) v now >>= fun _ => ok claims) := by
  rw [decode, verified, ofExcept_ok, ok_bind]
  rfl

theorem decode_of_verify_error {Claims : Type} {jwt : Jwt Claims} {token e : String}
    (rejected : jwt.verify token = .error e) (exp : Claims → BitVec 64) (v : Validation)
    (now : SystemTime) : decode jwt exp token v now = err e := by
  rw [decode, rejected, ofExcept_error, err_bind]

/-- A token made with the codec decodes to its claims exactly when they pass the validation. -/
theorem decode_encode {Claims : Type} (jwt : Jwt Claims) (exp : Claims → BitVec 64)
    (claims : Claims) (v : Validation) (now : SystemTime) :
    decode jwt exp (jwt.encode claims) v now =
      (validate jwt.expCheckBeforeLeeway (exp claims) v now >>= fun _ => ok claims) :=
  decode_of_verify (jwt.verify_encode claims) exp v now

/-! ## A codec to run the model on -/

instance encodableChar : Encodable Char :=
  Encodable.ofLeftInjection Char.toNat (fun n => some (Char.ofNat n)) fun c => by simp

instance encodableString : Encodable String :=
  Encodable.ofLeftInjection String.data (fun l => some ⟨l⟩) fun _ => rfl

instance encodableBitVec (n : Nat) : Encodable (BitVec n) :=
  Encodable.ofLeftInjection BitVec.toFin (fun f => some (BitVec.ofFin f)) fun _ => rfl

/-- A codec that keeps the law and nothing more: a token is a run of `x`s as long as the claims'
`Encodable` code, and before the leeway the check passes, as where the subtraction saturates. -/
def Jwt.unary (Claims : Type) [Encodable Claims] : Jwt Claims where
  encode claims := ⟨List.replicate (Encodable.encode claims) 'x'⟩
  verify token :=
    match (Encodable.decode token.length : Option Claims) with
    | some claims => .ok claims
    | none => .error "InvalidSignature"
  verify_encode claims := by simp [String.length, Encodable.encodek]
  expCheckBeforeLeeway _ _ := ok ()

end Agentgateway.Auth
