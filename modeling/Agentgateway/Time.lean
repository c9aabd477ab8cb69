import Agentgateway.Primitive

/-!
# Durations and system time

`std::time::Duration` and `SystemTime` as counts of nanoseconds within the bounds of their Rust
representations. Adding past the last instant panics.
-/

namespace Agentgateway

/-- `std::time::Duration`, in nanoseconds. -/
structure Duration where
  /-- The length in nanoseconds. -/
  nanos : Nat
  /-- The whole seconds fit a `u64`. -/
  nanos_lt : nanos < 2 ^ 64 * 1000000000
  deriving DecidableEq

namespace Duration

/-- `Duration::from_secs`. -/
def fromSecs (secs : BitVec 64) : Duration :=
  ⟨secs.toNat * 1000000000, by have := secs.isLt; omega⟩

/-- `Duration::as_secs`: the whole seconds, dropping the nanosecond part. -/
def asSecs (d : Duration) : BitVec 64 := BitVec.ofNat 64 (d.nanos / 1000000000)

instance : LE Duration := ⟨fun a b => a.nanos ≤ b.nanos⟩

instance : LT Duration := ⟨fun a b => a.nanos < b.nanos⟩

instance (a b : Duration) : Decidable (a ≤ b) := inferInstanceAs (Decidable (a.nanos ≤ b.nanos))

instance (a b : Duration) : Decidable (a < b) := inferInstanceAs (Decidable (a.nanos < b.nanos))

@[simp] theorem le_iff {a b : Duration} : a ≤ b ↔ a.nanos ≤ b.nanos := Iff.rfl

@[simp] theorem lt_iff {a b : Duration} : a < b ↔ a.nanos < b.nanos := Iff.rfl

@[simp] theorem fromSecs_nanos (secs : BitVec 64) :
    (fromSecs secs).nanos = secs.toNat * 1000000000 := rfl

@[simp] theorem toNat_asSecs (d : Duration) : d.asSecs.toNat = d.nanos / 1000000000 := by
  have := d.nanos_lt
  simp only [asSecs, BitVec.toNat_ofNat]
  omega

end Duration

/-- `std::time::SystemTime` on Unix, in nanoseconds from `UNIX_EPOCH`. -/
structure SystemTime where
  /-- Nanoseconds since `UNIX_EPOCH`, negative before it. -/
  nanos : Int
  /-- The seconds of the `timespec` fit an `i64` from below. -/
  lower : -(2 ^ 63 * 1000000000 : Int) ≤ nanos
  /-- The seconds of the `timespec` fit an `i64` from above. -/
  upper : nanos < 2 ^ 63 * 1000000000
  deriving DecidableEq

namespace SystemTime

/-- `SystemTime::UNIX_EPOCH`. -/
def unixEpoch : SystemTime := ⟨0, by omega, by omega⟩

instance : LE SystemTime := ⟨fun a b => a.nanos ≤ b.nanos⟩

instance : LT SystemTime := ⟨fun a b => a.nanos < b.nanos⟩

instance (a b : SystemTime) : Decidable (a ≤ b) :=
  inferInstanceAs (Decidable (a.nanos ≤ b.nanos))

instance (a b : SystemTime) : Decidable (a < b) :=
  inferInstanceAs (Decidable (a.nanos < b.nanos))

@[simp] theorem le_iff {a b : SystemTime} : a ≤ b ↔ a.nanos ≤ b.nanos := Iff.rfl

@[simp] theorem lt_iff {a b : SystemTime} : a < b ↔ a.nanos < b.nanos := Iff.rfl

theorem not_le {a b : SystemTime} : ¬ a ≤ b ↔ b < a := Int.not_le

theorem not_lt {a b : SystemTime} : ¬ a < b ↔ b ≤ a := Int.not_lt

theorem le_of_lt {a b : SystemTime} (h : a < b) : a ≤ b := Int.le_of_lt h

@[simp] theorem unixEpoch_nanos : unixEpoch.nanos = 0 := rfl

/-- `SystemTime::checked_add`: `none` past the last instant a `timespec` holds. -/
def checkedAdd (t : SystemTime) (d : Duration) : Option SystemTime :=
  if h : t.nanos + d.nanos < 2 ^ 63 * 1000000000 then
    some ⟨t.nanos + d.nanos, by have := t.lower; omega, h⟩
  else none

/-- `t + d`, which panics where `checked_add` has no instant. -/
def add {ε : Type} (t : SystemTime) (d : Duration) : Outcome ε SystemTime :=
  match t.checkedAdd d with
  | some u => .ok u
  | none => .panic "overflow when adding duration to instant"

theorem add_eq_ok {ε : Type} {t u : SystemTime} {d : Duration} :
    (t.add d : Outcome ε SystemTime) = .ok u ↔
      t.nanos + d.nanos < 2 ^ 63 * 1000000000 ∧ u.nanos = t.nanos + d.nanos := by
  unfold add checkedAdd
  split_ifs with h
  · refine ⟨fun added => ⟨h, by cases added; rfl⟩, fun ⟨_, hu⟩ => ?_⟩
    obtain ⟨un, _, _⟩ := u
    simp only at hu
    subst hu
    rfl
  · exact iff_of_false id fun ⟨fits, _⟩ => h fits

theorem add_panics {ε : Type} {t : SystemTime} {d : Duration} :
    (t.add d : Outcome ε SystemTime).Panics ↔ 2 ^ 63 * 1000000000 ≤ t.nanos + d.nanos := by
  unfold add checkedAdd
  split_ifs with h
  · simp only [Outcome.not_panics_ok, false_iff, Int.not_le]
    exact h
  · simp only [Outcome.panics_panic, true_iff]
    omega

/-- `t + d` returns the sum when it is below the last instant. -/
theorem add_of_lt {ε : Type} {t : SystemTime} {d : Duration}
    (fits : t.nanos + d.nanos < 2 ^ 63 * 1000000000) :
    (t.add d : Outcome ε SystemTime) = .ok ⟨t.nanos + d.nanos, by have := t.lower; omega, fits⟩ :=
  add_eq_ok.mpr ⟨fits, rfl⟩

/-- `t + d` panics when the sum is not below the last instant. -/
theorem add_of_not_lt {ε : Type} {t : SystemTime} {d : Duration}
    (overflows : ¬ t.nanos + d.nanos < 2 ^ 63 * 1000000000) :
    (t.add d : Outcome ε SystemTime) = .panic "overflow when adding duration to instant" := by
  unfold add checkedAdd
  rw [dif_neg overflows]

/-- `UNIX_EPOCH + Duration::from_secs(secs)` is the instant `secs` seconds after the epoch. -/
theorem unixEpoch_add_fromSecs_eq_ok {ε : Type} {secs : BitVec 64} {u : SystemTime} :
    (unixEpoch.add (Duration.fromSecs secs) : Outcome ε SystemTime) = .ok u ↔
      u.nanos = secs.toNat * 1000000000 := by
  rw [add_eq_ok]
  have := u.upper
  simp only [unixEpoch_nanos, Duration.fromSecs_nanos, Int.zero_add]
  omega

/-- `UNIX_EPOCH + Duration::from_secs(secs)` panics from `2^63` seconds on. -/
theorem unixEpoch_add_fromSecs_panics {ε : Type} {secs : BitVec 64} :
    (unixEpoch.add (Duration.fromSecs secs) : Outcome ε SystemTime).Panics ↔ 2 ^ 63 ≤ secs.toNat := by
  rw [add_panics]
  simp only [unixEpoch_nanos, Duration.fromSecs_nanos, Int.zero_add]
  omega

theorem unixEpoch_add_fromSecs_of_lt {ε : Type} {secs : BitVec 64} (fits : secs.toNat < 2 ^ 63) :
    ∃ u, (unixEpoch.add (Duration.fromSecs secs) : Outcome ε SystemTime) = .ok u ∧
      u.nanos = secs.toNat * 1000000000 :=
  ⟨_, add_of_lt (by simp; omega), by simp⟩

theorem unixEpoch_add_fromSecs_of_le {ε : Type} {secs : BitVec 64} (big : 2 ^ 63 ≤ secs.toNat) :
    (unixEpoch.add (Duration.fromSecs secs) : Outcome ε SystemTime) =
      .panic "overflow when adding duration to instant" :=
  add_of_not_lt (by simp only [unixEpoch_nanos, Duration.fromSecs_nanos, Int.zero_add]; omega)

/-- The whole seconds from the epoch to an instant after it, as `as_secs` counts them. -/
def epochSecs (t : SystemTime) : BitVec 64 := BitVec.ofNat 64 (t.nanos.toNat / 1000000000)

@[simp] theorem toNat_epochSecs (t : SystemTime) :
    t.epochSecs.toNat = t.nanos.toNat / 1000000000 := by
  have := t.upper
  simp only [epochSecs, BitVec.toNat_ofNat]
  omega

/-- `t.duration_since(earlier)`: an error when `earlier` is later than `t`. -/
def durationSince (t earlier : SystemTime) : Except String Duration :=
  if h : earlier.nanos ≤ t.nanos then
    .ok ⟨(t.nanos - earlier.nanos).toNat, by
      have := t.upper
      have := earlier.lower
      omega⟩
  else .error "second time provided was later than self"

theorem durationSince_eq_ok {t earlier : SystemTime} {d : Duration} :
    t.durationSince earlier = .ok d ↔
      earlier.nanos ≤ t.nanos ∧ (d.nanos : Int) = t.nanos - earlier.nanos := by
  unfold durationSince
  split_ifs with h
  · constructor
    · rintro ⟨⟩
      exact ⟨h, by simp; omega⟩
    · rintro ⟨-, hd⟩
      obtain ⟨dn, _⟩ := d
      simp only at hd
      simp only [Except.ok.injEq, Duration.mk.injEq]
      omega
  · simp [h]

theorem durationSince_of_le {t earlier : SystemTime} (h : earlier ≤ t) :
    ∃ d : Duration, t.durationSince earlier = .ok d ∧ (d.nanos : Int) = t.nanos - earlier.nanos := by
  rw [le_iff] at h
  exact ⟨_, dif_pos h, by simp only; omega⟩

/-- The duration from the epoch to an instant after it has that instant's whole seconds. -/
theorem durationSince_unixEpoch {t : SystemTime} (after : unixEpoch ≤ t) :
    ∃ d : Duration, t.durationSince unixEpoch = .ok d ∧ d.asSecs = t.epochSecs := by
  obtain ⟨d, since, nanos⟩ := durationSince_of_le after
  refine ⟨d, since, ?_⟩
  simp only [unixEpoch_nanos, Int.sub_zero] at nanos
  simp only [Duration.asSecs, epochSecs]
  congr 1
  omega

theorem durationSince_of_lt {t earlier : SystemTime} (h : t < earlier) :
    t.durationSince earlier = .error "second time provided was later than self" :=
  dif_neg (by simp only [lt_iff] at h; omega)

end SystemTime

end Agentgateway
