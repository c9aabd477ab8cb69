import Agentgateway.Outcome

/-!
# Rust primitives

The `as` casts, `str::split_once`, `str::starts_with` and `StatusCode::from_u16`. A wire integer is
a `BitVec` of its Rust width.
-/

namespace Agentgateway

/-! ## Integer casts -/

/-- `p as u16` for a `u32`: the low sixteen bits. -/
def asU16 (p : BitVec 32) : BitVec 16 := p.setWidth 16

/-- `w as usize` for an `i32` on a 64-bit target: sign extension. -/
def asUsize (w : BitVec 32) : BitVec 64 := BitVec.ofInt 64 w.toInt

/-- `s as u64` for an `i64`: the same bits, read as unsigned. -/
def asU64 (s : BitVec 64) : BitVec 64 := s

@[simp] theorem toNat_asU16 (p : BitVec 32) : (asU16 p).toNat = p.toNat % 2 ^ 16 :=
  BitVec.toNat_setWidth 16 p

/-- Two `u32`s with the same low sixteen bits cast to the same `u16`. -/
theorem asU16_congr {p q : BitVec 32} (h : p.toNat % 2 ^ 16 = q.toNat % 2 ^ 16) :
    asU16 p = asU16 q :=
  BitVec.eq_of_toNat_eq (by simpa using h)

@[simp] theorem toNat_asUsize (w : BitVec 32) : (asUsize w).toNat = (w.toInt % 2 ^ 64).toNat :=
  BitVec.toNat_ofInt w.toInt

/-- The unsigned reading of an `i64` is its signed value modulo `2 ^ 64`. -/
theorem toNat_asU64 (s : BitVec 64) : (asU64 s).toNat = (s.toInt % 2 ^ 64).toNat := by
  rw [asU64, BitVec.toInt_eq_toNat_cond]
  have := s.isLt
  split <;> omega

/-! ## Strings -/

/-- `split_once` on the characters of a string: the parts before and after the first `c`. -/
def splitOnceChars (c : Char) : List Char → Option (List Char × List Char)
  | [] => none
  | x :: xs => if x = c then some ([], xs) else (splitOnceChars c xs).map fun p => (x :: p.1, p.2)

/-- `str::split_once(c)`. -/
def splitOnce (s : String) (c : Char) : Option (String × String) :=
  (splitOnceChars c s.data).map fun p => (⟨p.1⟩, ⟨p.2⟩)

theorem splitOnceChars_eq_none_iff {c : Char} {l : List Char} :
    splitOnceChars c l = none ↔ c ∉ l := by
  induction l with
  | nil => simp [splitOnceChars]
  | cons x xs ih =>
      by_cases hx : x = c
      · simp [splitOnceChars, hx]
      · simp [splitOnceChars, hx, ih, Ne.symm hx]

theorem splitOnceChars_eq_some_iff {c : Char} {l front back : List Char} :
    splitOnceChars c l = some (front, back) ↔ l = front ++ c :: back ∧ c ∉ front := by
  induction l generalizing front with
  | nil => simp [splitOnceChars]
  | cons x xs ih =>
      by_cases hx : x = c
      · subst hx
        cases front with
        | nil => simp [splitOnceChars]
        | cons y ys => simp [splitOnceChars]; tauto
      · cases front with
        | nil => simp [splitOnceChars, hx, Ne.symm hx]
        | cons y ys =>
            simp only [splitOnceChars, hx, if_false, Option.map_eq_some', Prod.exists,
              Prod.mk.injEq, List.cons_append, List.cons.injEq, List.mem_cons, not_or]
            constructor
            · rintro ⟨a, b, h, ⟨rfl, rfl⟩, rfl⟩
              obtain ⟨rfl, hc⟩ := ih.mp h
              exact ⟨⟨rfl, rfl⟩, Ne.symm hx, hc⟩
            · rintro ⟨⟨rfl, rfl⟩, -, hc⟩
              exact ⟨ys, back, ih.mpr ⟨rfl, hc⟩, ⟨rfl, rfl⟩, rfl⟩

/-- The key has no separator exactly when there is nothing to split. -/
theorem splitOnce_eq_none_iff {s : String} {c : Char} : splitOnce s c = none ↔ c ∉ s.data := by
  simp [splitOnce, splitOnceChars_eq_none_iff]

/-- A split is at the first separator, and joining its parts gives the string back. -/
theorem splitOnce_eq_some_iff {s front back : String} {c : Char} :
    splitOnce s c = some (front, back) ↔
      front ++ String.singleton c ++ back = s ∧ c ∉ front.data := by
  have joined : front ++ String.singleton c ++ back = s ↔
      s.data = front.data ++ c :: back.data := by
    simp [String.ext_iff, eq_comm]
  rw [joined, ← splitOnceChars_eq_some_iff]
  simp only [splitOnce, Option.map_eq_some', Prod.exists]
  constructor
  · rintro ⟨_, _, split, joined⟩
    cases joined
    exact split
  · exact fun split => ⟨_, _, split, rfl⟩

/-- `str::starts_with(pat)`. -/
def startsWith (s pat : String) : Bool := pat.data.isPrefixOf s.data

theorem startsWith_iff {s pat : String} : startsWith s pat = true ↔ pat.data <+: s.data :=
  List.isPrefixOf_iff_prefix

/-! ## Status codes -/

/-- `http::StatusCode`: a code of three decimal digits. -/
structure StatusCode where
  /-- The numeric code. -/
  code : BitVec 16
  /-- `StatusCode` only holds `100..=999`. -/
  three_digits : 100 ≤ code.toNat ∧ code.toNat < 1000
  deriving DecidableEq

/-- `StatusCode::from_u16`, which rejects a code outside `100..=999`. -/
def StatusCode.fromU16 (code : BitVec 16) : Option StatusCode :=
  if h : 100 ≤ code.toNat ∧ code.toNat < 1000 then some ⟨code, h⟩ else none

/-- A `StatusCode` carries its range, so `from_u16` returns it exactly for its own code. -/
theorem StatusCode.fromU16_eq_some {code : BitVec 16} {status : StatusCode} :
    fromU16 code = some status ↔ status.code = code := by
  unfold fromU16
  split
  · exact ⟨fun h => by cases h; rfl, fun h => by cases status; cases h; rfl⟩
  · exact ⟨nofun, fun h => absurd (h ▸ status.three_digits) ‹_›⟩

theorem StatusCode.exists_code_eq {code : BitVec 16} :
    (∃ status : StatusCode, status.code = code) ↔ 100 ≤ code.toNat ∧ code.toNat < 1000 :=
  ⟨fun ⟨status, h⟩ => h ▸ status.three_digits, fun h => ⟨⟨code, h⟩, rfl⟩⟩

/-- `StatusCode::FOUND`. -/
def StatusCode.found : StatusCode := ⟨302, by decide⟩

/-- `StatusCode::SEE_OTHER`, the status of `Redirect::to`. -/
def StatusCode.seeOther : StatusCode := ⟨303, by decide⟩

/-- `StatusCode::BAD_REQUEST`. -/
def StatusCode.badRequest : StatusCode := ⟨400, by decide⟩

/-- `StatusCode::UNAUTHORIZED`. -/
def StatusCode.unauthorized : StatusCode := ⟨401, by decide⟩

/-- `StatusCode::FORBIDDEN`. -/
def StatusCode.forbidden : StatusCode := ⟨403, by decide⟩

/-- `StatusCode::NOT_FOUND`. -/
def StatusCode.notFound : StatusCode := ⟨404, by decide⟩

/-- `StatusCode::INTERNAL_SERVER_ERROR`. -/
def StatusCode.internalServerError : StatusCode := ⟨500, by decide⟩

/-- `StatusCode::is_success`: a code in `200..=299`. -/
def StatusCode.isSuccess (status : StatusCode) : Bool :=
  200 ≤ status.code.toNat && status.code.toNat < 300

end Agentgateway
