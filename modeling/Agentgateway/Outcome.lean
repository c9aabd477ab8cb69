import Mathlib.Algebra.Group.Int
import Mathlib.Algebra.Group.Nat.Basic
import Mathlib.Data.List.Forall2
import Mathlib.Tactic.Common

/-!
# Results that may panic

`Result<T, E>` with a panic kept as a third case, so that a panic is never confused with an `Err`,
and `collect::<Result<Vec<_>, _>>()`.
-/

namespace Agentgateway

/-- What a call does: return `Ok`, return `Err`, or panic with a message. -/
inductive Outcome (ε α : Type) where
  /-- `Ok(value)`. -/
  | ok (value : α)
  /-- `Err(error)`. -/
  | err (error : ε)
  /-- A panic, which unwinds through every caller. -/
  | panic (message : String)
  deriving DecidableEq, Repr

namespace Outcome

variable {ε ε' α β γ : Type}

/-- Rust's `?`: continue with the value, pass an `Err` or a panic on. -/
def bind : Outcome ε α → (α → Outcome ε β) → Outcome ε β
  | ok a, f => f a
  | err e, _ => err e
  | panic m, _ => panic m

instance : Monad (Outcome ε) where
  pure := ok
  bind := bind

@[simp] theorem pure_eq (a : α) : (pure a : Outcome ε α) = ok a := rfl

@[simp] theorem ok_bind (a : α) (f : α → Outcome ε β) : (ok a >>= f) = f a := rfl

@[simp] theorem err_bind (e : ε) (f : α → Outcome ε β) : (err e >>= f) = err e := rfl

@[simp] theorem panic_bind (m : String) (f : α → Outcome ε β) : (panic m >>= f) = panic m := rfl

@[simp] theorem map_ok (f : α → β) (a : α) : (f <$> (ok a : Outcome ε α)) = ok (f a) := rfl

@[simp] theorem map_err (f : α → β) (e : ε) : (f <$> (err e : Outcome ε α)) = err e := rfl

@[simp] theorem map_panic (f : α → β) (m : String) :
    (f <$> (panic m : Outcome ε α)) = panic m := rfl

theorem bind_eq_ok {x : Outcome ε α} {f : α → Outcome ε β} {b : β} :
    (x >>= f) = ok b ↔ ∃ a, x = ok a ∧ f a = ok b := by
  cases x <;> simp

theorem bind_eq_err {x : Outcome ε α} {f : α → Outcome ε β} {e : ε} :
    (x >>= f) = err e ↔ x = err e ∨ ∃ a, x = ok a ∧ f a = err e := by
  cases x <;> simp

/-- The call panics. -/
def Panics : Outcome ε α → Prop
  | panic _ => True
  | _ => False

instance : DecidablePred (@Panics ε α) := fun x =>
  match x with
  | ok _ => isFalse id
  | err _ => isFalse id
  | panic _ => isTrue trivial

@[simp] theorem not_panics_ok (a : α) : ¬ (ok a : Outcome ε α).Panics := id

@[simp] theorem not_panics_err (e : ε) : ¬ (err e : Outcome ε α).Panics := id

@[simp] theorem panics_panic (m : String) : (panic m : Outcome ε α).Panics := trivial

theorem panics_bind {x : Outcome ε α} {f : α → Outcome ε β} :
    (x >>= f).Panics ↔ x.Panics ∨ ∃ a, x = ok a ∧ (f a).Panics := by
  cases x <;> simp

theorem panics_map {x : Outcome ε α} {f : α → β} : (f <$> x).Panics ↔ x.Panics := by
  cases x <;> simp

/-- `map_err(f)`: rewrite an `Err`, keep a panic. -/
def mapErr (f : ε → ε') : Outcome ε α → Outcome ε' α
  | ok a => ok a
  | err e => err (f e)
  | panic m => panic m

@[simp] theorem mapErr_ok (f : ε → ε') (a : α) : (ok a : Outcome ε α).mapErr f = ok a := rfl

@[simp] theorem mapErr_err (f : ε → ε') (e : ε) : (err e : Outcome ε α).mapErr f = err (f e) :=
  rfl

@[simp] theorem mapErr_panic (f : ε → ε') (m : String) :
    (panic m : Outcome ε α).mapErr f = panic m := rfl

theorem panics_mapErr {x : Outcome ε α} {f : ε → ε'} : (x.mapErr f).Panics ↔ x.Panics := by
  cases x <;> simp

theorem mapErr_eq_ok {x : Outcome ε α} {f : ε → ε'} {a : α} : x.mapErr f = ok a ↔ x = ok a := by
  cases x <;> simp

/-- A call into another crate: it returns `Ok` or `Err`, and the model does not let it panic. -/
def ofExcept : Except ε α → Outcome ε α
  | .ok a => ok a
  | .error e => err e

@[simp] theorem ofExcept_ok (a : α) : (ofExcept (.ok a) : Outcome ε α) = ok a := rfl

@[simp] theorem ofExcept_error (e : ε) : (ofExcept (.error e) : Outcome ε α) = err e := rfl

@[simp] theorem ofExcept_eq_ok {x : Except ε α} {a : α} : ofExcept x = ok a ↔ x = .ok a := by
  cases x <;> simp [ofExcept]

@[simp] theorem not_panics_ofExcept (x : Except ε α) : ¬ (ofExcept x).Panics := by
  cases x <;> simp

/-- A call into another crate that reports the error `rejection`, if any, and returns nothing. -/
def ofRejection : Option ε → Outcome ε Unit
  | some e => err e
  | none => ok ()

@[simp] theorem ofRejection_none : (ofRejection none : Outcome ε Unit) = ok () := rfl

@[simp] theorem ofRejection_some (e : ε) : (ofRejection (some e) : Outcome ε Unit) = err e := rfl

@[simp] theorem ofRejection_eq_err {o : Option ε} {e : ε} : ofRejection o = err e ↔ o = some e := by
  cases o <;> simp [ofRejection]

@[simp] theorem not_panics_ofRejection (o : Option ε) : ¬ (ofRejection o).Panics := by
  cases o <;> simp

/-- `Option::ok_or(e)?`. -/
def okOr (o : Option α) (e : ε) : Outcome ε α :=
  match o with
  | some a => ok a
  | none => err e

@[simp] theorem okOr_some (a : α) (e : ε) : okOr (some a) e = ok a := rfl

@[simp] theorem okOr_none (e : ε) : (okOr none e : Outcome ε α) = err e := rfl

@[simp] theorem okOr_eq_ok {o : Option α} {e : ε} {a : α} : okOr o e = ok a ↔ o = some a := by
  cases o <;> simp

@[simp] theorem not_panics_okOr (o : Option α) (e : ε) : ¬ (okOr o e).Panics := by
  cases o <;> simp

/-- `Option::unwrap`. -/
def unwrap : Option α → Outcome ε α
  | some a => ok a
  | none => panic "called Option::unwrap() on a None value"

@[simp] theorem unwrap_some (a : α) : (unwrap (some a) : Outcome ε α) = ok a := rfl

@[simp] theorem panics_unwrap (o : Option α) : (unwrap o : Outcome ε α).Panics ↔ o = none := by
  cases o <;> simp [unwrap]

@[simp] theorem unwrap_ne_err (o : Option α) (e : ε) : (unwrap o : Outcome ε α) ≠ err e := by
  cases o <;> simp [unwrap]

@[simp] theorem unwrap_eq_ok {o : Option α} {a : α} : (unwrap o : Outcome ε α) = ok a ↔ o = some a := by
  cases o <;> simp [unwrap]

/-- `opt.map(f).transpose()`: convert a present value, keep an absent one. -/
def mapTranspose (f : α → Outcome ε β) : Option α → Outcome ε (Option β)
  | none => ok none
  | some a => f a >>= fun b => ok (some b)

@[simp] theorem mapTranspose_none (f : α → Outcome ε β) : mapTranspose f none = ok none := rfl

@[simp] theorem mapTranspose_some (f : α → Outcome ε β) (a : α) :
    mapTranspose f (some a) = (f a >>= fun b => ok (some b)) := rfl

theorem mapTranspose_eq_ok {f : α → Outcome ε β} {o : Option α} {r : Option β} :
    mapTranspose f o = ok r ↔ (o = none ∧ r = none) ∨ ∃ a b, o = some a ∧ f a = ok b ∧ r = some b := by
  cases o with
  | none => simp [eq_comm]
  | some a => simp [bind_eq_ok, @eq_comm _ r]

theorem exists_mapTranspose_eq_ok {f : α → Outcome ε β} {o : Option α} :
    (∃ r, mapTranspose f o = ok r) ↔ ∀ a, o = some a → ∃ b, f a = ok b := by
  cases o with
  | none => simp
  | some a =>
      simp only [mapTranspose_some, bind_eq_ok, ok.injEq, Option.some.injEq, forall_eq']
      exact ⟨fun ⟨_, b, h, _⟩ => ⟨b, h⟩, fun ⟨b, h⟩ => ⟨_, b, h, rfl⟩⟩

theorem mapTranspose_eq_err {f : α → Outcome ε β} {o : Option α} {e : ε} :
    mapTranspose f o = err e ↔ ∃ a, o = some a ∧ f a = err e := by
  cases o <;> simp [bind_eq_err]

theorem panics_mapTranspose {f : α → Outcome ε β} {o : Option α} :
    (mapTranspose f o).Panics ↔ ∃ a, o = some a ∧ (f a).Panics := by
  cases o <;> simp [panics_bind]

/-! ## Collecting a list of results -/

/-- `iter().map(f).collect::<Result<Vec<_>, _>>()`: the first `Err` or panic ends the walk. -/
def collect (f : α → Outcome ε β) : List α → Outcome ε (List β)
  | [] => ok []
  | a :: as => f a >>= fun b => collect f as >>= fun bs => ok (b :: bs)

@[simp] theorem collect_nil (f : α → Outcome ε β) : collect f [] = ok [] := rfl

theorem collect_cons (f : α → Outcome ε β) (a : α) (as : List α) :
    collect f (a :: as) = (f a >>= fun b => collect f as >>= fun bs => ok (b :: bs)) := rfl

/-- `f` returns `Ok` on every element of `xs`. -/
def AllOk (f : α → Outcome ε β) (xs : List α) : Prop := ∀ x ∈ xs, ∃ y, f x = ok y

/-- The first element of `xs` on which `f` does not return `Ok` ends in an outcome `stop`. -/
def FirstFails (f : α → Outcome ε β) (xs : List α) (stop : Outcome ε β → Prop) : Prop :=
  ∃ pre x post, xs = pre ++ x :: post ∧ AllOk f pre ∧ stop (f x)

@[simp] theorem allOk_nil (f : α → Outcome ε β) : AllOk f [] := by simp [AllOk]

theorem allOk_cons {f : α → Outcome ε β} {a : α} {as : List α} :
    AllOk f (a :: as) ↔ (∃ b, f a = ok b) ∧ AllOk f as := by
  simp [AllOk]

theorem FirstFails.exists_mem {f : α → Outcome ε β} {xs : List α} {stop : Outcome ε β → Prop}
    (first : FirstFails f xs stop) : ∃ x ∈ xs, stop (f x) := by
  obtain ⟨pre, x, post, rfl, -, stopped⟩ := first
  exact ⟨x, by simp, stopped⟩

theorem not_firstFails_nil (f : α → Outcome ε β) (stop : Outcome ε β → Prop) :
    ¬ FirstFails f [] stop := by
  rintro ⟨pre, x, post, split, -⟩
  simp at split

theorem firstFails_cons {f : α → Outcome ε β} {a : α} {as : List α}
    {stop : Outcome ε β → Prop} :
    FirstFails f (a :: as) stop ↔ stop (f a) ∨ ((∃ b, f a = ok b) ∧ FirstFails f as stop) := by
  constructor
  · rintro ⟨_ | ⟨p, pre⟩, x, post, split, allOk, stopped⟩
    · obtain ⟨rfl, -⟩ := List.cons.inj split
      exact .inl stopped
    · obtain ⟨rfl, rfl⟩ := List.cons.inj split
      exact .inr ⟨allOk a (by simp), pre, x, post, rfl,
        fun y member => allOk y (by simp [member]), stopped⟩
  · rintro (stopped | ⟨headOk, pre, x, post, rfl, allOk, stopped⟩)
    · exact ⟨[], a, as, rfl, by simp [AllOk], stopped⟩
    · refine ⟨a :: pre, x, post, rfl, ?_, stopped⟩
      rintro y (_ | ⟨_, member⟩)
      exacts [headOk, allOk y member]

/-- Success of the walk is success on every element, with the results in order. -/
theorem collect_eq_ok_iff {f : α → Outcome ε β} {xs : List α} {ys : List β} :
    collect f xs = ok ys ↔ List.Forall₂ (fun x y => f x = ok y) xs ys := by
  induction xs generalizing ys with
  | nil => cases ys <;> simp
  | cons x xs ih =>
      cases ys with
      | nil => simp [collect_cons, bind_eq_ok]
      | cons y ys => simp [collect_cons, bind_eq_ok, ← ih]

/-- The walk succeeds exactly when every element does. -/
theorem exists_collect_eq_ok_iff {f : α → Outcome ε β} {xs : List α} :
    (∃ ys, collect f xs = ok ys) ↔ AllOk f xs := by
  induction xs with
  | nil => simp
  | cons x xs ih =>
      rw [allOk_cons, ← ih, collect_cons]
      cases f x with
      | ok b =>
          simp only [ok_bind, bind_eq_ok, ok.injEq, exists_eq', true_and]
          exact ⟨fun ⟨_, a, tail, _⟩ => ⟨a, tail⟩, fun ⟨a, tail⟩ => ⟨_, a, tail, rfl⟩⟩
      | _ => simp

theorem collect_eq_err_iff {f : α → Outcome ε β} {xs : List α} {e : ε} :
    collect f xs = err e ↔ FirstFails f xs (· = err e) := by
  induction xs with
  | nil => simp [not_firstFails_nil]
  | cons x xs ih =>
      rw [firstFails_cons, ← ih, collect_cons, bind_eq_err]
      cases f x <;> simp [bind_eq_err]

theorem collect_panics_iff {f : α → Outcome ε β} {xs : List α} :
    (collect f xs).Panics ↔ FirstFails f xs Panics := by
  induction xs with
  | nil => simp [not_firstFails_nil]
  | cons x xs ih =>
      rw [firstFails_cons, ← ih, collect_cons, panics_bind]
      cases f x <;> simp [panics_bind]

/-- The walk panics only if some element does. -/
theorem collect_not_panics {f : α → Outcome ε β} {xs : List α}
    (calm : ∀ x ∈ xs, ¬ (f x).Panics) : ¬ (collect f xs).Panics := by
  rw [collect_panics_iff]
  rintro ⟨pre, x, post, rfl, -, panics⟩
  exact calm x (by simp) panics

/-- Where `f` never returns `Err`, the walk panics exactly when `f` panics on some element. -/
theorem collect_panics_iff_exists {f : α → Outcome ε β} {xs : List α}
    (noErr : ∀ x e, f x ≠ err e) : (collect f xs).Panics ↔ ∃ x ∈ xs, (f x).Panics := by
  induction xs with
  | nil => simp
  | cons x xs ih =>
      rw [collect_cons, panics_bind]
      simp only [List.mem_cons, exists_eq_or_imp, ← ih]
      cases fx : f x with
      | ok b => simp [panics_bind]
      | err e => exact absurd fx (noErr x e)
      | panic m => simp

end Outcome

end Agentgateway
