import Mathlib.Algebra.Order.Ring.Int
import Mathlib.Tactic.Common

/-!
# Computations that keep their state when they fail

A method that mutates its receiver and returns early with an error leaves the mutations
it made so far. `Task` is that kind of computation. The lemmas take a successful
execution of a sequence apart, so that proofs never unfold the monad.
-/

namespace OverCrow.Base

universe u

/-- A computation on a state `σ` that may fail with `ε`; a failure keeps the state reached. -/
abbrev Task (σ ε α : Type u) := ExceptT ε (StateM σ) α

namespace Task

variable {σ ε δ α β : Type u}
  {f : α → Task σ ε β} {s t : σ} {x : Task σ ε α}

/-- The result and the state after running from `s`. -/
def exec (x : Task σ ε α) (s : σ) : Except ε α × σ := x.run.run s

/-- Convert the error. -/
def mapError (f : ε → δ) (x : Task σ ε α) : Task σ δ α := ExceptT.adapt f x

@[simp] theorem exec_pure (a : α) (s : σ) : (pure a : Task σ ε α).exec s = (.ok a, s) := rfl

@[simp] theorem exec_throw (e : ε) (s : σ) : (throw e : Task σ ε α).exec s = (.error e, s) := rfl

@[simp] theorem exec_get (s : σ) : (get : Task σ ε σ).exec s = (.ok s, s) := rfl

/-- A sequence stops at the first failure. -/
theorem exec_bind (x : Task σ ε α) (f : α → Task σ ε β) (s : σ) :
    (x >>= f).exec s = match x.exec s with
      | (.ok a, t) => (f a).exec t
      | (.error e, t) => (.error e, t) := by
  rcases h : x.exec s with ⟨result, t⟩
  have hx : StateT.run (ExceptT.run x) s = (result, t) := h
  unfold exec
  rw [ExceptT.run_bind, StateT.run_bind, hx]
  cases result with
  | ok a => rfl
  | error e => rfl

/-- A sequence succeeds exactly when both parts do. -/
theorem exec_bind_eq_ok {b : β} :
    (x >>= f).exec s = (.ok b, t) ↔
      ∃ a m, x.exec s = (.ok a, m) ∧ (f a).exec m = (.ok b, t) := by
  rw [exec_bind]
  rcases h : x.exec s with ⟨result, m⟩
  cases result with
  | ok a => simp
  | error e => simp

/-- A sequence fails in its first part or in its second. -/
theorem exec_bind_eq_error {e : ε} :
    (x >>= f).exec s = (.error e, t) ↔
      x.exec s = (.error e, t) ∨ ∃ a m, x.exec s = (.ok a, m) ∧ (f a).exec m = (.error e, t) := by
  rw [exec_bind]
  rcases h : x.exec s with ⟨result, m⟩
  cases result with
  | ok a => simp
  | error e => simp

/-- Converting errors touches nothing else. -/
theorem exec_mapError (f : ε → δ) (x : Task σ ε α) (s : σ) :
    (x.mapError f).exec s = ((x.exec s).1.mapError f, (x.exec s).2) := by
  unfold mapError exec
  rfl

theorem exec_mapError_eq_ok {f : ε → δ} {a : α} :
    (x.mapError f).exec s = (.ok a, t) ↔ x.exec s = (.ok a, t) := by
  rw [exec_mapError]
  rcases x.exec s with ⟨result, m⟩
  cases result with
  | ok | error => simp [Except.mapError]

theorem exec_mapError_eq_error {f : ε → δ} {d : δ} :
    (x.mapError f).exec s = (.error d, t) ↔ ∃ e, x.exec s = (.error e, t) ∧ f e = d := by
  rw [exec_mapError]
  rcases x.exec s with ⟨result, m⟩
  cases result with
  | ok b => simp [Except.mapError]
  | error e => simp [Except.mapError, and_comm]

/-! ### What a computation keeps -/

/-- A success keeps `P` true of the state, and a failure leaves `E` true of it. -/
def Keeps (P E : σ → Prop) (x : Task σ ε α) : Prop :=
  ∀ s, P s → match x.exec s with
    | (.ok _, t) => P t
    | (.error _, t) => E t

variable {P E : σ → Prop}

theorem Keeps.of_ok (hx : Keeps P E x) {a : α} (hs : P s) (h : x.exec s = (.ok a, t)) : P t := by
  have hx := hx s hs
  rw [h] at hx
  exact hx

theorem Keeps.of_error (hx : Keeps P E x) {e : ε} (hs : P s) (h : x.exec s = (.error e, t)) : E t := by
  have hx := hx s hs
  rw [h] at hx
  exact hx

theorem Keeps.pure (a : α) : Keeps P E (pure a : Task σ ε α) := fun _ hs => hs

theorem Keeps.throw (hE : ∀ s, P s → E s) (e : ε) : Keeps P E (throw e : Task σ ε α) := hE

theorem Keeps.bind (hx : Keeps P E x) (hf : ∀ a, Keeps P E (f a)) : Keeps P E (x >>= f) := by
  intro s hs
  have hx := hx s hs
  rw [exec_bind]
  rcases h : x.exec s with ⟨result, m⟩
  rw [h] at hx
  cases result with
  | ok a => exact hf a m hx
  | error e => exact hx

theorem Keeps.bind_get {f : σ → Task σ ε β} (hf : ∀ s, Keeps P E (f s)) :
    Keeps P E (get >>= f) := by
  intro s hs
  exact hf s s hs

theorem Keeps.mapError (f : ε → δ) (hx : Keeps P E x) :
    Keeps P E (x.mapError f) := by
  intro s hs
  have hx := hx s hs
  rw [exec_mapError]
  rcases h : x.exec s with ⟨result, m⟩
  rw [h] at hx
  cases result with
  | ok | error => exact hx

theorem Keeps.ite {y : Task σ ε α} {c : Prop} [Decidable c] (hx : Keeps P E x)
    (hy : Keeps P E y) : Keeps P E (if c then x else y) := by
  split
  · exact hx
  · exact hy

/-! ### What a computation does to its state -/

/-- However the computation ends, the state after it is related to the one before. -/
def Follows (R : σ → σ → Prop) (x : Task σ ε α) : Prop := ∀ s, R s (x.exec s).2

section Follows

variable {R : σ → σ → Prop}

theorem follows_pure (hR : ∀ s, R s s) (a : α) : Follows R (pure a : Task σ ε α) := hR

theorem follows_throw (hR : ∀ s, R s s) (e : ε) : Follows R (throw e : Task σ ε α) := hR

theorem follows_get (hR : ∀ s, R s s) : Follows R (get : Task σ ε σ) := hR

theorem follows_modify {f : σ → σ} (hf : ∀ s, R s (f s)) :
    Follows R (modify f : Task σ ε PUnit) := hf

theorem Follows.bind {x : Task σ ε α} {f : α → Task σ ε β} (hx : Follows R x)
    (hf : ∀ a, Follows R (f a)) (hR : ∀ {s t r}, R s t → R t r → R s r) : Follows R (x >>= f) := by
  intro s
  have hx := hx s
  rw [exec_bind]
  generalize x.exec s = after at hx
  obtain ⟨result, t⟩ := after
  cases result with
  | ok a => exact hR hx (hf a t)
  | error e => exact hx

end Follows

/-! ### What a computation ensures -/

/-- `Q` after a success, and `F` after a failure. -/
def Wp (x : Task σ ε α) (Q : α → σ → Prop) (F : ε → σ → Prop) (s : σ) : Prop :=
  match x.exec s with
  | (.ok a, t) => Q a t
  | (.error e, t) => F e t

/-- Change the state after a failure. -/
def onError (f : σ → σ) (x : Task σ ε α) : Task σ ε α := fun s =>
  match x.exec s with
  | (.ok a, t) => (.ok a, t)
  | (.error e, t) => (.error e, f t)

section Wp

variable {x : Task σ ε α} {Q : α → σ → Prop} {F : ε → σ → Prop} {s : σ}

theorem wp_modify {f : σ → σ} {Q : PUnit → σ → Prop} :
    (modify f : Task σ ε PUnit).Wp Q F s ↔ Q ⟨⟩ (f s) := Iff.rfl

theorem wp_get {Q : σ → σ → Prop} : (get : Task σ ε σ).Wp Q F s ↔ Q s s := Iff.rfl

theorem wp_bind {f : α → Task σ ε β} {Q : β → σ → Prop} :
    (x >>= f).Wp Q F s ↔ x.Wp (fun a => (f a).Wp Q F) F s := by
  unfold Wp
  rw [exec_bind]
  rcases x.exec s with ⟨result, t⟩
  cases result with
  | ok | error => exact Iff.rfl

theorem wp_onError {f : σ → σ} : (x.onError f).Wp Q F s ↔ x.Wp Q (fun e t => F e (f t)) s := by
  unfold Wp
  change (match (match x.exec s with
    | (.ok a, t) => ((.ok a, t) : Except ε α × σ)
    | (.error e, t) => (.error e, f t)) with
    | (.ok a, t) => Q a t
    | (.error e, t) => F e t) ↔ _
  rcases x.exec s with ⟨result, t⟩
  cases result with
  | ok | error => exact Iff.rfl

theorem wp_ite {y : Task σ ε α} {c : Prop} [Decidable c] (hx : c → x.Wp Q F s)
    (hy : ¬c → y.Wp Q F s) : (if c then x else y).Wp Q F s := by
  split
  · next hc => exact hx hc
  · next hc => exact hy hc

theorem Wp.mono {Q' : α → σ → Prop} {F' : ε → σ → Prop} (h : x.Wp Q F s)
    (hQ : ∀ a t, Q a t → Q' a t) (hF : ∀ e t, F e t → F' e t) : x.Wp Q' F' s := by
  unfold Wp at h ⊢
  generalize x.exec s = after at h
  obtain ⟨result, t⟩ := after
  cases result with
  | ok a => exact hQ a t h
  | error e => exact hF e t h

theorem Wp.of_exec {result : Except ε α} {t : σ} (h : x.Wp Q F s) (hexec : x.exec s = (result, t)) :
    match result with
    | .ok a => Q a t
    | .error e => F e t := by
  unfold Wp at h
  rw [hexec] at h
  cases result with
  | ok | error => exact h

/-- A computation that cannot fail. -/
theorem Wp.exists_ok (h : x.Wp Q (fun _ _ => False) s) : ∃ a t, x.exec s = (.ok a, t) ∧ Q a t := by
  rcases hexec : x.exec s with ⟨result, t⟩
  have h := h.of_exec hexec
  cases result with
  | ok a => exact ⟨a, t, rfl, h⟩
  | error e => exact h.elim

theorem Follows.wp {R : σ → σ → Prop} (h : Follows R x)
    (hQ : ∀ a t, x.exec s = (.ok a, t) → R s t → Q a t) (hF : ∀ e t, R s t → F e t) :
    x.Wp Q F s := by
  have h := h s
  unfold Wp
  rcases hexec : x.exec s with ⟨result, t⟩
  rw [hexec] at h
  cases result with
  | ok a => exact hQ a t hexec h
  | error e => exact hF e t h

end Wp

end Task

/-! ### Results without a state -/

section Result

variable {ε δ α β : Type u}
  {x : Except ε α}

/-- A sequence of results succeeds exactly when both parts do. -/
theorem bind_eq_ok {f : α → Except ε β} {b : β} :
    (x >>= f) = .ok b ↔ ∃ a, x = .ok a ∧ f a = .ok b := by
  cases x with
  | ok a =>
    change f a = .ok b ↔ _
    simp
  | error e =>
    change Except.error e = .ok b ↔ _
    simp

theorem map_eq_ok {f : α → β} {b : β} :
    x.map f = .ok b ↔ ∃ a, x = .ok a ∧ f a = b := by
  cases x with
  | ok | error => simp [Except.map]

theorem mapError_eq_ok {f : ε → δ} {a : α} :
    x.mapError f = .ok a ↔ x = .ok a := by
  cases x with
  | ok | error => simp [Except.mapError]

/-- What each pass of a loop keeps, the loop keeps. -/
theorem foldlM_invariant {f : β → α → Except ε β} {P : β → Prop}
    (hstep : ∀ {b a c}, P b → f b a = .ok c → P c) {as : List α} {b c : β} (hb : P b)
    (h : as.foldlM f b = .ok c) : P c := by
  induction as generalizing b with
  | nil =>
    cases h
    exact hb
  | cons a as ih =>
    obtain ⟨m, hm, hrest⟩ := bind_eq_ok.mp h
    exact ih (hstep hb hm) hrest

end Result

end OverCrow.Base
