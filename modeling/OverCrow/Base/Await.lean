import Mathlib.Algebra.Order.Ring.Int
import Mathlib.Tactic.Common

/-!
# Programs that wait

An asynchronous function runs without interruption from one wait to the next. While it waits it may
be dropped, and then the state stays as it was when the wait began. `Wp` has a condition for the end
of the program and one that holds at every wait on the way there, so that the second is what a
program that was dropped leaves behind.
-/

namespace OverCrow.Base

universe u

/-- A program that reads and writes a state and waits for the answers to its requests. -/
inductive Await (σ E : Type u) (A : E → Type u) (α : Type u) where
  | done (a : α)
  | read (next : σ → Await σ E A α)
  | write (s : σ) (next : Await σ E A α)
  | wait (request : E) (next : A request → Await σ E A α)

namespace Await

variable {σ E : Type u} {A : E → Type u} {α β : Type u}

def bind : Await σ E A α → (α → Await σ E A β) → Await σ E A β
  | done a, f => f a
  | read next, f => read fun s => (next s).bind f
  | write s next, f => write s (next.bind f)
  | wait request next, f => wait request fun answer => (next answer).bind f

instance : Monad (Await σ E A) where
  pure := done
  bind := bind

/-- Change the state. -/
def modify (f : σ → σ) : Await σ E A PUnit := read fun s => write (f s) (done ⟨⟩)

/-- What the program finds in the state. -/
def reads (f : σ → α) : Await σ E A α := read fun s => done (f s)

/-- Wait for the answer to a request. -/
def request (e : E) : Await σ E A (A e) := wait e done

/-- Run to the next wait or to the end. -/
def advance : Await σ E A α → σ → Await σ E A α × σ
  | done a, s => (done a, s)
  | read next, s => (next s).advance s
  | write s next, _ => next.advance s
  | wait e next, s => (wait e next, s)

/-- Answer the request that the program waits for and run on. -/
def resume (answer : ∀ e, A e) : Await σ E A α → σ → Await σ E A α × σ
  | wait e next, s => (next (answer e)).advance s
  | p, s => p.advance s

/-- `Q` at the end of the program, and `C` at every wait on the way. -/
def Wp (C : σ → Prop) : Await σ E A α → (α → σ → Prop) → σ → Prop
  | done a, Q, s => Q a s
  | read next, Q, s => (next s).Wp C Q s
  | write s next, Q, _ => next.Wp C Q s
  | wait _ next, Q, s => C s ∧ ∀ answer, (next answer).Wp C Q s

section Rules

variable {C : σ → Prop} {Q : α → σ → Prop} {p : Await σ E A α} {s : σ}

theorem wp_bind {f : α → Await σ E A β} {Q : β → σ → Prop} :
    (p >>= f).Wp C Q s ↔ p.Wp C (fun a => (f a).Wp C Q) s := by
  induction p generalizing s with
  | done a => exact Iff.rfl
  | read next ih => exact ih s
  | write s next ih => exact ih
  | wait e next ih => exact and_congr_right fun _ => forall_congr' fun answer => ih answer

theorem wp_modify {f : σ → σ} {Q : PUnit → σ → Prop} :
    (modify f : Await σ E A PUnit).Wp C Q s ↔ Q ⟨⟩ (f s) := Iff.rfl

theorem wp_reads {f : σ → α} : (reads f : Await σ E A α).Wp C Q s ↔ Q (f s) s := Iff.rfl

theorem Wp.mono {C' : σ → Prop} {Q' : α → σ → Prop} (h : p.Wp C Q s) (hC : ∀ s, C s → C' s)
    (hQ : ∀ a s, Q a s → Q' a s) : p.Wp C' Q' s := by
  induction p generalizing s with
  | done a => exact hQ a s h
  | read next ih => exact ih s h
  | write s next ih => exact ih h
  | wait e next ih => exact ⟨hC s h.1, fun answer => ih answer (h.2 answer)⟩

theorem Wp.advance (h : p.Wp C Q s) : (p.advance s).1.Wp C Q (p.advance s).2 := by
  induction p generalizing s with
  | done | wait => exact h
  | read next ih => exact ih s h
  | write s next ih => exact ih h

theorem Wp.resume (h : p.Wp C Q s) (answer : ∀ e, A e) :
    (p.resume answer s).1.Wp C Q (p.resume answer s).2 := by
  cases p with
  | done a => exact h
  | read | write => exact Wp.advance h
  | wait e next => exact Wp.advance (h.2 (answer e))

/-- Where a program stands after running on. -/
theorem advance_cases (p : Await σ E A α) (s : σ) :
    (∃ a, (p.advance s).1 = done a) ∨ ∃ e next, (p.advance s).1 = wait e next := by
  induction p generalizing s with
  | done a => exact .inl ⟨a, rfl⟩
  | read next ih => exact ih s s
  | write t next ih => exact ih t
  | wait e next => exact .inr ⟨e, next, rfl⟩

theorem resume_cases (p : Await σ E A α) (answer : ∀ e, A e) (s : σ) :
    (∃ a, (p.resume answer s).1 = done a) ∨ ∃ e next, (p.resume answer s).1 = wait e next := by
  cases p with
  | done a => exact .inl ⟨a, rfl⟩
  | read | wait => exact advance_cases _ s
  | write t next => exact advance_cases _ t

end Rules

end Await

end OverCrow.Base
