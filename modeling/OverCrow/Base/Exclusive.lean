import Mathlib.Logic.Function.Basic

/-!
# Threads that exclude each other

Threads over a shared state, in which a flag admits one of them at a time. `Exclusive` says of a
program what it does around its section: what it keeps there may depend on the place in the program,
and what it leaves behind is what the next thread finds. `Owned` then holds in every state.
-/

namespace OverCrow.Base
open Function

universe u v w

/-- A shared state, and the place of each thread in its program. -/
structure Threads (σ : Type u) (L : Type v) where
  shared : σ
  threads : Nat → L

namespace Threads

variable {σ : Type u} {L : Type v} {E : Type w}

/-- One thread takes a step. -/
def step (advance : σ → L → E → Option (σ × L)) (s : Threads σ L) (event : Nat × E) :
    Option (Threads σ L) :=
  (advance s.shared (s.threads event.1) event.2).map fun after =>
    ⟨after.1, update s.threads event.1 after.2⟩

/-- A program with a section that one thread at a time is in: `inside` is kept in the section, and
`outside` while no thread is there. -/
structure Exclusive (advance : σ → L → E → Option (σ × L)) (running : L → Prop)
    (active : σ → Bool) (inside : σ → L → Prop) (outside : σ → Prop) : Prop where
  /-- Nothing is shared outside the section. -/
  wait : ∀ {a b l m e}, ¬running l → advance a l e = some (b, m) → ¬running m → b = a
  enter : ∀ {a b l m e}, ¬running l → advance a l e = some (b, m) → running m →
    active a = false ∧ active b = true ∧ (outside a → inside b m)
  work : ∀ {a b l m e}, running l → inside a l → advance a l e = some (b, m) → running m →
    active b = active a ∧ inside b m
  leave : ∀ {a b l m e}, running l → inside a l → advance a l e = some (b, m) → ¬running m →
    active b = false ∧ outside b

/-- At most one thread is in the section, and the flag tells whether one is. -/
structure Owned (running : L → Prop) (active : σ → Bool) (inside : σ → L → Prop)
    (outside : σ → Prop) (s : Threads σ L) : Prop where
  unique : ∀ i j, running (s.threads i) → running (s.threads j) → i = j
  free : active s.shared = false → outside s.shared ∧ ∀ i, ¬running (s.threads i)
  busy : active s.shared = true → ∃ i, running (s.threads i) ∧ inside s.shared (s.threads i)

section Owned

variable {advance : σ → L → E → Option (σ × L)} {running : L → Prop} {active : σ → Bool}
  {inside : σ → L → Prop} {outside : σ → Prop} {s t : Threads σ L} {i : Nat}

/-- What the thread in the section has. -/
theorem Owned.of_running (h : Owned running active inside outside s) (hi : running (s.threads i)) :
    active s.shared = true ∧ inside s.shared (s.threads i) := by
  cases hactive : active s.shared with
  | false => exact absurd hi ((h.free hactive).2 i)
  | true =>
    obtain ⟨j, hj, hinside⟩ := h.busy hactive
    obtain rfl := h.unique i j hi hj
    exact ⟨rfl, hinside⟩

/-- A thread that is alone in the section. -/
theorem owned_of_running {b : σ} {m : L} (hother : ∀ j, j ≠ i → ¬running (s.threads j))
    (hm : running m) (hactive : active b = true) (hinside : inside b m) :
    Owned running active inside outside ⟨b, update s.threads i m⟩ := by
  have honly : ∀ j, running (update s.threads i m j) → j = i := by
    intro j hj
    by_contra hne
    rw [update_of_ne hne] at hj
    exact hother j hne hj
  refine ⟨fun j k hj hk => (honly j hj).trans (honly k hk).symm, fun hfree => ?_, fun _ => ⟨i, ?_⟩⟩
  · exact absurd (hactive.symm.trans hfree) Bool.noConfusion
  · dsimp only
    rw [update_self]
    exact ⟨hm, hinside⟩

/-- Every step of an exclusive program keeps the ownership. -/
theorem Owned.step (hrules : Exclusive advance running active inside outside)
    (h : Owned running active inside outside s) {event : Nat × E}
    (hstep : s.step advance event = some t) : Owned running active inside outside t := by
  obtain ⟨i, e⟩ := event
  obtain ⟨⟨b, m⟩, hadvance, rfl⟩ := Option.map_eq_some_iff.mp hstep
  by_cases hbefore : running (s.threads i)
  · obtain ⟨hactive, hinside⟩ := h.of_running hbefore
    have hother : ∀ j, j ≠ i → ¬running (s.threads j) := fun j hne hj => hne (h.unique j i hj hbefore)
    by_cases hafter : running m
    · obtain ⟨hsame, hkept⟩ := hrules.work hbefore hinside hadvance hafter
      exact owned_of_running hother hafter (hsame.trans hactive) hkept
    · obtain ⟨hidle, houtside⟩ := hrules.leave hbefore hinside hadvance hafter
      have hnone : ∀ j, ¬running (update s.threads i m j) := by
        intro j
        rcases ne_or_eq j i with hne | rfl
        · rw [update_of_ne hne]
          exact hother j hne
        · rw [update_self]
          exact hafter
      refine ⟨fun j k hj _ => absurd hj (hnone j), fun _ => ⟨houtside, hnone⟩, fun hbusy => ?_⟩
      exact absurd (hbusy.symm.trans hidle) Bool.noConfusion
  · by_cases hafter : running m
    · obtain ⟨hfree, hbusy, hkept⟩ := hrules.enter hbefore hadvance hafter
      obtain ⟨houtside, hnone⟩ := h.free hfree
      exact owned_of_running (fun j _ => hnone j) hafter hbusy (hkept houtside)
    · obtain rfl := hrules.wait hbefore hadvance hafter
      have hsame : ∀ j, running (update s.threads i m j) ↔ running (s.threads j) := by
        intro j
        rcases ne_or_eq j i with hne | rfl
        · rw [update_of_ne hne]
        · rw [update_self]
          exact iff_of_false hafter hbefore
      refine ⟨fun j k hj hk => h.unique j k ((hsame j).mp hj) ((hsame k).mp hk), fun hfree => ?_,
        fun hbusy => ?_⟩
      · exact ⟨(h.free hfree).1, fun j hj => (h.free hfree).2 j ((hsame j).mp hj)⟩
      · obtain ⟨j, hj, hinside⟩ := h.busy hbusy
        have hne : j ≠ i := fun heq => hbefore (heq ▸ hj)
        refine ⟨j, (hsame j).mpr hj, ?_⟩
        dsimp only
        rw [update_of_ne hne]
        exact hinside

end Owned

end Threads

end OverCrow.Base
