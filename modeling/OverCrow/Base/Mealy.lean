import Mathlib.Data.List.Induction

/-!
# Machines with outputs

A machine takes every input, answers with an output and goes to its next state. Its trace is the
list of inputs with the answers to them. `Since` says of a trace that something happened and what
has been the case in every step after it.
-/

namespace OverCrow.Base
open List

universe u v w

section Since

variable {α : Type u} {P Q : α → Prop} {history : List α} {a : α}

/-- `P` at some step of the history, and `Q` at every later one. -/
def Since (Q P : α → Prop) (history : List α) : Prop :=
  ∃ before a after, history = before ++ a :: after ∧ P a ∧ ∀ b ∈ after, Q b

theorem not_since_nil : ¬ Since Q P ([] : List α) := by
  rintro ⟨before, a, after, h, -⟩
  exact absurd h.symm (append_ne_nil_of_right_ne_nil before (cons_ne_nil a after))

/-- It happened in the last step, or before it. -/
theorem since_append_singleton :
    Since Q P (history ++ [a]) ↔ P a ∨ Q a ∧ Since Q P history := by
  constructor
  · rintro ⟨before, b, after, hhistory, hb, hafter⟩
    induction after using reverseRecOn with
    | nil =>
      obtain ⟨-, hlast⟩ := append_inj' hhistory rfl
      cases hlast
      exact .inl hb
    | append_singleton rest c _ =>
      rw [← cons_append, ← append_assoc] at hhistory
      obtain ⟨hinit, hlast⟩ := append_inj' hhistory rfl
      cases hlast
      refine .inr ⟨hafter a (by simp), before, b, rest, hinit, hb, ?_⟩
      exact fun c hc => hafter c (mem_append_left _ hc)
  · rintro (ha | ⟨ha, before, b, after, rfl, hb, hafter⟩)
    · exact ⟨history, a, [], rfl, ha, fun b hb => absurd hb not_mem_nil⟩
    · refine ⟨before, b, after ++ [a], by simp, hb, fun c hc => ?_⟩
      rcases mem_append.mp hc with hc | hc
      · exact hafter c hc
      · rwa [mem_singleton.mp hc]

end Since

namespace Mealy

variable {σ : Type u} {ι : Type v} {ο : Type w} {step : σ → ι → ο × σ} {s : σ}
  {inputs : List ι} {i : ι}
  {P : List (ι × ο) → σ → Prop}

/-- The state after the inputs. -/
def after (step : σ → ι → ο × σ) (s : σ) (inputs : List ι) : σ :=
  inputs.foldl (fun s i => (step s i).2) s

/-- The inputs with the answers to them. -/
def trace (step : σ → ι → ο × σ) : σ → List ι → List (ι × ο)
  | _, [] => []
  | s, i :: inputs => (i, (step s i).1) :: trace step (step s i).2 inputs

/-- Every input meets `C` in the state it is taken in. -/
def Along (step : σ → ι → ο × σ) (C : σ → ι → Prop) : σ → List ι → Prop
  | _, [] => True
  | s, i :: inputs => C s i ∧ Along step C (step s i).2 inputs

instance decidableAlong {C : σ → ι → Prop} [∀ s i, Decidable (C s i)] :
    ∀ s inputs, Decidable (Along step C s inputs)
  | _, [] => isTrue trivial
  | s, i :: inputs =>
    have : Decidable (Along step C (step s i).2 inputs) := decidableAlong (step s i).2 inputs
    instDecidableAnd

theorem after_append_singleton :
    after step s (inputs ++ [i]) = (step (after step s inputs) i).2 := by
  unfold after
  rw [foldl_append, foldl_cons, foldl_nil]

theorem trace_append_singleton :
    trace step s (inputs ++ [i]) =
      trace step s inputs ++ [(i, (step (after step s inputs) i).1)] := by
  induction inputs generalizing s with
  | nil => rfl
  | cons j inputs ih =>
    rw [cons_append, trace, trace, cons_append, ih]
    rfl

theorem along_append_singleton {C : σ → ι → Prop} :
    Along step C s (inputs ++ [i]) ↔ Along step C s inputs ∧ C (after step s inputs) i := by
  induction inputs generalizing s with
  | nil => exact and_comm
  | cons j inputs ih =>
    rw [cons_append, Along, Along, ih, and_assoc]
    rfl

/-- A relation between the history and the state that every step meeting `C` preserves. -/
theorem invariant_along {C : σ → ι → Prop} (hstart : P [] s)
    (hstep : ∀ history s i, P history s → C s i →
      P (history ++ [(i, (step s i).1)]) (step s i).2)
    (h : Along step C s inputs) : P (trace step s inputs) (after step s inputs) := by
  induction inputs using reverseRecOn with
  | nil => exact hstart
  | append_singleton inputs i ih =>
    obtain ⟨hinputs, hi⟩ := along_append_singleton.mp h
    rw [trace_append_singleton, after_append_singleton]
    exact hstep _ _ i (ih hinputs) hi

/-- A relation between the history and the state that every step preserves. -/
theorem invariant (hstart : P [] s)
    (hstep : ∀ history s i, P history s → P (history ++ [(i, (step s i).1)]) (step s i).2)
    (inputs : List ι) : P (trace step s inputs) (after step s inputs) := by
  induction inputs using reverseRecOn with
  | nil => exact hstart
  | append_singleton inputs i ih =>
    rw [trace_append_singleton, after_append_singleton]
    exact hstep _ _ i ih

theorem map_fst_trace (step : σ → ι → ο × σ) (s : σ) (inputs : List ι) :
    (trace step s inputs).map Prod.fst = inputs := by
  induction inputs generalizing s with
  | nil => rfl
  | cons i inputs ih => rw [trace, map_cons, ih]

end Mealy

end OverCrow.Base
