import Mathlib.Algebra.Order.Ring.Int
import Mathlib.Tactic.Common

/-!
# Runs of a partial transition function

A system is a state type and a partial step function: `step s a = none` says that
the action `a` is not enabled in `s`. A run is a list of actions, so that a run on
concrete data evaluates. The invariant rules package the induction over runs once;
`Along` restricts a run to the steps that meet a condition where they are taken.
-/

namespace OverCrow.Base

universe u v

variable {σ : Type u} {α : Type v}
  {C : σ → α → Prop} {as : List α} {step : σ → α → Option σ} {P : σ → Prop} {s : σ}

/-- Execute a list of actions in order; the run is `none` at the first disabled action. -/
def run (step : σ → α → Option σ) : σ → List α → Option σ
  | s, [] => some s
  | s, a :: as => (step s a).bind fun t => run step t as

/-- A state reached from `s` by some list of enabled actions. -/
def Reaches (step : σ → α → Option σ) (s t : σ) : Prop :=
  ∃ as, run step s as = some t

/-- Every step that the run takes meets `C` in the state it is taken from. -/
def Along (step : σ → α → Option σ) (C : σ → α → Prop) : σ → List α → Prop
  | _, [] => True
  | s, a :: as => C s a ∧ ∀ t, step s a = some t → Along step C t as

instance decidableAlong {step : σ → α → Option σ} {C : σ → α → Prop} [∀ s a, Decidable (C s a)] :
    ∀ s as, Decidable (Along step C s as)
  | _, [] => isTrue trivial
  | s, a :: as =>
    have : Decidable (∀ t, step s a = some t → Along step C t as) :=
      match step s a with
      | none => isTrue fun _ ht => nomatch ht
      | some t =>
        match decidableAlong t as with
        | isTrue ht => isTrue fun _ heq => Option.some.inj heq ▸ ht
        | isFalse hf => isFalse fun hall => hf (hall t rfl)
    instDecidableAnd

/-- A condition that the actions meet in every state. -/
theorem along_of_forall_mem (h : ∀ a ∈ as, ∀ s, C s a) (s : σ) : Along step C s as := by
  induction as generalizing s with
  | nil => exact trivial
  | cons a as ih =>
    have hrest := ih fun b hb => h b (List.mem_cons_of_mem _ hb)
    exact ⟨h a List.mem_cons_self s, fun t _ => hrest t⟩

/-- Conditions that agree where an invariant holds agree along every run. -/
theorem along_congr {D : σ → α → Prop}
    (hstep : ∀ s a t, P s → step s a = some t → P t) (h : ∀ s a, P s → (C s a ↔ D s a))
    (hs : P s) (as : List α) : Along step C s as ↔ Along step D s as := by
  induction as generalizing s with
  | nil => exact Iff.rfl
  | cons a as ih =>
    exact and_congr (h s a hs) (forall_congr' fun t =>
      imp_congr_right fun ht => ih (hstep s a t hs ht))

/-- The empty run stays where it is. -/
theorem run_nil (step : σ → α → Option σ) (s : σ) : run step s [] = some s := rfl

/-- A nonempty run takes its first step and continues from there. -/
theorem run_cons_eq_some {t : σ} {a : α} :
    run step s (a :: as) = some t ↔ ∃ m, step s a = some m ∧ run step m as = some t := by
  rw [run, Option.bind_eq_some_iff]

/-- Runs compose. -/
theorem run_append {m t : σ} {bs : List α} (ha : run step s as = some m) (hb : run step m bs = some t) :
    run step s (as ++ bs) = some t := by
  induction as generalizing s with
  | nil =>
    cases ha
    exact hb
  | cons a as ih =>
    obtain ⟨n, hn, hr⟩ := run_cons_eq_some.mp ha
    exact run_cons_eq_some.mpr ⟨n, hn, ih hr⟩

/-- A predicate that every step meeting `C` preserves holds at the end of every run
whose steps all meet `C`. -/
theorem run_invariant_along (hstep : ∀ s a t, P s → C s a → step s a = some t → P t)
    {t : σ} (hs : P s) (hc : Along step C s as) (hr : run step s as = some t) : P t := by
  induction as generalizing s with
  | nil =>
    cases hr
    exact hs
  | cons a as ih =>
    obtain ⟨m, hm, hr⟩ := run_cons_eq_some.mp hr
    exact ih (hstep s a m hs hc.1 hm) (hc.2 m hm) hr

/-- A predicate that every step preserves holds in every state reached. -/
theorem reaches_invariant (hstep : ∀ s a t, P s → step s a = some t → P t)
    {t : σ} (hs : P s) (hr : Reaches step s t) : P t := by
  obtain ⟨as, hr⟩ := hr
  induction as generalizing s with
  | nil =>
    cases hr
    exact hs
  | cons a as ih =>
    obtain ⟨m, hm, hr⟩ := run_cons_eq_some.mp hr
    exact ih (hstep s a m hs hm) hr

/-- Where a step keeps `P` exactly if it meets `C`, a run meets `C` throughout exactly if all of its
states have `P`; the step may rely on what every step between states with `P` keeps. -/
theorem along_iff_forall_reached {I : σ → Prop}
    (hinv : ∀ s a t, I s → P s → P t → step s a = some t → I t)
    (hstep : ∀ s a t, I s → P s → step s a = some t → (P t ↔ C s a))
    (hdisabled : ∀ s a, step s a = none → C s a) (hI : I s) (hP : P s) (as : List α) :
    Along step C s as ↔ ∀ begun, begun <+: as → ∀ t, run step s begun = some t → P t := by
  induction as generalizing s with
  | nil =>
    refine iff_of_true trivial fun begun hbegun t ht => ?_
    rw [List.prefix_nil.mp hbegun] at ht
    cases ht
    exact hP
  | cons a as ih =>
    constructor
    · rintro ⟨hc, hrest⟩ begun hbegun t ht
      rcases List.prefix_cons_iff.mp hbegun with rfl | ⟨later, rfl, hlater⟩
      · cases ht
        exact hP
      · obtain ⟨m, hm, ht⟩ := run_cons_eq_some.mp ht
        have hPm := (hstep s a m hI hP hm).mpr hc
        exact (ih (hinv s a m hI hP hPm hm) hPm).mp (hrest m hm) later hlater t ht
    · intro h
      have hfirst (m : σ) (hm : step s a = some m) : P m :=
        h [a] (List.prefix_cons_inj a |>.mpr (List.nil_prefix)) m (run_cons_eq_some.mpr ⟨m, hm, rfl⟩)
      refine ⟨?_, fun m hm => (ih (hinv s a m hI hP (hfirst m hm) hm) (hfirst m hm)).mpr
        fun begun hbegun t ht => ?_⟩
      · cases hm : step s a with
        | none => exact hdisabled s a hm
        | some m => exact (hstep s a m hI hP hm).mp (hfirst m hm)
      · exact h (a :: begun) ((List.prefix_cons_inj a).mpr hbegun) t (run_cons_eq_some.mpr ⟨m, hm, ht⟩)

end OverCrow.Base
