import OverCrow.Base.Mealy

/-!
# Histories

What has happened, the last entry at the end. `Each` says of every entry that it is justified by the
entries before it.
-/

namespace OverCrow.Base
open List

universe u

variable {α : Type u} {P P' Q : α → Prop} {history added : List α} {a : α}
  {J : List α → α → Prop}

theorem mem_of_mem_append_singleton {b : α} (h : b ∈ history ++ [a]) (hne : b ≠ a) :
    b ∈ history :=
  (mem_append.mp h).resolve_right fun hmem => hne (mem_singleton.mp hmem)

/-- Every entry of the history is justified by those before it. -/
def Each (J : List α → α → Prop) (history : List α) : Prop :=
  ∀ before a after, history = before ++ a :: after → J before a

theorem each_nil : Each J [] := by
  intro before a after h
  exact absurd h.symm (append_ne_nil_of_right_ne_nil before (cons_ne_nil a after))

/-- The first entry is justified by nothing, and the others also by it. -/
theorem each_cons :
    Each J (a :: history) ↔ J [] a ∧ Each (fun before => J (a :: before)) history := by
  constructor
  · intro h
    exact ⟨h [] a history rfl, fun before b after hsplit => h (a :: before) b after (hsplit ▸ rfl)⟩
  · rintro ⟨ha, hhistory⟩ (_ | ⟨c, before⟩) b after hsplit
    · cases hsplit
      exact ha
    · obtain ⟨rfl, rfl⟩ := cons_eq_cons.mp (hsplit.trans (cons_append))
      exact hhistory before b after rfl

/-- A new entry is justified by all that there is. -/
theorem each_append_singleton :
    Each J (history ++ [a]) ↔ Each J history ∧ J history a := by
  constructor
  · intro h
    refine ⟨fun before b after hsplit => h before b (after ++ [a]) ?_, h history a [] rfl⟩
    rw [hsplit, append_assoc, cons_append]
  · rintro ⟨hhistory, ha⟩ before b after hsplit
    induction after using reverseRecOn with
    | nil =>
      obtain ⟨rfl, hlast⟩ := append_inj' hsplit rfl
      cases hlast
      exact ha
    | append_singleton after c _ =>
      rw [← cons_append, ← append_assoc] at hsplit
      exact hhistory before b after (append_inj' hsplit rfl).1

/-! ### Since -/

theorem Since.append (h : Since Q P history) (hadded : ∀ b ∈ added, Q b) :
    Since Q P (history ++ added) := by
  obtain ⟨before, a, after, rfl, ha, hafter⟩ := h
  refine ⟨before, a, after ++ added, by simp, ha, fun b hb => ?_⟩
  rcases mem_append.mp hb with hb | hb
  · exact hafter b hb
  · exact hadded b hb

theorem since_of_mem (hmem : a ∈ added) (ha : P a) (hadded : ∀ b ∈ added, Q b) :
    Since Q P (history ++ added) := by
  obtain ⟨before, after, rfl⟩ := append_of_mem hmem
  refine ⟨history ++ before, a, after, by simp, ha, fun b hb => hadded b ?_⟩
  exact mem_append_right _ (mem_cons_of_mem _ hb)

/-- The last entry of a kind is one entry. -/
theorem Since.unique (h : Since Q P history) (h' : Since Q P' history) (hP : ∀ a, P a → ¬Q a)
    (hP' : ∀ a, P' a → ¬Q a) : ∃ a ∈ history, P a ∧ P' a := by
  induction history using reverseRecOn with
  | nil => exact absurd h not_since_nil
  | append_singleton history a ih =>
    rw [since_append_singleton] at h h'
    rcases h with ha | ⟨hq, h⟩
    · rcases h' with ha' | ⟨hq, -⟩
      · exact ⟨a, by simp, ha, ha'⟩
      · exact absurd hq (hP a ha)
    · rcases h' with ha' | ⟨-, h'⟩
      · exact absurd hq (hP' a ha')
      · obtain ⟨b, hb, hboth⟩ := ih h h'
        exact ⟨b, mem_append_left _ hb, hboth⟩

end OverCrow.Base
