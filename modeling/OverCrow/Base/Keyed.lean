import Mathlib.Algebra.Order.Ring.Int
import Mathlib.Tactic.Common
import Mathlib.Data.List.Nodup

/-!
# Lists of records with distinct keys

A list whose elements have pairwise distinct keys is a finite map in a fixed order. Changing and
removing the element of a key are `map` and `filter`; they agree with the operations on the
first element found, because there is at most one.
-/

namespace OverCrow.Base
open List

universe u v

variable {α : Type u} {κ : Type v} [DecidableEq κ] {key : α → κ} {k : κ} {f : α → α} {l : List α}

/-- Change the elements with the key. -/
def modifyKey (key : α → κ) (k : κ) (f : α → α) (l : List α) : List α :=
  l.map fun a => if key a = k then f a else a

/-- Drop the elements with the key. -/
def removeKey (key : α → κ) (k : κ) (l : List α) : List α := l.filter fun a => key a ≠ k

theorem modifyKey_of_not_mem (h : k ∉ l.map key) : modifyKey key k f l = l := by
  conv_rhs => rw [← map_id l]
  refine map_congr_left fun a ha => if_neg fun heq => h ?_
  exact heq ▸ mem_map_of_mem ha

/-- The only element with the key is changed. -/
theorem modifyKey_append_cons {a : α} {before after : List α} (ha : key a = k)
    (h : ((before ++ a :: after).map key).Nodup) :
    modifyKey key k f (before ++ a :: after) = before ++ f a :: after := by
  rw [map_append, map_cons, ha] at h
  have hbefore : k ∉ before.map key := fun hmem =>
    (nodup_append.mp h).2.2 k hmem k mem_cons_self rfl
  have hafter : k ∉ after.map key := (nodup_cons.mp (nodup_append.mp h).2.1).1
  unfold modifyKey
  rw [map_append, map_cons, if_pos ha]
  exact congrArg₂ (fun xs ys => xs ++ f a :: ys) (modifyKey_of_not_mem hbefore)
    (modifyKey_of_not_mem hafter)

/-- A change that keeps the keys keeps their list. -/
theorem map_key_modifyKey (hf : ∀ a ∈ l, key (f a) = key a) :
    (modifyKey key k f l).map key = l.map key := by
  unfold modifyKey
  rw [map_map]
  refine map_congr_left fun a ha => ?_
  change key (if key a = k then f a else a) = key a
  split
  · exact hf a ha
  · rfl

theorem mem_map_of_modifyKey {j : κ} (h : j ∈ (modifyKey key k f l).map key)
    (hf : ∀ a ∈ l, key (f a) = key a) : j ∈ l.map key := by
  rw [map_key_modifyKey hf] at h
  exact h

theorem mem_modifyKey {b : α} :
    b ∈ modifyKey key k f l ↔ ∃ a ∈ l, (key a = k ∧ b = f a) ∨ (key a ≠ k ∧ b = a) := by
  unfold modifyKey
  rw [mem_map]
  refine exists_congr fun a => and_congr_right fun _ => ?_
  by_cases hk : key a = k
  · rw [if_pos hk]
    exact ⟨fun h => .inl ⟨hk, h.symm⟩, fun h => h.elim (fun h => h.2.symm) fun h => absurd hk h.1⟩
  · rw [if_neg hk]
    exact ⟨fun h => .inr ⟨hk, h.symm⟩, fun h => h.elim (fun h => absurd h.1 hk) fun h => h.2.symm⟩

theorem length_modifyKey : (modifyKey key k f l).length = l.length := length_map _

/-- The first element with the key is the only one that is dropped. -/
theorem eraseP_eq_removeKey (h : (l.map key).Nodup) :
    l.eraseP (fun a => key a = k) = removeKey key k l := by
  induction l with
  | nil => rfl
  | cons a l ih =>
    rw [map_cons, nodup_cons] at h
    unfold removeKey
    by_cases ha : key a = k
    · rw [eraseP_cons_of_pos (by simpa using ha), filter_cons_of_neg (by simpa using ha)]
      refine (filter_eq_self.mpr fun b hb => ?_).symm
      refine decide_eq_true fun heq => h.1 ?_
      rw [ha, ← heq]
      exact mem_map_of_mem hb
    · rw [eraseP_cons_of_neg (by simpa using ha), filter_cons_of_pos (by simpa using ha),
        ih h.2]
      rfl

theorem not_mem_of_findIdx? (h : l.findIdx? (fun a => key a = k) = none) : k ∉ l.map key := by
  simpa [findIdx?_eq_none_iff] using h

/-- The element that is found first is the one that is dropped. -/
theorem findIdx?_key_eq_some {index : Nat} (hnodup : (l.map key).Nodup)
    (h : l.findIdx? (fun a => key a = k) = some index) :
    k ∈ l.map key ∧ l.findIdx (fun a => key a = k) = index ∧ l.eraseIdx index = removeKey key k l := by
  obtain ⟨hlt, hfind⟩ := findIdx?_eq_some_iff_findIdx_eq.mp h
  obtain ⟨a, ha, heq⟩ := findIdx_lt_length.mp (hfind ▸ hlt)
  refine ⟨mem_map.mpr ⟨a, ha, of_decide_eq_true heq⟩, hfind, ?_⟩
  rw [← eraseP_eq_removeKey hnodup, eraseP_eq_eraseIdx, h]

theorem mem_map_removeKey {j : κ} : j ∈ (removeKey key k l).map key ↔ j ∈ l.map key ∧ j ≠ k := by
  rw [mem_map, mem_map]
  constructor
  · rintro ⟨a, ha, rfl⟩
    obtain ⟨hmem, hne⟩ := mem_filter.mp ha
    exact ⟨⟨a, hmem, rfl⟩, of_decide_eq_true hne⟩
  · rintro ⟨⟨a, ha, rfl⟩, hne⟩
    exact ⟨a, mem_filter.mpr ⟨ha, decide_eq_true hne⟩, rfl⟩

theorem nodup_map_removeKey (h : (l.map key).Nodup) : ((removeKey key k l).map key).Nodup :=
  h.sublist (filter_sublist.map key)

end OverCrow.Base
