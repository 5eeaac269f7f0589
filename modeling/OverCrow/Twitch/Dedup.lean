import OverCrow.Twitch.Worker

/-!
# Window of deliveries

The window of `crates/overcrow-overlay/src/twitch/client.rs` holds the latest ids that were accepted, so a
message that is delivered again within it changes nothing.
-/

namespace OverCrow.Twitch
open OverCrow.Base

namespace DeliveryDedup

/-- `client.rs:352`. -/
def clear : DeliveryDedup := {}

/-- An id that is inserted, or a call of `clear`. -/
abbrev Call := Option String

/-- A call on the window and on the ids that were accepted since the last `clear`. -/
def call (s : DeliveryDedup × List String) : Call → DeliveryDedup × List String
  | none => (clear, [])
  | some id => ((s.1.insert id).2, if (s.1.insert id).1 then s.2 ++ [id] else s.2)

/-- The last ids that fit in the window. -/
def latest (accepted : List String) : List String :=
  accepted.drop (accepted.length - deliveryDedupCapacity)

/-- The window contains the latest ids once, in both of its containers. -/
structure Exact (dedup : DeliveryDedup) (accepted : List String) : Prop where
  order : dedup.order = latest accepted
  nodup : dedup.order.Nodup
  entries : dedup.order.toFinset = dedup.entries

variable {dedup : DeliveryDedup} {accepted : List String} {id : String}

theorem length_latest_le (accepted : List String) : (latest accepted).length ≤ deliveryDedupCapacity := by
  rw [latest, List.length_drop]
  omega

/-- The oldest id leaves a full window. -/
theorem latest_append (accepted : List String) (id : String) : latest (accepted ++ [id]) =
    (if (latest accepted).length = deliveryDedupCapacity then (latest accepted).tail
      else latest accepted) ++ [id] := by
  have hcapacity : 0 < deliveryDedupCapacity := by decide
  unfold latest
  generalize deliveryDedupCapacity = capacity at hcapacity ⊢
  rw [List.length_append, List.length_singleton, List.drop_append_of_le_length (by omega), List.length_drop]
  split
  · rw [List.tail_drop]
    congr 2
    omega
  · congr 2
    omega

/-- An id of the window changes nothing. -/
theorem insert_of_mem (h : Exact dedup accepted) (hid : id ∈ latest accepted) :
    dedup.insert id = (false, dedup) := by
  rw [← h.order, ← List.mem_toFinset, h.entries] at hid
  exact if_pos hid

/-- Any other id is accepted. -/
theorem insert_of_not_mem (h : Exact dedup accepted) (hid : id ∉ latest accepted) :
    (dedup.insert id).1 = true ∧ Exact (dedup.insert id).2 (accepted ++ [id]) := by
  obtain ⟨order, entries⟩ := dedup
  obtain ⟨horder, hnodup, hentries⟩ := h
  dsimp only at horder hnodup hentries
  subst hentries
  have hlatest := latest_append accepted id
  rw [← horder] at hid hlatest
  rw [insert, if_neg (List.mem_toFinset.not.mpr hid)]
  refine ⟨rfl, ?_⟩
  obtain _ | ⟨oldest, order⟩ := order
  · exact ⟨hlatest.symm, by simp, by simp⟩
  obtain ⟨holdest, hnodup⟩ := List.nodup_cons.mp hnodup
  dsimp only
  split at hlatest
  · next hfull =>
    rw [if_pos hfull]
    refine ⟨hlatest.symm, by grind, ?_⟩
    ext other
    simp
    grind
  · next hroom =>
    rw [if_neg hroom]
    refine ⟨hlatest.symm, by grind, ?_⟩
    ext other
    simp
    grind

theorem insert_fst (h : Exact dedup accepted) : (dedup.insert id).1 = false ↔ id ∈ latest accepted := by
  by_cases hid : id ∈ latest accepted
  · simp [insert_of_mem h hid, hid]
  · simp [insert_of_not_mem h hid, hid]

theorem exact_call {s : DeliveryDedup × List String} (h : Exact s.1 s.2) (made : Call) :
    Exact (call s made).1 (call s made).2 := by
  cases made with
  | none => exact ⟨by simp [call, clear, latest], .nil, rfl⟩
  | some id =>
    dsimp only [call]
    by_cases hid : id ∈ latest s.2
    · rw [insert_of_mem h hid]
      exact h
    · rw [if_pos (insert_of_not_mem h hid).1]
      exact (insert_of_not_mem h hid).2

/-- After every sequence of insertions and clears the window is exact, an id is refused exactly if it is one of
the latest that were accepted, and a message delivered again changes nothing that is shown or published. -/
theorem window_exact (calls : List Call) :
    let s := calls.foldl call ({}, [])
    s.1.order.Nodup ∧ s.1.order.toFinset = s.1.entries ∧ s.1.order.length ≤ deliveryDedupCapacity ∧
    (∀ id, (s.1.insert id).1 = false ↔ id ∈ latest s.2) ∧
    ∀ (w : Worker) (t : Turn) (message : EventSubMessage), w.state.deliveryDedup = s.1 →
      t.wake = .message (.ok message) → message.deliveryId ∈ latest s.2 →
      ∃ after, w.liveTurn t = some after ∧ after.state = w.state ∧ after.log = w.log := by
  intro s
  have hempty : Exact {} [] := ⟨by simp [latest], .nil, rfl⟩
  have hexact : Exact s.1 s.2 := List.foldlRecOn calls call (motive := fun s => Exact s.1 s.2) hempty
    fun s h made _ => exact_call h made
  refine ⟨hexact.nodup, hexact.entries, hexact.order ▸ length_latest_le _, fun id => insert_fst hexact, ?_⟩
  intro w t message hdedup hwake hlatest
  have hinsert : w.state.deliveryDedup.insert message.deliveryId = (false, w.state.deliveryDedup) := by
    rw [hdedup]
    exact insert_of_mem hexact hlatest
  simp only [Worker.liveTurn, hwake, hinsert]
  exact ⟨_, rfl, rfl, rfl⟩

end DeliveryDedup

end OverCrow.Twitch
