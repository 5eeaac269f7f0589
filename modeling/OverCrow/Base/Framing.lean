import Mathlib.Algebra.Order.Ring.Int
import Mathlib.Tactic.Common

/-!
# Reading framed streams piece by piece

A stream of items that are told apart by their bytes alone. A reader takes bytes as they
arrive and keeps those of an unfinished item; what it decodes does not depend on how the
stream was split. A reader that forgets its unfinished item may only do so between items.
-/

namespace OverCrow.Base
open List

universe u v w

/-- A stream format: whether the bytes since the end of the last item make up an item. -/
structure Framing (β : Type u) (ι : Type v) where
  complete : List β → Option ι

namespace Framing

variable {β : Type u} {ι : Type v} (f : Framing β ι)

/-- The items that the bytes complete after `pending`, and what stays unfinished. -/
def decode : List β → List β → List ι × List β
  | pending, [] => ([], pending)
  | pending, b :: bytes =>
    match f.complete (pending ++ [b]) with
    | some item => ((decode [] bytes).1.cons item, (decode [] bytes).2)
    | none => decode (pending ++ [b]) bytes

theorem decode_nil (pending : List β) : f.decode pending [] = ([], pending) := rfl

/-- Decoding goes on with what was left unfinished. -/
theorem decode_append (pending xs ys : List β) :
    f.decode pending (xs ++ ys) =
      ((f.decode pending xs).1 ++ (f.decode (f.decode pending xs).2 ys).1,
        (f.decode (f.decode pending xs).2 ys).2) := by
  induction xs generalizing pending with
  | nil => rfl
  | cons b xs ih =>
    rw [cons_append, decode, decode]
    cases f.complete (pending ++ [b]) with
    | none => exact ih (pending ++ [b])
    | some item =>
      rw [ih]
      rfl

/-- Bytes that complete nothing are all kept. -/
theorem decode_eq_pending {pending xs : List β}
    (h : ∀ ys, ys <+: xs → ys ≠ [] → f.complete (pending ++ ys) = none) :
    f.decode pending xs = ([], pending ++ xs) := by
  induction xs generalizing pending with
  | nil => rw [decode_nil, append_nil]
  | cons b xs ih =>
    have hfirst := h [b] (prefix_append [b] xs) (cons_ne_nil _ _)
    rw [decode, hfirst]
    have hrest : f.decode (pending ++ [b]) xs = ([], pending ++ [b] ++ xs) := by
      refine ih fun ys hys _ => ?_
      rw [append_assoc]
      exact h (b :: ys) (prefix_cons_inj b |>.mpr hys) (cons_ne_nil _ _)
    rw [append_assoc] at hrest
    exact hrest

/-- Bytes of which only the whole completes an item. -/
theorem decode_eq_item {pending xs : List β} {item : ι} (hxs : xs ≠ [])
    (hitem : f.complete (pending ++ xs) = some item)
    (h : ∀ ys, ys <+: xs → ys ≠ [] → ys ≠ xs → f.complete (pending ++ ys) = none) :
    f.decode pending xs = ([item], []) := by
  obtain ⟨ys, b, rfl⟩ : ∃ ys b, xs = ys ++ [b] := ⟨_, _, (dropLast_concat_getLast hxs).symm⟩
  have hpending : f.decode pending ys = ([], pending ++ ys) := by
    refine f.decode_eq_pending fun zs hzs hne => h zs (hzs.trans (prefix_append _ _)) hne ?_
    rintro rfl
    have hle := hzs.length_le
    rw [length_append, length_singleton] at hle
    omega
  rw [decode_append, hpending, decode, append_assoc, hitem]
  rfl

/-- Bytes that encode an item, and no proper beginning of which is an item. -/
structure Encodes (bytes : List β) (item : ι) : Prop where
  nonempty : bytes ≠ []
  complete : f.complete bytes = some item
  incomplete : ∀ ys, ys <+: bytes → ys ≠ [] → ys ≠ bytes → f.complete ys = none

variable {f} {κ : Type w} {encode : κ → List β} {item : κ → ι}

/-- Decoding a stream of encoded items gives the items. -/
theorem decode_flatMap {sent : List κ} (h : ∀ x ∈ sent, f.Encodes (encode x) (item x)) :
    f.decode [] (sent.flatMap encode) = (sent.map item, []) := by
  induction sent with
  | nil => rfl
  | cons x sent ih =>
    have hx := h x mem_cons_self
    have hfirst : f.decode [] (encode x) = ([item x], []) :=
      f.decode_eq_item hx.nonempty hx.complete hx.incomplete
    rw [flatMap_cons, decode_append, hfirst, ih fun y hy => h y (mem_cons_of_mem _ hy)]
    rfl

end Framing

/-! ### Readers -/

/-- A reader of a stream: the bytes of the unfinished item, the bytes that have arrived, those
still to arrive, and the items read so far. -/
structure Reader (β : Type u) (ι : Type v) where
  pending : List β
  incoming : List β
  unsent : List β
  items : List ι

namespace Reader

variable {β : Type u} {ι : Type v} {f : Framing β ι} {r : Reader β ι} {all : List ι}

/-- What was read and what is still to be decoded make up the items of the stream. -/
def Delivers (f : Framing β ι) (r : Reader β ι) (all : List ι) : Prop :=
  ∃ rest, f.decode r.pending (r.incoming ++ r.unsent) = (rest, []) ∧ r.items ++ rest = all

/-- Nothing was read yet. -/
theorem delivers_start {κ : Type w} {encode : κ → List β} {item : κ → ι} {sent : List κ}
    (h : ∀ x ∈ sent, f.Encodes (encode x) (item x)) :
    Delivers f ⟨[], [], sent.flatMap encode, []⟩ (sent.map item) :=
  ⟨sent.map item, Framing.decode_flatMap h, rfl⟩

section

variable (h : r.Delivers f all)

include h

/-- Bytes arrive in any portions. -/
theorem Delivers.arrive (n : Nat) :
    Delivers f { r with
      incoming := r.incoming ++ r.unsent.take n, unsent := r.unsent.drop n } all := by
  obtain ⟨rest, hdecode, hall⟩ := h
  refine ⟨rest, ?_, hall⟩
  rw [append_assoc, take_append_drop]
  exact hdecode

/-- The reader takes some of the bytes that have arrived. -/
theorem Delivers.read {used left pending : List β} {items : List ι}
    (hincoming : r.incoming = used ++ left) (hdecode : f.decode r.pending used = (items, pending)) :
    Delivers f { r with pending, incoming := left, items := r.items ++ items } all := by
  obtain ⟨rest, hrest, hall⟩ := h
  rw [hincoming, append_assoc, Framing.decode_append, hdecode, Prod.mk.injEq] at hrest
  refine ⟨_, Prod.ext rfl hrest.2, ?_⟩
  rw [append_assoc, hrest.1]
  exact hall

/-- Between items there is nothing to forget. -/
theorem Delivers.drop (hpending : r.pending = []) : Delivers f { r with pending := [] } all := by
  obtain ⟨rest, hdecode, hall⟩ := h
  rw [hpending] at hdecode
  exact ⟨rest, hdecode, hall⟩

theorem Delivers.isPrefix : r.items <+: all := by
  obtain ⟨rest, -, hall⟩ := h
  exact ⟨rest, hall⟩

/-- A reader that has taken all bytes has read all items. -/
theorem Delivers.items_eq (hincoming : r.incoming = []) (hunsent : r.unsent = []) : r.items = all := by
  obtain ⟨rest, hdecode, hall⟩ := h
  rw [hincoming, hunsent, append_nil, Framing.decode_nil, Prod.mk.injEq] at hdecode
  rw [← hall, ← hdecode.1, append_nil]

end

end Reader

end OverCrow.Base
