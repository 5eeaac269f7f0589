import Mathlib.Data.List.DropRight
import Mathlib.Data.List.Nodup
import OverCrow.Base.Text

/-!
# Trimmed texts

`str::trim` and the lists that are built from texts one by one, each entry once.
-/

namespace OverCrow.Base
open List

/-- `char::is_control`: the code points of the Unicode category `Cc`. -/
def isControl (c : Char) : Bool := c.toNat < 32 || (127 ≤ c.toNat && c.toNat < 160)

theorem isControl_of_isAsciiAlphanumeric {c : Char} (h : isAsciiAlphanumeric c = true) :
    isControl c = false := by
  unfold isAsciiAlphanumeric isAsciiDigit at h
  simp only [Bool.or_eq_true, Bool.and_eq_true, decide_eq_true_eq, Char.le_def,
    UInt32.le_iff_toNat_le] at h
  have hlow : 48 ≤ c.toNat := by
    rcases h with (h | h) | h
    · exact h.1
    · exact Nat.le_trans (by decide) h.1
    · exact Nat.le_trans (by decide) h.1
  have hhigh : c.toNat ≤ 122 := by
    rcases h with (h | h) | h
    · exact Nat.le_trans h.2 (by decide)
    · exact h.2
    · exact Nat.le_trans h.2 (by decide)
  unfold isControl
  rw [Bool.or_eq_false_iff, Bool.and_eq_false_iff, decide_eq_false_iff_not, decide_eq_false_iff_not]
  exact ⟨by omega, .inl (by omega)⟩

/-- Without white space at both ends. -/
def trimList (text : List Char) : List Char := (text.dropWhile isWhitespace).rdropWhile isWhitespace

/-- `str::trim`. -/
def trim (text : String) : String := String.ofList (trimList text.toList)

section Trim

variable {α : Type*} {p : α → Bool}

theorem dropWhile_idem (l : List α) : (l.dropWhile p).dropWhile p = l.dropWhile p := by
  induction l with
  | nil => rfl
  | cons a l ih =>
    by_cases ha : p a
    · rw [dropWhile_cons_of_pos ha, ih]
    · rw [dropWhile_cons_of_neg ha, dropWhile_cons_of_neg ha]

/-- What is dropped at the front stays away when the other end is shortened. -/
theorem dropWhile_of_isPrefix {l m : List α} (h : m <+: l) (hl : l.dropWhile p = l) :
    m.dropWhile p = m := by
  cases m with
  | nil => rfl
  | cons a m =>
    obtain ⟨rest, rfl⟩ := h
    by_cases ha : p a
    · rw [cons_append, dropWhile_cons_of_pos ha] at hl
      have hlength := congrArg length hl
      have hle := (dropWhile_suffix p (l := m ++ rest)).length_le
      rw [length_cons] at hlength
      omega
    · exact dropWhile_cons_of_neg ha

theorem trimList_idem (text : List Char) : trimList (trimList text) = trimList text := by
  have hfront : (trimList text).dropWhile isWhitespace = trimList text :=
    dropWhile_of_isPrefix (List.rdropWhile_prefix ..) (dropWhile_idem text)
  calc trimList (trimList text) = (trimList text).rdropWhile isWhitespace := by
        rw [trimList, hfront]
    _ = trimList text := rdropWhile_idempotent ..

theorem toList_trim (text : String) : (trim text).toList = trimList text.toList :=
  String.toList_ofList

theorem trim_idem (text : String) : trim (trim text) = trim text := by
  rw [trim, toList_trim, trimList_idem, trim]

/-- A text without white space is trimmed. -/
theorem trimList_eq_self {text : List Char} (h : ∀ c ∈ text, isWhitespace c = false) :
    trimList text = text := by
  have hfront : text.dropWhile isWhitespace = text := by
    cases text with
    | nil => rfl
    | cons c text => exact dropWhile_cons_of_neg (by simp [h c mem_cons_self])
  rw [trimList, hfront, rdropWhile_eq_self_iff]
  intro hne
  simp [h _ (getLast_mem hne)]

/-- A text that begins like a trimmed one and ends in no white space is trimmed. -/
theorem trimList_concat_eq_self {text : List Char} {c : Char} (h : trimList text = text)
    {kept : List Char} (hkept : kept <+: text) (hne : kept ≠ []) (hc : isWhitespace c = false) :
    trimList (kept ++ [c]) = kept ++ [c] := by
  have hfront : text.dropWhile isWhitespace = text := by
    refine (dropWhile_suffix isWhitespace).eq_of_length_le ?_
    calc text.length = (trimList text).length := by rw [h]
      _ ≤ (text.dropWhile isWhitespace).length := (List.rdropWhile_prefix ..).length_le
  have hdropped : (kept ++ [c]).dropWhile isWhitespace = kept ++ [c] := by
    have hstart := dropWhile_of_isPrefix hkept hfront
    rw [dropWhile_append, hstart, if_neg]
    rwa [List.isEmpty_iff]
  rw [trimList, hdropped, rdropWhile_eq_self_iff]
  intro hne
  rw [getLast_append_singleton, hc]
  exact Bool.false_ne_true

theorem trimList_sublist (text : List Char) : (trimList text).Sublist text :=
  (List.rdropWhile_prefix ..).sublist.trans (dropWhile_suffix ..).sublist

end Trim

/-! ### Each entry once -/

/-- Append an entry that is not there yet. -/
def pushNew {α : Type*} [DecidableEq α] (out : List α) (a : α) : List α :=
  if a ∈ out then out else out ++ [a]

section PushNew

variable {α : Type*} [DecidableEq α] {out rest : List α}

theorem nodup_pushNew (h : out.Nodup) (a : α) : (pushNew out a).Nodup := by
  unfold pushNew
  split
  · exact h
  · next hmem =>
    rw [← concat_eq_append]
    exact List.Nodup.concat hmem h

theorem mem_pushNew {a b : α} : b ∈ pushNew out a ↔ b ∈ out ∨ b = a := by
  unfold pushNew
  split
  · next hmem => exact ⟨.inl, fun h => h.elim id (· ▸ hmem)⟩
  · rw [mem_append, mem_singleton]

theorem nodup_foldl_pushNew (h : out.Nodup) : (rest.foldl pushNew out).Nodup := by
  induction rest generalizing out with
  | nil => exact h
  | cons a rest ih => exact ih (nodup_pushNew h a)

theorem mem_foldl_pushNew {a : α} : a ∈ rest.foldl pushNew out ↔ a ∈ out ∨ a ∈ rest := by
  induction rest generalizing out with
  | nil => exact ⟨.inl, fun h => h.resolve_right nofun⟩
  | cons b rest ih => rw [foldl_cons, ih, mem_pushNew, mem_cons, or_assoc]

theorem foldl_pushNew_eq_append (h : (out ++ rest).Nodup) : rest.foldl pushNew out = out ++ rest := by
  induction rest generalizing out with
  | nil => exact (append_nil out).symm
  | cons a rest ih =>
    have hnew : a ∉ out := fun hmem =>
      (nodup_append.mp h).2.2 a hmem a mem_cons_self rfl
    rw [append_cons] at h ⊢
    rw [foldl_cons, pushNew, if_neg hnew]
    exact ih h

theorem foldl_pushNew_eq_self (h : rest.Nodup) : rest.foldl pushNew [] = rest :=
  foldl_pushNew_eq_append h

end PushNew

end OverCrow.Base
