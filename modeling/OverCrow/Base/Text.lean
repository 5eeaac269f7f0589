import Mathlib.Algebra.Order.Ring.Int
import Mathlib.Tactic.Common

/-!
# Text and paths of the standard library

The operations on `str` and `Path` that the program uses, on the character list of a
string, so that they evaluate. A path keeps its raw text, because the program searches
it, and compares by components as `Path` does.
-/

namespace OverCrow.Base
open List

/-- `char::to_ascii_lowercase`. -/
def asciiLower (c : Char) : Char := if 'A' ≤ c ∧ c ≤ 'Z' then Char.ofNat (c.toNat + 32) else c

/-- `char::to_ascii_uppercase`. -/
def asciiUpper (c : Char) : Char := if 'a' ≤ c ∧ c ≤ 'z' then Char.ofNat (c.toNat - 32) else c

/-- `str::to_ascii_lowercase`, as characters. -/
def toAsciiLowercase (s : String) : List Char := s.toList.map asciiLower

/-- `str::contains`, on characters. -/
def containsText (text needle : List Char) : Bool :=
  text.tails.any fun rest => needle.isPrefixOf rest

/-- `str::split_once`, on characters. -/
def splitOnce (delimiter : List Char) : List Char → Option (List Char × List Char)
  | [] => if delimiter.isEmpty then some ([], []) else none
  | c :: rest =>
    if delimiter.isPrefixOf (c :: rest) then some ([], (c :: rest).drop delimiter.length)
    else (splitOnce delimiter rest).map fun (before, after) => (c :: before, after)

/-- `char::is_ascii_digit`. -/
def isAsciiDigit (c : Char) : Bool := '0' ≤ c && c ≤ '9'

/-- `char::is_ascii_alphanumeric`. -/
def isAsciiAlphanumeric (c : Char) : Bool :=
  isAsciiDigit c || ('a' ≤ c && c ≤ 'z') || ('A' ≤ c && c ≤ 'Z')

/-- `char::is_ascii_hexdigit`. -/
def isAsciiHexdigit (c : Char) : Bool :=
  isAsciiDigit c || ('a' ≤ c && c ≤ 'f') || ('A' ≤ c && c ≤ 'F')

/-- `char::is_whitespace`: the code points with the Unicode property `White_Space`. -/
def isWhitespace (c : Char) : Bool :=
  let n := c.toNat
  (0x09 ≤ n && n ≤ 0x0d) || n == 0x20 || n == 0x85 || n == 0xa0 || n == 0x1680 ||
    (0x2000 ≤ n && n ≤ 0x200a) || n == 0x2028 || n == 0x2029 || n == 0x202f || n == 0x205f ||
    n == 0x3000

/-- `text.trim().is_empty()`. -/
def isBlank (text : String) : Bool := text.toList.all isWhitespace

/-- `str::strip_prefix`. -/
def stripStem (stem text : String) : Option String :=
  if stem.toList.isPrefixOf text.toList then some (String.ofList (text.toList.drop stem.length))
  else none

/-- Value of a list of decimal digits, most significant first. -/
def digitsValue (digits : List Char) : Nat :=
  digits.foldl (fun total c => total * 10 + (c.toNat - 48)) 0

/-- `str::parse` at an unsigned integer type with the given largest value: an optional
plus sign, then at least one decimal digit, with no overflow. -/
def parseUnsigned (bound : Nat) (s : String) : Option Nat :=
  let digits := match s.toList with
    | '+' :: rest => rest
    | other => other
  if digits.isEmpty || !digits.all isAsciiDigit then none
  else if digitsValue digits ≤ bound then some (digitsValue digits) else none

/-- Numbers printed alike are equal. -/
theorem eq_of_toString_eq {m n : Nat} (h : toString m = toString n) : m = n := by
  have hdigits : Nat.toDigits 10 m = Nat.toDigits 10 n := by
    rw [← Nat.toList_repr, ← Nat.toList_repr]
    exact congrArg String.toList h
  calc m = Nat.ofDigitChars 10 (Nat.toDigits 10 m) 0 := Nat.ofDigitChars_ten_toDigits.symm
    _ = Nat.ofDigitChars 10 (Nat.toDigits 10 n) 0 := by rw [hdigits]
    _ = n := Nat.ofDigitChars_ten_toDigits

/-- The size of a text is the sum of the sizes of its characters. -/
theorem utf8ByteSize_ofList (l : List Char) :
    (String.ofList l).utf8ByteSize = (l.map Char.utf8Size).sum := by
  induction l with
  | nil => rfl
  | cons c l ih =>
    have hcons : String.ofList (c :: l) = String.singleton c ++ String.ofList l := by
      rw [← String.toList_inj, String.toList_append, String.toList_ofList, String.toList_ofList,
        String.toList_singleton]
      rfl
    rw [hcons, String.utf8ByteSize_append, ih, String.utf8ByteSize_singleton, map_cons,
      sum_cons]

theorem utf8ByteSize_eq_sum (s : String) :
    s.utf8ByteSize = (s.toList.map Char.utf8Size).sum := by
  rw [← utf8ByteSize_ofList, String.ofList_toList]

/-- What is left after the stem. -/
theorem stripStem_eq_some {stem text rest : String} :
    stripStem stem text = some rest ↔ text = stem ++ rest := by
  unfold stripStem
  rw [Option.ite_none_right_eq_some, isPrefixOf_iff_prefix]
  constructor
  · rintro ⟨⟨tail, htail⟩, hrest⟩
    cases hrest
    rw [← String.toList_inj, String.toList_append, String.toList_ofList, ← htail,
      ← String.length_toList, drop_left]
  · rintro rfl
    rw [String.toList_append, ← String.length_toList, drop_left, String.ofList_toList]
    exact ⟨prefix_append _ _, rfl⟩

theorem digitsValue_toDigits (n : Nat) : digitsValue (Nat.toDigits 10 n) = n := by
  have h := @Nat.ofDigitChars_ten_toDigits n
  unfold digitsValue
  simp only [Nat.mul_comm _ 10]
  exact h

theorem parseUnsigned_le {bound n : Nat} {s : String} (h : parseUnsigned bound s = some n) :
    n ≤ bound := by
  unfold parseUnsigned at h
  rw [Option.ite_none_left_eq_some, Option.ite_none_right_eq_some] at h
  obtain ⟨-, hle, hvalue⟩ := h
  cases hvalue
  exact hle

/-- A printed number reads back. -/
theorem parseUnsigned_toString {bound n : Nat} (h : n ≤ bound) :
    parseUnsigned bound (toString n) = some n := by
  have hdigits : (toString n).toList = Nat.toDigits 10 n := Nat.toList_repr
  have hall : ∀ c ∈ Nat.toDigits 10 n, isAsciiDigit c = true := fun c hc =>
    Nat.isDigit_of_mem_toDigits (by decide) (by decide) hc
  have hne : (Nat.toDigits 10 n).isEmpty = false :=
    isEmpty_eq_false_iff.mpr Nat.toDigits_ne_nil
  unfold parseUnsigned
  extract_lets digits
  have hsame : digits = Nat.toDigits 10 n := by
    dsimp only [digits]
    split
    · next rest heq =>
      have hplus := hall '+' (hdigits ▸ heq ▸ mem_cons_self)
      exact absurd hplus (by decide)
    · exact hdigits
  rw [hsame, digitsValue_toDigits, hne, all_eq_true.mpr hall]
  exact if_pos h

/-- What holds of the ASCII characters one by one. -/
theorem forall_ascii {P : Char → Prop} (h : ∀ n : Fin 128, P (Char.ofNat n)) {c : Char}
    (hc : c.toNat < 128) : P c := by
  have hsame := h ⟨c.toNat, hc⟩
  rwa [Char.ofNat_toNat] at hsame

theorem toNat_of_isAsciiAlphanumeric {c : Char} (h : isAsciiAlphanumeric c = true) :
    c.toNat < 128 := by
  have hle {d : Char} (hd : decide (c ≤ d) = true) : c.toNat ≤ d.toNat := by
    rw [decide_eq_true_eq, Char.le_def, UInt32.le_iff_toNat_le] at hd
    exact hd
  unfold isAsciiAlphanumeric isAsciiDigit at h
  rw [Bool.or_eq_true, Bool.or_eq_true, Bool.and_eq_true, Bool.and_eq_true, Bool.and_eq_true] at h
  rcases h with (⟨-, h⟩ | ⟨-, h⟩) | ⟨-, h⟩ <;> exact Nat.lt_of_le_of_lt (hle h) (by decide)

theorem utf8Size_of_isAsciiDigit {c : Char} (h : isAsciiDigit c = true) : c.utf8Size = 1 := by
  unfold isAsciiDigit at h
  rw [Bool.and_eq_true, decide_eq_true_eq, decide_eq_true_eq, Char.le_def, Char.le_def,
    UInt32.le_iff_toNat_le, UInt32.le_iff_toNat_le] at h
  unfold Char.utf8Size
  rw [if_pos]
  exact Nat.le_trans h.2 (by decide)

/-- A number of at most `k` digits takes at most `k` bytes. -/
theorem utf8ByteSize_toString_le {n k : Nat} (hk : 0 < k) (h : n < 10 ^ k) :
    (toString n).utf8ByteSize ≤ k := by
  have hdigits : (toString n).toList = Nat.toDigits 10 n := Nat.toList_repr
  have hlength := (Nat.length_toDigits_le_iff (by decide : 1 < 10) hk).mpr h
  have hsizes : (Nat.toDigits 10 n).map Char.utf8Size =
      replicate (Nat.toDigits 10 n).length 1 := by
    rw [map_eq_replicate_iff]
    exact fun c hc => utf8Size_of_isAsciiDigit
      (Nat.isDigit_of_mem_toDigits (by decide) (by decide) hc)
  rw [utf8ByteSize_eq_sum, hdigits, hsizes, sum_replicate_nat, Nat.mul_one]
  exact hlength
/-- A path as its raw text. -/
structure PathBuf where
  raw : String
  deriving DecidableEq, Inhabited

/-- The longest beginning of a text that takes at most so many bytes. -/
def utf8Prefix : List Char → Nat → List Char
  | [], _ => []
  | c :: text, limit => if c.utf8Size ≤ limit then c :: utf8Prefix text (limit - c.utf8Size) else []

namespace PathBuf

/-- `Path::is_absolute` on Unix. -/
def isAbsolute (p : PathBuf) : Bool := p.raw.toList.head? == some '/'

/-- `Path::components` on Unix, each as its text: the root, a leading current
directory of a relative path, and the parts that are neither empty nor a single dot. -/
def components (p : PathBuf) : List (List Char) :=
  let parts := p.raw.toList.splitOn '/'
  let root := if p.isAbsolute then [['/']] else []
  let current := if !p.isAbsolute && parts.head? == some ['.'] then [['.']] else []
  root ++ current ++ parts.filter fun part => !part.isEmpty && part != ['.']

/-- Paths compare by their components: repeated separators, inner current-directory
parts and a trailing separator make no difference. -/
instance : BEq PathBuf where
  beq p q := p.components == q.components

/-- Path comparison is equality of components. -/
theorem beq_iff_components (p q : PathBuf) : (p == q) = true ↔ p.components = q.components := by
  change (p.components == q.components) = true ↔ _
  rw [beq_iff_eq]

/-- Every path equals itself. -/
theorem beq_self (p : PathBuf) : (p == p) = true := (beq_iff_components p p).mpr rfl

example : (PathBuf.mk "/games//portal2/." == PathBuf.mk "/games/portal2") = true := by decide

end PathBuf

end OverCrow.Base
