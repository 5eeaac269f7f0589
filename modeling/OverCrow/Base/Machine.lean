import Mathlib.Algebra.Order.Ring.Int
import Mathlib.Tactic.Common

/-!
# Machine integers, durations and instants

Unsigned integers are natural numbers with the width's bound written out at each
operation. A duration is a count of nanoseconds; an instant is the number of
nanoseconds since the clock's origin. The operations follow the documented behaviour
of the standard library's `saturating_*`, `checked_*`, `Duration` and `Instant`.
-/

namespace OverCrow.Base

/-- Largest value of a 32-bit unsigned integer. -/
def u32Max : Nat := 2 ^ 32 - 1

/-- Largest value of a 64-bit unsigned integer. -/
def u64Max : Nat := 2 ^ 64 - 1

/-- Largest value of a 128-bit unsigned integer. -/
def u128Max : Nat := 2 ^ 128 - 1

/-- Addition that stops at the bound. -/
def saturatingAdd (bound a b : Nat) : Nat := min (a + b) bound

/-- Multiplication that stops at the bound. -/
def saturatingMul (bound a b : Nat) : Nat := min (a * b) bound

/-- Addition that fails above the bound. -/
def checkedAdd (bound a b : Nat) : Option Nat := if a + b ≤ bound then some (a + b) else none

/-- Multiplication that fails above the bound. -/
def checkedMul (bound a b : Nat) : Option Nat := if a * b ≤ bound then some (a * b) else none

/-- Subtraction that fails below zero. -/
def checkedSub (a b : Nat) : Option Nat := if b ≤ a then some (a - b) else none

/-- `uN::try_from(value).unwrap_or(uN::MAX)`. -/
def clampTo (bound a : Nat) : Nat := min a bound

/-- Nanoseconds of a duration. -/
abbrev Duration := Nat

/-- Nanoseconds since the origin of the monotonic clock. -/
abbrev Instant := Nat

/-- `Duration::MAX`: `u64::MAX` seconds and 999,999,999 nanoseconds. -/
def durationMax : Duration := u64Max * 1000000000 + 999999999

/-- `Duration::from_secs`. -/
def fromSecs (secs : Nat) : Duration := secs * 1000000000

/-- `Duration::saturating_add`. -/
def addDuration (a b : Duration) : Duration := saturatingAdd durationMax a b

/-- `Instant::checked_duration_since`. -/
def checkedDurationSince (now earlier : Instant) : Option Duration := checkedSub now earlier

/-- `checked_duration_since(earlier).unwrap_or_default()`, which is also
`saturating_duration_since(earlier)`: zero when the clock appears to run backwards. -/
def durationSince (now earlier : Instant) : Duration := (checkedDurationSince now earlier).getD 0

/-- The last instant: seconds are 64-bit signed integers. -/
def instantMax : Instant := (2 ^ 63 - 1) * 1000000000 + 999999999

/-- `Instant::checked_add`. -/
def checkedAddDuration (now : Instant) (d : Duration) : Option Instant := checkedAdd instantMax now d

/-- `u64::try_from(duration.as_millis()).unwrap_or(u64::MAX)`. -/
def millisU64 (d : Duration) : Nat := clampTo u64Max (d / 1000000)

/-- Below the bound a saturating increment is an increment. -/
theorem saturatingAdd_one {bound a : Nat} (h : a < bound) : saturatingAdd bound a 1 = a + 1 := by
  unfold saturatingAdd
  omega

theorem checkedAdd_eq_some {bound a b c : Nat} :
    checkedAdd bound a b = some c ↔ a + b ≤ bound ∧ a + b = c := by
  unfold checkedAdd
  rw [Option.ite_none_right_eq_some, Option.some.injEq]

/-! ### Bytes -/

/-- `u32::to_le_bytes`. -/
def toLeBytes (n : Nat) : List UInt8 :=
  [.ofNat n, .ofNat (n / 256), .ofNat (n / 65536), .ofNat (n / 16777216)]

/-- `u32::from_le_bytes`. -/
def fromLeBytes (bytes : List UInt8) : Nat := bytes.foldr (fun b n => b.toNat + 256 * n) 0

theorem fromLeBytes_toLeBytes {n : Nat} (h : n < 2 ^ 32) : fromLeBytes (toLeBytes n) = n := by
  simp only [toLeBytes, fromLeBytes, List.foldr_cons, List.foldr_nil, UInt8.toNat_ofNat']
  omega

theorem toLeBytes_fromLeBytes {bytes : List UInt8} (h : bytes.length = 4) :
    toLeBytes (fromLeBytes bytes) = bytes := by
  match bytes, h with
  | [a, b, c, d], _ =>
    have ha := a.toNat_lt
    have hb := b.toNat_lt
    have hc := c.toNat_lt
    have hd := d.toNat_lt
    simp only [toLeBytes, fromLeBytes, List.foldr_cons, List.foldr_nil, List.cons.injEq, and_true,
      ← UInt8.toNat_inj, UInt8.toNat_ofNat']
    omega

theorem fromLeBytes_lt {bytes : List UInt8} (h : bytes.length = 4) :
    fromLeBytes bytes < 2 ^ 32 := by
  match bytes, h with
  | [a, b, c, d], _ =>
    have ha := a.toNat_lt
    have hb := b.toNat_lt
    have hc := c.toNat_lt
    have hd := d.toNat_lt
    simp only [fromLeBytes, List.foldr_cons, List.foldr_nil]
    omega

end OverCrow.Base
