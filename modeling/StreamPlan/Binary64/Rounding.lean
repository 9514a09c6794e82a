import StreamPlan.Binary64.Basic

/-!
# Whole parts and remainders of doubles

The whole part of a double, its nearest integer and the remainder of a division,
computed exactly on integers.

Main results:

- `truncated?`: the value with its fraction cut off.
- `rounded`: the nearest integer, a half away from zero, clamped to sixty-four bits.
- `remainder`: the remainder of a division that truncates.
-/

namespace StreamPlan.Binary64

/-- The integer `n` with the sign of `x`. -/
def withSign (x : Float) (n : Nat) : Int := if isNegative x then -(n : Int) else n

/-- The magnitude of a finite double without its fraction. -/
def wholePart (x : Float) : Nat :=
  significand x * twoTo (exponent x).toNat / twoTo (-exponent x).toNat

/-- The value of a finite double with its fraction cut off. -/
def truncated? (x : Float) : Option Int :=
  if isFinite x then some (withSign x (wholePart x)) else none

/-- The magnitude of a finite double rounded to an integer, a half upward. -/
def nearestWhole (x : Float) : Nat :=
  (2 * significand x * twoTo (exponent x).toNat + twoTo (-exponent x).toNat) /
    (2 * twoTo (-exponent x).toNat)

/-- Clamp an integer to the range of sixty-four bits. -/
def clamp64 (n : Int) : Int := max (-0x8000000000000000) (min n 0x7FFFFFFFFFFFFFFF)

/-- The nearest integer, a half away from zero, clamped to sixty-four bits; zero for
what is not a number. -/
def rounded (x : Float) : Int :=
  if isNaN x then 0
  else if isFinite x then clamp64 (withSign x (nearestWhole x))
  else clamp64 (withSign x 0x8000000000000000)

/-- The remainder of a division that truncates: it has the sign of the dividend and
is exact. -/
def remainder (x y : Float) : Float :=
  if isNaN x || isNaN y || !isFinite x || magnitude y == 0 then ofBits 0x7FF8000000000000
  else if !isFinite y then x
  else
    let unit := min (exponent x) (exponent y)
    let dividend := significand x * twoTo (exponent x - unit).toNat
    let divisor := significand y * twoTo (exponent y - unit).toNat
    ofDyadic (isNegative x) (dividend % divisor) unit

/-- Clamping ends in the range of sixty-four bits. -/
theorem clamp64_mem (n : Int) : -0x8000000000000000 ≤ clamp64 n ∧ clamp64 n < 0x8000000000000000 := by
  unfold clamp64
  omega

/-- Clamping keeps what is in range. -/
theorem clamp64_eq_self {n : Int} (hlo : -0x8000000000000000 ≤ n)
    (hhi : n < 0x8000000000000000) : clamp64 n = n := by
  unfold clamp64
  omega

end StreamPlan.Binary64
