/-!
# Binary64 numbers

A double is read through its sixty-four bits: a sign, an exponent and a
significand.  Sign and magnitude of the bits order the doubles as their numeric
values do, so comparison is a comparison of integers.

Main results:

- `compare?_eq_none_iff`: only a number that is not a number is incomparable.
- `compare?_swap`: comparison can be turned around.
-/

namespace StreamPlan.Binary64

/-! ## The parts of a double -/

/-- A power of two. -/
def twoTo (power : Nat) : Nat := Nat.pow 2 power

/-- A power of ten. -/
def tenTo (power : Nat) : Nat := Nat.pow 10 power

/-- The leading bit of a significand, which the bits of a double leave out. -/
def leadingBit : Nat := 0x10000000000000

/-- The sixty-four bits as a number. -/
def bits (x : Float) : Nat := x.toBits.toNat

/-- The bits below the sign. -/
def magnitude (x : Float) : Nat := bits x % 0x8000000000000000

/-- Whether the sign bit is set. -/
def isNegative (x : Float) : Bool := 0x8000000000000000 ≤ bits x

/-- The magnitude of infinity; everything above it is not a number. -/
def infinityMagnitude : Nat := 0x7FF0000000000000

/-- Whether `x` is not a number. -/
def isNaN (x : Float) : Bool := infinityMagnitude < magnitude x

/-- Whether `x` is a number other than the two infinities. -/
def isFinite (x : Float) : Bool := magnitude x < infinityMagnitude

/-- The integer significand: a finite double is `significand x * 2 ^ exponent x` up to sign. -/
def significand (x : Float) : Nat :=
  let fraction := magnitude x % leadingBit
  if magnitude x / leadingBit = 0 then fraction else fraction + leadingBit

/-- The power of two that scales the significand. -/
def exponent (x : Float) : Int :=
  (max (magnitude x / leadingBit) 1 : Nat) - 1075

/-- The double with these sixty-four bits. -/
def ofBits (n : Nat) : Float := Float.ofBits (UInt64.ofNat n)

/-- Infinity of either sign. -/
def infinity (negative : Bool) : Float :=
  ofBits (if negative then 0x8000000000000000 + infinityMagnitude else infinityMagnitude)

/-- Zero of either sign. -/
def zero (negative : Bool) : Float := ofBits (if negative then 0x8000000000000000 else 0)

/-- `m * 2 ^ e` with a sign, for a value that a double can hold exactly. -/
def ofDyadic (negative : Bool) (m : Nat) (e : Int) : Float :=
  if m = 0 then zero negative
  else
    let top : Int := e + (Nat.log2 m : Nat)
    let unit : Int := max (top - 52) (-1074)
    let scaled := m * twoTo (e - unit).toNat / twoTo (unit - e).toNat
    let field := if scaled < leadingBit then 0 else (unit + 1075).toNat
    let fraction := if scaled < leadingBit then scaled else scaled - leadingBit
    ofBits ((if negative then 0x8000000000000000 else 0) + field * leadingBit + fraction)

/-! ## Order -/

/-- The integer whose order is the numeric order; both zeros have the key 0. -/
def orderKey (x : Float) : Int :=
  if isNegative x then -(magnitude x : Int) else magnitude x

/-- Numeric comparison; nothing when either side is not a number. -/
def compare? (x y : Float) : Option Ordering :=
  if isNaN x || isNaN y then none else some (compare (orderKey x) (orderKey y))

/-- Only a number that is not a number is incomparable. -/
theorem compare?_eq_none_iff {x y : Float} :
    compare? x y = none ↔ isNaN x = true ∨ isNaN y = true := by
  cases hx : isNaN x <;> cases hy : isNaN y <;> simp [compare?, hx, hy]

/-- Comparison of two numbers is comparison of their keys. -/
theorem compare?_of_numbers {x y : Float} (hx : isNaN x = false) (hy : isNaN y = false) :
    compare? x y = some (compare (orderKey x) (orderKey y)) := by
  simp [compare?, hx, hy]

/-- Comparison can be turned around. -/
theorem compare?_swap (x y : Float) : compare? y x = (compare? x y).map Ordering.swap := by
  by_cases h : isNaN x || isNaN y
  · have h' : (isNaN y || isNaN x) = true := by rw [Bool.or_comm]; exact h
    simp [compare?, h, h']
  · have h' : ¬ (isNaN y || isNaN x) = true := by rw [Bool.or_comm]; exact h
    simp only [compare?, h, h', Bool.false_eq_true, if_false, Option.map_some]
    rw [Int.instTransOrd.eq_swap]

end StreamPlan.Binary64
