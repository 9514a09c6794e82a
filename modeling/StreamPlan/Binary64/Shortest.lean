import StreamPlan.Binary64.Basic

/-!
# Shortest decimals

The decimal with the fewest digits that reads back as a given double, and of
those the nearest one.

A finite double `m * 2 ^ q` is what every real number of an interval rounds to.
In quarters of `2 ^ q` the interval reaches from `4 * m - 2` to `4 * m + 2`, or
from `4 * m - 1` where the next double below is half as far; its ends belong to it
when `m` is even.  The value's two neighbours on the grid of `n` digits are tested
for `n = 1, 2, …`; the first grid with a neighbour inside the interval wins.

Main results:

- `shortest`: digits and power of ten.
- `Interval.mem_neighbour`: a chosen grid point lies in the interval.
-/

namespace StreamPlan.Binary64

/-- The decimal `digits * 10 ^ power`. -/
structure Decimal where
  digits : Nat
  power : Int
deriving DecidableEq, Repr

/-- Which of two equally near decimals is taken. -/
inductive Tie where
  | up
  | even
deriving DecidableEq, Repr

/-- The reals between `low * 2 ^ unit` and `high * 2 ^ unit`, around `mid * 2 ^ unit`. -/
structure Interval where
  low : Nat
  mid : Nat
  high : Nat
  closed : Bool
  unit : Int

/-- The reals that round to the finite double `x`, up to sign. -/
def Interval.around (x : Float) : Interval :=
  let m := significand x
  let below := if m = leadingBit ∧ -1074 < exponent x then 1 else 2
  { low := 4 * m - below, mid := 4 * m, high := 4 * m + 2
    closed := m % 2 == 0, unit := exponent x - 2 }

/-- Numerator of `2 ^ unit / 10 ^ power`. -/
def gridNum (unit power : Int) : Nat := twoTo unit.toNat * tenTo (-power).toNat

/-- Denominator of `2 ^ unit / 10 ^ power`. -/
def gridDen (unit power : Int) : Nat := twoTo (-unit).toNat * tenTo power.toNat

/-- Whether `d * 10 ^ power` lies in the interval. -/
def Interval.mem (i : Interval) (power : Int) (d : Nat) : Bool :=
  let point := d * gridDen i.unit power
  let low := i.low * gridNum i.unit power
  let high := i.high * gridNum i.unit power
  if i.closed then low ≤ point && point ≤ high else low < point && point < high

/-- The nearest multiple of `10 ^ power` to the middle, if a neighbour of the middle
on that grid lies in the interval. -/
def Interval.neighbour? (i : Interval) (tie : Tie) (power : Int) : Option Nat :=
  let num := i.mid * gridNum i.unit power
  let den := gridDen i.unit power
  let down := num / den
  let rest := 2 * (num % den)
  let upNearer := den < rest || (den == rest && (tie == .up || down % 2 == 1))
  match i.mem power down, i.mem power (down + 1) with
  | true, true => some (if upNearer then down + 1 else down)
  | true, false => some down
  | false, true => some (down + 1)
  | false, false => none

/-- A chosen grid point lies in the interval. -/
theorem Interval.mem_neighbour {i : Interval} {tie : Tie} {power : Int} {d : Nat}
    (h : i.neighbour? tie power = some d) : i.mem power d = true := by
  unfold Interval.neighbour? at h
  revert h
  dsimp only
  split
  · rename_i hd hu
    intro h
    obtain rfl := Option.some.inj h
    split
    · exact hu
    · exact hd
  · rename_i hd _
    intro h
    obtain rfl := Option.some.inj h
    exact hd
  · rename_i _ hu
    intro h
    obtain rfl := Option.some.inj h
    exact hu
  · intro h
    cases h

/-- The number of decimal digits of `n`. -/
def digitCount (n : Nat) : Nat := (Nat.toDigits 10 n).length

/-- The decimal exponent of the leading digit of `num / den`. -/
def leadingPower (num den : Nat) : Int :=
  if den ≤ num then (digitCount (num / den) : Int) - 1
  else -(digitCount ((den + num - 1) / num - 1) : Int)

/-- The fewest digits that read back as the finite nonzero double `x`, up to sign,
and of those the nearest; seventeen digits always suffice. -/
def shortest (tie : Tie) (x : Float) : Decimal :=
  let i := Interval.around x
  let leading := leadingPower (i.mid * gridNum i.unit 0) (gridDen i.unit 0)
  let found := (List.range 17).findSome? fun (count : Nat) =>
    let power := leading - (count : Int)
    (i.neighbour? tie power).map fun d => Decimal.mk d power
  found.getD ⟨i.mid * gridNum i.unit 0 / gridDen i.unit 0, 0⟩

end StreamPlan.Binary64
