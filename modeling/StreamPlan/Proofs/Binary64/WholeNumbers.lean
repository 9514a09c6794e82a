import Mathlib.Algebra.Order.Floor.Semifield
import Mathlib.Data.Rat.Floor
import StreamPlan.Binary64.Rounding
import StreamPlan.Proofs.Binary64.RoundingInterval

/-!
# Whole numbers next to a double

The whole part and the nearest integer of a finite double are computed on its significand and
exponent.  Here they are compared with the rational number that the double stands for.  A double of
2 ^ 53 or more is itself an integer, so at the ends of the range of 64-bit integers neither has to
round, and both fit exactly when the double does.

Main results:

- `value`: the rational number that a finite double stands for.
- `isWholePart_withSign`, `isNearest_withSign`: what the integers are to it.
- `exists_nat_eq_size_or_lt`: large doubles are integers.
- `wholePart_fits_iff`, `nearestWhole_fits_iff`: the doubles whose integers fit 64 bits.
- `rounded_of_fits`, `rounded_of_not_fits`: what clamping makes of the nearest integer.
-/

namespace StreamPlan.Binary64

/-! ## Integers next to a rational number -/

/-- The integer is the number with its fraction cut off. -/
def IsWholePart (q : ℚ) (n : ℤ) : Prop := |(n : ℚ)| ≤ |q| ∧ |q| < |(n : ℚ)| + 1 ∧ 0 ≤ n * q

/-- The integer is the nearest one to the number, and of two the one further from zero. -/
def IsNearest (q : ℚ) (n : ℤ) : Prop := |q - n| ≤ 1 / 2 ∧ (|q - n| = 1 / 2 → |q| < |(n : ℚ)|)

/-- The number lies in the range of 64-bit integers. -/
def InRange64 (q : ℚ) : Prop := -0x8000000000000000 ≤ q ∧ q < 0x8000000000000000

/-- An integer is its own whole part. -/
theorem isWholePart_self (n : ℤ) : IsWholePart n n :=
  ⟨le_rfl, lt_add_one _, mul_self_nonneg _⟩

/-- An integer is nearest to itself. -/
theorem isNearest_self (n : ℤ) : IsNearest n n := by
  constructor <;> norm_num

variable (x : Float)

/-! ## The size of a double -/

/-- The rational number that a finite double stands for, without its sign. -/
def size : ℚ := significand x * 2 ^ exponent x

/-- The rational number that a finite double stands for. -/
def value : ℚ := if isNegative x then -size x else size x

/-- The size of a double is a fraction of natural numbers. -/
theorem size_eq_div :
    size x = (significand x * twoTo (exponent x).toNat : ℕ) / (twoTo (-exponent x).toNat : ℕ) := by
  have hscale := zpow_mul_toNat 2 two_ne_zero (exponent x)
  have hpos : ((twoTo (-exponent x).toNat : ℕ) : ℚ) ≠ 0 := by simp [twoTo]
  rw [eq_div_iff hpos]
  simp only [twoTo, Nat.pow_eq, Nat.cast_mul, Nat.cast_pow, Nat.cast_ofNat]
  rw [size, mul_assoc, hscale]

/-- The whole part of a double is that of its size. -/
theorem wholePart_eq_floor : wholePart x = ⌊size x⌋₊ := by
  rw [size_eq_div, Nat.floor_div_eq_div]
  rfl

/-- The nearest integer of a double is that of its size, a half upward. -/
theorem nearestWhole_eq_floor : nearestWhole x = ⌊size x + 1 / 2⌋₊ := by
  have hpos : ((twoTo (-exponent x).toNat : ℕ) : ℚ) ≠ 0 := by simp [twoTo]
  have hhalf : size x + 1 / 2 =
      (2 * significand x * twoTo (exponent x).toNat + twoTo (-exponent x).toNat : ℕ) /
        (2 * twoTo (-exponent x).toNat : ℕ) := by
    rw [size_eq_div]
    push_cast
    field_simp
  rw [hhalf, Nat.floor_div_eq_div]
  rfl

/-- A size is not negative. -/
theorem size_nonneg : 0 ≤ size x := by
  unfold size
  positivity

/-- A double is an integer or less than 2 ^ 53. -/
theorem exists_nat_eq_size_or_lt : (∃ n : ℕ, size x = n) ∨ size x < 0x20000000000000 := by
  rcases le_or_gt 0 (exponent x) with hexponent | hexponent
  · left
    refine ⟨significand x * twoTo (exponent x).toNat, ?_⟩
    have hzero : (-exponent x).toNat = 0 := by omega
    rw [size_eq_div, hzero]
    simp [twoTo]
  · right
    have hpower : (2 : ℚ) ^ exponent x ≤ 1 := zpow_le_one_of_nonpos₀ one_le_two hexponent.le
    have hsignificand : (significand x : ℚ) < 0x20000000000000 := by
      exact_mod_cast significand_lt x
    calc size x ≤ significand x * 1 := by unfold size; gcongr
      _ < 0x20000000000000 := by rwa [mul_one]

/-! ## The integers next to a double -/

/-- An integer with the sign of the double. -/
theorem cast_withSign (n : ℕ) : (withSign x n : ℚ) = if isNegative x then -(n : ℚ) else n := by
  unfold withSign
  split <;> push_cast <;> rfl

/-- The sign does not change how large an integer is. -/
theorem abs_withSign (n : ℕ) : |(withSign x n : ℚ)| = n := by
  rw [cast_withSign]
  split <;> simp

/-- The sign does not change how large a double is. -/
theorem abs_value : |value x| = size x := by
  unfold value
  split <;> simp [abs_of_nonneg (size_nonneg x)]

/-- A double and an integer with its sign are as far apart as their sizes. -/
theorem abs_value_sub_withSign (n : ℕ) : |value x - withSign x n| = |size x - n| := by
  rw [cast_withSign]
  unfold value
  split
  · rw [← abs_neg]
    congr 1
    ring
  · rfl

/-- The whole part of a double, with its sign, is its value without the fraction. -/
theorem isWholePart_withSign : IsWholePart (value x) (withSign x (wholePart x)) := by
  refine ⟨?_, ?_, ?_⟩
  · rw [abs_withSign, abs_value, wholePart_eq_floor]
    exact Nat.floor_le (size_nonneg x)
  · rw [abs_withSign, abs_value, wholePart_eq_floor]
    exact Nat.lt_floor_add_one _
  · have hsize := size_nonneg x
    rw [cast_withSign]
    unfold value
    split
    · rw [neg_mul_neg]
      positivity
    · positivity

/-- The nearest integer of a double, with its sign, is nearest to its value. -/
theorem isNearest_withSign : IsNearest (value x) (withSign x (nearestWhole x)) := by
  have hsize := size_nonneg x
  have hle : (nearestWhole x : ℚ) ≤ size x + 1 / 2 := by
    rw [nearestWhole_eq_floor]
    exact Nat.floor_le (by positivity)
  have hlt : size x + 1 / 2 < nearestWhole x + 1 := by
    rw [nearestWhole_eq_floor]
    exact Nat.lt_floor_add_one _
  refine ⟨?_, fun htie => ?_⟩
  · rw [abs_value_sub_withSign, abs_le]
    constructor <;> linarith
  · rw [abs_value_sub_withSign] at htie
    rw [abs_value, abs_withSign]
    -- Half below the size is ruled out by rounding a half upward.
    rcases abs_eq (by norm_num) |>.1 htie with hbelow | habove <;> linarith

/-! ## The range of 64-bit integers -/

variable {x}

/-- An integer that is as large as a double of 2 ^ 53 or more, and small where the double is less,
fits 64 bits where the double does. -/
theorem withSign_fits_iff {n : ℕ} (hlarge : ∀ m : ℕ, size x = m → n = m)
    (hsmall : size x < 0x20000000000000 → n ≤ 0x20000000000000) :
    (-0x8000000000000000 ≤ withSign x n ∧ withSign x n < 0x8000000000000000) ↔
      InRange64 (value x) := by
  unfold InRange64 withSign value
  have hsize := size_nonneg x
  rcases exists_nat_eq_size_or_lt x with ⟨m, hm⟩ | hlt
  · -- The integer is the double itself, so the bounds are the same ones.
    obtain rfl := hlarge m hm
    rw [hm]
    split <;> norm_cast
  · -- Both are far from the bounds.
    have hn := hsmall hlt
    split
    · exact iff_of_true ⟨by omega, by omega⟩ ⟨by linarith, by linarith⟩
    · exact iff_of_true ⟨by omega, by omega⟩ ⟨by linarith, by linarith⟩

/-- The whole part of a double fits 64 bits where the double does. -/
theorem wholePart_fits_iff :
    (-0x8000000000000000 ≤ withSign x (wholePart x) ∧
      withSign x (wholePart x) < 0x8000000000000000) ↔ InRange64 (value x) := by
  rw [wholePart_eq_floor]
  refine withSign_fits_iff (fun m hm => by rw [hm, Nat.floor_natCast]) fun hlt => ?_
  exact Nat.floor_le_of_le (by exact_mod_cast hlt.le)

/-- The nearest integer of a double fits 64 bits where the double does. -/
theorem nearestWhole_fits_iff :
    (-0x8000000000000000 ≤ withSign x (nearestWhole x) ∧
      withSign x (nearestWhole x) < 0x8000000000000000) ↔ InRange64 (value x) := by
  rw [nearestWhole_eq_floor]
  refine withSign_fits_iff (fun m hm => ?_) fun hlt => ?_
  · rw [hm, Nat.floor_eq_iff (by positivity)]
    constructor <;> linarith
  · refine Nat.lt_succ_iff.1 ((Nat.floor_lt (by have := size_nonneg x; positivity)).2 ?_)
    push_cast
    linarith

/-- The double is finite and in the range of 64-bit integers. -/
def Fits64 (x : Float) : Prop := isFinite x = true ∧ InRange64 (value x)

/-- The 64-bit integer at the end of the range that a double lies on. -/
def limit64 (x : Float) : ℤ := if isNegative x then -0x8000000000000000 else 0x7FFFFFFFFFFFFFFF

/-- A double in range is rounded to its nearest integer. -/
theorem rounded_of_fits (h : Fits64 x) : rounded x = withSign x (nearestWhole x) := by
  have hrange := nearestWhole_fits_iff.2 h.2
  have hnumber : isNaN x = false := by
    have hfinite := h.1
    simp only [isFinite, isNaN, decide_eq_true_eq, decide_eq_false_iff_not] at hfinite ⊢
    omega
  rw [rounded, hnumber, if_neg Bool.false_ne_true, if_pos h.1, clamp64_eq_self hrange.1 hrange.2]

/-- Clamping an integer out of range gives the end of the range on its side. -/
theorem clamp64_withSign {n : ℕ} (h : 0x8000000000000000 ≤ n) :
    clamp64 (withSign x n) = limit64 x := by
  unfold clamp64 withSign limit64
  split <;> omega

/-- What is not a number is rounded to zero, and every other double out of range to the end of the
range on its side. -/
theorem rounded_of_not_fits (h : ¬ Fits64 x) :
    rounded x = if isNaN x then 0 else limit64 x := by
  unfold rounded
  split
  · rfl
  · split
    · -- A finite double out of range has its nearest integer out of range on the same side.
      rename_i hfinite
      have hrange := mt nearestWhole_fits_iff.1 fun hrange => h ⟨hfinite, hrange⟩
      refine clamp64_withSign ?_
      unfold withSign at hrange
      split at hrange <;> omega
    · exact clamp64_withSign le_rfl

/-- The integer that a double is rounded to has at most sixty-four bits. -/
theorem toInt_rounded (x : Float) : (Int64.ofInt (rounded x)).toInt = rounded x := by
  have hrange : -0x8000000000000000 ≤ rounded x ∧ rounded x < 0x8000000000000000 := by
    unfold rounded
    split
    · omega
    · split <;> exact clamp64_mem _
  exact Int64.toInt_ofInt_of_le hrange.1 hrange.2

end StreamPlan.Binary64
