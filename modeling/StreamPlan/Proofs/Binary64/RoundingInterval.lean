import Mathlib.Algebra.Order.Field.Power
import Mathlib.Tactic.Linarith
import Mathlib.Tactic.Ring
import StreamPlan.Binary64.Shortest

/-!
# Rounding intervals

What a finite double stands for among the reals is an interval around its value.  The
shortest decimal of a double lies in its interval: a grid of seventeen digits is finer than
the interval, so one of the value's neighbours on it is inside.  The intervals of doubles of
different magnitude have no point in common: neighbouring intervals meet at one point, and of
two neighbouring doubles one has an odd significand and leaves that point out.

Main results:

- `Interval.mem_iff_contains`: the test on integers, said of rational numbers.
- `Interval.exists_neighbour?`: a fine grid has a neighbour of the middle in the interval.
- `contains_shortest`: the shortest decimal lies in the interval.
- `magnitude_eq_of_contains`: an interval belongs to one magnitude.
-/

namespace StreamPlan.Binary64

/-- The rational number that a decimal writes. -/
def Decimal.value (decimal : Decimal) : ℚ := decimal.digits * (10 : ℚ) ^ decimal.power

/-- The point lies in the interval. -/
def Interval.Contains (i : Interval) (v : ℚ) : Prop :=
  if i.closed then i.low * (2 : ℚ) ^ i.unit ≤ v ∧ v ≤ i.high * (2 : ℚ) ^ i.unit
  else i.low * (2 : ℚ) ^ i.unit < v ∧ v < i.high * (2 : ℚ) ^ i.unit

/-! ## Grids -/

/-- A power with an exponent of either sign, on both sides of a fraction. -/
theorem zpow_mul_toNat (base : ℚ) (h : base ≠ 0) (power : Int) :
    base ^ power * base ^ (-power).toNat = base ^ power.toNat := by
  rw [← zpow_natCast, ← zpow_natCast, ← zpow_add₀ h]
  congr 1
  omega

/-- Numerator and denominator of a grid are a power of two and one of ten on one scale. -/
theorem exists_scale (unit power : Int) :
    ∃ scale : ℚ, 0 < scale ∧ (gridNum unit power : ℚ) = scale * 2 ^ unit ∧
      (gridDen unit power : ℚ) = scale * 10 ^ power := by
  refine ⟨2 ^ (-unit).toNat * 10 ^ (-power).toNat, by positivity, ?_, ?_⟩
  · have htwo := zpow_mul_toNat 2 two_ne_zero unit
    simp only [gridNum, twoTo, tenTo, Nat.pow_eq, Nat.cast_mul, Nat.cast_pow, Nat.cast_ofNat]
    rw [← htwo]
    ring
  · have hten := zpow_mul_toNat 10 (by norm_num) power
    simp only [gridDen, twoTo, tenTo, Nat.pow_eq, Nat.cast_mul, Nat.cast_pow, Nat.cast_ofNat]
    rw [← hten]
    ring

variable {unit power : Int} {a d : Nat}

/-- Integers on a grid are ordered as the numbers they stand for. -/
theorem mul_gridNum_le_iff :
    a * gridNum unit power ≤ d * gridDen unit power ↔ (a * 2 ^ unit : ℚ) ≤ d * 10 ^ power := by
  obtain ⟨scale, hscale, hnum, hden⟩ := exists_scale unit power
  rw [← Nat.cast_le (α := ℚ), Nat.cast_mul, Nat.cast_mul, hnum, hden, mul_left_comm,
    mul_left_comm (d : ℚ), mul_le_mul_iff_right₀ hscale]

/-- Integers on a grid are ordered as the numbers they stand for. -/
theorem mul_gridDen_le_iff :
    d * gridDen unit power ≤ a * gridNum unit power ↔ (d * 10 ^ power : ℚ) ≤ a * 2 ^ unit := by
  obtain ⟨scale, hscale, hnum, hden⟩ := exists_scale unit power
  rw [← Nat.cast_le (α := ℚ), Nat.cast_mul, Nat.cast_mul, hnum, hden, mul_left_comm,
    mul_left_comm (a : ℚ), mul_le_mul_iff_right₀ hscale]

/-- The test on integers, said of rational numbers. -/
theorem Interval.mem_iff_contains {i : Interval} :
    i.mem power d = true ↔ i.Contains (d * 10 ^ power) := by
  unfold mem Contains
  rcases hclosed : i.closed with _ | _
  · simp only [Bool.false_eq_true, if_false, Bool.and_eq_true, decide_eq_true_eq,
      ← not_le, mul_gridNum_le_iff, mul_gridDen_le_iff]
  · simp only [if_true, Bool.and_eq_true, decide_eq_true_eq, mul_gridNum_le_iff,
      mul_gridDen_le_iff]

/-- A point strictly between the ends lies in the interval. -/
theorem Interval.contains_of_lt {i : Interval} {v : ℚ} (hlow : i.low * (2 : ℚ) ^ i.unit < v)
    (hhigh : v < i.high * (2 : ℚ) ^ i.unit) : i.Contains v := by
  unfold Contains
  split
  · exact ⟨hlow.le, hhigh.le⟩
  · exact ⟨hlow, hhigh⟩

/-- Between two neighbours on a grid that is finer than the interval is wide, one lies in
the interval. -/
theorem Interval.mem_or_mem_succ {i : Interval} (hlow : i.low ≤ i.mid) (hhigh : i.mid < i.high)
    (hfine : (10 : ℚ) ^ power < (i.high - i.low) * 2 ^ i.unit)
    (hbelow : (d * 10 ^ power : ℚ) ≤ i.mid * 2 ^ i.unit)
    (habove : (i.mid * 2 ^ i.unit : ℚ) < (d + 1 : ℕ) * 10 ^ power) :
    i.mem power d = true ∨ i.mem power (d + 1) = true := by
  have htwo : (0 : ℚ) < 2 ^ i.unit := by positivity
  have hlow' : (i.low * 2 ^ i.unit : ℚ) ≤ i.mid * 2 ^ i.unit := by gcongr
  have hhigh' : (i.mid * 2 ^ i.unit : ℚ) < i.high * 2 ^ i.unit := by gcongr
  rw [mem_iff_contains, mem_iff_contains]
  rcases lt_or_ge (i.low * 2 ^ i.unit : ℚ) (d * 10 ^ power) with hin | hout
  · exact Or.inl (contains_of_lt hin (hbelow.trans_lt hhigh'))
  · -- The step from the lower neighbour does not reach the upper end.
    have hstep : ((d + 1 : ℕ) * 10 ^ power : ℚ) = d * 10 ^ power + 10 ^ power := by
      push_cast
      ring
    refine Or.inr (contains_of_lt (hlow'.trans_lt habove) ?_)
    calc ((d + 1 : ℕ) * 10 ^ power : ℚ)
        = d * 10 ^ power + 10 ^ power := hstep
      _ < i.low * 2 ^ i.unit + (i.high - i.low) * 2 ^ i.unit := add_lt_add_of_le_of_lt hout hfine
      _ = i.high * 2 ^ i.unit := by ring

/-- The denominator of a grid is positive. -/
theorem gridDen_pos (unit power : Int) : 0 < gridDen unit power := by
  unfold gridDen twoTo tenTo
  exact Nat.mul_pos (Nat.pow_pos (by decide)) (Nat.pow_pos (by decide))

/-- A grid finer than the interval has a neighbour of the middle in it. -/
theorem Interval.exists_neighbour? {i : Interval} (tie : Tie) (hlow : i.low ≤ i.mid)
    (hhigh : i.mid < i.high) (hfine : (10 : ℚ) ^ power < (i.high - i.low) * 2 ^ i.unit) :
    ∃ d, i.neighbour? tie power = some d := by
  have hbelow := mul_gridDen_le_iff.1
    (Nat.div_mul_le_self (i.mid * gridNum i.unit power) (gridDen i.unit power))
  have hsucc := Nat.lt_mul_div_succ (i.mid * gridNum i.unit power) (gridDen_pos i.unit power)
  rw [Nat.mul_comm (gridDen i.unit power)] at hsucc
  have habove := lt_of_not_ge (mul_gridDen_le_iff.not.1 (Nat.not_le_of_gt hsucc))
  unfold neighbour?
  dsimp only
  rcases mem_or_mem_succ hlow hhigh hfine hbelow habove with h | h
  · rw [h]
    split <;> simp_all
  · rw [h]
    split <;> simp_all

/-! ## Seventeen digits -/

/-- The digits of a number are enough to bound it. -/
theorem lt_tenTo_digitCount (n : Nat) : n < 10 ^ digitCount n :=
  (Nat.length_toDigits_le_iff (by decide) Nat.length_toDigits_pos).1 le_rfl

/-- A positive number has no more digits than it needs. -/
theorem tenTo_digitCount_le {n : Nat} (hn : 0 < n) : 10 ^ (digitCount n - 1) ≤ n := by
  rcases Nat.eq_zero_or_pos (digitCount n - 1) with hzero | hpos
  · rw [hzero]
    exact hn
  · have hnot : ¬ digitCount n ≤ digitCount n - 1 := by omega
    exact Nat.le_of_not_lt fun hlt =>
      hnot ((Nat.length_toDigits_le_iff (by decide) hpos).2 hlt)

/-- The power of the leading digit of a fraction does not exceed the fraction. -/
theorem leadingPower_le {num den : Nat} (hnum : 0 < num) (hden : 0 < den) :
    (10 : ℚ) ^ leadingPower num den ≤ num / den := by
  have hden' : (0 : ℚ) < den := by exact_mod_cast hden
  unfold leadingPower
  split
  · rename_i hle
    have hquotient : 0 < num / den := Nat.div_pos hle hden
    have hdigits : 0 < digitCount (num / den) := Nat.length_toDigits_pos
    have hpower : ((digitCount (num / den) : Int) - 1) = (digitCount (num / den) - 1 : Nat) := by
      omega
    rw [hpower, zpow_natCast, le_div_iff₀ hden']
    have hbound := Nat.mul_le_of_le_div _ _ _ (tenTo_digitCount_le hquotient)
    exact_mod_cast hbound
  · -- Rounded up, the inverse of the fraction has a power of ten above it.
    have hbound : den ≤ num * 10 ^ digitCount ((den + num - 1) / num - 1) := by
      have hlt := lt_tenTo_digitCount ((den + num - 1) / num - 1)
      have hup : (den + num - 1) / num ≤ 10 ^ digitCount ((den + num - 1) / num - 1) := by omega
      have hsucc := Nat.lt_mul_div_succ (den + num - 1) hnum
      have hmul := Nat.mul_le_mul_left num hup
      rw [Nat.mul_add] at hsucc
      omega
    rw [zpow_neg, zpow_natCast, le_div_iff₀ hden', inv_mul_le_iff₀ (by positivity)]
    rw [Nat.mul_comm] at hbound
    exact_mod_cast hbound

variable {x y : Float}

/-- Only zero has no significand. -/
theorem significand_pos (hx : magnitude x ≠ 0) : 0 < significand x := by
  unfold significand
  dsimp only
  split
  · rename_i hfield
    have hlt : magnitude x < leadingBit := (Nat.div_eq_zero_iff_lt (by decide)).1 hfield
    rw [Nat.mod_eq_of_lt hlt]
    exact Nat.pos_of_ne_zero hx
  · exact Nat.add_pos_right _ (by decide)

/-- A significand has at most fifty-three bits. -/
theorem significand_lt (x : Float) : significand x < 2 * leadingBit := by
  have hfraction : magnitude x % leadingBit < leadingBit := Nat.mod_lt _ (by decide)
  unfold significand
  dsimp only
  split <;> omega

/-- The middle of an interval is less than its width with sixteen more digits. -/
theorem mid_around_lt (x : Float) :
    ((Interval.around x).mid : ℚ) <
      ((Interval.around x).high - (Interval.around x).low) * 10 ^ 16 := by
  have hlt := significand_lt x
  have hleading : leadingBit = 0x10000000000000 := rfl
  have hnat : (Interval.around x).mid + (Interval.around x).low * 10 ^ 16 <
      (Interval.around x).high * 10 ^ 16 := by
    unfold Interval.around
    dsimp only
    split <;> omega
  have hcast : ((Interval.around x).mid : ℚ) + (Interval.around x).low * 10 ^ 16 <
      (Interval.around x).high * 10 ^ 16 := by exact_mod_cast hnat
  linarith

/-- The middle of an interval as a rational number. -/
theorem mid_div_eq (i : Interval) :
    ((i.mid * gridNum i.unit 0 : Nat) : ℚ) / gridDen i.unit 0 = i.mid * 2 ^ i.unit := by
  obtain ⟨scale, hscale, hnum, hden⟩ := exists_scale i.unit 0
  rw [Nat.cast_mul, hnum, hden, zpow_zero, mul_one, mul_left_comm]
  exact mul_div_cancel_left₀ _ hscale.ne'

/-- A numerator of a grid is positive. -/
theorem gridNum_pos (unit power : Int) : 0 < gridNum unit power := by
  unfold gridNum twoTo tenTo
  exact Nat.mul_pos (Nat.pow_pos (by decide)) (Nat.pow_pos (by decide))

/-- A grid of seventeen digits is finer than the interval. -/
theorem seventeen_digits_fine (hx : magnitude x ≠ 0) {leading : Int}
    (hleading : leading = leadingPower
      ((Interval.around x).mid * gridNum (Interval.around x).unit 0)
      (gridDen (Interval.around x).unit 0)) :
    (10 : ℚ) ^ (leading - 16) <
      ((Interval.around x).high - (Interval.around x).low) * 2 ^ (Interval.around x).unit := by
  have hmid : 0 < (Interval.around x).mid := Nat.mul_pos (by decide) (significand_pos hx)
  have hle := leadingPower_le
    (Nat.mul_pos hmid (gridNum_pos (Interval.around x).unit 0))
    (gridDen_pos (Interval.around x).unit 0)
  rw [← hleading, mid_div_eq] at hle
  have htwo : (0 : ℚ) < 2 ^ (Interval.around x).unit := by positivity
  have hwide := mul_lt_mul_of_pos_right (mid_around_lt x) htwo
  rw [zpow_sub₀ (by norm_num)]
  rw [div_lt_iff₀ (by positivity)]
  calc (10 : ℚ) ^ leading ≤ (Interval.around x).mid * 2 ^ (Interval.around x).unit := hle
    _ < ((Interval.around x).high - (Interval.around x).low) * 10 ^ 16 *
        2 ^ (Interval.around x).unit := hwide
    _ = ((Interval.around x).high - (Interval.around x).low) * 2 ^ (Interval.around x).unit *
        10 ^ (16 : Int) := by
      rw [show (10 : ℚ) ^ (16 : Int) = 10 ^ 16 by norm_num]
      ring

/-- The shortest decimal of a double lies in its interval. -/
theorem contains_shortest (tie : Tie) (hx : magnitude x ≠ 0) :
    (Interval.around x).Contains (shortest tie x).value := by
  have hlow : (Interval.around x).low ≤ (Interval.around x).mid := Nat.sub_le _ _
  have hhigh : (Interval.around x).mid < (Interval.around x).high := by
    simp only [Interval.around]
    omega
  obtain ⟨d, hd⟩ := Interval.exists_neighbour? tie hlow hhigh (seventeen_digits_fine hx rfl)
  unfold Decimal.value
  rw [← Interval.mem_iff_contains]
  unfold shortest
  dsimp only
  rcases hfound : List.findSome? _ (List.range 17) with _ | decimal
  · -- The search reaches seventeen digits.
    have hnone := List.findSome?_eq_none_iff.1 hfound 16 (by decide)
    simp [hd] at hnone
  · obtain ⟨count, -, hcount⟩ := List.exists_of_findSome?_eq_some hfound
    obtain ⟨digits, hdigits, rfl⟩ := Option.map_eq_some_iff.1 hcount
    exact Interval.mem_neighbour hdigits

/-! ## Neighbouring magnitudes -/

/-- The interval of the doubles of magnitude `m`. -/
def Interval.ofMagnitude (m : Nat) : Interval :=
  let field := m / leadingBit
  let fraction := m % leadingBit
  let whole := if field = 0 then fraction else fraction + leadingBit
  let power : Int := (max field 1 : Nat) - 1075
  let below := if whole = leadingBit ∧ -1074 < power then 1 else 2
  { low := 4 * whole - below, mid := 4 * whole, high := 4 * whole + 2
    closed := whole % 2 == 0, unit := power - 2 }

/-- The interval of a double is that of its magnitude. -/
theorem Interval.around_eq (x : Float) : around x = ofMagnitude (magnitude x) := rfl

/-- The lower end of an interval. -/
def Interval.bottom (i : Interval) : ℚ := i.low * 2 ^ i.unit

/-- The upper end of an interval. -/
def Interval.top (i : Interval) : ℚ := i.high * 2 ^ i.unit

/-- A point of the interval lies above the lower end, or on it if the interval is closed. -/
theorem Interval.Contains.bottom_le {i : Interval} {v : ℚ} (h : i.Contains v) :
    i.bottom ≤ v ∧ (v = i.bottom → i.closed = true) := by
  unfold Contains at h
  split at h
  · rename_i hclosed
    exact ⟨h.1, fun _ => hclosed⟩
  · exact ⟨h.1.le, fun heq => absurd heq.symm h.1.ne⟩

/-- A point of the interval lies below the upper end, or on it if the interval is closed. -/
theorem Interval.Contains.le_top {i : Interval} {v : ℚ} (h : i.Contains v) :
    v ≤ i.top ∧ (v = i.top → i.closed = true) := by
  unfold Contains at h
  split at h
  · rename_i hclosed
    exact ⟨h.2, fun _ => hclosed⟩
  · exact ⟨h.2.le, fun heq => absurd heq h.2.ne⟩

/-- The next magnitude has the next fraction, or it begins the next power of two. -/
theorem succ_fraction_or_carry (m : Nat) :
    (m % leadingBit + 1 < leadingBit ∧ (m + 1) / leadingBit = m / leadingBit ∧
      (m + 1) % leadingBit = m % leadingBit + 1) ∨
    (m % leadingBit = leadingBit - 1 ∧ (m + 1) / leadingBit = m / leadingBit + 1 ∧
      (m + 1) % leadingBit = 0) := by
  unfold leadingBit
  omega

/-- Neighbouring intervals meet. -/
theorem Interval.bottom_succ (m : Nat) : (ofMagnitude (m + 1)).bottom = (ofMagnitude m).top := by
  have hleading : leadingBit = 0x10000000000000 := rfl
  unfold bottom top ofMagnitude
  dsimp only
  obtain ⟨hlt, hfield, hfraction⟩ | ⟨hrest, hfield, hfraction⟩ := succ_fraction_or_carry m
  · rw [hfield, hfraction]
    generalize m % leadingBit = fraction at hlt
    have hbelow : ¬ ((if m / leadingBit = 0 then fraction + 1 else fraction + 1 + leadingBit) =
        leadingBit ∧ -1074 < ((max (m / leadingBit) 1 : Nat) : Int) - 1075) := by
      rintro ⟨heq, -⟩
      split at heq <;> omega
    have hends : 4 * (if m / leadingBit = 0 then fraction + 1 else fraction + 1 + leadingBit) - 2 =
        4 * (if m / leadingBit = 0 then fraction else fraction + leadingBit) + 2 := by
      split <;> omega
    rw [if_neg hbelow, hends]
  · rw [hfield, hfraction, hrest]
    rcases Nat.eq_zero_or_pos (m / leadingBit) with hzero | hpos
    · rw [hzero]
      norm_num [leadingBit]
    · -- The interval above is twice as wide, but reaches half as far down.
      generalize m / leadingBit = field at hpos
      have hpower : -1074 < ((field + 1 : Nat) : Int) - 1075 := by omega
      have hunit : ((field + 1 : Nat) : Int) - 1075 - 2 = ((field : Int) - 1075 - 2) + 1 := by
        omega
      rw [Nat.max_eq_left (Nat.succ_pos field), Nat.max_eq_left hpos, if_neg hpos.ne',
        if_neg (Nat.succ_ne_zero field), if_pos ⟨Nat.zero_add _, hpower⟩, hunit,
        zpow_add₀ two_ne_zero, zpow_one]
      norm_num [leadingBit]
      ring

/-- The lower end of an interval lies below the upper end. -/
theorem Interval.bottom_lt_top (m : Nat) : (ofMagnitude m).bottom < (ofMagnitude m).top := by
  have hnat : (ofMagnitude m).low < (ofMagnitude m).high := by
    unfold ofMagnitude
    dsimp only
    omega
  unfold bottom top
  gcongr

/-- The upper ends of the intervals are ordered as the magnitudes. -/
theorem Interval.top_strictMono : StrictMono fun m => (ofMagnitude m).top :=
  strictMono_nat_of_lt_succ fun m => bottom_succ m ▸ bottom_lt_top (m + 1)

/-- The closed intervals are those of the even magnitudes. -/
theorem Interval.closed_iff_even (m : Nat) : (ofMagnitude m).closed = true ↔ m % 2 = 0 := by
  unfold ofMagnitude leadingBit
  rw [beq_iff_eq]
  split <;> omega

/-- Intervals of different magnitudes have no point in common. -/
theorem Interval.not_contains_of_lt {m n : Nat} {v : ℚ} (hlt : m < n)
    (hm : (ofMagnitude m).Contains v) : ¬ (ofMagnitude n).Contains v := by
  intro hn
  obtain ⟨before, rfl⟩ : ∃ before, n = before + 1 := ⟨n - 1, by omega⟩
  have htop := hm.le_top
  have hbottom := hn.bottom_le
  rw [bottom_succ] at hbottom
  rcases Nat.lt_or_ge m before with hfar | hnear
  · exact absurd (hbottom.1.trans htop.1) (not_le_of_gt (top_strictMono hfar))
  · -- The intervals meet at the point, and one of them leaves it out.
    obtain rfl : before = m := by omega
    have heq := le_antisymm htop.1 hbottom.1
    have heven := (closed_iff_even _).1 (htop.2 heq)
    have hodd := (closed_iff_even _).1 (hbottom.2 heq)
    omega

/-- A point lies in the interval of one magnitude. -/
theorem magnitude_eq_of_contains {v : ℚ} (hx : (Interval.around x).Contains v)
    (hy : (Interval.around y).Contains v) : magnitude x = magnitude y := by
  rw [Interval.around_eq] at hx hy
  rcases Nat.lt_trichotomy (magnitude x) (magnitude y) with hlt | heq | hlt
  · exact absurd hy (Interval.not_contains_of_lt hlt hx)
  · exact heq
  · exact absurd hx (Interval.not_contains_of_lt hlt hy)

/-- The shortest decimal of a double that is not zero is positive. -/
theorem shortest_value_pos (tie : Tie) (hx : magnitude x ≠ 0) : 0 < (shortest tie x).value := by
  have hcontains := contains_shortest tie hx
  have hlow : 0 < (Interval.around x).low := by
    have hpos := significand_pos hx
    unfold Interval.around
    dsimp only
    split <;> omega
  have hbottom : 0 < (Interval.around x).bottom := by
    unfold Interval.bottom
    positivity
  exact hbottom.trans_le hcontains.bottom_le.1

/-- The shortest decimal determines the magnitude. -/
theorem magnitude_eq_of_shortest {tie tie' : Tie} (hx : magnitude x ≠ 0) (hy : magnitude y ≠ 0)
    (h : (shortest tie x).value = (shortest tie' y).value) : magnitude x = magnitude y :=
  magnitude_eq_of_contains (contains_shortest tie hx) (h ▸ contains_shortest tie' hy)

end StreamPlan.Binary64
