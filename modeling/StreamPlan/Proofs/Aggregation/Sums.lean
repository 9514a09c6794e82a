import Mathlib.Algebra.BigOperators.Group.List.Basic
import Mathlib.Algebra.Order.Ring.Int
import Mathlib.Data.Set.List
import StreamPlan.Aggregation

/-!
# Running sums

A sum of integers is kept in 64 bits.  A number that would take it out of that range is left
out, and the sum goes on with the next one, so it may depend on the order of the numbers.

Main results:

- `runningSum_add_leftOut`: the sum and the numbers left out are the exact total.
- `leftOut_eq_nil_iff`: no number is left out when all partial sums stay in the range.
- `leftOut_eq_nil_of_parts`: they do in every order when the positive numbers and the negative
  ones add up within the range.
- `foldl_addOrKeep_integers`, `foldl_addOrKeep_doubles`: what a column of sums holds.
-/

namespace StreamPlan

/-! ## Numbers that are left out -/

/-- The integer is one of those that 64 bits hold. -/
def InWordRange (n : Int) : Prop := -0x8000000000000000 ≤ n ∧ n < 0x8000000000000000

instance (n : Int) : Decidable (InWordRange n) := inferInstanceAs (Decidable (_ ∧ _))

/-- The sum with a further number, or without it when that would leave the range. -/
def addInRange (total n : Int) : Int := if InWordRange (total + n) then total + n else total

/-- The sum of numbers in their order; a number that would leave the range is left out. -/
def runningSum (numbers : List Int) : Int := numbers.foldl addInRange 0

/-- The numbers that are left out when the sum so far is `total`. -/
def leftOut (total : Int) : List Int → List Int
  | [] => []
  | n :: rest =>
    if InWordRange (total + n) then leftOut (total + n) rest else n :: leftOut total rest

variable {total : Int} {numbers : List Int}

/-- What is added and what is left out make up the exact total. -/
theorem foldl_addInRange_add_leftOut (total : Int) (numbers : List Int) :
    numbers.foldl addInRange total + (leftOut total numbers).sum = total + numbers.sum := by
  induction numbers generalizing total with
  | nil => rfl
  | cons n rest ih =>
    rw [List.foldl_cons, leftOut, List.sum_cons]
    by_cases hrange : InWordRange (total + n)
    · have hadd : addInRange total n = total + n := if_pos hrange
      rw [if_pos hrange, hadd, ih]
      omega
    · have hadd : addInRange total n = total := if_neg hrange
      have hrest := ih total
      rw [if_neg hrange, hadd, List.sum_cons]
      omega

/-- A running sum and the numbers it leaves out make up the exact total. -/
theorem runningSum_add_leftOut (numbers : List Int) :
    runningSum numbers + (leftOut 0 numbers).sum = numbers.sum := by
  have hall := foldl_addInRange_add_leftOut 0 numbers
  rw [Int.zero_add] at hall
  exact hall

/-- Nothing is left out exactly when no partial sum leaves the range. -/
theorem leftOut_eq_nil_iff (htotal : InWordRange total) :
    leftOut total numbers = [] ↔
      ∀ first, first <+: numbers → InWordRange (total + first.sum) := by
  induction numbers generalizing total with
  | nil =>
    refine iff_of_true rfl fun first hfirst => ?_
    obtain rfl := List.prefix_nil.1 hfirst
    simpa using htotal
  | cons n rest ih =>
    rw [leftOut]
    by_cases hrange : InWordRange (total + n)
    · rw [if_pos hrange, ih hrange]
      constructor
      · intro hrest first hfirst
        cases first with
        | nil => simpa using htotal
        | cons m more =>
          obtain ⟨rfl, hmore⟩ := List.cons_prefix_cons.1 hfirst
          rw [List.sum_cons, ← Int.add_assoc]
          exact hrest more hmore
      · intro hall more hmore
        have hfirst := hall (n :: more) (List.cons_prefix_cons.2 ⟨rfl, hmore⟩)
        rw [List.sum_cons, ← Int.add_assoc] at hfirst
        exact hfirst
    · rw [if_neg hrange]
      refine iff_of_false (List.cons_ne_nil _ _) fun hall => hrange ?_
      have hfirst := hall [n] (List.cons_prefix_cons.2 ⟨rfl, List.nil_prefix⟩)
      simpa using hfirst

/-- The sum of the positive numbers. -/
def positiveSum (numbers : List Int) : Int := (numbers.filter (0 < ·)).sum

/-- The sum of the negative numbers. -/
def negativeSum (numbers : List Int) : Int := (numbers.filter (· < 0)).sum

/-- The positive and the negative part of a first number. -/
theorem signedSums_cons (n : Int) (rest : List Int) :
    positiveSum (n :: rest) = max n 0 + positiveSum rest ∧
      negativeSum (n :: rest) = min n 0 + negativeSum rest := by
  unfold positiveSum negativeSum
  rcases lt_trichotomy n 0 with hn | rfl | hn
  · simp [hn, Int.le_of_lt hn, Int.lt_asymm hn]
  · simp
  · simp [hn, Int.le_of_lt hn, Int.lt_asymm hn]

/-- Positive numbers add up to no less than zero, and negative ones to no more. -/
theorem signedSums_sign (numbers : List Int) :
    0 ≤ positiveSum numbers ∧ negativeSum numbers ≤ 0 := by
  induction numbers with
  | nil => exact ⟨Int.le_refl 0, Int.le_refl 0⟩
  | cons n rest ih =>
    obtain ⟨hpositive, hnegative⟩ := signedSums_cons n rest
    constructor <;> omega

/-- Nothing is left out when the positive numbers and the negative ones stay in the range on
their own. -/
theorem leftOut_eq_nil_of_parts (hhigh : total + positiveSum numbers < 0x8000000000000000)
    (hlow : -0x8000000000000000 ≤ total + negativeSum numbers) : leftOut total numbers = [] := by
  induction numbers generalizing total with
  | nil => rfl
  | cons n rest ih =>
    obtain ⟨hpositive, hnegative⟩ := signedSums_cons n rest
    obtain ⟨habove, hbelow⟩ := signedSums_sign rest
    have hrange : InWordRange (total + n) := by
      unfold InWordRange
      omega
    rw [leftOut, if_pos hrange]
    apply ih <;> omega

/-- The two parts do not depend on the order of the numbers. -/
theorem signedSums_perm {others : List Int} (h : numbers.Perm others) :
    positiveSum numbers = positiveSum others ∧ negativeSum numbers = negativeSum others :=
  ⟨(h.filter _).sum_eq, (h.filter _).sum_eq⟩

/-! ## Sums of values -/

/-- The value of a sum with a further value, or the one so far when that does not fit. -/
def addOrKeep (type : DataType) (current input : Value) : Value :=
  (addTo? type current input).getD current

/-- An integer is added to a sum of integers when the sum stays in the range. -/
theorem addOrKeep_int64 {input : Value} {n : Int} (hinput : input.toInt? = some n) (s : Int64) :
    ∃ t : Int64, addOrKeep .int64 (.int64 s) input = .int64 t ∧ t.toInt = addInRange s.toInt n := by
  have hsum : addTo? .int64 (.int64 s) input = (Word.int64? (s.toInt + n)).map .int64 := by
    rw [addTo?, if_neg (by decide), hinput]
    rfl
  rw [addOrKeep, hsum]
  by_cases hrange : InWordRange (s.toInt + n)
  · have hword : Word.int64? (s.toInt + n) = some (Int64.ofInt (s.toInt + n)) := if_pos hrange
    refine ⟨Int64.ofInt (s.toInt + n), by rw [hword]; rfl, ?_⟩
    rw [Word.int64?_eq_some_iff.1 hword]
    exact (if_pos hrange).symm
  · have hword : Word.int64? (s.toInt + n) = none := if_neg hrange
    exact ⟨s, by rw [hword]; rfl, (if_neg hrange).symm⟩

/-- Integers are added one by one, in 64 bits. -/
theorem foldl_addOrKeep_int64 {values : List Value} {numbers : List Int}
    (h : values.map Value.toInt? = numbers.map some) (s : Int64) :
    ∃ t : Int64, values.foldl (addOrKeep .int64) (.int64 s) = .int64 t ∧
      t.toInt = numbers.foldl addInRange s.toInt := by
  induction values generalizing numbers s with
  | nil =>
    obtain rfl := List.map_eq_nil_iff.1 h.symm
    exact ⟨s, rfl, rfl⟩
  | cons input rest ih =>
    obtain ⟨n, others, rfl, hn, hothers⟩ := List.map_eq_cons_iff.1 h.symm
    obtain ⟨first, hfirst, hsum⟩ := addOrKeep_int64 hn.symm s
    obtain ⟨t, ht, htotal⟩ := ih hothers.symm first
    refine ⟨t, ?_, ?_⟩
    · rw [List.foldl_cons, hfirst, ht]
    · rw [List.foldl_cons, htotal, hsum]

/-- An integer value is an integer of 64 bits. -/
theorem inWordRange_of_toInt? {v : Value} {n : Int} (h : v.toInt? = some n) : InWordRange n := by
  unfold InWordRange
  cases v with
  | int32 m =>
    obtain rfl := Option.some.inj h
    have hlow := m.le_toInt
    have hhigh := m.toInt_lt
    omega
  | int64 m =>
    obtain rfl := Option.some.inj h
    exact ⟨m.le_toInt, m.toInt_lt⟩
  | null | boolean | float64 | utf8 | time => cases h

/-- Values of the integer types are integers. -/
theorem exists_integers {type : DataType} (htype : type = .int32 ∨ type = .int64)
    {values : List Value} (hvalues : ∀ v ∈ values, v.dataType = type) :
    ∃ numbers : List Int, values.map Value.toInt? = numbers.map some := by
  have hrange : values.map Value.toInt? ∈ Set.range (List.map some) := by
    rw [Set.range_list_map]
    intro n? hn?
    obtain ⟨v, hv, rfl⟩ := List.mem_map.1 hn?
    have hv' := hvalues v hv
    cases v with
    | int32 n | int64 n => exact ⟨n.toInt, rfl⟩
    | null | boolean | float64 | utf8 | time => rcases htype with rfl | rfl <;> cases hv'
  obtain ⟨numbers, hnumbers⟩ := hrange
  exact ⟨numbers, hnumbers.symm⟩

/-- Values of the type of doubles are doubles. -/
theorem exists_doubles {values : List Value} (hvalues : ∀ v ∈ values, v.dataType = .float64) :
    ∃ doubles : List Float, values = doubles.map .float64 := by
  have hrange : values ∈ Set.range (List.map Value.float64) := by
    rw [Set.range_list_map]
    intro v hv
    have hv' := hvalues v hv
    cases v with
    | float64 x => exact ⟨x, rfl⟩
    | null | boolean | int32 | int64 | utf8 | time => cases hv'
  obtain ⟨doubles, hdoubles⟩ := hrange
  exact ⟨doubles, hdoubles.symm⟩

/-- Before the first integer the sum is as good as zero. -/
theorem addOrKeep_int64_null {input : Value} {n : Int} (hinput : input.toInt? = some n) :
    addOrKeep .int64 .null input = addOrKeep .int64 (.int64 0) input := by
  have hword : Word.int64? (0 + n) = some (Int64.ofInt (0 + n)) := by
    apply if_pos
    rw [Int.zero_add]
    exact inWordRange_of_toInt? hinput
  have hsum : addTo? .int64 .null input = some (.int64 (Int64.ofInt (0 + n))) := by
    rw [addTo?, if_neg (by decide), hinput]
    exact congrArg (Option.map Value.int64) hword
  have hzero : addTo? .int64 (.int64 0) input = addTo? .int64 .null input := rfl
  rw [addOrKeep, addOrKeep, hzero, hsum]
  rfl

/-- The sum of integers that come one after another. -/
theorem foldl_addOrKeep_integers {values : List Value} {numbers : List Int}
    (h : values.map Value.toInt? = numbers.map some) (hvalues : values ≠ []) :
    ∃ t : Int64, values.foldl (addOrKeep .int64) .null = .int64 t ∧
      t.toInt = runningSum numbers := by
  cases values with
  | nil => exact absurd rfl hvalues
  | cons input rest =>
    obtain ⟨n, others, rfl, hn, -⟩ := List.map_eq_cons_iff.1 h.symm
    rw [List.foldl_cons, addOrKeep_int64_null hn.symm]
    exact foldl_addOrKeep_int64 h 0

/-- Doubles are added one by one. -/
theorem foldl_addOrKeep_float64 (doubles : List Float) (x : Float) :
    (doubles.map Value.float64).foldl (addOrKeep .float64) (.float64 x) =
      .float64 (doubles.foldl (· + ·) x) := by
  induction doubles generalizing x with
  | nil => rfl
  | cons y rest ih => exact ih (x + y)

/-- The sum of doubles that come one after another. -/
theorem foldl_addOrKeep_doubles {doubles : List Float} (h : doubles ≠ []) :
    (doubles.map Value.float64).foldl (addOrKeep .float64) .null =
      .float64 (doubles.foldl (· + ·) 0) := by
  cases doubles with
  | nil => exact absurd rfl h
  | cons x rest => exact foldl_addOrKeep_float64 rest (0 + x)

end StreamPlan
