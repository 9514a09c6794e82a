import StreamPlan.Proofs.Aggregation.Results

/-!
# When sums of integers are exact

A sum of integers goes without the numbers that would take it out of 64 bits, and is short of
the exact total by just those.  Whether there are any depends on the order of the rows, even
when the total itself is in the range.

Main results:

- `runningSum_eq_sum_of_prefixes`, `runningSum_eq_sum_of_parts`: sums that leave nothing out.
- `Aggregator.sum_add_leftOut`: the slot of a sum and what it leaves out make up the total.
- `Aggregator.exists_sum_ne_total`: an exact total in the range that is missed.
-/

namespace StreamPlan

/-! ## Numbers -/

/-- The positive numbers and the negative ones add up within 64 bits, each on their own. -/
def PartsInRange (numbers : List Int) : Prop :=
  positiveSum numbers < 0x8000000000000000 ∧ -0x8000000000000000 ≤ negativeSum numbers

instance (numbers : List Int) : Decidable (PartsInRange numbers) :=
  inferInstanceAs (Decidable (_ ∧ _))

variable {numbers others : List Int}

/-- A sum that leaves nothing out is exact. -/
theorem runningSum_eq_sum_iff (numbers : List Int) :
    runningSum numbers = numbers.sum ↔ (leftOut 0 numbers).sum = 0 := by
  have htotal := runningSum_add_leftOut numbers
  omega

/-- A sum is exact when no partial sum leaves the range. -/
theorem runningSum_eq_sum_of_prefixes
    (h : ∀ first, first <+: numbers → InWordRange first.sum) :
    runningSum numbers = numbers.sum := by
  have hnone : leftOut 0 numbers = [] :=
    (leftOut_eq_nil_iff (by decide)).2 fun first hfirst => by
      rw [Int.zero_add]
      exact h first hfirst
  rw [runningSum_eq_sum_iff, hnone]
  rfl

/-- A sum is exact when the positive and the negative part stay in the range. -/
theorem runningSum_eq_sum_of_parts (h : PartsInRange numbers) :
    runningSum numbers = numbers.sum := by
  have hnone : leftOut 0 numbers = [] := by
    apply leftOut_eq_nil_of_parts <;> rw [Int.zero_add]
    · exact h.1
    · exact h.2
  rw [runningSum_eq_sum_iff, hnone]
  rfl

/-- The parts are those of the numbers in any order. -/
theorem PartsInRange.perm (h : PartsInRange numbers) (hperm : numbers.Perm others) :
    PartsInRange others := by
  obtain ⟨hpositive, hnegative⟩ := signedSums_perm hperm
  unfold PartsInRange
  rw [← hpositive, ← hnegative]
  exact h

/-- In that case the sum is the same in every order. -/
theorem runningSum_eq_of_perm (h : PartsInRange numbers) (hperm : numbers.Perm others) :
    runningSum others = runningSum numbers := by
  rw [runningSum_eq_sum_of_parts h, runningSum_eq_sum_of_parts (h.perm hperm), hperm.sum_eq]

/-! ## Slots -/

/-- The numbers that an expression gives on rows, when its known values are integers. -/
def CompiledExpr.NumbersOn (e : CompiledExpr) (rows : List Row) (numbers : List Int) : Prop :=
  (e.known rows).map Value.toInt? = numbers.map some

/-- Rows in another order give the same numbers in another order. -/
theorem CompiledExpr.NumbersOn.perm {e : CompiledExpr} {rows rows' : List Row}
    (h : e.NumbersOn rows numbers) (h' : e.NumbersOn rows' others) (hperm : rows.Perm rows') :
    numbers.Perm others := by
  have hknown := (known_perm (e := e) hperm).map Value.toInt?
  rw [NumbersOn] at h h'
  rw [h, h'] at hknown
  exact (List.map_perm_map_iff (Option.some_injective Int)).1 hknown

variable {schema : Schema} {functions : Registry}

/-- A column of sums over integers holds their running sum. -/
theorem AggregateColumn.exists_sum_result {column : AggregateColumn} {item : AggregateItem}
    (h : compile schema functions item = .ok column) (hfunctions : functions.KeepsTypes)
    {e : Expr} (hcall : item.call = .sum e) {argument : CompiledExpr}
    (he : e.compile schema functions = .ok argument)
    (htype : argument.dataType = .int32 ∨ argument.dataType = .int64) {rows : List Row}
    (hrows : ∀ row ∈ rows, row.Fits schema) (hknown : argument.known rows ≠ []) :
    ∃ (numbers : List Int) (sum : Int64), argument.NumbersOn rows numbers ∧
      column.result rows = .int64 sum ∧ sum.toInt = runningSum numbers := by
  have hmeans := means_result h rows
  rw [hcall] at hmeans
  obtain ⟨other, hother, hsum⟩ := hmeans
  obtain rfl := Except.ok.inj (he.symm.trans hother)
  obtain ⟨numbers, hnumbers, hresult⟩ := (hsum hfunctions hrows).integers htype
  obtain ⟨sum, hsum⟩ := hresult hknown
  exact ⟨numbers, sum, hnumbers, hsum⟩

/-- It holds the same after the rows in another order when the positive and the negative numbers
stay in the range. -/
theorem AggregateColumn.sum_result_of_perm {column : AggregateColumn} {item : AggregateItem}
    (h : compile schema functions item = .ok column) (hfunctions : functions.KeepsTypes)
    {e : Expr} (hcall : item.call = .sum e) {argument : CompiledExpr}
    (he : e.compile schema functions = .ok argument)
    (htype : argument.dataType = .int32 ∨ argument.dataType = .int64) {rows rows' : List Row}
    (hrows : ∀ row ∈ rows, row.Fits schema) (hknown : argument.known rows ≠ [])
    {numbers : List Int} (hnumbers : argument.NumbersOn rows numbers)
    (hparts : PartsInRange numbers) (hperm : rows.Perm rows') :
    column.result rows' = column.result rows := by
  have hrows' : ∀ row ∈ rows', row.Fits schema := fun row hrow =>
    hrows row (hperm.mem_iff.2 hrow)
  have hknown' : argument.known rows' ≠ [] := by
    intro hempty
    exact hknown (List.perm_nil.1 (hempty ▸ CompiledExpr.known_perm hperm))
  obtain ⟨others, sum, hothers, hresult, hsum⟩ :=
    exists_sum_result h hfunctions hcall he htype hrows hknown
  obtain ⟨others', sum', hothers', hresult', hsum'⟩ :=
    exists_sum_result h hfunctions hcall he htype hrows' hknown'
  have hsame : runningSum others = runningSum others' := by
    rw [runningSum_eq_of_perm hparts (hnumbers.perm hothers (List.Perm.refl rows)),
      runningSum_eq_of_perm hparts (hnumbers.perm hothers' hperm)]
  rw [← hsum, ← hsum', Int64.toInt_inj] at hsame
  rw [hresult, hresult', hsame]

namespace Aggregator

variable {items : List AggregateItem} {compiled : Aggregator}

/-- The slot of a sum over integers and the numbers it leaves out make up the exact total.  So
it is the total when no partial sum leaves the range, and in whatever order the rows arrive
when the positive and the negative numbers stay in the range on their own. -/
theorem sum_add_leftOut (h : compile schema functions items = .ok compiled)
    (hfunctions : functions.KeepsTypes) (key : Option AggregateKey)
    {grouped : List (Value × Row)} (hrows : ∀ pair ∈ grouped, pair.2.Fits schema) {i : Nat}
    {item : AggregateItem} (hitem : items[i]? = some item) {e : Expr} (hcall : item.call = .sum e)
    {argument : CompiledExpr} (he : e.compile schema functions = .ok argument)
    (htype : argument.dataType = .int32 ∨ argument.dataType = .int64)
    (hknown : argument.known (grouped.map (·.2)) ≠ []) :
    ∃ (numbers : List Int) (sum : Int64), argument.NumbersOn (grouped.map (·.2)) numbers ∧
      (compiled.groupRow key grouped).get (i + 1) = .int64 sum ∧
      sum.toInt + (leftOut 0 numbers).sum = numbers.sum ∧
      (sum.toInt = numbers.sum ↔ (leftOut 0 numbers).sum = 0) ∧
      ((∀ first, first <+: numbers → InWordRange first.sum) → sum.toInt = numbers.sum) ∧
      (PartsInRange numbers → sum.toInt = numbers.sum ∧
        ∀ key regrouped, (grouped.map (·.2)).Perm (regrouped.map (·.2)) →
          (compiled.groupRow key regrouped).get (i + 1) = .int64 sum) := by
  have hfits : ∀ row ∈ grouped.map (·.2), row.Fits schema := List.forall_mem_map.2 hrows
  obtain ⟨column, hcolumn, hcompiled⟩ := exists_column_of_compile h hitem
  obtain ⟨numbers, sum, hnumbers, hresult, hsum⟩ :=
    AggregateColumn.exists_sum_result hcompiled hfunctions hcall he htype hfits hknown
  refine ⟨numbers, sum, hnumbers, ?_, ?_, ?_, ?_, fun hparts => ⟨?_, ?_⟩⟩
  · rw [get_groupRow key grouped hcolumn, hresult]
  · rw [hsum]
    exact runningSum_add_leftOut numbers
  · rw [hsum]
    exact runningSum_eq_sum_iff numbers
  · intro hprefixes
    rw [hsum]
    exact runningSum_eq_sum_of_prefixes hprefixes
  · rw [hsum]
    exact runningSum_eq_sum_of_parts hparts
  · intro key' regrouped hperm
    rw [get_groupRow key' regrouped hcolumn, AggregateColumn.sum_result_of_perm hcompiled
      hfunctions hcall he htype hfits hknown hnumbers hparts hperm, hresult]

/-- A column of 64-bit integers. -/
def quantities : Schema := ⟨[⟨"N", .int64⟩]⟩

/-- The sum of the integers. -/
def totalQuantity : List AggregateItem := [⟨"TOTAL", .sum (.column ⟨none, "N"⟩)⟩]

/-- A group of rows with these integers. -/
def counted (numbers : List Int64) : List (Value × Row) :=
  numbers.map fun n => (.utf8 "a", ⟨[.int64 n]⟩)

/-- Integers whose sum goes up to the end of the range and back. -/
def upToTheEnd : List (Value × Row) := counted [0x7FFFFFFFFFFFFFFE, 1, -1]

/-- Integers whose sum would go beyond the end of the range and back. -/
def beyondTheEnd : List (Value × Row) := counted [0x7FFFFFFFFFFFFFFF, 1, -1]

/-- A sum that reaches the end of the range is exact as long as it does not leave it. -/
theorem sum_add_leftOut_toTheEnd :
    ∃ compiled, compile quantities Registry.builtins totalQuantity = .ok compiled ∧
      (compiled.groupRow none upToTheEnd).get 1 = .int64 0x7FFFFFFFFFFFFFFE ∧
      ∀ key regrouped, (upToTheEnd.map (·.2)).Perm (regrouped.map (·.2)) →
        (compiled.groupRow key regrouped).get 1 = .int64 0x7FFFFFFFFFFFFFFE := by
  obtain ⟨compiled, argument, hcompiled, he, htype, hslot, hknown⟩ :
      ∃ compiled argument,
        compile quantities Registry.builtins totalQuantity = .ok compiled ∧
        (Expr.column ⟨none, "N"⟩).compile quantities Registry.builtins = .ok argument ∧
        argument.dataType = .int64 ∧
        (compiled.groupRow none upToTheEnd).get 1 = .int64 0x7FFFFFFFFFFFFFFE ∧
        argument.known (upToTheEnd.map (·.2)) =
          [.int64 0x7FFFFFFFFFFFFFFE, .int64 1, .int64 (-1)] :=
    ⟨_, _, rfl, rfl, rfl, by decide +kernel, by decide +kernel⟩
  have hrows : ∀ pair ∈ upToTheEnd, pair.2.Fits quantities := by decide +kernel
  have hitem : totalQuantity[0]? = some ⟨"TOTAL", .sum (.column ⟨none, "N"⟩)⟩ := rfl
  obtain ⟨numbers, sum, hnumbers, hsum, -, -, -, hparts⟩ :=
    sum_add_leftOut hcompiled Registry.keepsTypes_builtins none hrows hitem rfl he
      (Or.inr htype) (by rw [hknown]; exact List.cons_ne_nil _ _)
  have hlist : numbers = [0x7FFFFFFFFFFFFFFE, 1, -1] := by
    rw [CompiledExpr.NumbersOn, hknown] at hnumbers
    apply (Option.some_injective Int).list_map
    rw [← hnumbers]
    decide
  obtain ⟨-, horders⟩ := hparts (by rw [hlist]; decide)
  rw [← hsum, hslot] at horders
  exact ⟨compiled, hcompiled, hslot, horders⟩

/-- The total of these integers is the largest of the range, but the second one would leave it
and is left out. -/
theorem exists_sum_ne_total :
    ∃ compiled argument, compile quantities Registry.builtins totalQuantity = .ok compiled ∧
      (Expr.column ⟨none, "N"⟩).compile quantities Registry.builtins = .ok argument ∧
      (∀ pair ∈ beyondTheEnd, pair.2.Fits quantities) ∧
      argument.NumbersOn (beyondTheEnd.map (·.2)) [0x7FFFFFFFFFFFFFFF, 1, -1] ∧
      InWordRange ([0x7FFFFFFFFFFFFFFF, 1, -1] : List Int).sum ∧
      (compiled.groupRow none beyondTheEnd).get 1 = .int64 0x7FFFFFFFFFFFFFFE ∧
      (0x7FFFFFFFFFFFFFFE : Int64).toInt ≠ ([0x7FFFFFFFFFFFFFFF, 1, -1] : List Int).sum :=
  ⟨_, _, rfl, rfl, by decide +kernel, by unfold CompiledExpr.NumbersOn; decide +kernel, by decide,
    by decide +kernel, by decide⟩

end Aggregator

end StreamPlan
