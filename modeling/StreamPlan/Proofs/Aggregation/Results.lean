import StreamPlan.Proofs.Aggregation.ColumnFold
import StreamPlan.Proofs.Aggregation.Extremes
import StreamPlan.Proofs.Aggregation.Sums

/-!
# What an aggregation computes

The slot of a call in an aggregate row is what the call means for the rows of the group: a
number of rows or of known values, the least or greatest known value, or their sum.  It does
not depend on the key of the group nor on the other calls, whether they are there or not.

Main results:

- `AggregateCall.Means`: the meaning of a call on rows.
- `AggregateColumn.means_result`: a column holds what its call means.
- `Aggregator.slotsMean_groupRow`: so do all slots of an aggregate row, each on its own.
-/

namespace StreamPlan

/-! ## The meaning of calls -/

namespace Value

/-- The value is a count, which ends at the largest integer of 64 bits. -/
def IsCount (v : Value) (n : Nat) : Prop :=
  ∃ count : Int64, v = int64 count ∧ count.toInt = min (n : Int) 0x7FFFFFFFFFFFFFFF

/-- The value is null when there are no values, and otherwise one of them that none compares
as wanted with. -/
structure IsExtreme (wanted : Ordering) (values : List Value) (v : Value) : Prop where
  null_iff : v = null ↔ values = []
  best : values ≠ [] → v.IsBest wanted values

/-- The value is null when there are no values, and otherwise their sum: a running sum of
integers in 64 bits, or a sum of doubles. -/
structure IsSum (type : DataType) (values : List Value) (v : Value) : Prop where
  null_iff : v = null ↔ values = []
  integers : type = .int32 ∨ type = .int64 → ∃ numbers : List Int,
    values.map toInt? = numbers.map some ∧
    (values ≠ [] → ∃ sum : Int64, v = int64 sum ∧ sum.toInt = runningSum numbers)
  doubles : type = .float64 → ∃ doubles : List Float, values = doubles.map float64 ∧
    (values ≠ [] → v = float64 (doubles.foldl (· + ·) 0))

end Value

/-- What a call means for the rows of a group.  Only for sums it matters that functions keep
their types and that the rows fit the schema. -/
def AggregateCall.Means (schema : Schema) (functions : Registry) (rows : List Row) (v : Value) :
    AggregateCall → Prop
  | countAll => v.IsCount rows.length
  | count e => ∃ argument, e.compile schema functions = .ok argument ∧
      v.IsCount (argument.known rows).length
  | sum e => ∃ argument, e.compile schema functions = .ok argument ∧
      (functions.KeepsTypes → (∀ row ∈ rows, row.Fits schema) →
        v.IsSum argument.dataType (argument.known rows))
  | min e => ∃ argument, e.compile schema functions = .ok argument ∧
      v.IsExtreme .lt (argument.known rows)
  | max e => ∃ argument, e.compile schema functions = .ok argument ∧
      v.IsExtreme .gt (argument.known rows)

/-- The call takes the value of an expression that compares as wanted with the others. -/
def AggregateCall.Picks (call : AggregateCall) (wanted : Ordering) (e : Expr) : Prop :=
  (call = min e ∧ wanted = .lt) ∨ (call = max e ∧ wanted = .gt)

/-! ## Counts -/

namespace Value

/-- A count goes up by one. -/
theorem isCount_countUp {v : Value} {n : Nat} (h : v.IsCount n) : (countUp v).IsCount (n + 1) := by
  obtain ⟨count, rfl, hcount⟩ := h
  refine ⟨_, rfl, ?_⟩
  change (Int64.ofInt (min (count.toInt + 1) 0x7FFFFFFFFFFFFFFF)).toInt = _
  have hlow := count.le_toInt
  rw [Int64.toInt_ofInt_of_le (by omega) (by omega)]
  omega

/-- A count goes up by one for every input. -/
theorem isCount_foldl_countUp {α : Type} (inputs : List α) {v : Value} {n : Nat}
    (h : v.IsCount n) : (inputs.foldl (fun v _ => countUp v) v).IsCount (n + inputs.length) := by
  induction inputs generalizing v n with
  | nil => exact h
  | cons _ rest ih =>
    have hrest := ih (isCount_countUp h)
    rw [List.length_cons, Nat.add_comm rest.length, ← Nat.add_assoc]
    exact hrest

/-- A count starts at zero. -/
theorem isCount_zero : (int64 0).IsCount 0 := ⟨0, rfl, rfl⟩

/-! ## Extremes and sums -/

variable {values : List Value}

/-- The first value and the better ones that follow leave an extreme. -/
theorem isExtreme_foldl_pick {wanted : Ordering} (hwanted : wanted ≠ .eq)
    (hvalues : ∀ v ∈ values, v ≠ null) :
    (values.foldl (pick wanted) null).IsExtreme wanted values := by
  cases values with
  | nil => exact ⟨iff_of_true rfl rfl, absurd rfl⟩
  | cons first rest =>
    rw [List.foldl_cons, pick_null]
    have hbest := isBest_foldl_pick hwanted
      (fun v hv => hvalues v (List.mem_cons_of_mem _ hv)) (hvalues first List.mem_cons_self)
    exact ⟨iff_of_false (hvalues _ hbest.1) (List.cons_ne_nil _ _), fun _ => hbest⟩

/-- The numbers that follow one another leave their sum. -/
theorem isSum_foldl_addOrKeep {e : Expr} {argument type : DataType}
    (htype : AggregateColumn.typeOf (.sum e) argument = .ok type)
    (hvalues : ∀ v ∈ values, v.dataType = argument) :
    (values.foldl (addOrKeep type) null).IsSum argument values := by
  rcases AggregateColumn.typeOf_sum htype with ⟨hargument, rfl⟩ | ⟨rfl, rfl⟩
  · obtain ⟨numbers, hnumbers⟩ := exists_integers hargument hvalues
    have hsum := foldl_addOrKeep_integers hnumbers
    refine ⟨⟨fun hnull => ?_, fun hempty => by rw [hempty]; rfl⟩,
      fun _ => ⟨numbers, hnumbers, hsum⟩, ?_⟩
    · by_contra hvalues
      obtain ⟨sum, hsum, -⟩ := hsum hvalues
      rw [hnull] at hsum
      cases hsum
    · rintro rfl
      rcases hargument with h | h <;> cases h
  · obtain ⟨doubles, rfl⟩ := exists_doubles hvalues
    have hsum : doubles.map float64 ≠ [] → _ := fun h =>
      foldl_addOrKeep_doubles fun hempty => h (congrArg (List.map float64) hempty)
    refine ⟨⟨fun hnull => ?_, fun hempty => by rw [hempty]; rfl⟩, ?_,
      fun _ => ⟨doubles, rfl, hsum⟩⟩
    · by_contra hvalues
      rw [hsum hvalues] at hnull
      cases hnull
    · rintro (h | h) <;> cases h

end Value

/-! ## Columns -/

namespace AggregateColumn

variable {schema : Schema} {functions : Registry} {column : AggregateColumn}

/-- A column that counts starts at zero and goes up by one for every input. -/
theorem isCount_result (hcall : column.call.isCount = true) (rows : List Row) :
    (column.result rows).IsCount (rows.filterMap column.input?).length := by
  have hinitial : column.initial = .int64 0 := if_pos hcall
  have hcombine : column.combine = fun v _ => countUp v := by
    funext v input
    unfold combine
    cases h : column.call with
    | countAll | count => rfl
    | sum | min | max => simp [h, AggregateCall.isCount] at hcall
  rw [result_eq_foldl_input?, hinitial, hcombine]
  have hcount := Value.isCount_foldl_countUp (rows.filterMap column.input?) Value.isCount_zero
  rw [Nat.zero_add] at hcount
  exact hcount

/-- A column that takes an extreme picks it from the known values of its argument. -/
theorem result_of_picks {item : AggregateItem} (h : compile schema functions item = .ok column)
    {wanted : Ordering} {e : Expr} (hcall : item.call.Picks wanted e) :
    wanted ≠ .eq ∧ ∃ argument, e.compile schema functions = .ok argument ∧
      ∀ rows, column.result rows = (argument.known rows).foldl (pick wanted) .null := by
  have hcolumn := (item_of_compile h).1
  have hargument? : item.call.argument? = some e := by
    rcases hcall with ⟨hcall, -⟩ | ⟨hcall, -⟩ <;> rw [hcall] <;> rfl
  obtain ⟨argument, he, hargument, -⟩ := argument_of_compile h hargument?
  have hcombine : column.combine = pick wanted := by
    funext v input
    rcases hcall with ⟨hcall, rfl⟩ | ⟨hcall, rfl⟩ <;> rw [hcall] at hcolumn <;>
      simp only [combine, hcolumn]
  have hinitial : column.initial = .null := by
    rcases hcall with ⟨hcall, -⟩ | ⟨hcall, -⟩ <;> rw [hcall] at hcolumn <;>
      simp [initial, hcolumn, AggregateCall.isCount]
  refine ⟨?_, argument, he, fun rows => ?_⟩
  · rcases hcall with ⟨-, rfl⟩ | ⟨-, rfl⟩ <;> decide
  · rw [result_eq_foldl_known hargument, hcombine, hinitial]

/-- A column that takes an extreme holds one. -/
theorem isExtreme_result {item : AggregateItem} (h : compile schema functions item = .ok column)
    {wanted : Ordering} {e : Expr} (hcall : item.call.Picks wanted e) (rows : List Row) :
    ∃ argument, e.compile schema functions = .ok argument ∧
      (column.result rows).IsExtreme wanted (argument.known rows) := by
  obtain ⟨hwanted, argument, he, hresult⟩ := result_of_picks h hcall
  refine ⟨argument, he, ?_⟩
  rw [hresult]
  exact Value.isExtreme_foldl_pick hwanted fun v hv => CompiledExpr.ne_null_of_mem_known hv

/-- A compiled column holds what its call means. -/
theorem means_result {item : AggregateItem} (h : compile schema functions item = .ok column)
    (rows : List Row) : item.call.Means schema functions rows (column.result rows) := by
  have hcall := (item_of_compile h).1
  cases hitem : item.call with
  | countAll =>
    rw [hitem] at hcall
    have hnone := argument_eq_none_of_compile h (by rw [hitem]; rfl)
    have hcount := isCount_result (by rw [hcall]; rfl) rows
    rw [input?_of_no_argument hnone, List.filterMap_eq_map', List.length_map] at hcount
    exact hcount
  | count e =>
    rw [hitem] at hcall
    obtain ⟨argument, he, hargument, -⟩ := argument_of_compile h (by rw [hitem]; rfl)
    have hcount := isCount_result (by rw [hcall]; rfl) rows
    rw [input?_of_argument hargument] at hcount
    exact ⟨argument, he, hcount⟩
  | sum e =>
    rw [hitem] at hcall
    obtain ⟨argument, he, hargument, htype⟩ := argument_of_compile h (by rw [hitem]; rfl)
    rw [hitem] at htype
    refine ⟨argument, he, fun hfunctions hrows => ?_⟩
    have hcombine : column.combine = addOrKeep column.type := by
      funext v input
      simp only [combine, hcall, addOrKeep]
    have hinitial : column.initial = .null := by simp [initial, hcall, AggregateCall.isCount]
    rw [result_eq_foldl_known hargument, hcombine, hinitial]
    exact Value.isSum_foldl_addOrKeep htype fun v hv =>
      CompiledExpr.dataType_of_mem_known hfunctions he hrows hv
  | min e => exact isExtreme_result h (Or.inl ⟨hitem, rfl⟩) rows
  | max e => exact isExtreme_result h (Or.inr ⟨hitem, rfl⟩) rows

end AggregateColumn

/-! ## Aggregate rows -/

namespace Aggregator

/-- The aggregate row of a group, from the first row on, with some key column. -/
def groupRow (aggregator : Aggregator) (key : Option AggregateKey)
    (grouped : List (Value × Row)) : Row :=
  foldAll { aggregator with key } aggregator.initial grouped

/-- The slots of an aggregate row hold what the calls mean, each on its own. -/
structure SlotsMean (schema : Schema) (functions : Registry) (items : List AggregateItem)
    (rows : List Row) (aggregate : Row) : Prop where
  /-- There is a slot for the key and one per call. -/
  width : aggregate.width = items.length + 1
  /-- The slot of a call holds what the call means for the rows. -/
  means : ∀ (i : Nat) (item : AggregateItem), items[i]? = some item →
    item.call.Means schema functions rows (aggregate.get (i + 1))
  /-- Some of the calls compile without the others. -/
  fewer : ∀ others, others ⊆ items → ∃ other, compile schema functions others = .ok other
  /-- A call has the same slot with any others, and in a group with another key. -/
  alone : ∀ others other, compile schema functions others = .ok other →
    ∀ key grouped, grouped.map (·.2) = rows →
    ∀ (i j : Nat) (item item' : AggregateItem),
      items[i]? = some item → others[j]? = some item' → item'.call = item.call →
      (other.groupRow key grouped).get (j + 1) = aggregate.get (i + 1)

variable {schema : Schema} {functions : Registry} {items : List AggregateItem}
  {compiled : Aggregator}

/-- The slot of an item in an aggregate row. -/
theorem get_groupRow (key : Option AggregateKey) (grouped : List (Value × Row)) {i : Nat}
    {column : AggregateColumn} (h : compiled.columns[i]? = some column) :
    (compiled.groupRow key grouped).get (i + 1) = column.result (grouped.map (·.2)) :=
  get_foldAll_initial { compiled with key } grouped h

/-- The rows of a group, folded in their order from the first aggregate row on, leave in every
slot what its call means for them. -/
theorem slotsMean_groupRow (h : compile schema functions items = .ok compiled)
    (key : Option AggregateKey) (grouped : List (Value × Row)) :
    SlotsMean schema functions items (grouped.map (·.2)) (compiled.groupRow key grouped) where
  width := by
    obtain ⟨slot, hall⟩ := foldAll_initial { compiled with key } grouped
    have hlength := (columns_of_compile h).length_eq
    rw [groupRow]
    change (foldAll { compiled with key } (initial { compiled with key }) grouped).width = _
    rw [hall]
    simp [Row.width, hlength]
  means i item hitem := by
    obtain ⟨column, hcolumn, hcompiled⟩ := exists_column_of_compile h hitem
    rw [get_groupRow key grouped hcolumn]
    exact AggregateColumn.means_result hcompiled _
  fewer others hsubset := exists_compile_of_subset h hsubset
  alone others other hother key' grouped' hrows i j item item' hitem hitem' hcall := by
    obtain ⟨column, hcolumn, hcompiled⟩ := exists_column_of_compile h hitem
    obtain ⟨column', hcolumn', hcompiled'⟩ := exists_column_of_compile hother hitem'
    rw [get_groupRow key grouped hcolumn, get_groupRow key' grouped' hcolumn', hrows,
      AggregateColumn.result_of_same_call hcompiled hcompiled' hcall]

/-- A number and a measurement. -/
def readings : Schema := ⟨[⟨"N", .int64⟩, ⟨"X", .float64⟩]⟩

/-- One call of each kind. -/
def everyCall : List AggregateItem :=
  [⟨"ROWS", .countAll⟩, ⟨"KNOWN", .count (.column ⟨none, "N"⟩)⟩,
    ⟨"TOTAL", .sum (.column ⟨none, "N"⟩)⟩, ⟨"LEAST", .min (.column ⟨none, "X"⟩)⟩,
    ⟨"MOST", .max (.column ⟨none, "X"⟩)⟩]

/-- Readings with a sum that overflows on the way, and NaN among the measurements. -/
def fourReadings : List (Value × Row) :=
  [(.utf8 "a", ⟨[.int64 0x7FFFFFFFFFFFFFFF, .float64 (Binary64.ofBits 0x4004000000000000)]⟩),
    (.utf8 "a", ⟨[.int64 1, .float64 (Binary64.ofBits 0x7FF8000000000000)]⟩),
    (.utf8 "a", ⟨[.null, .null]⟩),
    (.utf8 "a", ⟨[.int64 (-1), .float64 (Binary64.ofBits 0x3FF8000000000000)]⟩)]

/-- The second number is left out of the sum, and NaN is passed over. -/
theorem slotsMean_fourReadings :
    ∃ compiled, compile readings Registry.builtins everyCall = .ok compiled ∧
      compiled.groupRow none fourReadings =
        ⟨[.utf8 "a", .int64 4, .int64 3, .int64 0x7FFFFFFFFFFFFFFE,
          .float64 (Binary64.ofBits 0x3FF8000000000000),
          .float64 (Binary64.ofBits 0x4004000000000000)]⟩ ∧
      SlotsMean readings Registry.builtins everyCall (fourReadings.map (·.2))
        (compiled.groupRow none fourReadings) ∧
      ∃ argument, (Expr.column ⟨none, "N"⟩).compile readings Registry.builtins = .ok argument ∧
        (Value.int64 0x7FFFFFFFFFFFFFFE).IsSum argument.dataType
          (argument.known (fourReadings.map (·.2))) := by
  obtain ⟨compiled, hcompiled, hrow⟩ : ∃ compiled,
      compile readings Registry.builtins everyCall = .ok compiled ∧
      compiled.groupRow none fourReadings =
        ⟨[.utf8 "a", .int64 4, .int64 3, .int64 0x7FFFFFFFFFFFFFFE,
          .float64 (Binary64.ofBits 0x3FF8000000000000),
          .float64 (Binary64.ofBits 0x4004000000000000)]⟩ :=
    ⟨_, rfl, by decide +kernel⟩
  have hslots := slotsMean_groupRow hcompiled none fourReadings
  obtain ⟨argument, hargument, hsum⟩ := hslots.means 2 _ rfl
  rw [hrow] at hsum
  exact ⟨compiled, hcompiled, hrow, hslots, argument, hargument,
    hsum Registry.keepsTypes_builtins (by decide +kernel)⟩

end Aggregator

end StreamPlan
