import StreamPlan.Proofs.Aggregation.Results

/-!
# The order in which rows arrive

Counts do not depend on the order of the rows of a group.  Least and greatest values depend on
it only through NaN: a NaN that comes first is kept, and one that comes later is passed over.

Main results:

- `agrees_foldl_pick_iff`: when two orders of the same values leave the same extreme.
- `Aggregator.slots_agree_iff`: the same for the slots of aggregate rows.
- `Aggregator.exists_order_matters`: doubles with a NaN among them, in two orders.
-/

namespace StreamPlan

/-! ## Values in two orders -/

namespace Value

variable {values others : List Value} {wanted : Ordering} {a b : Value}

/-- The values are the same, or both are NaN. -/
def Agrees (a b : Value) : Prop := a.sameAs b = true ∨ (a.IsNaN ∧ b.IsNaN)

instance (a b : Value) : Decidable (a.Agrees b) := inferInstanceAs (Decidable (_ ∨ _))

/-- The first of the values is NaN. -/
def StartsWithNaN (values : List Value) : Prop := ∃ v, values.head? = some v ∧ v.IsNaN

/-- NaN comes first exactly when the first value is NaN. -/
@[simp] theorem startsWithNaN_cons {v : Value} : StartsWithNaN (v :: values) ↔ v.IsNaN := by
  simp [StartsWithNaN]

/-- Without values there is no NaN. -/
@[simp] theorem not_startsWithNaN_nil : ¬ StartsWithNaN [] := by
  simp [StartsWithNaN]

instance (values : List Value) : Decidable (StartsWithNaN values) :=
  match values with
  | [] => isFalse not_startsWithNaN_nil
  | v :: _ => decidable_of_iff v.IsNaN startsWithNaN_cons.symm

/-- Without NaN among the values none comes first. -/
theorem not_startsWithNaN (h : ∀ v ∈ values, ¬ v.IsNaN) : ¬ StartsWithNaN values := by
  rintro ⟨v, hhead, hnan⟩
  exact h v (List.mem_of_head? hhead) hnan

/-- Values that are the same are not NaN. -/
theorem not_isNaN_of_sameAs (h : a.sameAs b = true) : ¬ a.IsNaN ∧ ¬ b.IsNaN := by
  unfold sameAs at h
  split at h
  · exact ⟨fun hnan => hnan.ne_null rfl, fun hnan => hnan.ne_null rfl⟩
  · have hcompare := notNaN_of_compare? (eq_of_beq h)
    exact ⟨notNaN_iff.1 hcompare.1, notNaN_iff.1 hcompare.2⟩

/-- What is picked is NaN exactly when NaN came first. -/
theorem isNaN_foldl_pick_iff (wanted : Ordering) (hvalues : ∀ v ∈ values, v ≠ null) :
    (values.foldl (pick wanted) null).IsNaN ↔ StartsWithNaN values := by
  cases values with
  | nil => exact iff_of_false (fun hnan => hnan.ne_null rfl) not_startsWithNaN_nil
  | cons first rest =>
    rw [List.foldl_cons, pick_null, startsWithNaN_cons]
    by_cases hfirst : first.IsNaN
    · rw [foldl_pick_of_isNaN hfirst]
    · have hkept := notNaN_foldl_pick wanted
        (fun v hv => hvalues v (List.mem_cons_of_mem _ hv)) (hvalues first List.mem_cons_self)
        (notNaN_iff.2 hfirst)
      exact iff_of_false (notNaN_iff.1 hkept) hfirst

/-- Two best values of one type that are not NaN are the same. -/
theorem sameAs_of_isBest {type : DataType} (hwanted : wanted ≠ .eq)
    (hvalues : ∀ v ∈ values, v ≠ null ∧ v.dataType = type) (ha : a.IsBest wanted values)
    (hb : b.IsBest wanted values) (hanan : ¬ a.IsNaN) (hbnan : ¬ b.IsNaN) :
    a.sameAs b = true := by
  obtain ⟨hnull, htype⟩ := hvalues a ha.1
  have hsame : a.dataType = b.dataType := by rw [htype, (hvalues b hb.1).2]
  exact sameAs_of_not_strict hsame hnull (notNaN_iff.2 hanan) (notNaN_iff.2 hbnan) hwanted
    (hb.2 a ha.1) (ha.2 b hb.1)

/-- Two orders of the same values leave extremes that agree exactly when NaN comes first in
both or in neither. -/
theorem agrees_foldl_pick_iff {type : DataType} (hwanted : wanted ≠ .eq)
    (hvalues : ∀ v ∈ values, v ≠ null ∧ v.dataType = type) (hperm : values.Perm others) :
    Agrees (values.foldl (pick wanted) null) (others.foldl (pick wanted) null) ↔
      (StartsWithNaN values ↔ StartsWithNaN others) := by
  have hfirst : ∀ v ∈ values, v ≠ null := fun v hv => (hvalues v hv).1
  have hsecond : ∀ v ∈ others, v ≠ null := fun v hv => hfirst v (hperm.mem_iff.2 hv)
  rw [← isNaN_foldl_pick_iff wanted hfirst,
    ← isNaN_foldl_pick_iff wanted hsecond]
  constructor
  · rintro (hsame | ⟨hfirst, hsecond⟩)
    · obtain ⟨ha, hb⟩ := not_isNaN_of_sameAs hsame
      exact iff_of_false ha hb
    · exact iff_of_true hfirst hsecond
  · intro hiff
    by_cases hnan : (values.foldl (pick wanted) null).IsNaN
    · exact Or.inr ⟨hnan, hiff.1 hnan⟩
    · left
      by_cases hempty : values = []
      · subst hempty
        obtain rfl := List.nil_perm.1 hperm
        rfl
      · have hother : others ≠ [] := fun h => hempty (List.perm_nil.1 (h ▸ hperm))
        have ha := (isExtreme_foldl_pick hwanted hfirst).best hempty
        obtain ⟨hmem, hbest⟩ := (isExtreme_foldl_pick hwanted hsecond).best hother
        have hb : IsBest wanted values (others.foldl (pick wanted) null) :=
          ⟨hperm.mem_iff.2 hmem, fun v hv => hbest v (hperm.mem_iff.1 hv)⟩
        exact sameAs_of_isBest hwanted hvalues ha hb hnan fun h => hnan (hiff.2 h)

end Value

/-! ## Slots -/

/-- What a call leaves of the same rows in two orders: the same count, and the same extreme
unless NaN comes first in just one of the orders. -/
structure AggregateCall.Reordered (schema : Schema) (functions : Registry)
    (rows others : List Row) (call : AggregateCall) (a b : Value) : Prop where
  count : call.isCount = true → a = b
  extreme : ∀ wanted e, call.Picks wanted e →
    ∃ argument, e.compile schema functions = .ok argument ∧
      (a.Agrees b ↔
        (Value.StartsWithNaN (argument.known rows) ↔
          Value.StartsWithNaN (argument.known others))) ∧
      (argument.dataType ≠ .float64 → a.Agrees b) ∧
      ((∀ v ∈ argument.known rows, ¬ v.IsNaN) → a.Agrees b)

namespace AggregateColumn

variable {schema : Schema} {functions : Registry} {column : AggregateColumn}

/-- There are as many inputs of rows in another order. -/
theorem result_eq_of_perm (hcall : column.call.isCount = true) {rows others : List Row}
    (hperm : rows.Perm others) : column.result rows = column.result others := by
  obtain ⟨count, hcount, hrows⟩ := isCount_result hcall rows
  obtain ⟨count', hcount', hothers⟩ := isCount_result hcall others
  rw [(hperm.filterMap column.input?).length_eq, ← hothers, Int64.toInt_inj] at hrows
  rw [hcount, hcount', hrows]

/-- A column and the same rows in two orders. -/
theorem reordered_result (hfunctions : functions.KeepsTypes) {item : AggregateItem}
    (h : compile schema functions item = .ok column) {rows others : List Row}
    (hrows : ∀ row ∈ rows, row.Fits schema) (hperm : rows.Perm others) :
    item.call.Reordered schema functions rows others (column.result rows)
      (column.result others) where
  count hcall := result_eq_of_perm (by rw [(item_of_compile h).1, hcall]) hperm
  extreme wanted e hcall := by
    obtain ⟨hwanted, argument, he, hresult⟩ := result_of_picks h hcall
    have hknown : ∀ v ∈ argument.known rows, v ≠ .null ∧ v.dataType = argument.dataType :=
      fun v hv => ⟨CompiledExpr.ne_null_of_mem_known hv,
        CompiledExpr.dataType_of_mem_known hfunctions he hrows hv⟩
    have hknown_perm := CompiledExpr.known_perm (e := argument) hperm
    have hagrees := Value.agrees_foldl_pick_iff hwanted hknown hknown_perm
    have hnumbers : (∀ v ∈ argument.known rows, ¬ v.IsNaN) →
        (column.result rows).Agrees (column.result others) := by
      intro hnumbers
      rw [hresult, hresult]
      exact hagrees.2 (iff_of_false (Value.not_startsWithNaN hnumbers)
        (Value.not_startsWithNaN fun v hv => hnumbers v (hknown_perm.mem_iff.2 hv)))
    refine ⟨argument, he, ?_, fun htype => hnumbers fun v hv hnan => ?_, hnumbers⟩
    · rw [hresult, hresult]
      exact hagrees
    · rw [← (hknown v hv).2] at htype
      exact htype hnan.dataType_eq

end AggregateColumn

namespace Aggregator

variable {schema : Schema} {functions : Registry} {items : List AggregateItem}
  {compiled : Aggregator}

/-- The rows of a group in two orders leave the same counts, and the same extremes unless NaN
comes first in just one of the orders. -/
theorem slots_agree_iff (h : compile schema functions items = .ok compiled)
    (hfunctions : functions.KeepsTypes) (key : Option AggregateKey)
    {grouped regrouped : List (Value × Row)} (hrows : ∀ pair ∈ grouped, pair.2.Fits schema)
    (hperm : (grouped.map (·.2)).Perm (regrouped.map (·.2))) {i : Nat} {item : AggregateItem}
    (hitem : items[i]? = some item) :
    item.call.Reordered schema functions (grouped.map (·.2)) (regrouped.map (·.2))
      ((compiled.groupRow key grouped).get (i + 1))
      ((compiled.groupRow key regrouped).get (i + 1)) := by
  obtain ⟨column, hcolumn, hcompiled⟩ := exists_column_of_compile h hitem
  rw [get_groupRow key grouped hcolumn, get_groupRow key regrouped hcolumn]
  exact AggregateColumn.reordered_result hfunctions hcompiled (List.forall_mem_map.2 hrows) hperm

/-- A column of doubles. -/
def measurements : Schema := ⟨[⟨"X", .float64⟩]⟩

/-- The least of the doubles. -/
def leastMeasurement : List AggregateItem := [⟨"LEAST", .min (.column ⟨none, "X"⟩)⟩]

/-- A group of rows with the doubles of these bits. -/
def measured (bits : List Nat) : List (Value × Row) :=
  bits.map fun n => (.utf8 "a", ⟨[.float64 (Binary64.ofBits n)]⟩)

/-- The two zeros with NaN between them. -/
def nanBetweenZeros : List (Value × Row) := measured [0, 0x7FF8000000000000, 0x8000000000000000]

/-- The zeros the other way round, and NaN last. -/
def nanBehindZeros : List (Value × Row) := measured [0x8000000000000000, 0, 0x7FF8000000000000]

/-- One, and then NaN. -/
def nanSecond : List (Value × Row) := measured [0x3FF0000000000000, 0x7FF8000000000000]

/-- NaN, and then one. -/
def nanFirst : List (Value × Row) := measured [0x7FF8000000000000, 0x3FF0000000000000]

/-- The two zeros agree, and NaN behind either of them is passed over. -/
theorem slots_agree_zeros :
    ∃ compiled, compile measurements Registry.builtins leastMeasurement = .ok compiled ∧
      (compiled.groupRow none nanBetweenZeros).get 1 = .float64 (Binary64.ofBits 0) ∧
      (compiled.groupRow none nanBehindZeros).get 1 =
        .float64 (Binary64.ofBits 0x8000000000000000) ∧
      (Value.float64 (Binary64.ofBits 0)).Agrees
        (.float64 (Binary64.ofBits 0x8000000000000000)) := by
  obtain ⟨compiled, argument, hcompiled, hargument, hfirst, hsecond, hneither⟩ :
      ∃ compiled argument,
        compile measurements Registry.builtins leastMeasurement = .ok compiled ∧
        (Expr.column ⟨none, "X"⟩).compile measurements Registry.builtins = .ok argument ∧
        (compiled.groupRow none nanBetweenZeros).get 1 = .float64 (Binary64.ofBits 0) ∧
        (compiled.groupRow none nanBehindZeros).get 1 =
          .float64 (Binary64.ofBits 0x8000000000000000) ∧
        (Value.StartsWithNaN (argument.known (nanBetweenZeros.map (·.2))) ↔
          Value.StartsWithNaN (argument.known (nanBehindZeros.map (·.2)))) :=
    ⟨_, _, rfl, rfl, by decide +kernel, by decide +kernel, by decide +kernel⟩
  have hperm : (nanBetweenZeros.map (·.2)).Perm (nanBehindZeros.map (·.2)) := by decide +kernel
  have hitem : leastMeasurement[0]? = some ⟨"LEAST", .min (.column ⟨none, "X"⟩)⟩ := rfl
  have hreordered := slots_agree_iff hcompiled Registry.keepsTypes_builtins none
    (by decide +kernel) hperm hitem
  obtain ⟨other, hother, hagrees, -, -⟩ := hreordered.extreme .lt _ (Or.inl ⟨rfl, rfl⟩)
  obtain rfl := Except.ok.inj (hargument.symm.trans hother)
  rw [hfirst, hsecond] at hagrees
  exact ⟨compiled, hcompiled, hfirst, hsecond, hagrees.2 hneither⟩

/-- Two rows of which one holds NaN leave the other value as the least when it comes first, and
NaN when that comes first. -/
theorem exists_order_matters :
    ∃ compiled, compile measurements Registry.builtins leastMeasurement = .ok compiled ∧
      (nanSecond.map (·.2)).Perm (nanFirst.map (·.2)) ∧
      (∀ pair ∈ nanSecond, pair.2.Fits measurements) ∧
      (compiled.groupRow none nanSecond).get 1 = .float64 (Binary64.ofBits 0x3FF0000000000000) ∧
      (compiled.groupRow none nanFirst).get 1 = .float64 (Binary64.ofBits 0x7FF8000000000000) ∧
      ¬ (Value.float64 (Binary64.ofBits 0x3FF0000000000000)).Agrees
        (.float64 (Binary64.ofBits 0x7FF8000000000000)) :=
  ⟨_, rfl, by decide +kernel, by decide +kernel, by decide +kernel, by decide +kernel,
    by decide +kernel⟩

end Aggregator

end StreamPlan
