import StreamPlan.Aggregation
import StreamPlan.Proofs.Value.Order

/-!
# Least and greatest values

A least or greatest value is kept while further ones come in: a value takes its place when it
compares as wanted with it.  NaN compares with nothing, so it is kept when it came first and
is passed over when it comes later.

Main results:

- `pick_eq_or_better`, `foldl_pick_eq_or_better`: what is kept is the first value or better.
- `isBest_foldl_pick`: what is kept is one of the values, and none is better.
- `foldl_pick_of_isNaN`, `notNaN_foldl_pick`: NaN is kept exactly when it came first.
-/

namespace StreamPlan

open Value

/-- The value is one of those in the list, and none of them compares as wanted with it. -/
def Value.IsBest (wanted : Ordering) (values : List Value) (v : Value) : Prop :=
  v ∈ values ∧ ∀ other ∈ values, other.compare? v ≠ some wanted

variable {wanted : Ordering} {current input : Value}

/-- A value that is kept stays as it is or gives way to a better one. -/
theorem pick_eq_or_better (wanted : Ordering) (hcurrent : current ≠ .null) (input : Value) :
    (pick wanted current input = current ∧ input.compare? current ≠ some wanted) ∨
      (pick wanted current input = input ∧ input.compare? current = some wanted) := by
  unfold pick
  rw [isNull_eq_false hcurrent, Bool.false_or]
  by_cases hbetter : input.compare? current = some wanted
  · right
    simp [hbetter]
  · left
    simp [hbetter]

/-- The first value that is not null is kept. -/
@[simp] theorem pick_null (wanted : Ordering) (input : Value) :
    pick wanted .null input = input := by
  simp [pick, isNull]

/-- Null is never picked in place of a value. -/
theorem pick_ne_null (wanted : Ordering) (hcurrent : current ≠ .null) (hinput : input ≠ .null) :
    pick wanted current input ≠ .null := by
  rcases pick_eq_or_better wanted hcurrent input with ⟨hkept, -⟩ | ⟨hpicked, -⟩
  · rw [hkept]
    exact hcurrent
  · rw [hpicked]
    exact hinput

/-- After further values, what is kept is the first one or better. -/
theorem foldl_pick_eq_or_better (wanted : Ordering) {values : List Value}
    (hvalues : ∀ v ∈ values, v ≠ .null) (hcurrent : current ≠ .null) :
    values.foldl (pick wanted) current = current ∨
      (values.foldl (pick wanted) current).compare? current = some wanted := by
  induction values generalizing current with
  | nil => exact Or.inl rfl
  | cons input rest ih =>
    rw [List.foldl_cons]
    have hrest : ∀ v ∈ rest, v ≠ .null := fun v hv => hvalues v (List.mem_cons_of_mem _ hv)
    have hinput : input ≠ .null := hvalues input List.mem_cons_self
    have hkept := ih hrest (pick_ne_null wanted hcurrent hinput)
    rcases pick_eq_or_better wanted hcurrent input with ⟨hpick, -⟩ | ⟨hpick, hbetter⟩
    · rw [hpick] at hkept ⊢
      exact hkept
    · rw [hpick] at hkept ⊢
      right
      rcases hkept with hsame | hstill
      · rw [hsame]
        exact hbetter
      · exact compare?_trans hstill hbetter

/-- What is kept of values is one of them, and none of them is better. -/
theorem isBest_foldl_pick (hwanted : wanted ≠ .eq) {values : List Value}
    (hvalues : ∀ v ∈ values, v ≠ .null) (hcurrent : current ≠ .null) :
    IsBest wanted (current :: values) (values.foldl (pick wanted) current) := by
  induction values generalizing current with
  | nil =>
    refine ⟨List.mem_singleton_self current, fun other hother => ?_⟩
    obtain rfl := List.mem_singleton.1 hother
    exact compare?_self_ne hwanted other
  | cons input rest ih =>
    rw [List.foldl_cons]
    have hrest : ∀ v ∈ rest, v ≠ .null := fun v hv => hvalues v (List.mem_cons_of_mem _ hv)
    have hinput : input ≠ .null := hvalues input List.mem_cons_self
    rcases pick_eq_or_better wanted hcurrent input with ⟨hpick, hnot⟩ | ⟨hpick, hbetter⟩
    · -- The input was passed over, and what came later is no worse than what passed it over.
      rw [hpick]
      obtain ⟨hmem, hbest⟩ := ih hrest hcurrent
      have hinputs : input.compare? (rest.foldl (pick wanted) current) ≠ some wanted := by
        intro hinput'
        apply hnot
        rcases foldl_pick_eq_or_better wanted hrest hcurrent with hsame | hlater
        · rw [hsame] at hinput'
          exact hinput'
        · exact compare?_trans hinput' hlater
      refine ⟨?_, fun other hother => ?_⟩
      · rcases List.mem_cons.1 hmem with hfirst | hmem
        · rw [hfirst]
          exact List.mem_cons_self
        · exact List.mem_cons_of_mem _ (List.mem_cons_of_mem _ hmem)
      · rcases List.mem_cons.1 hother with rfl | hother
        · exact hbest other List.mem_cons_self
        · rcases List.mem_cons.1 hother with rfl | hother
          · exact hinputs
          · exact hbest other (List.mem_cons_of_mem _ hother)
    · -- The value kept so far gave way to the input, so it is not better than what is kept.
      rw [hpick]
      obtain ⟨hmem, hbest⟩ := ih hrest hinput
      refine ⟨List.mem_cons_of_mem _ hmem, fun other hother => ?_⟩
      rcases List.mem_cons.1 hother with rfl | hother
      · intro hother'
        exact hbest input List.mem_cons_self (compare?_trans hbetter hother')
      · exact hbest other hother

/-! ## NaN -/

/-- NaN that came first is kept. -/
theorem foldl_pick_of_isNaN (hcurrent : current.IsNaN) (values : List Value) :
    values.foldl (pick wanted) current = current := by
  induction values with
  | nil => rfl
  | cons input rest ih =>
    have hkept : pick wanted current input = current := by
      rcases pick_eq_or_better wanted hcurrent.ne_null input with
        ⟨hkept, -⟩ | ⟨-, hbetter⟩
      · exact hkept
      · exact absurd hbetter hcurrent.compare?_ne
    rw [List.foldl_cons, hkept, ih]

/-- NaN that comes later is passed over. -/
theorem notNaN_foldl_pick (wanted : Ordering) {values : List Value}
    (hvalues : ∀ v ∈ values, v ≠ .null) (hcurrent : current ≠ .null) (hnumber : current.NotNaN) :
    (values.foldl (pick wanted) current).NotNaN := by
  rcases foldl_pick_eq_or_better wanted hvalues hcurrent with hsame | hbetter
  · rw [hsame]
    exact hnumber
  · exact (notNaN_of_compare? hbetter).1

end StreamPlan
