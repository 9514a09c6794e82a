import StreamPlan.Proofs.Value.TextEquality

/-!
# The order of values

Comparison orders the values of one type, except that a double that is not a number is not
comparable with anything.  It is transitive all the same, and no value is less or greater than
itself.

Main results:

- `compare?_trans`, `compare?_self_ne`: comparison is a strict order, whatever values there are.
- `notNaN_of_compare?`: what is comparable is not NaN.
- `exists_compare?`: the other values of one type are comparable.
- `sameAs_of_not_strict`: of those, two that are not one before the other are the same.
-/

namespace StreamPlan

/-- Two comparisons that come out alike make a third one that does. -/
theorem compare_trans {α : Type} [Ord α] [Std.TransOrd α] {wanted : Ordering} {x y z : α}
    (hxy : compare x y = wanted) (hyz : compare y z = wanted) : compare x z = wanted := by
  cases wanted with
  | lt => exact Std.TransCmp.lt_trans hxy hyz
  | eq => exact Std.TransCmp.eq_trans hxy hyz
  | gt => exact Std.TransCmp.gt_trans hxy hyz

namespace Value

variable {wanted : Ordering} {a b c : Value}

/-! ## NaN -/

/-- The value is a double that is not a number. -/
def IsNaN (v : Value) : Prop := ∃ x, v = float64 x ∧ Binary64.isNaN x = true

instance (v : Value) : Decidable v.IsNaN :=
  match v with
  | float64 x => decidable_of_iff (Binary64.isNaN x = true)
      ⟨fun hnan => ⟨x, rfl, hnan⟩, fun ⟨_, hx, hnan⟩ => float64.inj hx ▸ hnan⟩
  | null | boolean _ | int32 _ | int64 _ | utf8 _ | time _ => isFalse fun ⟨_, hx, _⟩ => nomatch hx

/-- A value is NaN or is not. -/
theorem notNaN_iff {v : Value} : v.NotNaN ↔ ¬ v.IsNaN := by
  constructor
  · rintro h ⟨x, hx, hnan⟩
    rw [h x hx] at hnan
    cases hnan
  · intro h x hx
    rw [← Bool.not_eq_true]
    intro hnan
    exact h ⟨x, hx, hnan⟩

/-- NaN is a double. -/
theorem IsNaN.dataType_eq (h : a.IsNaN) : a.dataType = .float64 := by
  obtain ⟨x, rfl, -⟩ := h
  rfl

/-- NaN is not null. -/
theorem IsNaN.ne_null (h : a.IsNaN) : a ≠ null := by
  obtain ⟨x, rfl, -⟩ := h
  exact nofun

/-! ## Comparison -/

/-- What is comparable is not NaN. -/
theorem notNaN_of_compare? (h : a.compare? b = some wanted) : a.NotNaN ∧ b.NotNaN := by
  have hdoubles : ∀ x y, Binary64.compare? x y = some wanted →
      Binary64.isNaN x = false ∧ Binary64.isNaN y = false := by
    intro x y hxy
    have hnone : ¬ (Binary64.isNaN x = true ∨ Binary64.isNaN y = true) := by
      rw [← Binary64.compare?_eq_none_iff, hxy]
      exact nofun
    simpa using hnone
  constructor
  · rintro x rfl
    cases b with
    | float64 y => exact (hdoubles x y h).1
    | null | boolean | int32 | int64 | utf8 | time => cases h
  · rintro y rfl
    cases a with
    | float64 x => exact (hdoubles x y h).2
    | null | boolean | int32 | int64 | utf8 | time => cases h

/-- NaN is comparable with nothing. -/
theorem IsNaN.compare?_ne (h : a.IsNaN) : b.compare? a ≠ some wanted := by
  intro hcompare
  exact notNaN_iff.1 (notNaN_of_compare? hcompare).2 h

/-- Doubles that compare alike with a third one between them compare so themselves. -/
theorem float64_compare?_trans {x y z : Float}
    (hxy : Binary64.compare? x y = some wanted) (hyz : Binary64.compare? y z = some wanted) :
    Binary64.compare? x z = some wanted := by
  obtain ⟨hx, hy⟩ := @notNaN_of_compare? wanted (float64 x) (float64 y) hxy
  obtain ⟨-, hz⟩ := @notNaN_of_compare? wanted (float64 y) (float64 z) hyz
  rw [Binary64.compare?_of_numbers (hx x rfl) (hy y rfl)] at hxy
  rw [Binary64.compare?_of_numbers (hy y rfl) (hz z rfl)] at hyz
  rw [Binary64.compare?_of_numbers (hx x rfl) (hz z rfl)]
  exact congrArg some (compare_trans (Option.some.inj hxy) (Option.some.inj hyz))

/-- Comparison goes on over a value between. -/
theorem compare?_trans (hab : a.compare? b = some wanted) (hbc : b.compare? c = some wanted) :
    a.compare? c = some wanted := by
  have htrans : ∀ {α : Type} [Ord α] [Std.TransOrd α] {x y z : α},
      some (compare x y) = some wanted → some (compare y z) = some wanted →
      some (compare x z) = some wanted := fun hxy hyz =>
    congrArg some (compare_trans (Option.some.inj hxy) (Option.some.inj hyz))
  match a, b, c with
  | boolean _, boolean _, boolean _ => exact htrans hab hbc
  | int32 _, int32 _, int32 _ => exact htrans hab hbc
  | int64 _, int64 _, int64 _ => exact htrans hab hbc
  | float64 _, float64 _, float64 _ => exact float64_compare?_trans hab hbc
  | utf8 _, utf8 _, utf8 _ => exact htrans hab hbc
  | time _, time _, time _ => exact htrans hab hbc

/-- No value comes before or after itself. -/
theorem compare?_self_ne (hwanted : wanted ≠ .eq) (a : Value) : a.compare? a ≠ some wanted := by
  intro h
  have hswap := compare?_swap a a
  rw [h] at hswap
  have hself : wanted = wanted.swap := Option.some.inj hswap
  cases wanted with
  | lt | gt => cases hself
  | eq => exact hwanted rfl

/-- The values of one type other than null and NaN are comparable. -/
theorem exists_compare? (htype : a.dataType = b.dataType) (hnull : a ≠ null) (ha : a.NotNaN)
    (hb : b.NotNaN) : ∃ order, a.compare? b = some order := by
  match a, b with
  | null, _ => exact absurd rfl hnull
  | float64 x, float64 y => exact ⟨_, Binary64.compare?_of_numbers (ha x rfl) (hb y rfl)⟩
  | boolean _, boolean _ => exact ⟨_, rfl⟩
  | int32 _, int32 _ => exact ⟨_, rfl⟩
  | int64 _, int64 _ => exact ⟨_, rfl⟩
  | utf8 _, utf8 _ => exact ⟨_, rfl⟩
  | time _, time _ => exact ⟨_, rfl⟩

/-- Values that compare as equal are the same. -/
theorem sameAs_of_compare? (h : a.compare? b = some .eq) : a.sameAs b = true := by
  unfold sameAs
  split
  · rfl
  · rw [h]
    rfl

/-- Of the values of one type other than null and NaN, two neither of which compares as wanted
with the other are the same. -/
theorem sameAs_of_not_strict (htype : a.dataType = b.dataType) (hnull : a ≠ null) (ha : a.NotNaN)
    (hb : b.NotNaN) (hwanted : wanted ≠ .eq) (hab : a.compare? b ≠ some wanted)
    (hba : b.compare? a ≠ some wanted) : a.sameAs b = true := by
  obtain ⟨order, horder⟩ := exists_compare? htype hnull ha hb
  apply sameAs_of_compare?
  have hswap := compare?_swap a b
  rw [horder] at hab hswap
  rw [hswap] at hba
  rw [horder]
  cases wanted <;> cases order <;> simp_all

end Value

end StreamPlan
