import StreamPlan.Expr.Evaluate

/-!
# Values and rows that fit their types

A value fits a type when it is null or of exactly that type, and a row fits a schema
when each of its columns fits the type of its field.  Nothing is asked of columns
behind those of the schema, and missing columns read as null.

Main results:

- `Value.fits_null_iff`: only null fits the null type.
- `Value.cast_of_fits`, `Value.fits_of_cast`: a cast keeps the values that fit its target and
  ends in one of them.
-/

namespace StreamPlan

/-- The value is null or of the type. -/
def Value.Fits (v : Value) (type : DataType) : Prop := v = .null ∨ v.dataType = type

instance (v : Value) (type : DataType) : Decidable (v.Fits type) :=
  inferInstanceAs (Decidable (_ ∨ _))

/-- Each column of the schema holds null or a value of its type. -/
def Row.Fits (row : Row) (schema : Schema) : Prop :=
  ∀ i, i < schema.width → (row.get i).Fits (schema.typeAt i)

instance (row : Row) (schema : Schema) : Decidable (row.Fits schema) :=
  inferInstanceAs (Decidable (∀ i, i < schema.width → _))

namespace Value

/-- Null fits every type. -/
@[simp] theorem null_fits (type : DataType) : null.Fits type := Or.inl rfl

/-- A value fits its own type. -/
theorem fits_dataType (v : Value) : v.Fits v.dataType := Or.inr rfl

/-- Only null fits the null type. -/
@[simp] theorem fits_null_iff {v : Value} : v.Fits .null ↔ v = null := by
  unfold Fits
  rw [dataType_eq_null_iff]
  exact or_self_iff

/-- A truth value fits the boolean type, known or not. -/
@[simp] theorem ofTruth_fits (truth : Option Bool) : (ofTruth truth).Fits .boolean := by
  cases truth with
  | none => exact null_fits _
  | some b => exact Or.inr rfl

/-- A value that fits the target stays when it is cast. -/
theorem cast_of_fits {v : Value} {target : DataType} (h : v.Fits target) :
    v.cast target = .ok v := by
  rcases h with rfl | h
  · exact cast_null target
  · exact cast_of_dataType_eq h

/-- A cast ends in a value that fits the target. -/
theorem fits_of_cast {v w : Value} {target : DataType} (h : v.cast target = .ok w) :
    w.Fits target := by
  by_cases hv : v = null
  · subst hv
    rw [cast_null] at h
    exact Except.ok.inj h ▸ null_fits target
  · exact Or.inr (dataType_of_cast h hv)

end Value

end StreamPlan
