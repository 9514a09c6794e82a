import StreamPlan.Proofs.Cast.Widening

/-!
# Casts of types and casts of values

Whether a cast is defined is decided on two types before any row is seen, and what it makes of a
value is decided row by row.  The two agree: where a cast is not defined no value but null gets
through, and where it is defined some value does.  A cast that succeeds keeps null apart from
everything else, ends in the target type, and has nothing left to do when it is repeated.

Main results:

- `castsTo_iff_exists_cast`: a cast is defined where some value can be cast.
- `exists_cast_utf8`: every value can be cast to its text.
- `castsAsDefined`: casting any value to any type.
-/

namespace StreamPlan.Value

variable {v w : Value} {target : DataType}

/-! ## Casts that are not defined -/

/-- A conversion leads from one type to another along a defined cast. -/
theorem castsTo_of_convert? (h : v.convert? target = some w) :
    v.dataType.castsTo target = true := by
  unfold convert? at h
  split at h
  case h_1 => simp [DataType.castsTo]
  case h_13 => cases h
  all_goals rfl

/-- So does a cast. -/
theorem castsTo_of_cast (h : v.cast target = .ok w) : v.dataType.castsTo target = true := by
  unfold cast at h
  split at h
  · rename_i hstays
    rcases Bool.or_eq_true_iff.1 hstays with hnull | hsame
    · obtain rfl := isNull_iff.1 hnull
      simp [DataType.castsTo, dataType]
    · simp [DataType.castsTo, hsame]
  · split at h
    · rename_i hconverted
      exact castsTo_of_convert? hconverted
    · cases h

/-- A cast that does not succeed fails on the row, with the value and the target as its cause. -/
theorem cast_eq_error (h : ∀ w, v.cast target ≠ .ok w) :
    v.cast target = .error (.evaluation (.castFailed v target)) := by
  unfold cast at h ⊢
  split
  · rename_i hstays
    exact absurd (if_pos hstays) (h v)
  · rename_i hstays
    rw [if_neg hstays] at h
    cases hconverted : v.convert? target with
    | none => rfl
    | some w =>
      rw [hconverted] at h
      exact absurd rfl (h w)

/-- Only null is cast to null. -/
theorem cast_eq_ok_null_iff : v.cast target = .ok null ↔ v = null := by
  constructor
  · intro h
    by_cases hv : v = null
    · exact hv
    · -- The result would be of the null type, to which nothing is converted.
      obtain rfl : DataType.null = target := dataType_of_cast h hv
      have hnone : v.convert? .null = none := by cases v <;> rfl
      simp [cast, isNull_eq_false hv, hv, hnone] at h
  · rintro rfl
    exact cast_null target

/-! ## Casts that are defined -/

/-- Every value can be cast to its text. -/
theorem exists_cast_utf8 (v : Value) : ∃ w, v.cast .utf8 = .ok w := by
  have htext : v.convert? .utf8 = some (utf8 v.text) := by cases v <;> rfl
  exact exists_cast_of_convert? htext

/-- One is a value of every numeric type, and can be cast to every other. -/
theorem exists_one_cast {source : DataType} (hsource : source.isNumeric = true)
    (htarget : target.isNumeric = true) :
    ∃ u w : Value, u.dataType = source ∧ u.cast target = .ok w := by
  obtain ⟨r, hr⟩ := Option.isSome_iff_exists.1 hsource
  obtain ⟨s, hs⟩ := Option.isSome_iff_exists.1 htarget
  rcases DataType.numericRank?_eq_some_iff.1 hr with ⟨rfl, -⟩ | ⟨rfl, -⟩ | ⟨rfl, -⟩
  · refine ⟨int32 1, ?_⟩
    rcases DataType.numericRank?_eq_some_iff.1 hs with ⟨rfl, -⟩ | ⟨rfl, -⟩ | ⟨rfl, -⟩ <;>
      exact ⟨_, rfl, rfl⟩
  · refine ⟨int64 1, ?_⟩
    rcases DataType.numericRank?_eq_some_iff.1 hs with ⟨rfl, -⟩ | ⟨rfl, -⟩ | ⟨rfl, -⟩ <;>
      exact ⟨_, rfl, rfl⟩
  · refine ⟨float64 (Binary64.ofBits 0x3FF0000000000000), ?_⟩
    rcases DataType.numericRank?_eq_some_iff.1 hs with ⟨rfl, -⟩ | ⟨rfl, -⟩ | ⟨rfl, -⟩ <;>
      exact ⟨_, rfl, rfl⟩

/-- Of every type that is read from text some text is cast to a value. -/
theorem exists_text_cast
    (h : target = .boolean ∨ target.isNumeric = true ∨ target = .timeOfDay) :
    ∃ s w, (utf8 s).cast target = .ok w := by
  rcases h with rfl | hnumeric | rfl
  · exact ⟨"true", _, rfl⟩
  · obtain ⟨r, hr⟩ := Option.isSome_iff_exists.1 hnumeric
    refine ⟨"1", ?_⟩
    rcases DataType.numericRank?_eq_some_iff.1 hr with ⟨rfl, -⟩ | ⟨rfl, -⟩ | ⟨rfl, -⟩ <;>
      exact ⟨_, rfl⟩
  · exact ⟨"00:00", _, rfl⟩

/-- A cast from the type of a value is defined where some value of that type can be cast. -/
theorem castsTo_iff_exists_cast (v : Value) (target : DataType) :
    v.dataType.castsTo target = true ↔
      ∃ u w : Value, u.dataType = v.dataType ∧ u.cast target = .ok w := by
  constructor
  · intro h
    simp only [DataType.castsTo, Bool.or_eq_true, Bool.and_eq_true, beq_iff_eq] at h
    rcases h with (((hsame | hnull) | ⟨hsource, htarget⟩) | rfl) | ⟨hsource, htarget⟩
    · exact ⟨v, v, rfl, cast_of_dataType_eq hsame⟩
    · obtain rfl := dataType_eq_null_iff.1 hnull
      exact ⟨null, null, rfl, cast_null target⟩
    · exact exists_one_cast hsource htarget
    · obtain ⟨w, hw⟩ := exists_cast_utf8 v
      exact ⟨v, w, rfl, hw⟩
    · obtain ⟨s, w, hw⟩ := exists_text_cast (or_assoc.1 htarget)
      exact ⟨utf8 s, w, hsource.symm, hw⟩
  · rintro ⟨u, w, htype, hcast⟩
    exact htype ▸ castsTo_of_cast hcast

/-! ## All casts -/

/-- How casting the value to the type goes, as far as the types alone tell. -/
structure CastsAsDefined (v : Value) (target : DataType) : Prop where
  /-- The result is null for null and for nothing else. -/
  null_iff : v.cast target = .ok null ↔ v = null
  /-- Any other result is of the target type. -/
  typed : ∀ w, v.cast target = .ok w → w ≠ null → w.dataType = target
  /-- Where the cast is not defined on the types, it fails on the row. -/
  refused : v.dataType.castsTo target = false →
    v.cast target = .error (.evaluation (.castFailed v target))
  /-- Where it is defined, some value of the same type gets through. -/
  possible : v.dataType.castsTo target = true →
    ∃ u w : Value, u.dataType = v.dataType ∧ u.cast target = .ok w
  /-- A cast to text, to the own type and to a numeric type that is no narrower succeeds. -/
  total : target = .utf8 ∨ v.dataType.WidensTo target → ∃ w, v.cast target = .ok w
  /-- A result stays when it is cast again. -/
  again : ∀ w, v.cast target = .ok w → w.cast target = .ok w

/-- Whether a cast is defined on types agrees with what it makes of values: every value is cast to
every type as the types tell. -/
theorem castsAsDefined (v : Value) (target : DataType) : v.CastsAsDefined target where
  null_iff := cast_eq_ok_null_iff
  typed w h hw := (fits_of_cast h).resolve_left hw
  refused h := by
    refine cast_eq_error fun w hw => ?_
    rw [castsTo_of_cast hw] at h
    cases h
  possible h := (castsTo_iff_exists_cast v target).1 h
  total h := by
    rcases h with rfl | hwide
    · exact exists_cast_utf8 v
    · exact exists_cast_of_widensTo (fits_dataType v) hwide
  again w h := cast_of_fits (fits_of_cast h)

end StreamPlan.Value
