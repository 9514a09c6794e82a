import Mathlib.Data.String.Basic
import StreamPlan.Proofs.Binary64.DistinctText
import StreamPlan.Proofs.TimeOfDay.Reading
import StreamPlan.Value

/-!
# Values with one text

Within one type the text of a value determines it: integers and times read back, and doubles
are written with enough digits.  Only the two zeros are equal and written differently, and
only one value other than null is written like null, the string of that text.

Main results:

- `text_eq_null_text_iff`: which values are written like null.
- `text_eq_text_iff`: values of one type have one text when they are equal and not the two
  zeros.
-/

namespace StreamPlan.Value

/-- The value is no double that is not a number. -/
def NotNaN (v : Value) : Prop := ∀ x, v = float64 x → Binary64.isNaN x = false

/-- Two zeros of opposite sign. -/
def OppositeZeros (a b : Value) : Prop :=
  ∃ x y, a = float64 x ∧ b = float64 y ∧ Binary64.magnitude x = 0 ∧ Binary64.magnitude y = 0 ∧
    Binary64.isNegative x ≠ Binary64.isNegative y

/-! ## Values written like null -/

/-- An integer is not written like null. -/
theorem toString_ne_null_text (n : Int) : toString n ≠ null.text := by
  intro h
  have hread := Text.readInt?_toString n
  rw [h, show Text.readInt? null.text.toList = none by decide] at hread
  cases hread

/-- A time is not written like null. -/
theorem timeText_ne_null_text (millis : Int) : TimeOfDay.text millis ≠ null.text := by
  intro h
  have hread := TimeOfDay.readText?_text millis
  rw [h, show TimeOfDay.readText? null.text.toList = none by decide] at hread
  cases hread

/-- A double is not written like null. -/
theorem render_ne_null_text (layout : Binary64.Layout) (x : Float) :
    Binary64.render layout x ≠ null.text := by
  intro h
  cases hx : Binary64.isNaN x with
  | true =>
    rw [Binary64.render, if_pos hx] at h
    exact absurd h (by decide)
  | false =>
    have hlists := congrArg String.toList h
    rw [Binary64.toList_render layout hx] at hlists
    cases hsign : Binary64.isNegative x with
    | true =>
      rw [hsign] at hlists
      exact absurd (List.cons.inj hlists).1 (by decide)
    | false =>
      rw [hsign] at hlists
      exact Binary64.unsignedText_ne_cons layout x rfl (by decide) (by decide) (by decide) _ hlists

/-- Null and the string of its text are the values with that text. -/
theorem text_eq_null_text_iff {v : Value} : v.text = null.text ↔ v = null ∨ v = utf8 "null" := by
  cases v with
  | null => simp
  | boolean b => cases b <;> decide
  | int32 n => exact iff_of_false (toString_ne_null_text _) (by simp)
  | int64 n => exact iff_of_false (toString_ne_null_text _) (by simp)
  | float64 x => exact iff_of_false (render_ne_null_text _ x) (by simp)
  | utf8 s => simp [text]
  | time millis => exact iff_of_false (timeText_ne_null_text _) (by simp)

/-! ## Values of one type -/

/-- Integers are written alike exactly when they are equal. -/
theorem toString_int_inj {m n : Int} : toString m = toString n ↔ m = n := by
  constructor
  · intro h
    have hread := Text.readInt?_toString m
    rw [h, Text.readInt?_toString] at hread
    exact (Option.some.inj hread).symm
  · rintro rfl
    rfl

/-- Zeros are doubles. -/
theorem not_oppositeZeros {a b : Value} (h : a.dataType ≠ .float64) : ¬ OppositeZeros a b := by
  rintro ⟨x, y, rfl, -⟩
  exact h rfl

/-- The values of the type of doubles are the doubles. -/
theorem exists_float64_of_dataType {v : Value} (h : v.dataType = .float64) :
    ∃ x, v = float64 x := by
  cases v <;> first | exact ⟨_, rfl⟩ | exact nomatch h

/-- Doubles have one text when they are equal and not the two zeros. -/
theorem float64_text_eq_iff {x y : Float} (hx : Binary64.isNaN x = false)
    (hy : Binary64.isNaN y = false) :
    (float64 x).text = (float64 y).text ↔
      (float64 x).compare? (float64 y) = some .eq ∧ ¬ OppositeZeros (float64 x) (float64 y) := by
  change Binary64.render .plain x = Binary64.render .plain y ↔
    Binary64.compare? x y = some .eq ∧ _
  rw [Binary64.render_eq_render_iff_compare? _ hx hy]
  refine and_congr_right fun hequal => ?_
  obtain ⟨hmagnitude, hzero⟩ := (Binary64.compare?_eq_eq_iff hx hy).1 hequal
  constructor
  · rintro hsign ⟨x', y', hx', hy', -, -, hne⟩
    obtain rfl := float64.inj hx'
    obtain rfl := float64.inj hy'
    exact hne hsign
  · intro hnot
    by_contra hne
    have hxzero := hzero.resolve_left hne
    exact hnot ⟨x, y, rfl, rfl, hxzero, hmagnitude ▸ hxzero, hne⟩

/-- Values of one type other than null have one text when they are equal and not the two
zeros. -/
theorem text_eq_text_iff {a b : Value} (htype : a.dataType = b.dataType) (hnull : a ≠ null)
    (ha : a.NotNaN) (hb : b.NotNaN) :
    a.text = b.text ↔ a.compare? b = some .eq ∧ ¬ OppositeZeros a b := by
  by_cases hfloat : a.dataType = .float64
  · obtain ⟨x, rfl⟩ := exists_float64_of_dataType hfloat
    obtain ⟨y, rfl⟩ := exists_float64_of_dataType (htype ▸ hfloat)
    exact float64_text_eq_iff (ha x rfl) (hb y rfl)
  · rw [and_iff_left (not_oppositeZeros hfloat)]
    match a, b with
    | null, _ => exact absurd rfl hnull
    | float64 x, _ => exact absurd rfl hfloat
    | boolean p, boolean q => cases p <;> cases q <;> decide
    | int32 m, int32 n =>
      simp only [text, compare?, toString_int_inj, Option.some.injEq, compare_eq_iff_eq]
    | int64 m, int64 n =>
      simp only [text, compare?, toString_int_inj, Option.some.injEq, compare_eq_iff_eq]
    | utf8 s, utf8 t => simp only [text, compare?, Option.some.injEq, compare_eq_iff_eq]
    | time m, time n =>
      simp only [text, compare?, TimeOfDay.text_injective.eq_iff, Option.some.injEq,
        compare_eq_iff_eq]

end StreamPlan.Value
