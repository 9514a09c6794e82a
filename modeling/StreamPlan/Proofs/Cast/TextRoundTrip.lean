import StreamPlan.Cast
import StreamPlan.Proofs.Value.TextEquality

/-!
# Texts cast back

Booleans, integers, strings and times are told apart by their texts.  A boolean, an integer, a
string and a time within the day are found again when their text is cast back to their type.

Main results:

- `Value.TextTyped`: the types of the values whose texts read back.
- `Value.eq_of_text_eq`: two such values of one type with one text.
- `Value.cast_utf8_text`: the text of such a value cast back to its type.
-/

namespace StreamPlan

/-- An integer is written without padding. -/
theorem Text.toString_eq_padded (n : Int) : toString n = Text.padded 0 n := by
  apply String.toList_inj.1
  rw [Text.toList_padded, Nat.zero_sub, Nat.zero_sub, List.replicate_zero, List.nil_append]
  cases n with
  | ofNat m =>
    have hnonneg : ¬ Int.ofNat m < 0 := Int.not_lt.2 (Int.natCast_nonneg m)
    rw [Text.toList_toString_ofNat, if_neg hnonneg]
    rfl
  | negSucc m =>
    rw [Text.toList_toString_negSucc, if_pos (Int.negSucc_lt_zero m)]
    rfl

namespace Value

/-- A written integer is read between blanks. -/
theorem readInteger?_toString (n : Int) : readInteger? (toString n) = some n := by
  unfold readInteger?
  rw [Text.trim_eq_self, Text.readInt?_toString]
  intro c hc
  rw [Text.toString_eq_padded] at hc
  exact Text.not_isBlank_of_mem_padded hc

/-- A written truth value is read between blanks. -/
theorem readBool?_text (b : Bool) : readBool? (boolean b).text = some b := by
  cases b <;> decide

/-- The types whose values read back from their texts. -/
def TextTyped (type : DataType) : Prop :=
  type = .boolean ∨ type = .int32 ∨ type = .int64 ∨ type = .utf8 ∨ type = .timeOfDay

instance (type : DataType) : Decidable (TextTyped type) :=
  inferInstanceAs (Decidable (_ ∨ _))

/-- Of their values, two of one type with one text are one. -/
theorem eq_of_text_eq {a b : Value} (htyped : TextTyped a.dataType)
    (htype : a.dataType = b.dataType) (htext : a.text = b.text) : a = b := by
  match a, b with
  | null, _ => exact absurd htyped (by decide)
  | float64 x, _ => exact absurd htyped (show ¬ TextTyped .float64 by decide)
  | boolean p, boolean q => cases p <;> cases q <;> first | rfl | exact absurd htext (by decide)
  | int32 m, int32 n => rw [Int32.toInt_inj.1 (toString_int_inj.1 htext)]
  | int64 m, int64 n => rw [Int64.toInt_inj.1 (toString_int_inj.1 htext)]
  | utf8 s, utf8 t => exact congrArg utf8 htext
  | time m, time n => rw [Int32.toInt_inj.1 (TimeOfDay.text_injective htext)]

/-- If the value is a time, it lies within the day. -/
def WithinDay : Value → Prop
  | time millis => 0 ≤ millis.toInt ∧ millis.toInt < TimeOfDay.millisPerDay
  | null | boolean _ | int32 _ | int64 _ | float64 _ | utf8 _ => True

instance : (v : Value) → Decidable v.WithinDay
  | time millis =>
    inferInstanceAs (Decidable (0 ≤ millis.toInt ∧ millis.toInt < TimeOfDay.millisPerDay))
  | null | boolean _ | int32 _ | int64 _ | float64 _ | utf8 _ => isTrue trivial

/-- The text of a value is converted back to it. -/
theorem convert?_utf8_text {v : Value} (htype : TextTyped v.dataType) (hday : v.WithinDay)
    (hutf8 : v.dataType ≠ .utf8) : (utf8 v.text).convert? v.dataType = some v := by
  cases v with
  | null => exact absurd htype (by decide)
  | boolean b =>
    change (readBool? (boolean b).text).map boolean = _
    rw [readBool?_text]
    rfl
  | int32 n =>
    change ((readInteger? (toString n.toInt)).bind Word.int32?).map int32 = _
    rw [readInteger?_toString, Option.bind_some, Word.int32?_eq_some_iff.2 rfl]
    rfl
  | int64 n =>
    change ((readInteger? (toString n.toInt)).bind Word.int64?).map int64 = _
    rw [readInteger?_toString, Option.bind_some, Word.int64?_eq_some_iff.2 rfl]
    rfl
  | float64 x => exact absurd htype (show ¬ TextTyped .float64 by decide)
  | utf8 s => exact absurd rfl hutf8
  | time millis =>
    obtain ⟨hlow, hhigh⟩ := hday
    obtain ⟨n, hn⟩ := Int.eq_ofNat_of_zero_le hlow
    rw [hn] at hhigh
    change ((TimeOfDay.parse? (TimeOfDay.text millis.toInt).toList).bind
      fun n => Word.int32? n).map time = _
    rw [hn, TimeOfDay.parse?_text (by omega), Option.bind_some,
      Word.int32?_eq_some_iff.2 hn]
    rfl

/-- The text of a value cast back to the type of the value is the value. -/
theorem cast_utf8_text {v : Value} (htype : TextTyped v.dataType) (hday : v.WithinDay) :
    (utf8 v.text).cast v.dataType = .ok v := by
  by_cases hutf8 : v.dataType = .utf8
  · obtain ⟨s, rfl⟩ : ∃ s, v = utf8 s := by
      cases v <;> first | exact ⟨_, rfl⟩ | exact nomatch hutf8
    exact cast_of_dataType_eq rfl
  · unfold cast
    rw [if_neg (by simpa [isNull, dataType] using Ne.symm hutf8),
      convert?_utf8_text htype hday hutf8]

end Value

end StreamPlan
