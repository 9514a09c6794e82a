import StreamPlan.Proofs.Cast.TextRoundTrip
import StreamPlan.Proofs.Plan.RekeyedRows

/-!
# Keys read back

A rekey turns the value of a column into a text, which is all that the records behind it know of
their key.  Under the types whose texts read back nothing is lost: different values give different
keys, and a key cast to the type of the column is the value it came from.

Main results:

- `Aggregator.keyValue_withKey_text`: a key column that no column of the rows shows.
- `DataType.WrittenLosslessly`: what the texts of a type keep.
- `DataType.writtenLosslessly`: the types whose texts keep it.
-/

namespace StreamPlan

/-- Without a column of the row to show, a key column shows the key cast to its type. -/
theorem Aggregator.keyValue_withKey_text {aggregator : Aggregator} {type : DataType} {v : Value}
    (hcast : (Value.utf8 v.text).cast type = .ok v) (row : Row) :
    (aggregator.withKey none type).keyValue (.utf8 v.text) row = v := by
  simp only [withKey, keyValue, hcast]

/-- The texts of the values of a type keep the values. -/
structure DataType.WrittenLosslessly (type : DataType) : Prop where
  /-- Values with one text are equal, times outside the day included. -/
  injective : ∀ {a b : Value}, a.dataType = type → b.dataType = type → a.text = b.text → a = b
  /-- A text is cast back to the value. -/
  readBack : ∀ {v : Value}, v.dataType = type → v.WithinDay →
    (Value.utf8 v.text).cast type = .ok v
  /-- The key of a record that leaves a rekey is cast back to the value in the column that the
  rekey took it from. -/
  rekeyed : ∀ {rekey : Rekey} {input : Pipeline} {records : List Record} {out : Record},
    out ∈ (Planner.rekeyPipeline rekey input).run records →
    ∃ record ∈ input.run records, ∃ before, record.row = some before ∧
      out.row = some (rekey.updateRow before) ∧
      ((before.get rekey.keyIndex).dataType = type → (before.get rekey.keyIndex).WithinDay →
        out.key.value.cast type = .ok (before.get rekey.keyIndex))
  /-- The key column of an aggregate that casts the text of a value back shows the value. -/
  shown : ∀ {aggregator : Aggregator} {v : Value} (row : Row), v.dataType = type → v.WithinDay →
    (aggregator.withKey none type).keyValue (.utf8 v.text) row = v

/-- Booleans, integers, strings and times are written without loss. -/
theorem DataType.writtenLosslessly {type : DataType} (h : Value.TextTyped type) :
    type.WrittenLosslessly := by
  have hread : ∀ {v : Value}, v.dataType = type → v.WithinDay →
      (Value.utf8 v.text).cast type = .ok v := by
    rintro v rfl hday
    exact Value.cast_utf8_text h hday
  refine ⟨?_, hread, ?_, fun row htype hday => ?_⟩
  · rintro a b rfl htype htext
    exact Value.eq_of_text_eq h htype.symm htext
  · intro rekey input records out hout
    obtain ⟨record, hrecord, before, hbefore, -, rfl⟩ :=
      Planner.exists_of_mem_run_rekeyPipeline hout
    exact ⟨record, hrecord, before, hbefore, rfl, fun htype hday => hread htype hday⟩
  · exact Aggregator.keyValue_withKey_text (hread htype hday) row

/-- A millisecond before midnight and one after it have different texts, and the last millisecond
of a day is read back from the key that a rekey made of it. -/
theorem DataType.writtenLosslessly_midnight :
    (Value.time (-1)).text = "00:00:00.-01" ∧ (Value.time (-1)).text ≠ (Value.time 1).text ∧
      (Planner.rekeyPipeline ⟨1, none⟩ .source).run
          [⟨.plain .null, some ⟨[.utf8 "a", .time 86399999]⟩⟩] =
        [⟨.plain (.utf8 "23:59:59.999"), some ⟨[.utf8 "a", .time 86399999]⟩⟩] ∧
      (Value.utf8 "23:59:59.999").cast .timeOfDay = .ok (.time 86399999) := by
  have hlossless := @DataType.writtenLosslessly .timeOfDay (by decide)
  refine ⟨by decide, fun h => ?_, by decide, ?_⟩
  · exact absurd (hlossless.injective rfl rfl h) (by decide)
  · exact @WrittenLosslessly.readBack _ hlossless (.time 86399999) rfl (by decide)

end StreamPlan
