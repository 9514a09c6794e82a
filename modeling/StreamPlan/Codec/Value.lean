import StreamPlan.Json.Word
import StreamPlan.Record

/-!
# Values and rows in JSON

A value is a variant named for its type; a row is the array of its values.

Main results:

- `Value.toJson`, `Value.ofJson?`: writing and reading a value.
- `Value.ofJson?_toJson`, `Row.ofJson?_toJson`: written values and rows are read back.
- `TimeWindow.ofJson?_toJson`: so are time windows.
-/

namespace StreamPlan

namespace Value

/-- A value as the variant of its type. -/
def toJson : Value → Json
  | null => .str "Null"
  | boolean b => .variant "Boolean" (.bool b)
  | int32 n => .variant "Int32" (.int n.toInt)
  | int64 n => .variant "Int64" (.int n.toInt)
  | float64 x => .variant "Float64" (.double x)
  | utf8 s => .variant "Utf8" (.str s)
  | time millis => .variant "Time" (.int millis.toInt)

/-- The value that a variant with content is. -/
def ofVariant? (name : String) (content : Json) : Option Value :=
  match name with
  | "Boolean" => content.bool?.map boolean
  | "Int32" => content.int32?.map int32
  | "Int64" => content.int64?.map int64
  | "Float64" => content.double?.map float64
  | "Utf8" => content.str?.map utf8
  | "Time" => content.int32?.map time
  | _ => none

/-- The value that a JSON value stands for. -/
def ofJson? (j : Json) : Option Value :=
  if j.bareName? = some "Null" then some null
  else j.variant?.bind fun (name, content) => ofVariant? name content

end Value

/-- A row as the array of its values. -/
def Row.toJson (row : Row) : Json := .arr (row.columns.map Value.toJson)

/-- The row whose values an array holds. -/
def Row.ofJson? (j : Json) : Option Row := (j.items? Value.ofJson?).map Row.mk

namespace TimeWindow

/-- The members of a written time window. -/
def memberNames : List String := ["start_ms", "end_ms"]

/-- A time window as a record of its bounds. -/
def toJson (w : TimeWindow) : Json :=
  .obj [("start_ms", .int w.start.toInt), ("end_ms", .int w.stop.toInt)]

/-- The time window that a record stands for. -/
def ofJson? (j : Json) : Option TimeWindow := do
  let members ← j.record? memberNames
  let start ← Json.required? Json.int64? "start_ms" members
  let stop ← Json.required? Json.int64? "end_ms" members
  some ⟨start, stop⟩

end TimeWindow

/-! ## What is written is read -/

/-- A written value is read back. -/
theorem Value.ofJson?_toJson (v : Value) : Value.ofJson? v.toJson = some v := by
  cases v <;>
    simp [toJson, ofJson?, ofVariant?, Json.variant, Json.bareName?, Json.variant?, Json.bool?,
      Json.double?, Json.str?]

/-- A written row is read back. -/
theorem Row.ofJson?_toJson (row : Row) : Row.ofJson? row.toJson = some row := by
  simp [ofJson?, toJson, Json.items?_map fun v _ => Value.ofJson?_toJson v]

/-- A written time window is read back. -/
theorem TimeWindow.ofJson?_toJson (w : TimeWindow) : TimeWindow.ofJson? w.toJson = some w := by
  simp [ofJson?, toJson, Json.required?, Json.member?]

end StreamPlan
